import LightBridge.Kernels.Buffers

/-! The expert mixture on its caller's output. The preflight runs every expert before the output
is cleared, but not their sum: a mixture that overflows on the way stops the second pass. -/
namespace LightBridge.Kernels
open Foundation Quant

/-- `expert_swiglu_accumulate_into`, on the destination. -/
def expertSwigluAccumulateInto (N : Numerics) (mode : ReferenceExecutionMode)
    (expert : SwiGluExpert) (input : List F32)
    (coefficient : F32) (scratch : SwiGluScratch) : Command (List F32) KernelError Unit := do
  Command.lift (validateFiniteValue "expert coefficient" 0 coefficient)
  let destination ← Command.read
  Command.lift (validateExpertCall expert input.length destination.length scratch)
  let activations ← Command.lift (swigluActivations N mode expert input scratch)
  gemvAccumulateScaledInto N mode expert.down activations coefficient
    scratch.decodedBlock scratch.q8

/-- The second pass over the routed experts, with their coefficients. -/
def accumulateExperts (N : Numerics) (mode : ReferenceExecutionMode) (input : List F32)
    (scratch : SwiGluScratch) :
    List (F32 × SwiGluExpert) → Command (List F32) KernelError Unit
  | [] => pure ()
  | (coefficient, expert) :: rest => do
      expertSwigluAccumulateInto N mode expert input coefficient scratch
      accumulateExperts N mode input scratch rest

/-- `output.fill(0.0)` and everything after it. -/
def mixInto (N : Numerics) (mode : ReferenceExecutionMode) (experts : List (F32 × SwiGluExpert))
    (shared : SwiGluExpert)
    (input : List F32) (scratch : SwiGluScratch) : Command (List F32) KernelError Unit := do
  Command.update fun output => List.replicate output.length .zero
  accumulateExperts N mode input scratch experts
  expertSwigluAccumulateInto N mode shared input one scratch

/-- Everything `moe_selected_into` checks and runs before it clears the output. -/
def preflightSelected (N : Numerics) (mode : ReferenceExecutionMode) (routed : List SelectedExpert)
    (shared : SwiGluExpert)
    (input : List F32) (outputLength preflightLength : Nat) (scratch : SwiGluScratch) :
    Except KernelError Unit := do
  validateStructure routed shared input.length outputLength preflightLength
  preflightRouted N mode input outputLength scratch routed
  preflight N mode shared input outputLength scratch "shared expert output"

/-- `moe_selected_into`, on the output. -/
def moeSelectedInto (N : Numerics) (mode : ReferenceExecutionMode) (routed : List SelectedExpert)
    (shared : SwiGluExpert)
    (input : List F32) (preflightLength : Nat) (scratch : SwiGluScratch) :
    Command (List F32) KernelError Unit := do
  let output ← Command.read
  Command.lift (preflightSelected N mode routed shared input output.length preflightLength scratch)
  mixInto N mode (routed.map fun selected => (selected.coefficient, selected.expert)) shared
    input scratch

/-- Everything `moe_routed_by_id_into` checks and runs before it clears the output. -/
def preflightById (N : Numerics) (mode : ReferenceExecutionMode) (routed : List RoutedExpert)
    (experts : List SwiGluExpert) (shared : SwiGluExpert) (input : List F32)
    (outputLength preflightLength : Nat) (scratch : SwiGluScratch) :
    Except KernelError Unit := do
  ensure (routed ≠ []) (.dimensionMismatch "selected routed expert count" 1 0)
  requireEqual "MoE input" shared.inputWidth input.length
  requireEqual "MoE output" shared.outputWidth outputLength
  ensure (outputLength ≤ preflightLength)
    (.scratchTooSmall "MoE preflight output" outputLength preflightLength)
  validateRouted N mode experts shared input outputLength scratch none routed
  let _ ← swigluProject N mode shared input outputLength scratch
  pure ()

/-- `experts[selected.expert_id as usize]` for each routed expert; the preflight has found them all.
-/
def expertsById (experts : List SwiGluExpert) (routed : List RoutedExpert) :
    List (F32 × SwiGluExpert) :=
  routed.filterMap fun selected => experts[selected.expertId]?.map fun expert =>
    (selected.coefficient, expert)

def moeRoutedByIdInto (N : Numerics) (mode : ReferenceExecutionMode) (routed : List RoutedExpert)
    (experts : List SwiGluExpert) (shared : SwiGluExpert) (input : List F32) (preflightLength : Nat)
    (scratch : SwiGluScratch) : Command (List F32) KernelError Unit := do
  let output ← Command.read
  Command.lift
    (preflightById N mode routed experts shared input output.length preflightLength scratch)
  mixInto N mode (expertsById experts routed) shared input scratch

/-! ### Mixtures -/

def allFinite (values : List F32) : Bool := values.all F32.isFinite

/-- The sums of the first routed experts, one expert more each time. -/
def mixtures (N : Numerics) (sum : List F32) : List (F32 × List F32) → List (List F32)
  | [] => []
  | (coefficient, products) :: rest =>
      scaledSum N coefficient sum products :: mixtures N (scaledSum N coefficient sum products) rest

/-- The first sum of routed experts that has a value which is not finite. -/
def overflowing (N : Numerics) (sum : List F32) (parts : List (F32 × List F32)) :
    Option (List F32) :=
  (mixtures N sum parts).find? fun mixture => !allFinite mixture

/-- What each routed expert makes of the input, with its coefficient. -/
def expertParts (N : Numerics) (mode : ReferenceExecutionMode) (input : List F32)
    (outputLength : Nat) (scratch : SwiGluScratch)
    (experts : List (F32 × SwiGluExpert)) : Except KernelError (List (F32 × List F32)) :=
  experts.mapM fun (coefficient, expert) => do
    let products ← swigluProject N mode expert input outputLength scratch
    pure (coefficient, products)

/-! ### One accumulation -/

section
variable {A : Floats} {dotCpu : GgmlType → List UInt8 → List UInt8 → Nat → F32}
    {mode : ReferenceExecutionMode}
  {input : List F32} {scratch : SwiGluScratch}

theorem swigluProject_eq_ok {N : Numerics} {expert : SwiGluExpert} {outputLength : Nat}
    {products : List F32} :
    swigluProject N mode expert input outputLength scratch = .ok products ↔
      validateExpertCall expert input.length outputLength scratch = .ok () ∧ ∃ activations,
        swigluActivations N mode expert input scratch = .ok activations ∧
        gemv N mode expert.down activations outputLength scratch.decodedBlock scratch.q8 =
        .ok products := by
  simp only [swigluProject, except_bind_ok_iff]
  constructor
  · rintro ⟨_, hcall, hrest⟩
    exact ⟨hcall, hrest⟩
  · rintro ⟨hcall, hrest⟩
    exact ⟨(), hcall, hrest⟩

/-- An expert that the preflight has run is added to a finite sum. -/
theorem expertSwigluAccumulateInto_run {expert : SwiGluExpert} {coefficient : F32}
    {destination products : List F32}
    (hproject : swigluProject (host A dotCpu) mode expert input destination.length scratch =
      .ok products)
    (hcoefficient : coefficient.isFinite = true) (hfinite : allFinite destination = true) :
    expertSwigluAccumulateInto (host A dotCpu) mode expert input coefficient scratch destination =
      (.ok (), scaledSum (host A dotCpu) coefficient destination products) := by
  obtain ⟨hcall, activations, hactivations, hgemv⟩ := swigluProject_eq_ok.mp hproject
  unfold expertSwigluAccumulateInto
  rw [validateFiniteValue, ensure, if_pos hcoefficient,
    Command.bind_of_ok (Command.lift_run _ destination),
    Command.bind_of_ok (Command.read_run destination), hcall,
    Command.bind_of_ok (Command.lift_run _ destination), hactivations,
    Command.bind_of_ok (Command.lift_run _ destination),
    gemvAccumulateScaledInto_run hcoefficient (List.all_eq_true.mp hfinite),
    prepareAccumulate_products, hgemv]

/-- No expert is added to a sum that is not finite. -/
theorem expertSwigluAccumulateInto_overflowed {N : Numerics} {expert : SwiGluExpert}
    {coefficient : F32} {destination : List F32} (hoverflow : allFinite destination = false) :
    ∃ e, expertSwigluAccumulateInto N mode expert input coefficient scratch destination =
      (.error e, destination) := by
  have hends : Command.Ends (fun _ _ => False) (fun _ destination' => destination' = destination)
      (expertSwigluAccumulateInto N mode expert input coefficient scratch destination) := by
    unfold expertSwigluAccumulateInto gemvAccumulateScaledInto
    refine .lift_bind (fun _ _ => rfl) fun _ _ =>
      .read_bind (.lift_bind (fun _ _ => rfl) fun _ _ => ?_)
    refine .lift_bind (fun _ _ => rfl) fun activations _ => .lift_bind (fun _ _ => rfl) fun _ _ =>
      .read_bind ?_
    refine .lift_bind (fun _ _ => rfl) fun _ hvalid => ?_
    have hfinite := validateFiniteSlice_eq_ok.mp hvalid
    rw [allFinite, List.all_eq_true.mpr hfinite] at hoverflow
    cases hoverflow
  rcases hrun : expertSwigluAccumulateInto N mode expert input coefficient scratch
    destination with ⟨r, destination'⟩
  cases r with
  | ok _ => exact (hends.of_ok hrun).elim
  | error e => exact ⟨e, by rw [hends.of_error hrun]⟩

theorem length_scaledSum {N : Numerics} {coefficient : F32} {destination products : List F32}
    (h : products.length = destination.length) :
    (scaledSum N coefficient destination products).length = destination.length := by
  rw [scaledSum, List.length_zipWith, h, Nat.min_self]

theorem length_swigluProject {N : Numerics} {expert : SwiGluExpert} {outputLength : Nat}
    {products : List F32}
    (h : swigluProject N mode expert input outputLength scratch = .ok products) :
    products.length = outputLength := by
  obtain ⟨-, _, -, hgemv⟩ := swigluProject_eq_ok.mp h
  exact gemv_length hgemv

/-! ### The second pass -/

/-- A sum that is not finite stops the pass at the next expert, routed or shared. -/
theorem accumulate_overflowed {N : Numerics} (experts : List (F32 × SwiGluExpert))
    (shared : SwiGluExpert) {sum : List F32} (hoverflow : allFinite sum = false) :
    ∃ e, (accumulateExperts N mode input scratch experts >>= fun _ =>
      expertSwigluAccumulateInto N mode shared input one scratch) sum = (.error e, sum) := by
  cases experts with
  | nil => exact expertSwigluAccumulateInto_overflowed hoverflow
  | cons first rest =>
      have hfirst : ∃ e, expertSwigluAccumulateInto N mode first.2 input first.1 scratch sum =
          (.error e, sum) :=
        expertSwigluAccumulateInto_overflowed hoverflow
      cases hfirst with
      | intro e he =>
          exact ⟨e, by rw [accumulateExperts, Command.bind_of_error (Command.bind_of_error he)]⟩

theorem expertParts_cons {N : Numerics} {outputLength : Nat} {coefficient : F32}
    {expert : SwiGluExpert} {rest : List (F32 × SwiGluExpert)} {parts : List (F32 × List F32)} :
    expertParts N mode input outputLength scratch ((coefficient, expert) :: rest) = .ok parts ↔
      ∃ products others, swigluProject N mode expert input outputLength scratch = .ok products ∧
        expertParts N mode input outputLength scratch rest = .ok others ∧
        parts = (coefficient, products) :: others := by
  unfold expertParts
  rw [List.mapM_cons]
  constructor
  · intro h
    obtain ⟨part, hpart, h⟩ := except_bind_ok_iff.mp h
    obtain ⟨others, hothers, h⟩ := except_bind_ok_iff.mp h
    obtain ⟨products, hproducts, hpart⟩ := except_bind_ok_iff.mp hpart
    cases hpart
    cases h
    exact ⟨products, others, hproducts, hothers, rfl⟩
  · rintro ⟨products, others, hproducts, hothers, rfl⟩
    dsimp only
    rw [hproducts, hothers]
    rfl

/-- The second pass answers when no sum overflows, and otherwise leaves the first one that does. -/
theorem accumulate_run {experts : List (F32 × SwiGluExpert)} {shared : SwiGluExpert}
    {sum : List F32} {parts : List (F32 × List F32)} {products : List F32}
    (hparts : expertParts (host A dotCpu) mode input sum.length scratch experts = .ok parts)
    (hcoefficients : ∀ expert ∈ experts, expert.1.isFinite = true)
    (hshared : swigluProject (host A dotCpu) mode shared input sum.length scratch = .ok products)
    (hfinite : allFinite sum = true) :
    Command.Ends (fun _ _ => overflowing (host A dotCpu) sum parts = none)
      (fun _ last => overflowing (host A dotCpu) sum parts = some last)
      ((accumulateExperts (host A dotCpu) mode input scratch experts >>= fun _ =>
        expertSwigluAccumulateInto (host A dotCpu) mode shared input one scratch) sum) := by
  induction experts generalizing sum parts with
  | nil =>
      cases hparts
      have hone : one.isFinite = true := by decide
      have hrun := expertSwigluAccumulateInto_run hshared hone hfinite
      rw [accumulateExperts, Command.bind_of_ok (Command.pure_run () sum), hrun]
      exact .answered () _ rfl
  | cons first rest ih =>
      obtain ⟨hfirst, hrest⟩ := List.forall_mem_cons.mp hcoefficients
      obtain ⟨made, others, hmade, hothers, rfl⟩ := expertParts_cons.mp hparts
      have hstep := expertSwigluAccumulateInto_run hmade hfirst hfinite
      have hlength : (scaledSum (host A dotCpu) first.1 sum made).length = sum.length :=
        length_scaledSum (length_swigluProject hmade)
      have hcons : (accumulateExperts (host A dotCpu) mode input scratch (first :: rest) >>=
          fun _ =>
          expertSwigluAccumulateInto (host A dotCpu) mode shared input one scratch) sum =
          (accumulateExperts (host A dotCpu) mode input scratch rest >>= fun _ =>
            expertSwigluAccumulateInto (host A dotCpu) mode shared input one scratch)
            (scaledSum (host A dotCpu) first.1 sum made) := by
        rw [Command.bind_run, accumulateExperts, Command.bind_of_ok hstep, ← Command.bind_run]
      rw [hcons, overflowing, mixtures]
      cases hnext : allFinite (scaledSum (host A dotCpu) first.1 sum made) with
      | false =>
          have hstop : ∃ e, (accumulateExperts (host A dotCpu) mode input scratch rest >>= fun _ =>
              expertSwigluAccumulateInto (host A dotCpu) mode shared input one scratch)
              (scaledSum (host A dotCpu) first.1 sum made) =
                (.error e, scaledSum (host A dotCpu) first.1 sum made) :=
            accumulate_overflowed rest shared hnext
          cases hstop with
          | intro e he =>
              rw [he]
              refine .failed e _ ?_
              rw [List.find?_cons_of_pos]
              simp [hnext]
      | true =>
          rw [List.find?_cons_of_neg (by simp [hnext])]
          refine ih ?_ hrest ?_ hnext
          · rw [hlength]
            exact hothers
          · rw [hlength]
            exact hshared

/-- The output after `output.fill(0.0)` and the second pass. -/
theorem mixInto_ends {experts : List (F32 × SwiGluExpert)} {shared : SwiGluExpert}
    {output : List F32} {parts : List (F32 × List F32)} {products : List F32}
    (hparts : expertParts (host A dotCpu) mode input output.length scratch experts = .ok parts)
    (hcoefficients : ∀ expert ∈ experts, expert.1.isFinite = true)
    (hshared : swigluProject (host A dotCpu) mode shared input output.length scratch =
      .ok products) :
    Command.Ends
      (fun _ _ => overflowing (host A dotCpu) (List.replicate output.length .zero) parts = none)
      (fun _ last => overflowing (host A dotCpu) (List.replicate output.length .zero) parts =
        some last)
      (mixInto (host A dotCpu) mode experts shared input scratch output) := by
  have hcleared : (List.replicate output.length F32.zero).length = output.length :=
    List.length_replicate
  have hzero : allFinite (List.replicate output.length .zero) = true := by
    rw [allFinite, List.all_eq_true]
    intro value hvalue
    rw [List.eq_of_mem_replicate hvalue]
    rfl
  rw [← hcleared] at hparts hshared
  unfold mixInto
  rw [Command.bind_of_ok (Command.update_run _ output)]
  exact accumulate_run hparts hcoefficients hshared hzero

/-! ### What the preflight has established -/

theorem validateSelected_coefficients {shared : SwiGluExpert} {previous : Option Nat}
    {routed : List SelectedExpert}
    (h : validateSelected shared previous routed = .ok ()) : ∀ selected ∈ routed,
      selected.coefficient.isFinite = true := by
  induction routed generalizing previous with
  | nil => simp
  | cons first rest ih =>
      have hchecked : first.coefficient.isFinite = true ∧
          validateSelected shared (some first.expertId) rest = .ok () := by
        unfold validateSelected at h
        cases previous with
        | none =>
            obtain ⟨_, hfinite, h⟩ := except_bind_ok_iff.mp h
            obtain ⟨_, -, h⟩ := except_bind_ok_iff.mp h
            obtain ⟨_, -, h⟩ := except_bind_ok_iff.mp h
            obtain ⟨_, -, h⟩ := except_bind_ok_iff.mp h
            exact ⟨ensure_eq_ok.mp hfinite, h⟩
        | some previousId =>
            obtain ⟨_, hfinite, h⟩ := except_bind_ok_iff.mp h
            obtain ⟨_, -, h⟩ := except_bind_ok_iff.mp h
            obtain ⟨_, -, h⟩ := except_bind_ok_iff.mp h
            obtain ⟨_, -, h⟩ := except_bind_ok_iff.mp h
            obtain ⟨_, -, h⟩ := except_bind_ok_iff.mp h
            exact ⟨ensure_eq_ok.mp hfinite, h⟩
      exact List.forall_mem_cons.mpr ⟨hchecked.1, ih hchecked.2⟩

theorem preflightRouted_parts {N : Numerics} {outputLength : Nat} {routed : List SelectedExpert}
    (h : preflightRouted N mode input outputLength scratch routed = .ok ()) :
    ∃ parts, expertParts N mode input outputLength scratch
      (routed.map fun selected => (selected.coefficient, selected.expert)) = .ok parts := by
  induction routed with
  | nil => exact ⟨[], rfl⟩
  | cons first rest ih =>
      obtain ⟨_, hfirst, hrest⟩ := except_bind_ok_iff.mp h
      obtain ⟨products, hproducts, -⟩ := except_bind_ok_iff.mp hfirst
      obtain ⟨parts, hparts⟩ := ih hrest
      exact ⟨_, expertParts_cons.mpr ⟨products, parts, hproducts, hparts, rfl⟩⟩

/-- One step of the pass of `moe_routed_by_id_into`. -/
theorem validateRouted_step {N : Numerics} {experts : List SwiGluExpert} {shared : SwiGluExpert}
    {outputLength : Nat} {previous : Option Nat} {first : RoutedExpert} {rest : List RoutedExpert}
    (h : validateRouted N mode experts shared input outputLength scratch previous (first :: rest) =
      .ok ()) :
    first.coefficient.isFinite = true ∧ ∃ expert products, experts[first.expertId]? = some expert ∧
      swigluProject N mode expert input outputLength scratch = .ok products ∧
      validateRouted N mode experts shared input outputLength scratch (some first.expertId) rest =
      .ok () := by
  unfold validateRouted at h
  cases previous with
  | none =>
      obtain ⟨_, hfinite, h⟩ := except_bind_ok_iff.mp h
      obtain ⟨_, -, h⟩ := except_bind_ok_iff.mp h
      obtain ⟨expert, hexpert, h⟩ := except_bind_ok_iff.mp h
      obtain ⟨_, -, h⟩ := except_bind_ok_iff.mp h
      obtain ⟨_, -, h⟩ := except_bind_ok_iff.mp h
      obtain ⟨products, hproducts, h⟩ := except_bind_ok_iff.mp h
      exact ⟨ensure_eq_ok.mp hfinite, expert, products, okOr_eq_ok.mp hexpert, hproducts, h⟩
  | some previousId =>
      obtain ⟨_, hfinite, h⟩ := except_bind_ok_iff.mp h
      obtain ⟨_, -, h⟩ := except_bind_ok_iff.mp h
      obtain ⟨_, -, h⟩ := except_bind_ok_iff.mp h
      obtain ⟨expert, hexpert, h⟩ := except_bind_ok_iff.mp h
      obtain ⟨_, -, h⟩ := except_bind_ok_iff.mp h
      obtain ⟨_, -, h⟩ := except_bind_ok_iff.mp h
      obtain ⟨products, hproducts, h⟩ := except_bind_ok_iff.mp h
      exact ⟨ensure_eq_ok.mp hfinite, expert, products, okOr_eq_ok.mp hexpert, hproducts, h⟩

theorem expertsById_cons {experts : List SwiGluExpert} {first : RoutedExpert}
    {rest : List RoutedExpert} {expert : SwiGluExpert}
    (h : experts[first.expertId]? = some expert) :
    expertsById experts (first :: rest) = (first.coefficient, expert) ::
      expertsById experts rest := by
  rw [expertsById, List.filterMap_cons, h]
  rfl

theorem validateRouted_parts {N : Numerics} {experts : List SwiGluExpert} {shared : SwiGluExpert}
    {outputLength : Nat} {previous : Option Nat} {routed : List RoutedExpert}
    (h : validateRouted N mode experts shared input outputLength scratch previous routed = .ok ()) :
    (∃ parts, expertParts N mode input outputLength scratch (expertsById experts routed) =
      .ok parts) ∧
      ∀ expert ∈ expertsById experts routed, expert.1.isFinite = true := by
  induction routed generalizing previous with
  | nil => exact ⟨⟨[], rfl⟩, by simp [expertsById]⟩
  | cons first rest ih =>
      obtain ⟨hfinite, expert, products, hexpert, hproducts, hnext⟩ := validateRouted_step h
      obtain ⟨⟨parts, hparts⟩, hrest⟩ := ih hnext
      rw [expertsById_cons hexpert]
      exact ⟨⟨_, expertParts_cons.mpr ⟨products, parts, hproducts, hparts, rfl⟩⟩,
        List.forall_mem_cons.mpr ⟨hfinite, hrest⟩⟩

/-! ### Atomicity -/

/-- A mixture that is only begun after its preflight leaves the output exactly when no sum of the
first routed experts overflows. -/
theorem mix_atomic {preflighted : Except KernelError Unit} {experts : List (F32 × SwiGluExpert)}
    {shared : SwiGluExpert} {output : List F32}
    (h : preflighted = .ok () →
      (∃ parts, expertParts (host A dotCpu) mode input output.length scratch experts = .ok parts) ∧
      (∀ expert ∈ experts, expert.1.isFinite = true) ∧
      ∃ products, swigluProject (host A dotCpu) mode shared input output.length scratch =
      .ok products) :
    (∀ e output',
      (Command.lift preflighted >>= fun _ =>
      mixInto (host A dotCpu) mode experts shared input scratch) output =
      (.error e, output') → output' = output) ↔
    (preflighted = .ok () →
      ∀ parts, expertParts (host A dotCpu) mode input output.length scratch experts = .ok parts →
      ∀ mixture, overflowing (host A dotCpu) (List.replicate output.length .zero) parts =
      some mixture → mixture = output) := by
  cases preflighted with
  | error refusal =>
      constructor
      · intro _ hok
        cases hok
      · intro _ e output' hrun
        rw [Command.bind_of_error (Command.lift_run _ output)] at hrun
        cases hrun
        rfl
  | ok u =>
      obtain ⟨⟨parts, hparts⟩, hcoefficients, products, hproducts⟩ := h rfl
      have hends := mixInto_ends hparts hcoefficients hproducts
      rw [Command.bind_of_ok (Command.lift_run _ output)]
      constructor
      · intro hatomic _ parts' hparts' mixture hmixture
        rw [hparts] at hparts'
        cases hparts'
        rcases hrun : mixInto (host A dotCpu) mode experts shared input scratch
          output with ⟨r, output'⟩
        cases r with
        | ok _ =>
            rw [hends.of_ok hrun] at hmixture
            cases hmixture
        | error e =>
            rw [hends.of_error hrun] at hmixture
            cases hmixture
            exact hatomic e mixture hrun
      · intro hcondition e output' hrun
        exact hcondition rfl parts hparts output' (hends.of_error hrun)

end

theorem preflightSelected_established {N : Numerics} {mode : ReferenceExecutionMode}
    {routed : List SelectedExpert} {shared : SwiGluExpert} {input : List F32}
    {outputLength preflightLength : Nat} {scratch : SwiGluScratch}
    (h : preflightSelected N mode routed shared input outputLength preflightLength scratch =
      .ok ()) :
    (∃ parts, expertParts N mode input outputLength scratch
      (routed.map fun selected => (selected.coefficient, selected.expert)) = .ok parts) ∧
    (∀ expert ∈ routed.map fun selected => (selected.coefficient, selected.expert),
      expert.1.isFinite = true) ∧
    ∃ products, swigluProject N mode shared input outputLength scratch = .ok products := by
  obtain ⟨_, hstructure, h⟩ := except_bind_ok_iff.mp h
  obtain ⟨_, hrouted, h⟩ := except_bind_ok_iff.mp h
  obtain ⟨products, hproducts, -⟩ := except_bind_ok_iff.mp h
  unfold validateStructure at hstructure
  obtain ⟨_, -, hstructure⟩ := except_bind_ok_iff.mp hstructure
  obtain ⟨_, -, hstructure⟩ := except_bind_ok_iff.mp hstructure
  obtain ⟨_, -, hstructure⟩ := except_bind_ok_iff.mp hstructure
  obtain ⟨_, -, hselected⟩ := except_bind_ok_iff.mp hstructure
  refine ⟨preflightRouted_parts hrouted, List.forall_mem_map.mpr ?_, products, hproducts⟩
  exact validateSelected_coefficients hselected

theorem preflightById_established {N : Numerics} {mode : ReferenceExecutionMode}
    {routed : List RoutedExpert} {experts : List SwiGluExpert} {shared : SwiGluExpert}
    {input : List F32} {outputLength preflightLength : Nat} {scratch : SwiGluScratch}
    (h : preflightById N mode routed experts shared input outputLength preflightLength scratch =
      .ok ()) :
    (∃ parts, expertParts N mode input outputLength scratch (expertsById experts routed) =
      .ok parts) ∧
    (∀ expert ∈ expertsById experts routed, expert.1.isFinite = true) ∧
    ∃ products, swigluProject N mode shared input outputLength scratch = .ok products := by
  unfold preflightById at h
  obtain ⟨_, -, h⟩ := except_bind_ok_iff.mp h
  obtain ⟨_, -, h⟩ := except_bind_ok_iff.mp h
  obtain ⟨_, -, h⟩ := except_bind_ok_iff.mp h
  obtain ⟨_, -, h⟩ := except_bind_ok_iff.mp h
  obtain ⟨_, hrouted, h⟩ := except_bind_ok_iff.mp h
  obtain ⟨products, hproducts, -⟩ := except_bind_ok_iff.mp h
  obtain ⟨hparts, hfinite⟩ := validateRouted_parts hrouted
  exact ⟨hparts, hfinite, products, hproducts⟩

/-- The mixtures are atomic exactly on the calls in which no sum of the first routed experts
overflows: the preflight looks at each expert alone. -/
theorem moe_atomic_iff (A : Floats) (dotCpu : GgmlType → List UInt8 → List UInt8 → Nat → F32)
    (mode : ReferenceExecutionMode) (shared : SwiGluExpert) (input : List F32)
    (preflightLength : Nat) (scratch : SwiGluScratch) (output : List F32) :
    (∀ routed : List SelectedExpert,
      (∀ e output',
      moeSelectedInto (host A dotCpu) mode routed shared input preflightLength scratch output =
        (.error e, output') → output' = output) ↔
      (preflightSelected (host A dotCpu) mode routed shared input output.length preflightLength
        scratch = .ok () →
        ∀ parts, expertParts (host A dotCpu) mode input output.length scratch
          (routed.map fun selected => (selected.coefficient, selected.expert)) = .ok parts →
        ∀ mixture, overflowing (host A dotCpu) (List.replicate output.length .zero) parts =
        some mixture →
          mixture = output)) ∧
    ∀ (routed : List RoutedExpert) (experts : List SwiGluExpert),
      (∀ e output',
        moeRoutedByIdInto (host A dotCpu) mode routed experts shared input preflightLength
          scratch output = (.error e, output') → output' = output) ↔
      (preflightById (host A dotCpu) mode routed experts shared input output.length preflightLength
        scratch = .ok () →
        ∀ parts, expertParts (host A dotCpu) mode input output.length scratch
          (expertsById experts routed) = .ok parts →
        ∀ mixture, overflowing (host A dotCpu) (List.replicate output.length .zero) parts =
        some mixture →
          mixture = output) := by
  constructor
  · intro routed
    exact mix_atomic preflightSelected_established
  · intro routed experts
    exact mix_atomic preflightById_established

/-! ### What the layers compute -/

theorem expertSwigluAccumulateInto_computes (N : Numerics) (mode : ReferenceExecutionMode)
    (expert : SwiGluExpert) (input : List F32) (coefficient : F32) (scratch : SwiGluScratch)
    (destination : List F32) :
    Command.Computes (expertSwigluAccumulate N mode expert input destination coefficient scratch)
      (expertSwigluAccumulateInto N mode expert input coefficient scratch destination) := by
  unfold expertSwigluAccumulateInto expertSwigluAccumulate
  refine .lift_bind fun _ _ => .read_bind (.lift_bind fun _ _ => .lift_bind fun activations _ => ?_)
  exact gemvAccumulateScaledInto_computes N mode expert.down activations coefficient
    scratch.decodedBlock scratch.q8 destination

theorem accumulateExperts_computes (N : Numerics) (mode : ReferenceExecutionMode) (input : List F32)
    (scratch : SwiGluScratch) (experts : List (F32 × SwiGluExpert)) (output : List F32) :
    Command.Computes
      (experts.foldlM (fun output (coefficient, expert) =>
        expertSwigluAccumulate N mode expert input output coefficient scratch) output)
      (accumulateExperts N mode input scratch experts output) := by
  induction experts generalizing output with
  | nil => exact .answered () output rfl
  | cons first rest ih =>
      rw [List.foldlM_cons, accumulateExperts]
      refine (expertSwigluAccumulateInto_computes N mode first.2 input first.1 scratch
        output).bind ?_
      intro output' _
      exact ih output'

/-- The lookups of the second pass succeed after those of the first. -/
theorem accumulate_found {N : Numerics} {mode : ReferenceExecutionMode}
    {experts : List SwiGluExpert} {shared : SwiGluExpert} {input : List F32} {outputLength : Nat}
    {scratch : SwiGluScratch} {previous : Option Nat} {routed : List RoutedExpert}
    (h : validateRouted N mode experts shared input outputLength scratch previous routed = .ok ())
    (output : List F32) :
    (routed.foldlM (fun output selected => do
      let expert ← okOr experts[selected.expertId]?
        (.invalidParameter "routed expert ID" "must index an available expert")
      expertSwigluAccumulate N mode expert input output selected.coefficient scratch)
      output : Except KernelError (List F32)) =
    (expertsById experts routed).foldlM (fun output (coefficient, expert) =>
      expertSwigluAccumulate N mode expert input output coefficient scratch) output := by
  induction routed generalizing previous output with
  | nil => rfl
  | cons first rest ih =>
      obtain ⟨-, expert, _, hexpert, -, hnext⟩ := validateRouted_step h
      rw [List.foldlM_cons, expertsById_cons hexpert, List.foldlM_cons, hexpert, okOr,
        except_ok_bind]
      exact congrArg _ (funext (ih hnext))

/-- On its output, `moe_routed_by_id_into` computes what the layers continue with. -/
theorem moeRoutedByIdInto_computes (N : Numerics) (mode : ReferenceExecutionMode)
    (routed : List RoutedExpert) (experts : List SwiGluExpert) (shared : SwiGluExpert)
    (input : List F32) (preflightLength : Nat) (scratch : SwiGluScratch) (output : List F32) :
    Command.Computes
      (moeRoutedById N mode routed experts shared input output.length preflightLength scratch)
      (moeRoutedByIdInto N mode routed experts shared input preflightLength scratch output) := by
  have hsplit : moeRoutedById N mode routed experts shared input output.length preflightLength
      scratch = (do
      preflightById N mode routed experts shared input output.length preflightLength scratch
      let mixed ← routed.foldlM (fun output selected => do
        let expert ← okOr experts[selected.expertId]?
          (.invalidParameter "routed expert ID" "must index an available expert")
        expertSwigluAccumulate N mode expert input output selected.coefficient scratch)
        (List.replicate output.length F32.zero)
      expertSwigluAccumulate N mode shared input mixed one scratch) := by
    simp only [moeRoutedById, preflightById, bind_assoc, pure_bind]
  rw [hsplit]
  unfold moeRoutedByIdInto mixInto
  refine .read_bind (.lift_bind fun _ hpreflight => ?_)
  rw [Command.bind_of_ok (Command.update_run _ output)]
  unfold preflightById at hpreflight
  obtain ⟨_, -, hpreflight⟩ := except_bind_ok_iff.mp hpreflight
  obtain ⟨_, -, hpreflight⟩ := except_bind_ok_iff.mp hpreflight
  obtain ⟨_, -, hpreflight⟩ := except_bind_ok_iff.mp hpreflight
  obtain ⟨_, -, hpreflight⟩ := except_bind_ok_iff.mp hpreflight
  obtain ⟨_, hrouted, -⟩ := except_bind_ok_iff.mp hpreflight
  rw [accumulate_found hrouted]
  refine (accumulateExperts_computes N mode input scratch (expertsById experts routed)
    (List.replicate output.length .zero)).bind ?_
  intro mixed _
  exact expertSwigluAccumulateInto_computes N mode shared input one scratch mixed

/-- What `f32` makes of the values below: zero, powers of two and a quotient by `1`; `e^-128`
underflows. -/
def powersOfTwo : Floats where
  toArithmetic := { zeroNumerics.toArithmetic with
    add := fun a b => if a = .zero then b else if a = b then .ofBits (a.toBits + 0x00800000) else a
    mul := fun a b => if a = .zero ∨ b = .zero then .zero
      else .ofBits (a.toBits + b.toBits - 0x3f800000)
    div := fun a _ => a
    neg := fun a => .ofBits (a.toBits ^^^ 0x80000000) }
  ofHalf _ := .zero
  ofInt _ := .zero

def weight (bytes : List UInt8) : PackedMatrix := ⟨.f32, 1, 1, 4, bytes⟩

/-- Gate `2^7`, up `1` and down `2^120`: the output for the input `1` is `2^127`. -/
def steep : SwiGluExpert := ⟨weight [0, 0, 0, 67], weight [0, 0, 128, 63], weight [0, 0, 128, 123]⟩

/-- Two experts of `2^127` each overflow an output that held zero. -/
theorem moeRoutedByIdInto_overflow :
    moeRoutedByIdInto (host powersOfTwo fun _ _ _ _ => .zero) .dequantF32 [⟨0, one⟩, ⟨1, one⟩]
      [steep, steep] steep [one] 1
        ⟨2, 1, 0⟩ [.zero] =
      (.error (.nonFiniteValue "destination" 0 0x7f800000), [.fromBits 0x7f800000]) ∧
    moeSelectedInto (host powersOfTwo fun _ _ _ _ => .zero) .dequantF32 [⟨0, one, steep⟩,
      ⟨1, one, steep⟩] steep [one] 1
        ⟨2, 1, 0⟩ [.zero] =
      (.error (.nonFiniteValue "destination" 0 0x7f800000), [.fromBits 0x7f800000]) := by
  decide +kernel

end LightBridge.Kernels
