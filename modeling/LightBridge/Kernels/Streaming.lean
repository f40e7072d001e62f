import LightBridge.Kernels.Batch
import LightBridge.Kernels.Layer
import LightBridge.Kernels.Routing

/-! A streamed block against the block with every expert resident. The streamed mixture checks
the projection of each expert, the resident one only what the projections add up to. -/
namespace LightBridge.Kernels
open Foundation Kv

/-- What the comparison needs of a host: an `f32` block is its value, and what is not finite
stays so under scale-and-add. -/
structure Numerics.Absorbing (N : Numerics) : Prop where
  decodeBlock_f32 : ∀ encoded values, N.decodeBlock .f32 encoded = .ok values →
    values = [F32.fromBits (ofLeBytes encoded)]
  mul : ∀ scale value, (N.mul scale value).isFinite = true → value.isFinite = true
  add : ∀ sum value, (N.add sum value).isFinite = true → value.isFinite = true

variable {N : Numerics}

/-! ### One expert -/

theorem foldlM_eq_foldl {α β ε : Type} {f : β → α → Except ε β} {g : β → α → β}
    {xs : List α} {b b' : β}
    (h : ∀ x ∈ xs, ∀ b b', f b x = .ok b' → b' = g b x) (hrun : xs.foldlM f b = .ok b') :
    xs.foldl g b = b' := by
  induction xs generalizing b with
  | nil =>
      cases hrun
      rfl
  | cons x xs ih =>
      rw [List.foldlM_cons] at hrun
      obtain ⟨next, hnext, hrest⟩ := except_bind_ok_iff.mp hrun
      have hstep := h x List.mem_cons_self b next hnext
      subst hstep
      exact ih (fun y hy => h y (List.mem_cons_of_mem x hy)) hrest

theorem slice_one {xs : List F32} {i : Nat} (h : i < xs.length) :
    slice xs i 1 = [xs.getD i .zero] := by
  unfold slice
  rw [List.drop_eq_getElem_cons h, List.take_succ_cons, List.take_zero, List.getD_eq_getElem?_getD,
    List.getElem?_eq_getElem h, Option.getD_some]

/-- The two ways to multiply a row of `f32` values agree. -/
theorem Numerics.Absorbing.dotF32Row_eq (hN : N.Absorbing) {matrix : PackedMatrix}
    (hty : matrix.ty = .f32) {row : Nat} {input : List F32}
    (hwidth : input.length = matrix.inputWidth) {value : F32}
    (h : dotDequantRow N matrix row input = .ok value) :
    dotF32Row N matrix row input = .ok value := by
  let weight := fun lane : Nat => F32.fromBits (ofLeBytes (slice (matrix.row row) (lane * 4) 4))
  let entry := fun lane : Nat => input.getD lane .zero
  have hlanes : (List.range input.length).foldl
      (fun sum lane => N.add sum (N.mul (weight lane) (entry lane))) .zero = value := by
    unfold dotDequantRow layout at h
    rw [hty] at h
    change (List.range (matrix.inputWidth / 1)).foldlM _ _ = _ at h
    rw [Nat.div_one, ← hwidth] at h
    apply foldlM_eq_foldl _ h
    intro lane hlane sum sum' hstep
    obtain ⟨decoded, hdecoded, hpure⟩ := except_bind_ok_iff.mp hstep
    have hblock : decoded = [weight lane] := by
      unfold decodedBlock quantized at hdecoded
      rw [hty] at hdecoded
      exact hN.decodeBlock_f32 _ _ (wrap_eq_ok.mp hdecoded)
    cases hpure
    have hentry : slice input (lane * 1) 1 = [entry lane] := by
      rw [Nat.mul_one]
      exact slice_one (List.mem_range.mp hlane)
    change dotLanes N sum decoded (slice input (lane * 1) 1) = _
    rw [hblock, hentry]
    rfl
  have hinput : input = (List.range input.length).map entry := by
    apply List.ext_getElem
    · rw [List.length_map, List.length_range]
    · intro i hi _
      rw [List.getElem_map, List.getElem_range]
      change _ = input.getD i .zero
      rw [List.getD_eq_getElem?_getD, List.getElem?_eq_getElem hi, Option.getD_some]
  have hzip : ((List.range input.length).map weight).zip input =
      (List.range input.length).map fun lane => (weight lane, entry lane) := by
    conv_lhs => rw [hinput]
    rw [List.length_map, List.length_range, List.zip_map']
  unfold dotF32Row
  rw [ensure_eq_ok (u := ()) |>.mpr hty, except_ok_bind]
  change Except.ok (dotLanes N .zero ((List.range input.length).map weight) input) = _
  rw [dotLanes, hzip, List.foldl_map, hlanes]

/-- What a row adds to its destination is the row of the product. -/
theorem Numerics.Absorbing.prepareAccumulate_eq (hN : N.Absorbing) {mode : ReferenceExecutionMode}
    {matrix : PackedMatrix}
    {input : List F32} {outputLength decodedLength q8Length : Nat} {dot dot' : RowDot}
    (h : prepareGemv N mode matrix input outputLength decodedLength q8Length = .ok dot)
    (h' : prepareAccumulate N mode matrix input outputLength decodedLength q8Length = .ok dot')
    {row : Nat} {value : F32}
    (hvalue : dot row = .ok value) : dot' row = .ok value := by
  unfold prepareAccumulate at h'
  split at h'
  · rename_i hty
    obtain ⟨_, hprepare, h'⟩ := except_bind_ok_iff.mp h'
    cases h'
    unfold prepareGemv at h
    rw [if_pos hty, hprepare] at h
    have hwidth : input.length = matrix.inputWidth := by
      unfold prepareDequant validateDimensions at hprepare
      obtain ⟨_, hdimensions, -⟩ := except_bind_ok_iff.mp hprepare
      obtain ⟨_, hinput, -⟩ := except_bind_ok_iff.mp hdimensions
      exact ensure_eq_ok.mp hinput
    cases mode with
    | cpuParallelQ8K =>
        cases h
        exact hvalue
    | dequantF32 =>
        cases h
        exact hN.dotF32Row_eq hty hwidth hvalue
    | llamaQ8K =>
        cases h
        exact hN.dotF32Row_eq hty hwidth hvalue
  · rw [h] at h'
    cases h'
    exact hvalue

/-- A product whose accumulation is finite is finite, and so was the destination. -/
theorem Numerics.Absorbing.gemv_finite (hN : N.Absorbing) {mode : ReferenceExecutionMode}
    {matrix : PackedMatrix} {input destination values sums : List F32} {scale : F32}
    {outputLength decodedLength q8Length : Nat} (hlength : destination.length = outputLength)
    (h : gemv N mode matrix input outputLength decodedLength q8Length = .ok values)
    (hsums : gemvAccumulateScaled N mode matrix input destination scale decodedLength q8Length =
      .ok sums)
    (hfinite : ∀ sum ∈ sums, sum.isFinite = true) : ∀ value ∈ values, value.isFinite = true := by
  obtain ⟨dot, hprepare, hrows⟩ := except_bind_ok_iff.mp h
  unfold gemvAccumulateScaled at hsums
  obtain ⟨_, -, hsums⟩ := except_bind_ok_iff.mp hsums
  obtain ⟨_, -, hsums⟩ := except_bind_ok_iff.mp hsums
  obtain ⟨dot', hprepare', hsums⟩ := except_bind_ok_iff.mp hsums
  rw [hlength] at hprepare'
  have hcount : values.length = outputLength := gemv_length h
  have hcount' : sums.length = outputLength := by
    rw [← (except_mapM_ok_iff.mp hsums).length_eq, List.length_zipIdx, hlength]
  intro value hvalue
  obtain ⟨row, hrow, rfl⟩ := List.mem_iff_getElem.mp hvalue
  have hdot : dot row = .ok values[row] := by
    have hget := except_mapM_getElem hrows (i := row) (by rw [List.length_range]; omega) hrow
    rwa [List.getElem_range] at hget
  have hsum := except_mapM_getElem hsums (i := row) (by rw [List.length_zipIdx]; omega) (by omega)
  rw [List.getElem_zipIdx] at hsum
  obtain ⟨product, hproduct, hadd⟩ := except_bind_ok_iff.mp hsum
  rw [Nat.zero_add, hN.prepareAccumulate_eq hprepare hprepare' hdot] at hproduct
  cases hproduct
  have heq : N.add destination[row] (N.mul scale values[row]) = sums[row] := Except.ok.inj hadd
  have hsumFinite := hfinite sums[row] (List.getElem_mem _)
  rw [← heq] at hsumFinite
  exact hN.mul _ _ (hN.add _ _ hsumFinite)

variable {mode : ReferenceExecutionMode} {expert shared : SwiGluExpert}
    {input destination values sums : List F32}
  {coefficient : F32} {outputLength : Nat} {scratch : SwiGluScratch}

theorem Numerics.Absorbing.swigluProject_finite (hN : N.Absorbing)
    (hlength : destination.length = outputLength)
    (h : swigluProject N mode expert input outputLength scratch = .ok values)
    (hsums : expertSwigluAccumulate N mode expert input destination coefficient scratch = .ok sums)
    (hfinite : ∀ sum ∈ sums, sum.isFinite = true) : ∀ value ∈ values, value.isFinite = true := by
  obtain ⟨_, -, h⟩ := except_bind_ok_iff.mp h
  obtain ⟨activations, hactivations, hdown⟩ := except_bind_ok_iff.mp h
  obtain ⟨_, -, hsums⟩ := except_bind_ok_iff.mp hsums
  obtain ⟨_, -, hsums⟩ := except_bind_ok_iff.mp hsums
  obtain ⟨activations', hactivations', hadd⟩ := except_bind_ok_iff.mp hsums
  rw [hactivations] at hactivations'
  cases hactivations'
  exact hN.gemv_finite hlength hdown hadd hfinite

theorem expertSwigluAccumulate_ok
    (h : expertSwigluAccumulate N mode expert input destination coefficient scratch = .ok sums) :
    (∀ value ∈ destination, value.isFinite = true) ∧ sums.length = destination.length := by
  obtain ⟨_, -, h⟩ := except_bind_ok_iff.mp h
  obtain ⟨_, -, h⟩ := except_bind_ok_iff.mp h
  obtain ⟨activations, -, h⟩ := except_bind_ok_iff.mp h
  obtain ⟨_, -, h⟩ := except_bind_ok_iff.mp h
  obtain ⟨_, hfinite, h⟩ := except_bind_ok_iff.mp h
  obtain ⟨dot, -, h⟩ := except_bind_ok_iff.mp h
  refine ⟨validateFiniteSlice_eq_ok.mp hfinite, ?_⟩
  rw [← (except_mapM_ok_iff.mp h).length_eq, List.length_zipIdx]

/-! ### The mixture -/

/-- The experts of a routing result, by identity, with its coefficients. -/
def Supplied (experts : List SwiGluExpert) (routes : List RoutedExpert)
    (selected : List SelectedExpert) : Prop :=
  List.Forall₂ (fun route entry => route.expertId = entry.expertId ∧
    route.coefficient = entry.coefficient ∧
    experts[route.expertId]? = some entry.expert) routes selected

/-- The accumulation of `moe_selected_into`. -/
def mixSelected (N : Numerics) (mode : ReferenceExecutionMode) (input : List F32)
    (scratch : SwiGluScratch)
    (output : List F32) (selected : SelectedExpert) : Except KernelError (List F32) :=
  expertSwigluAccumulate N mode selected.expert input output selected.coefficient scratch

/-- The accumulation of `moe_routed_by_id_into`. -/
def mixRouted (N : Numerics) (mode : ReferenceExecutionMode) (experts : List SwiGluExpert)
    (input : List F32)
    (scratch : SwiGluScratch) (output : List F32) (selected : RoutedExpert) :
    Except KernelError (List F32) := do
  let expert ← okOr experts[selected.expertId]?
    (.invalidParameter "routed expert ID" "must index an available expert")
  expertSwigluAccumulate N mode expert input output selected.coefficient scratch

variable {experts : List SwiGluExpert} {routes : List RoutedExpert} {selected : List SelectedExpert}

theorem Supplied.mix_eq (h : Supplied experts routes selected) (output : List F32) :
    selected.foldlM (mixSelected N mode input scratch) output =
      routes.foldlM (mixRouted N mode experts input scratch) output := by
  induction h generalizing output with
  | nil => rfl
  | @cons route entry _ _ hroute _ ih =>
      obtain ⟨-, hcoefficient, hexpert⟩ := hroute
      have hstep : mixRouted N mode experts input scratch output route =
          mixSelected N mode input scratch output entry := by
        unfold mixRouted mixSelected
        rw [hexpert, hcoefficient]
        rfl
      rw [List.foldlM_cons, List.foldlM_cons, hstep]
      apply bind_congr
      exact ih

/-- What a mixture starts from is finite when it ends so, and so is every projection in it. -/
theorem Numerics.Absorbing.mix_finite (hN : N.Absorbing)
    (hlength : destination.length = outputLength)
    (h : selected.foldlM (mixSelected N mode input scratch) destination = .ok sums)
    (hfinite : ∀ sum ∈ sums, sum.isFinite = true) :
    (∀ value ∈ destination, value.isFinite = true) ∧ sums.length = outputLength ∧
      ∀ entry ∈ selected, ∀ values, swigluProject N mode entry.expert input outputLength scratch =
      .ok values →
        ∀ value ∈ values, value.isFinite = true := by
  induction selected generalizing destination with
  | nil =>
      cases h
      refine ⟨hfinite, hlength, ?_⟩
      intro entry hentry
      cases hentry
  | cons entry rest ih =>
      rw [List.foldlM_cons] at h
      obtain ⟨next, hnext, hrest⟩ := except_bind_ok_iff.mp h
      obtain ⟨hdestination, hcount⟩ := expertSwigluAccumulate_ok hnext
      obtain ⟨hafter, hsums, hothers⟩ := ih (hcount.trans hlength) hrest
      refine ⟨hdestination, hsums, ?_⟩
      intro other hother values hvalues
      rcases List.mem_cons.mp hother with rfl | hmem
      · exact hN.swigluProject_finite hlength hvalues hnext hafter
      · exact hothers other hmem values hvalues

/-- The comparison of an expert with the one before it, as both passes make it. -/
def checkOrder (expertId : Nat) : Option Nat → Except KernelError Unit
  | some previousId => do
      ensure (expertId ≠ previousId) (.duplicateRoutedExpert expertId)
      ensure (previousId ≤ expertId) (.routedExpertOrder previousId expertId)
  | none => .ok ()

theorem validateSelected_cons (shared : SwiGluExpert) (previous : Option Nat)
    (selected : SelectedExpert) (rest : List SelectedExpert) :
    validateSelected shared previous (selected :: rest) = (do
      validateFiniteValue "routed expert coefficient" 0 selected.coefficient
      checkOrder selected.expertId previous
      requireEqual "routed expert input width" shared.inputWidth selected.expert.inputWidth
      requireEqual "routed expert output width" shared.outputWidth selected.expert.outputWidth
      validateSelected shared (some selected.expertId) rest) := by
  cases previous with
  | none => rfl
  | some previousId => simp only [validateSelected, checkOrder, bind_assoc]

theorem validateRouted_cons (N : Numerics) (mode : ReferenceExecutionMode)
    (experts : List SwiGluExpert) (shared : SwiGluExpert) (input : List F32) (outputLength : Nat)
    (scratch : SwiGluScratch) (previous : Option Nat) (selected : RoutedExpert)
    (rest : List RoutedExpert) :
    validateRouted N mode experts shared input outputLength scratch previous
      (selected :: rest) = (do
        validateFiniteValue "routed expert coefficient" 0 selected.coefficient
        checkOrder selected.expertId previous
        let expert ← okOr experts[selected.expertId]?
          (.invalidParameter "routed expert ID" "must index an available expert")
        requireEqual "routed expert input width" shared.inputWidth expert.inputWidth
        requireEqual "routed expert output width" shared.outputWidth expert.outputWidth
        let _ ← swigluProject N mode expert input outputLength scratch
        validateRouted N mode experts shared input outputLength scratch
          (some selected.expertId) rest) := by
  cases previous with
  | none => rfl
  | some previousId => simp only [validateRouted, checkOrder, bind_assoc]

theorem Supplied.validated (h : Supplied experts routes selected) {previous : Option Nat}
    (hvalid : validateRouted N mode experts shared input outputLength scratch previous routes =
      .ok ()) :
    validateSelected shared previous selected = .ok () ∧
      ∀ entry ∈ selected, ∃ values, swigluProject N mode entry.expert input outputLength scratch =
      .ok values := by
  induction h generalizing previous with
  | nil =>
      refine ⟨rfl, ?_⟩
      intro entry hentry
      cases hentry
  | @cons route entry _ _ hroute _ ih =>
      obtain ⟨hid, hcoefficient, hexpert⟩ := hroute
      rw [validateRouted_cons] at hvalid
      obtain ⟨_, hfinite, hvalid⟩ := except_bind_ok_iff.mp hvalid
      obtain ⟨_, horder, hvalid⟩ := except_bind_ok_iff.mp hvalid
      obtain ⟨expert, hget, hvalid⟩ := except_bind_ok_iff.mp hvalid
      obtain ⟨_, hinput, hvalid⟩ := except_bind_ok_iff.mp hvalid
      obtain ⟨_, houtput, hvalid⟩ := except_bind_ok_iff.mp hvalid
      obtain ⟨values, hvalues, hrest⟩ := except_bind_ok_iff.mp hvalid
      rw [hexpert] at hget
      cases hget
      obtain ⟨hothers, hprojected⟩ := ih hrest
      refine ⟨?_, ?_⟩
      · rw [validateSelected_cons, ← hid, ← hcoefficient, hfinite, except_ok_bind, horder,
          except_ok_bind, hinput, except_ok_bind, houtput, except_ok_bind]
        rw [hid] at hothers ⊢
        exact hothers
      · intro other hother
        rcases List.mem_cons.mp hother with rfl | hmem
        · exact ⟨values, hvalues⟩
        · exact hprojected other hmem

theorem preflightRouted_eq_ok :
    preflightRouted N mode input outputLength scratch selected = .ok () ↔
    ∀ entry ∈ selected,
      preflight N mode entry.expert input outputLength scratch "routed expert output" = .ok () := by
  induction selected with
  | nil => simp [preflightRouted]
  | cons entry rest ih =>
      rw [preflightRouted, except_bind_ok_iff]
      simp only [List.forall_mem_cons, ← ih]
      exact ⟨fun ⟨_, h, hrest⟩ => ⟨h, hrest⟩, fun ⟨h, hrest⟩ => ⟨(), h, hrest⟩⟩

/-- The streamed mixture of the routed experts is the resident one, if that is finite. -/
theorem Numerics.Absorbing.moeSelected_eq (hN : N.Absorbing) (h : Supplied experts routes selected)
    {preflightLength : Nat}
    (hrun : moeRoutedById N mode routes experts shared input outputLength preflightLength scratch =
      .ok sums) (hfinite : ∀ sum ∈ sums, sum.isFinite = true) :
    moeSelected N mode selected shared input outputLength preflightLength scratch = .ok sums := by
  unfold moeRoutedById at hrun
  obtain ⟨_, hnonempty, hrun⟩ := except_bind_ok_iff.mp hrun
  obtain ⟨_, hinput, hrun⟩ := except_bind_ok_iff.mp hrun
  obtain ⟨_, houtput, hrun⟩ := except_bind_ok_iff.mp hrun
  obtain ⟨_, hpreflight, hrun⟩ := except_bind_ok_iff.mp hrun
  obtain ⟨_, hvalid, hrun⟩ := except_bind_ok_iff.mp hrun
  obtain ⟨values, hshared, hrun⟩ := except_bind_ok_iff.mp hrun
  obtain ⟨mixed, hmixed, hlast⟩ := except_bind_ok_iff.mp hrun
  have hselected : selected.foldlM (mixSelected N mode input scratch)
      (List.replicate outputLength .zero) = .ok mixed := by
    rw [h.mix_eq]
    exact hmixed
  obtain ⟨hmixedFinite, -⟩ := expertSwigluAccumulate_ok hlast
  obtain ⟨-, hcount, hprojections⟩ := hN.mix_finite List.length_replicate hselected hmixedFinite
  obtain ⟨hchecked, hprojected⟩ := h.validated hvalid
  have hnonempty' : selected ≠ [] := by
    intro hnil
    subst hnil
    cases h
    exact ensure_eq_ok.mp hnonempty rfl
  have hstructure : validateStructure selected shared input.length outputLength preflightLength =
      .ok () := by
    unfold validateStructure
    rw [ensure_eq_ok (u := ()) |>.mpr hnonempty', except_ok_bind, hinput, except_ok_bind, houtput,
      except_ok_bind, hpreflight, except_ok_bind, hchecked]
  have hrouted : preflightRouted N mode input outputLength scratch selected = .ok () := by
    apply preflightRouted_eq_ok.mpr
    intro entry hentry
    obtain ⟨projected, hproject⟩ := hprojected entry hentry
    exact except_bind_ok_iff.mpr ⟨projected, hproject,
      validateFiniteSlice_eq_ok.mpr (hprojections entry hentry projected hproject)⟩
  have hsharedFinite : preflight N mode shared input outputLength scratch "shared expert output" =
      .ok () :=
    except_bind_ok_iff.mpr ⟨values, hshared,
      validateFiniteSlice_eq_ok.mpr (hN.swigluProject_finite hcount hshared hlast hfinite)⟩
  unfold moeSelected
  rw [hstructure, except_ok_bind, hrouted, except_ok_bind, hsharedFinite, except_ok_bind]
  change (selected.foldlM (mixSelected N mode input scratch) _ >>= _) = _
  rw [hselected]
  exact hlast

/-! ### Scratch -/

namespace Hy3BlockScratch

/-- The same scratch with room for another number of attention scores. -/
def withScores (scratch : Hy3BlockScratch) (scores : Nat) : Hy3BlockScratch :=
  { scratch with buffers := { scratch.buffers with scores } }

end Hy3BlockScratch

/-! ### The block -/

theorem Attendable.rescore {config : KvConfig} {input : AttentionInput}
    {outputLength base scores : Nat} {scratch : AttentionScratch}
    (h : Attendable config input outputLength scratch base)
    (hroom : base + input.tokenCount ≤ scores) :
    Attendable config input outputLength { scratch with scores } base where
  positive := h.positive
  heads := h.heads
  grouped := h.grouped
  queryRows := h.queryRows
  kvRows := h.kvRows
  queriesCount := h.queriesCount
  keysCount := h.keysCount
  valuesCount := h.valuesCount
  outputCount := h.outputCount
  queries := h.queries
  keys := h.keys
  values := h.values
  output := h.output
  queriesFinite := h.queriesFinite
  keysFinite := h.keysFinite
  valuesFinite := h.valuesFinite
  counted := h.counted
  room := h.room
  scores := hroom
  staging := h.staging

/-- The same state with room for another number of attention scores. -/
def BlockState.withScores (state : BlockState) (scores : Nat) : BlockState :=
  state.setScratch (state.scratch.withScores scores)

theorem projectToken_single {execution : Hy3BlockExecution} {attention : Hy3AttentionWeights}
    {buffers : Hy3BlockBuffers} {hidden : List F32} {input : AttentionInput}
    (h : projectToken N execution attention buffers hidden = .ok input) :
    input.tokenCount = 1 := by
  unfold projectToken at h
  simp only [except_bind_ok_iff] at h
  obtain ⟨_, -, _, -, _, -, _, -, _, -, _, -, _, -, _, -, heq⟩ := h
  cases heq
  rfl

theorem zoom_eq_ok {σ τ ε α : Type} {get : σ → τ} {set : τ → σ → σ} {c : Command τ ε α}
    {s s' : σ} {a : α} :
    c.zoom get set s = (.ok a, s') ↔ ∃ t, c (get s) = (.ok a, t) ∧ set t s = s' := by
  unfold Command.zoom
  constructor
  · intro h
    obtain ⟨hresult, hstate⟩ := Prod.mk.inj h
    exact ⟨_, Prod.ext hresult rfl, hstate⟩
  · rintro ⟨t, hrun, rfl⟩
    rw [hrun]

theorem addResidual_eq_ok {delta : List F32} {state state' : BlockState} :
    addResidual N delta state = (.ok (), state') ↔
      ∃ hidden, residualAdd N state.hidden delta = .ok hidden ∧
      state' = state.setHidden hidden := by
  unfold addResidual
  rw [Command.bind_of_ok (Command.read_run state)]
  constructor
  · intro h
    obtain ⟨hidden, _, hadded, hupdate⟩ := Command.bind_ok_iff.mp h
    obtain ⟨hresult, rfl⟩ := Prod.mk.inj hadded
    cases hupdate
    exact ⟨hidden, hresult, rfl⟩
  · rintro ⟨hidden, hadded, rfl⟩
    rw [hadded, Command.bind_of_ok (Command.lift_run (.ok hidden) state)]
    rfl

/-- The first half of a block, step by step. -/
theorem attendToken_eq_ok {alloc : Allocator} {execution : Hy3BlockExecution}
    {attention : Hy3AttentionWeights} {ffnNorm normalized : List F32} {state state' : BlockState} :
    attendToken N alloc execution attention ffnNorm state = (.ok normalized, state') ↔
      ∃ input context cache delta hidden,
      projectToken N execution attention state.scratch.buffers state.hidden = .ok input ∧
      causalGqaAttention N alloc execution.layer input state.scratch.buffers.attentionContext
        { scores := state.scratch.buffers.scores, output := state.scratch.buffers.attentionStaging }
        state.cache = (.ok context, cache) ∧
      project N execution.mode state.scratch.buffers attention.output context
        state.scratch.buffers.attentionDelta = .ok delta ∧
      residualAdd N state.hidden delta = .ok hidden ∧
      weightedRmsNorm N hidden ffnNorm execution.rmsEpsilon state.scratch.ffnNormalized.length =
      .ok normalized ∧
      state' = ⟨cache, hidden, { state.scratch with ffnNormalized := normalized }⟩ := by
  unfold attendToken
  rw [Command.bind_of_ok (Command.read_run state)]
  constructor
  · intro h
    obtain ⟨input, _, hinput, h₁⟩ := Command.bind_ok_iff.mp h
    obtain ⟨hproject, rfl⟩ := Prod.mk.inj hinput
    obtain ⟨context, attended, hattend, h₂⟩ := Command.bind_ok_iff.mp h₁
    obtain ⟨cache, hcall, rfl⟩ := zoom_eq_ok.mp hattend
    obtain ⟨delta, _, hdelta, h₃⟩ := Command.bind_ok_iff.mp h₂
    obtain ⟨houtput, rfl⟩ := Prod.mk.inj hdelta
    obtain ⟨_, added, hadded, h₄⟩ := Command.bind_ok_iff.mp h₃
    obtain ⟨hidden, hresidual, rfl⟩ := addResidual_eq_ok.mp hadded
    rw [Command.bind_of_ok (Command.read_run _)] at h₄
    obtain ⟨rows, _, hrows, h₅⟩ := Command.bind_ok_iff.mp h₄
    obtain ⟨hnorm, rfl⟩ := Prod.mk.inj hrows
    cases h₅
    exact ⟨input, context, cache, delta, hidden, hproject, hcall, houtput, hresidual, hnorm, rfl⟩
  · rintro ⟨input, context, cache, delta, hidden, hproject, hcall, houtput, hresidual, hnorm, rfl⟩
    have hadded : addResidual N delta (state.setCache cache) =
        (.ok (), (state.setCache cache).setHidden hidden) :=
      addResidual_eq_ok.mpr ⟨hidden, hresidual, rfl⟩
    rw [hproject, Command.bind_of_ok (Command.lift_run (.ok input) state),
      Command.bind_of_ok (zoom_eq_ok.mpr ⟨cache, hcall, rfl⟩), houtput,
      Command.bind_of_ok (Command.lift_run (.ok delta) _), Command.bind_of_ok hadded,
      Command.bind_of_ok (Command.read_run _)]
    change (Command.lift
      (weightedRmsNorm N hidden ffnNorm execution.rmsEpsilon state.scratch.ffnNormalized.length) >>=
        _)
      _ = _
    rw [hnorm, Command.bind_of_ok (Command.lift_run (.ok normalized) _)]
    rfl

theorem attendToken_withScores {alloc : Allocator} {execution : Hy3BlockExecution}
    {attention : Hy3AttentionWeights} {ffnNorm normalized : List F32} {state state' : BlockState}
    {scores : Nat}
    (h : attendToken N alloc execution attention ffnNorm state = (.ok normalized, state'))
    (hroom : state.cache.storedLength execution.layer + 1 ≤ scores) :
    attendToken N alloc execution attention ffnNorm (state.withScores scores) =
      (.ok normalized, state'.withScores scores) := by
  obtain ⟨input, context, cache, delta, hidden, hproject, hcall, houtput, hresidual, hnorm, rfl⟩ :=
    attendToken_eq_ok.mp h
  obtain ⟨hlayer, hvalid, hattend, happend⟩ := causalGqaAttention_eq_ok.mp hcall
  have hsingle : input.tokenCount = 1 := projectToken_single hproject
  have hcall' : causalGqaAttention N alloc execution.layer input
      state.scratch.buffers.attentionContext
      { scores, output := state.scratch.buffers.attentionStaging } state.cache =
        (.ok context, cache) :=
    causalGqaAttention_eq_ok.mpr ⟨hlayer, hvalid.rescore (by rwa [hsingle]), hattend, happend⟩
  exact attendToken_eq_ok.mpr ⟨input, context, cache, delta, hidden, hproject, hcall', houtput,
    hresidual, hnorm, rfl⟩

/-- The streamed form of a block with routed experts. -/
def Hy3BlockWeights.streaming (block : Hy3BlockWeights) (moe : Hy3MoeWeights) :
    Hy3StreamingMoeWeights where
  attention := block.attention
  ffnNorm := block.ffnNorm
  router := moe.router
  selectionBias := moe.selectionBias
  sharedExpert := moe.sharedExpert
  expertCount := moe.routedExperts.length
  expertUsedCount := moe.expertUsedCount
  weightScale := moe.weightScale

theorem validateStreamingMoe_of_block {block : Hy3BlockWeights} {moe : Hy3MoeWeights}
    (hmoe : block.feedForward = .moe moe)
    (h : validateBlock block = .ok ()) : validateStreamingMoe (block.streaming moe) = .ok () := by
  unfold validateBlock at h
  rw [hmoe] at h
  obtain ⟨_, hattention, h⟩ := except_bind_ok_iff.mp h
  obtain ⟨_, hrouter, h⟩ := except_bind_ok_iff.mp h
  obtain ⟨_, hshared, -⟩ := except_bind_ok_iff.mp h
  exact except_bind_ok_iff.mpr ⟨(), hattention, except_bind_ok_iff.mpr ⟨(), hrouter, hshared⟩⟩

/-- What a resident block of routed experts does, step by step. -/
theorem hy3BlockForwardToken_eq_ok {alloc : Allocator} {execution : Hy3BlockExecution}
    {block : Hy3BlockWeights} {moe : Hy3MoeWeights} (hmoe : block.feedForward = .moe moe)
    {state final : BlockState}
    (h : hy3BlockForwardToken N alloc execution block state = (.ok (), final)) :
    ∃ normalized middle routed delta,
      validateRuntime block state.cache.toKvConfig (state.cache.storedTokens execution.layer)
        execution.position
        state.hidden state.scratch = .ok () ∧
      attendToken N alloc execution block.attention block.ffnNorm
        (state.setScratch state.scratch.reset) = (.ok normalized, middle) ∧
      routeToken N execution.mode middle.scratch moe.router moe.selectionBias moe.expertUsedCount
        moe.weightScale
        normalized = .ok routed ∧
      moeRoutedById N execution.mode (routed.take moe.expertUsedCount) moe.routedExperts
        moe.sharedExpert normalized
        middle.scratch.buffers.ffnDelta middle.scratch.buffers.preflightOutput
        middle.scratch.swiglu = .ok delta ∧
      residualAdd N middle.hidden delta = .ok final.hidden ∧ final.cache = middle.cache ∧
      final.scratch.selectedRoutes = routed.take moe.expertUsedCount := by
  unfold hy3BlockForwardToken at h
  rw [Command.bind_of_ok (Command.read_run state)] at h
  obtain ⟨_, _, hvalid, h₁⟩ := Command.bind_ok_iff.mp h
  obtain ⟨hruntime, rfl⟩ := Prod.mk.inj hvalid
  rw [Command.bind_of_ok (Command.update_run _ state)] at h₁
  obtain ⟨normalized, middle, hattend, h₂⟩ := Command.bind_ok_iff.mp h₁
  obtain ⟨delta, fed, hfed, h₃⟩ := Command.bind_ok_iff.mp h₂
  obtain ⟨hidden, hresidual, rfl⟩ := addResidual_eq_ok.mp h₃
  rw [hmoe, feedForward, Command.bind_of_ok (Command.read_run middle)] at hfed
  obtain ⟨routed, _, hroute, hfed₁⟩ := Command.bind_ok_iff.mp hfed
  obtain ⟨hrouted, rfl⟩ := Prod.mk.inj hroute
  rw [Command.bind_of_ok (Command.update_run _ middle)] at hfed₁
  obtain ⟨hmixed, rfl⟩ := Prod.mk.inj hfed₁
  exact ⟨normalized, middle, routed, delta, hruntime, hattend, hrouted, hmixed, hresidual, rfl, rfl⟩

theorem supplied_exists {routes : List RoutedExpert}
    (h : ∀ route ∈ routes, route.expertId < experts.length) :
    ∃ selected, Supplied experts routes selected := by
  induction routes with
  | nil => exact ⟨[], .nil⟩
  | cons route rest ih =>
      obtain ⟨selected, hselected⟩ := ih fun r hr => h r (List.mem_cons_of_mem route hr)
      have hlt := h route List.mem_cons_self
      exact ⟨⟨route.expertId, route.coefficient, experts[route.expertId]⟩ :: selected,
        .cons ⟨rfl, rfl, List.getElem?_eq_getElem hlt⟩ hselected⟩

theorem Supplied.validateIdentity {routes : List RoutedExpert}
    (h : Supplied experts routes selected) :
    Kernels.validateIdentity (routes.zip selected) = .ok () := by
  induction h with
  | nil => rfl
  | cons hroute _ ih =>
      rw [List.zip_cons_cons, Kernels.validateIdentity,
        ensure_eq_ok (u := ()) |>.mpr ⟨hroute.1, hroute.2.1⟩]
      exact ih

theorem residualAdd_source {destination residual sums : List F32}
    (h : residualAdd N destination residual = .ok sums) :
    ∀ value ∈ residual, value.isFinite = true := by
  unfold residualAdd at h
  obtain ⟨_, -, h⟩ := except_bind_ok_iff.mp h
  obtain ⟨_, -, h⟩ := except_bind_ok_iff.mp h
  obtain ⟨_, hsource, -⟩ := except_bind_ok_iff.mp h
  exact validateFiniteSlice_eq_ok.mp hsource

theorem validateCall_position {attention : Hy3AttentionWeights} {cache : PagedKvCache}
    {layer position : Nat} {hidden : List F32} {scratch : Hy3BlockScratch}
    (h : validateCall attention cache.toKvConfig (cache.storedTokens layer) position hidden
      scratch = .ok ()) :
    cache.storedLength layer = position := by
  unfold validateCall at h
  obtain ⟨_, -, h⟩ := except_bind_ok_iff.mp h
  obtain ⟨_, -, h⟩ := except_bind_ok_iff.mp h
  obtain ⟨_, -, h⟩ := except_bind_ok_iff.mp h
  obtain ⟨_, -, h⟩ := except_bind_ok_iff.mp h
  obtain ⟨stored, hstored, h⟩ := except_bind_ok_iff.mp h
  obtain ⟨_, hposition, -⟩ := except_bind_ok_iff.mp h
  rw [← (storedTokens_eq_ok.mp (wrap_eq_ok.mp hstored)).2]
  exact ensure_eq_ok.mp hposition

/-- The scratches of a block and of its streamed form. -/
theorem Hy3BlockScratch.new_streaming {block : Hy3BlockWeights} {moe : Hy3MoeWeights}
    (hmoe : block.feedForward = .moe moe) {granted granted' : String → Bool}
    {capacity capacity' : Nat} {scratch scratch' : Hy3BlockScratch}
    (hnew : Hy3BlockScratch.new granted block capacity = .ok scratch)
    (hnew' : Hy3BlockScratch.newStreamingMoe granted' (block.streaming moe) capacity' =
      .ok scratch') :
    ∃ sizes, scratch = cleared block.attention.query.inputWidth sizes moe.routedExperts.length
      moe.expertUsedCount capacity ∧
      scratch' = cleared block.attention.query.inputWidth sizes moe.routedExperts.length
        moe.expertUsedCount capacity' := by
  unfold Hy3BlockScratch.new at hnew
  rw [hmoe] at hnew
  obtain ⟨_, -, hallocate⟩ := except_bind_ok_iff.mp hnew
  obtain ⟨_, -, hallocate'⟩ := except_bind_ok_iff.mp hnew'
  obtain ⟨given, hgiven, rfl⟩ := allocate_cleared hallocate
  obtain ⟨given', hgiven', rfl⟩ := allocate_cleared hallocate'
  have hsame : given = given' := Except.ok.inj (hgiven.symm.trans hgiven')
  subst hsame
  exact ⟨given, rfl, rfl⟩

theorem hy3MoeRouteToken_ok {alloc : Allocator} {execution : Hy3BlockExecution}
    {block : Hy3StreamingMoeWeights} {state middle : BlockState} {normalized : List F32}
    {routed : List RoutedExpert}
    (hvalid : validateStreamingRuntime block state.cache.toKvConfig
      (state.cache.storedTokens execution.layer)
      execution.position state.hidden state.scratch = .ok ())
    (hidle : state.scratch.streamingMoePending = false)
    (hattend : attendToken N alloc execution block.attention block.ffnNorm
      (state.setScratch { state.scratch with routedLen := 0 }) = (.ok normalized, middle))
    (hroute : routeToken N execution.mode middle.scratch block.router block.selectionBias
      block.expertUsedCount
      block.weightScale normalized = .ok routed) :
    hy3MoeRouteToken N alloc execution block state = (.ok (), middle.setScratch
      { middle.scratch with
        routed, routedLen := block.expertUsedCount, streamingMoePending := true }) := by
  unfold hy3MoeRouteToken
  rw [Command.bind_of_ok (Command.read_run state), hvalid,
    Command.bind_of_ok (Command.lift_run (.ok ()) state),
    ensure_eq_ok (u := ()) |>.mpr hidle, Command.bind_of_ok (Command.lift_run (.ok ()) state),
    Command.bind_of_ok (Command.update_run _ state), Command.bind_of_ok hattend,
    Command.bind_of_ok (Command.read_run middle), hroute,
    Command.bind_of_ok (Command.lift_run (.ok routed) middle)]
  rfl

theorem hy3MoeFinishToken_ok {state : BlockState} {delta hidden : List F32}
    (hpending : state.scratch.streamingMoePending = true)
    (hsupplied : Supplied experts state.scratch.selectedRoutes selected)
    (hmixed : moeSelected N mode selected shared state.scratch.ffnNormalized
      state.scratch.buffers.ffnDelta
      state.scratch.buffers.preflightOutput state.scratch.swiglu = .ok delta)
    (hresidual : residualAdd N state.hidden delta = .ok hidden) :
    hy3MoeFinishToken N mode selected shared state = (.ok (), (state.setHidden hidden).setScratch
      { state.scratch with streamingMoePending := false }) := by
  have hcount : requireEqual "streaming selected expert count" state.scratch.selectedRoutes.length
      selected.length = .ok () := ensure_eq_ok.mpr hsupplied.length_eq
  have hadded : addResidual N delta state = (.ok (), state.setHidden hidden) :=
    addResidual_eq_ok.mpr ⟨hidden, hresidual, rfl⟩
  unfold hy3MoeFinishToken
  rw [Command.bind_of_ok (Command.read_run state)]
  dsimp only
  rw [ensure_eq_ok (u := ()) |>.mpr hpending,
    Command.bind_of_ok (Command.lift_run (.ok ()) state), hcount,
    Command.bind_of_ok (Command.lift_run (.ok ()) state), hsupplied.validateIdentity,
    Command.bind_of_ok (Command.lift_run (.ok ()) state), hmixed,
    Command.bind_of_ok (Command.lift_run (.ok delta) state), Command.bind_of_ok hadded]
  rfl

/-- A streamed block, routed and then finished with the experts it chose, answers what the
resident block answers: the same hidden state and the very same cache. -/
theorem streaming_eq_resident (hN : N.Absorbing) (alloc : Allocator) (execution : Hy3BlockExecution)
    {block : Hy3BlockWeights} {moe : Hy3MoeWeights} (hmoe : block.feedForward = .moe moe)
    {granted granted' : String → Bool} {capacity capacity' : Nat}
    {scratch scratch' : Hy3BlockScratch}
    (hnew : Hy3BlockScratch.new granted block capacity = .ok scratch)
    (hnew' : Hy3BlockScratch.newStreamingMoe granted' (block.streaming moe) capacity' =
      .ok scratch') (hroom : execution.position < capacity') (cache : PagedKvCache)
    (hidden : List F32) {resident : BlockState}
    (h : hy3BlockForwardToken N alloc execution block ⟨cache, hidden, scratch⟩ =
      (.ok (), resident)) :
    ∃ routed, hy3MoeRouteToken N alloc execution (block.streaming moe) ⟨cache, hidden, scratch'⟩ =
      (.ok (), routed) ∧
      routed.scratch.selectedRoutes = resident.scratch.selectedRoutes ∧
      (∃ selected, Supplied moe.routedExperts routed.scratch.selectedRoutes selected) ∧
      ∀ selected, Supplied moe.routedExperts routed.scratch.selectedRoutes selected →
        ∃ final, hy3MoeFinishToken N execution.mode selected moe.sharedExpert routed =
        (.ok (), final) ∧
          final.hidden = resident.hidden ∧ final.cache = resident.cache := by
  obtain ⟨normalized, middle, routes, delta, hvalid, hattend, hroute, hmixed, hresidual, hcache,
    hselected⟩ :=
    hy3BlockForwardToken_eq_ok hmoe h
  obtain ⟨given, rfl, rfl⟩ := Hy3BlockScratch.new_streaming hmoe hnew hnew'
  obtain ⟨_, hblock, hcall⟩ := except_bind_ok_iff.mp hvalid
  let start : BlockState :=
    ⟨cache, hidden,
      .cleared block.attention.query.inputWidth given moe.routedExperts.length
      moe.expertUsedCount capacity'⟩
  have hposition : cache.storedLength execution.layer = execution.position :=
    validateCall_position hcall
  have hstreamed : attendToken N alloc execution block.attention block.ffnNorm start =
      (.ok normalized, middle.withScores capacity') := by
    have hstored : cache.storedLength execution.layer + 1 ≤ capacity' := by omega
    exact attendToken_withScores hattend hstored
  obtain ⟨input, context, appended, attentionDelta, added, -, -, -, -, -, hmiddle⟩ :=
    attendToken_eq_ok.mp hattend
  obtain ⟨hrouting, -, -⟩ := routeToken_routing hroute
  let chosen : BlockState := (middle.withScores capacity').setScratch
    { (middle.withScores capacity').scratch with
      routed := routes, routedLen := moe.expertUsedCount, streamingMoePending := true }
  have hruntime : validateStreamingRuntime (block.streaming moe) cache.toKvConfig
      (cache.storedTokens execution.layer)
      execution.position hidden start.scratch = .ok () := by
    unfold validateStreamingRuntime
    rw [validateStreamingMoe_of_block hmoe hblock, except_ok_bind]
    change (validateCall block.attention cache.toKvConfig
      (cache.storedTokens execution.layer) execution.position hidden
      (.cleared block.attention.query.inputWidth given moe.routedExperts.length moe.expertUsedCount
        capacity) >>= _) = _
    rw [hcall, except_ok_bind]
    refine except_bind_ok_iff.mpr ⟨(), ensure_eq_ok.mpr rfl, ensure_eq_ok.mpr ?_⟩
    exact List.length_replicate.symm
  have hrun : hy3MoeRouteToken N alloc execution (block.streaming moe) start = (.ok (), chosen) :=
    hy3MoeRouteToken_ok hruntime rfl hstreamed hroute
  refine ⟨chosen, hrun, hselected.symm, ?_, ?_⟩
  · apply supplied_exists
    intro route hmem
    have hrange := hrouting.range route.expertId (List.mem_map_of_mem (List.mem_of_mem_take hmem))
    rw [hmiddle] at hrange
    exact hrange
  · intro selected hsupplied
    have hmix : moeSelected N execution.mode selected moe.sharedExpert chosen.scratch.ffnNormalized
        chosen.scratch.buffers.ffnDelta chosen.scratch.buffers.preflightOutput
          chosen.scratch.swiglu = .ok delta := by
      have hinput : chosen.scratch.ffnNormalized = normalized := by
        change middle.scratch.ffnNormalized = normalized
        rw [hmiddle]
      rw [hinput]
      exact hN.moeSelected_eq hsupplied hmixed (residualAdd_source hresidual)
    exact ⟨_, hy3MoeFinishToken_ok rfl hsupplied hmix hresidual, rfl, hcache.symm⟩

/-- A host whose sums and products are their right operand. -/
def absorbingNumerics : Numerics :=
  { zeroNumerics with
    add := fun _ right => right
    mul := fun _ right => right
    decodeBlock := fun ty encoded =>
      if ty = .f32 then .ok [F32.fromBits (ofLeBytes encoded)]
        else .ok (List.replicate ty.blockSize .zero)
    decodeBlock_length := by
      intro ty encoded values h
      split at h
      · rename_i hty
        cases h
        rw [hty]
        rfl
      · cases h
        exact List.length_replicate }

theorem absorbingNumerics_absorbing : absorbingNumerics.Absorbing where
  decodeBlock_f32 _ _ h := (Except.ok.inj h).symm
  mul _ _ h := h
  add _ _ h := h

/-- A matrix of zeros. -/
def zeroMatrix (inputWidth outputWidth : Nat) : PackedMatrix :=
  ⟨.f32, inputWidth, outputWidth, 4 * inputWidth, List.replicate (4 * inputWidth * outputWidth) 0⟩

def zeroExpert : SwiGluExpert := ⟨zeroMatrix 1 1, zeroMatrix 1 1, zeroMatrix 1 1⟩

/-- Three experts, of which two are used for a token. -/
def threeExperts : Hy3MoeWeights where
  router := zeroMatrix 1 3
  selectionBias := [.zero, .zero, .zero]
  routedExperts := [zeroExpert, zeroExpert, zeroExpert]
  sharedExpert := zeroExpert
  expertUsedCount := 2
  weightScale := one

def smallBlock : Hy3BlockWeights where
  attention :=
    { inputNorm := [.zero], query := zeroMatrix 1 2, queryNorm := [.zero, .zero],
      key := zeroMatrix 1 2,
      keyNorm := [.zero, .zero], value := zeroMatrix 1 1, output := zeroMatrix 1 1,
      queryHeadCount := 1, kvHeadCount := 1, keyDimension := 2, valueDimension := 1 }
  ffnNorm := [.zero]
  feedForward := .moe threeExperts

def firstToken : Hy3BlockExecution where
  mode := .dequantF32
  layer := 0
  position := 0
  rope := ⟨2, 4, 4, one, one, .zero, one, one, one⟩
  rmsEpsilon := ⟨0x3727c5ac⟩

/-- An empty cache and one hidden value. -/
def smallState (scratch : Hy3BlockScratch) : BlockState :=
  ⟨⟨⟨1, 1, 2, 1, 1, 4⟩, 4, [0], [[none, none, none, none]]⟩, [one], scratch⟩

/-- A block that routes to two experts and has a shared one. -/
theorem streaming_eq_resident_small : ∃ scratch scratch' resident routed,
    Hy3BlockScratch.new (fun _ => true) smallBlock 4 = .ok scratch ∧
      Hy3BlockScratch.newStreamingMoe (fun _ => true)
        (smallBlock.streaming threeExperts) 2 = .ok scratch' ∧
      hy3BlockForwardToken absorbingNumerics (fun _ => true) firstToken smallBlock
        (smallState scratch) = (.ok (), resident) ∧
      hy3MoeRouteToken absorbingNumerics (fun _ => true) firstToken
        (smallBlock.streaming threeExperts) (smallState scratch') = (.ok (), routed) ∧
      ∃ selected final, hy3MoeFinishToken absorbingNumerics .dequantF32 selected zeroExpert routed =
        (.ok (), final) ∧ final.hidden = resident.hidden ∧ final.cache = resident.cache := by
  have hforward : ((Hy3BlockScratch.new (fun _ => true) smallBlock 4).map fun scratch =>
      (hy3BlockForwardToken absorbingNumerics (fun _ => true) firstToken smallBlock
        (smallState scratch)).1) = .ok (.ok ()) := by
    have hunordered : ∀ x y, absorbingNumerics.lt x y = false := fun _ _ => rfl
    -- the sorts behind a routing do not compute
    simp only [hy3BlockForwardToken, feedForward, routeToken, routeExperts_unordered hunordered]
    decide +kernel
  have hstreaming : (Hy3BlockScratch.newStreamingMoe (fun _ => true)
      (smallBlock.streaming threeExperts) 2).map (fun _ => ()) = .ok () := by decide +kernel
  obtain ⟨scratch, hnew, hanswer⟩ := except_map_ok_iff.mp hforward
  obtain ⟨scratch', hnew', -⟩ := except_map_ok_iff.mp hstreaming
  rcases hresident : hy3BlockForwardToken absorbingNumerics (fun _ => true) firstToken smallBlock
    (smallState scratch) with ⟨answer, resident⟩
  rw [hresident] at hanswer
  obtain rfl : answer = .ok () := hanswer
  obtain ⟨routed, hrouted, -, ⟨selected, hselected⟩, hfinish⟩ :=
    streaming_eq_resident absorbingNumerics_absorbing (fun _ => true) firstToken rfl hnew hnew'
      (by decide) _ [one] hresident
  obtain ⟨final, hfinal, hhidden, hcache⟩ := hfinish selected hselected
  exact ⟨scratch, scratch', resident, routed, hnew, hnew', hresident, hrouted, selected, final,
    hfinal, hhidden, hcache⟩

end LightBridge.Kernels
