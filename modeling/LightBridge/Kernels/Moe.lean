import LightBridge.Kernels.Gemv

/-! SwiGLU experts, expert routing and the mixture of the selected experts. -/
namespace LightBridge.Kernels
open Foundation

structure SwiGluExpert where
  gate : PackedMatrix
  up : PackedMatrix
  down : PackedMatrix
  deriving DecidableEq, Repr

namespace SwiGluExpert

def new (gate up down : PackedMatrix) : Except KernelError SwiGluExpert := do
  requireEqual "SwiGLU gate/up input width" gate.inputWidth up.inputWidth
  requireEqual "SwiGLU gate/up hidden width" gate.outputWidth up.outputWidth
  requireEqual "SwiGLU down input width" gate.outputWidth down.inputWidth
  pure { gate, up, down }

def inputWidth (expert : SwiGluExpert) : Nat := expert.gate.inputWidth
def hiddenWidth (expert : SwiGluExpert) : Nat := expert.gate.outputWidth
def outputWidth (expert : SwiGluExpert) : Nat := expert.down.outputWidth

end SwiGluExpert

/-- The lengths of the buffers of `SwiGluScratch`. -/
structure SwiGluScratch where
  activation : Nat
  decodedBlock : Nat
  q8 : Nat
  deriving DecidableEq, Repr

def validateExpertCall (expert : SwiGluExpert) (inputLength outputLength : Nat)
    (scratch : SwiGluScratch) :
    Except KernelError Unit := do
  requireEqual "SwiGLU input" expert.inputWidth inputLength
  requireEqual "SwiGLU output" expert.outputWidth outputLength
  let required ← okOr (checkedMul expert.hiddenWidth 2)
    (.arithmeticOverflow "SwiGLU gate/up scratch length")
  ensure (required ≤ scratch.activation)
    (.scratchTooSmall "SwiGLU gate/up" required scratch.activation)

/-- `apply_swiglu`, on the gate values. -/
def applySwiglu (N : Numerics) (gate up : List F32) : Except KernelError (List F32) :=
  (gate.zip up).zipIdx.mapM fun ((gateValue, upValue), index) => do
    let activated := N.div gateValue (N.add one (N.exp (N.neg gateValue)))
    let value := N.mul activated upValue
    validateFiniteValue "SwiGLU activation" index value
    pure value

/-- The gated activations of one expert. -/
def swigluActivations (N : Numerics) (mode : ReferenceExecutionMode) (expert : SwiGluExpert)
    (input : List F32)
    (scratch : SwiGluScratch) : Except KernelError (List F32) := do
  let gate ← gemv N mode expert.gate input expert.hiddenWidth scratch.decodedBlock scratch.q8
  let up ← gemv N mode expert.up input expert.hiddenWidth scratch.decodedBlock scratch.q8
  applySwiglu N gate up

def swigluProject (N : Numerics) (mode : ReferenceExecutionMode) (expert : SwiGluExpert)
    (input : List F32)
    (outputLength : Nat) (scratch : SwiGluScratch) : Except KernelError (List F32) := do
  validateExpertCall expert input.length outputLength scratch
  let activations ← swigluActivations N mode expert input scratch
  gemv N mode expert.down activations outputLength scratch.decodedBlock scratch.q8

def expertSwigluAccumulate (N : Numerics) (mode : ReferenceExecutionMode) (expert : SwiGluExpert)
    (input : List F32)
    (destination : List F32) (coefficient : F32) (scratch : SwiGluScratch) :
    Except KernelError (List F32) := do
  validateFiniteValue "expert coefficient" 0 coefficient
  validateExpertCall expert input.length destination.length scratch
  let activations ← swigluActivations N mode expert input scratch
  gemvAccumulateScaled N mode expert.down activations destination coefficient
    scratch.decodedBlock scratch.q8

/-! ### Routing -/

structure RouteCandidate where
  expertId : Nat
  selectionScore : F32
  unbiasedWeight : F32
  deriving DecidableEq, Repr

structure RoutedExpert where
  expertId : Nat
  coefficient : F32
  deriving DecidableEq, Repr

/-- The `Hy3Error`s of routing. -/
inductive RoutingError where
  | routingLength (field : String) (expected actual : Nat)
  | routingTopK (expertCount expertUsedCount : Nat)
  | nonFiniteRoutingValue (field : String) (index : Nat) (bits : BitVec 32)
  deriving DecidableEq, Repr

/-- `{bits:#010x}`. -/
def hex32 (bits : BitVec 32) : String := "0x" ++ bits.toHex

/-- The texts of these errors. -/
def RoutingError.message : RoutingError → String
  | .routingLength field expected actual =>
      s!"routing field {field} has actual length {actual}, expected {expected}"
  | .routingTopK expertCount expertUsedCount =>
      s!"routing top-k has actual value {expertUsedCount}, expected 1..={expertCount}"
  | .nonFiniteRoutingValue field index bits =>
      s!"routing field {field} index {index} is non-finite (F32 bits " ++ hex32 bits ++ ")"

def u32Max : Nat := 2 ^ 32 - 1

/-- `2^-14`. -/
def routingSumFloor : F32 := .fromBits 0x38800000

def sigmoid (N : Numerics) (value : F32) : F32 := N.div one (N.add one (N.exp (N.neg value)))

def routeFinite (field : String) (index : Nat) (value : F32) : Except RoutingError Unit :=
  ensure value.isFinite (.nonFiniteRoutingValue field index value.toBits)

/-- The validation of one logit and its bias. -/
def validateRoute (N : Numerics) (index : Nat) (logit bias : F32) : Except RoutingError Unit := do
  routeFinite "logits" index logit
  routeFinite "selection_bias" index bias
  routeFinite "selection_score" index (N.add (sigmoid N logit) bias)

def validateRoutes (N : Numerics) : Nat → List (F32 × F32) → Except RoutingError Unit
  | _, [] => .ok ()
  | index, (logit, bias) :: rest => do
      validateRoute N index logit bias
      validateRoutes N (index + 1) rest

/-- The order of the candidates: score descending, then expert ascending. -/
def candidateLe (N : Numerics) (left right : RouteCandidate) : Bool :=
  if N.lt right.selectionScore left.selectionScore then true
  else if N.lt left.selectionScore right.selectionScore then false
  else decide (left.expertId ≤ right.expertId)

def routeExperts (N : Numerics) (logits selectionBias : List F32) (expertUsedCount : Nat)
    (weightScale : F32)
    (candidatesLength selectedLength : Nat) : Except RoutingError (List RoutedExpert) := do
  ensure (logits.length ≤ u32Max)
    (.routingLength "logits representable expert IDs" u32Max logits.length)
  ensure (selectionBias.length = logits.length)
    (.routingLength "selection_bias" logits.length selectionBias.length)
  ensure (expertUsedCount ≠ 0 ∧ expertUsedCount ≤ logits.length)
    (.routingTopK logits.length expertUsedCount)
  ensure (candidatesLength = logits.length)
    (.routingLength "candidates" logits.length candidatesLength)
  ensure (selectedLength = expertUsedCount)
    (.routingLength "selected" expertUsedCount selectedLength)
  routeFinite "weight_scale" 0 weightScale
  validateRoutes N 0 (logits.zip selectionBias)
  let candidates := (logits.zip selectionBias).zipIdx.map fun ((logit, bias), index) =>
    ({ expertId := index, selectionScore := N.add (sigmoid N logit) bias,
       unbiasedWeight := sigmoid N logit } :
      RouteCandidate)
  let chosen := (candidates.mergeSort (candidateLe N)).take expertUsedCount
  let weightSum :=
    N.max (chosen.foldl (fun sum candidate => N.add sum candidate.unbiasedWeight) .zero)
      routingSumFloor
  let selected := chosen.map fun candidate =>
    ({ expertId := candidate.expertId
       coefficient := N.mul (N.div candidate.unbiasedWeight weightSum) weightScale } : RoutedExpert)
  pure (selected.mergeSort fun left right => decide (left.expertId ≤ right.expertId))

/-- A routing outcome: `expertUsedCount` different experts. -/
structure Routing (expertCount expertUsedCount : Nat) (routes : List Nat) : Prop where
  count : routes.length = expertUsedCount
  distinct : routes.Nodup
  range : ∀ expert ∈ routes, expert < expertCount

theorem routeExperts_routing {N : Numerics} {logits selectionBias : List F32}
    {expertUsedCount : Nat} {weightScale : F32} {candidatesLength selectedLength : Nat}
    {selected : List RoutedExpert}
    (h : routeExperts N logits selectionBias expertUsedCount weightScale candidatesLength
      selectedLength = .ok selected) :
    Routing logits.length expertUsedCount (selected.map RoutedExpert.expertId) := by
  unfold routeExperts at h
  obtain ⟨_, -, h⟩ := except_bind_ok_iff.mp h
  obtain ⟨_, hbias, h⟩ := except_bind_ok_iff.mp h
  obtain ⟨_, hused, h⟩ := except_bind_ok_iff.mp h
  obtain ⟨_, -, h⟩ := except_bind_ok_iff.mp h
  obtain ⟨_, -, h⟩ := except_bind_ok_iff.mp h
  obtain ⟨_, -, h⟩ := except_bind_ok_iff.mp h
  obtain ⟨_, -, h⟩ := except_bind_ok_iff.mp h
  rw [ensure_eq_ok] at hbias hused
  generalize hcandidates : ((logits.zip selectionBias).zipIdx.map fun ((logit, bias), index) =>
    ({ expertId := index, selectionScore := N.add (sigmoid N logit) bias,
       unbiasedWeight := sigmoid N logit } :
      RouteCandidate)) = candidates at h
  have hlength : (logits.zip selectionBias).length = logits.length := by
    rw [List.length_zip, hbias, Nat.min_self]
  have hids : candidates.map RouteCandidate.expertId = List.range logits.length := by
    have hindex : (RouteCandidate.expertId ∘ fun entry : (F32 × F32) × Nat =>
        ({ expertId := entry.2, selectionScore := N.add (sigmoid N entry.1.1) entry.1.2,
           unbiasedWeight := sigmoid N entry.1.1 } : RouteCandidate)) = Prod.snd := rfl
    rw [← hcandidates, List.map_map, hindex, List.zipIdx_map_snd, hlength, List.range_eq_range']
  let sorted := candidates.mergeSort (candidateLe N)
  have hsorted : (sorted.map RouteCandidate.expertId).Perm (List.range logits.length) := by
    rw [← hids]
    exact (List.mergeSort_perm candidates (candidateLe N)).map RouteCandidate.expertId
  -- the choice is a prefix of the sorted candidates, and sorting it by identity permutes it
  have hchosen : (selected.map RoutedExpert.expertId).Perm
      ((sorted.take expertUsedCount).map RouteCandidate.expertId) := by
    cases h
    refine ((List.mergeSort_perm _ _).map RoutedExpert.expertId).trans ?_
    rw [List.map_map]
    rfl
  have hsublist : ((sorted.take expertUsedCount).map RouteCandidate.expertId).Sublist
      (sorted.map RouteCandidate.expertId) := (List.take_sublist expertUsedCount sorted).map _
  refine ⟨?_, ?_, fun expert hmem => ?_⟩
  · have hcount := hsorted.length_eq
    rw [List.length_map, List.length_range] at hcount
    rw [hchosen.length_eq, List.length_map, List.length_take, hcount]
    omega
  · exact hchosen.nodup_iff.mpr ((hsorted.nodup_iff.mpr List.nodup_range).sublist hsublist)
  · exact List.mem_range.mp (hsorted.mem_iff.mp (hsublist.subset (hchosen.mem_iff.mp hmem)))

theorem routeExperts_counts {N : Numerics} {logits selectionBias : List F32} {expertUsedCount : Nat}
    {weightScale : F32} {candidatesLength selectedLength : Nat} {selected : List RoutedExpert}
    (h : routeExperts N logits selectionBias expertUsedCount weightScale candidatesLength
      selectedLength = .ok selected) :
    0 < expertUsedCount ∧ selectedLength = expertUsedCount := by
  unfold routeExperts at h
  obtain ⟨_, -, h⟩ := except_bind_ok_iff.mp h
  obtain ⟨_, -, h⟩ := except_bind_ok_iff.mp h
  obtain ⟨_, hused, h⟩ := except_bind_ok_iff.mp h
  obtain ⟨_, -, h⟩ := except_bind_ok_iff.mp h
  obtain ⟨_, hselected, h⟩ := except_bind_ok_iff.mp h
  exact ⟨Nat.pos_of_ne_zero (ensure_eq_ok.mp hused).1, ensure_eq_ok.mp hselected⟩

/-! ### The mixture -/

structure SelectedExpert where
  expertId : Nat
  coefficient : F32
  expert : SwiGluExpert
  deriving DecidableEq, Repr

/-- The checks of one selected expert against the one before it. -/
def validateSelected (shared : SwiGluExpert) : Option Nat → List SelectedExpert →
      Except KernelError Unit
  | _, [] => .ok ()
  | previous, selected :: rest => do
      validateFiniteValue "routed expert coefficient" 0 selected.coefficient
      match previous with
      | some previousId => do
          ensure (selected.expertId ≠ previousId) (.duplicateRoutedExpert selected.expertId)
          ensure (previousId ≤ selected.expertId) (.routedExpertOrder previousId selected.expertId)
      | none => .ok ()
      requireEqual "routed expert input width" shared.inputWidth selected.expert.inputWidth
      requireEqual "routed expert output width" shared.outputWidth selected.expert.outputWidth
      validateSelected shared (some selected.expertId) rest

def validateStructure (routed : List SelectedExpert) (shared : SwiGluExpert)
    (inputLength outputLength preflightLength : Nat) : Except KernelError Unit := do
  ensure (routed ≠ []) (.dimensionMismatch "selected routed expert count" 1 0)
  requireEqual "MoE input" shared.inputWidth inputLength
  requireEqual "MoE output" shared.outputWidth outputLength
  ensure (outputLength ≤ preflightLength)
    (.scratchTooSmall "MoE preflight output" outputLength preflightLength)
  validateSelected shared none routed

/-- The preflight of one expert: its projection, computed and checked. -/
def preflight (N : Numerics) (mode : ReferenceExecutionMode) (expert : SwiGluExpert)
    (input : List F32)
    (outputLength : Nat) (scratch : SwiGluScratch) (field : String) : Except KernelError Unit := do
  let projected ← swigluProject N mode expert input outputLength scratch
  validateFiniteSlice field projected

def preflightRouted (N : Numerics) (mode : ReferenceExecutionMode) (input : List F32)
    (outputLength : Nat) (scratch : SwiGluScratch) : List SelectedExpert → Except KernelError Unit
  | [] => .ok ()
  | selected :: rest => do
      preflight N mode selected.expert input outputLength scratch "routed expert output"
      preflightRouted N mode input outputLength scratch rest

/-- The pass of `moe_routed_by_id_into` over the routed experts, which checks and projects each. -/
def validateRouted (N : Numerics) (mode : ReferenceExecutionMode) (experts : List SwiGluExpert)
    (shared : SwiGluExpert) (input : List F32) (outputLength : Nat) (scratch : SwiGluScratch) :
    Option Nat → List RoutedExpert → Except KernelError Unit
  | _, [] => .ok ()
  | previous, selected :: rest => do
      validateFiniteValue "routed expert coefficient" 0 selected.coefficient
      match previous with
      | some previousId => do
          ensure (selected.expertId ≠ previousId) (.duplicateRoutedExpert selected.expertId)
          ensure (previousId ≤ selected.expertId) (.routedExpertOrder previousId selected.expertId)
      | none => .ok ()
      let expert ← okOr experts[selected.expertId]?
        (.invalidParameter "routed expert ID" "must index an available expert")
      requireEqual "routed expert input width" shared.inputWidth expert.inputWidth
      requireEqual "routed expert output width" shared.outputWidth expert.outputWidth
      let _ ← swigluProject N mode expert input outputLength scratch
      validateRouted N mode experts shared input outputLength scratch (some selected.expertId) rest

/-- What `moe_routed_by_id_into` leaves in an output of `outputLength` values. -/
def moeRoutedById (N : Numerics) (mode : ReferenceExecutionMode) (routed : List RoutedExpert)
    (experts : List SwiGluExpert) (shared : SwiGluExpert) (input : List F32)
    (outputLength preflightLength : Nat)
    (scratch : SwiGluScratch) : Except KernelError (List F32) := do
  ensure (routed ≠ []) (.dimensionMismatch "selected routed expert count" 1 0)
  requireEqual "MoE input" shared.inputWidth input.length
  requireEqual "MoE output" shared.outputWidth outputLength
  ensure (outputLength ≤ preflightLength)
    (.scratchTooSmall "MoE preflight output" outputLength preflightLength)
  validateRouted N mode experts shared input outputLength scratch none routed
  let _ ← swigluProject N mode shared input outputLength scratch
  let mixed ← routed.foldlM (fun output selected => do
    let expert ← okOr experts[selected.expertId]?
      (.invalidParameter "routed expert ID" "must index an available expert")
    expertSwigluAccumulate N mode expert input output selected.coefficient scratch)
    (List.replicate outputLength F32.zero)
  expertSwigluAccumulate N mode shared input mixed one scratch

/-- What `moe_selected_into` leaves in an output of `outputLength` values. -/
def moeSelected (N : Numerics) (mode : ReferenceExecutionMode) (routed : List SelectedExpert)
    (shared : SwiGluExpert) (input : List F32) (outputLength preflightLength : Nat)
    (scratch : SwiGluScratch) :
    Except KernelError (List F32) := do
  validateStructure routed shared input.length outputLength preflightLength
  preflightRouted N mode input outputLength scratch routed
  preflight N mode shared input outputLength scratch "shared expert output"
  let mixed ← routed.foldlM (fun output selected =>
    expertSwigluAccumulate N mode selected.expert input output selected.coefficient scratch)
    (List.replicate outputLength F32.zero)
  expertSwigluAccumulate N mode shared input mixed one scratch

end LightBridge.Kernels
