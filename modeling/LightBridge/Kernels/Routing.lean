import LightBridge.Foundation.Selection
import LightBridge.Kernels.Moe

/-! `route_experts_into` over the buffers of its caller: which experts it selects, in which order,
and with what coefficients. -/
namespace LightBridge.Kernels
open Foundation

/-- The buffers of the caller. -/
structure RouteBuffers where
  candidates : List RouteCandidate
  selected : List RoutedExpert
  deriving DecidableEq, Repr

/-- The checks in front of the first write. -/
def checkRoute (N : Numerics) (logits selectionBias : List F32) (expertUsedCount : Nat)
    (weightScale : F32)
    (buffers : RouteBuffers) : Except RoutingError Unit := do
  ensure (logits.length ≤ u32Max)
    (.routingLength "logits representable expert IDs" u32Max logits.length)
  ensure (selectionBias.length = logits.length)
    (.routingLength "selection_bias" logits.length selectionBias.length)
  ensure (expertUsedCount ≠ 0 ∧ expertUsedCount ≤ logits.length)
    (.routingTopK logits.length expertUsedCount)
  ensure (buffers.candidates.length = logits.length)
    (.routingLength "candidates" logits.length buffers.candidates.length)
  ensure (buffers.selected.length = expertUsedCount)
    (.routingLength "selected" expertUsedCount buffers.selected.length)
  routeFinite "weight_scale" 0 weightScale
  validateRoutes N 0 (logits.zip selectionBias)

/-- The sum of the weights of the selected, with its floor. -/
def weightSum (N : Numerics) (chosen : List RouteCandidate) : F32 :=
  N.max (chosen.foldl (fun sum candidate => N.add sum candidate.unbiasedWeight) .zero)
    routingSumFloor

/-- `route_experts_into`. Both buffers are overwritten from their first element on. -/
def routeExpertsInto (N : Numerics) (logits selectionBias : List F32) (expertUsedCount : Nat)
    (weightScale : F32) :
    Command RouteBuffers RoutingError Unit := do
  let given ← Command.read
  Command.lift (checkRoute N logits selectionBias expertUsedCount weightScale given)
  Command.update fun buffers => { buffers with
    candidates := buffers.candidates.zipWith (fun _ entry =>
      { expertId := entry.2, selectionScore := N.add (sigmoid N entry.1.1) entry.1.2,
        unbiasedWeight := sigmoid N entry.1.1 })
      (logits.zip selectionBias).zipIdx }
  Command.update fun buffers =>
    { buffers with candidates := buffers.candidates.mergeSort (candidateLe N) }
  let sorted ← Command.read
  let chosen := sorted.candidates.take expertUsedCount
  Command.update fun buffers => { buffers with
    selected := buffers.selected.zipWith (fun _ candidate =>
      { expertId := candidate.expertId
        coefficient := N.mul (N.div candidate.unbiasedWeight (weightSum N chosen)) weightScale })
          chosen }
  Command.update fun buffers => { buffers with
    selected := buffers.selected.mergeSort fun left right =>
      decide (left.expertId ≤ right.expertId) }

/-! ### The order of the experts -/

section Experts
variable (N : Numerics) (logits selectionBias : List F32)

def expertWeight (expert : Nat) : F32 := sigmoid N (logits.getD expert .zero)

def expertScore (expert : Nat) : F32 :=
  N.add (expertWeight N logits expert) (selectionBias.getD expert .zero)

/-- The first expert has the higher score. -/
def scoresHigher (first second : Nat) : Bool :=
  N.lt (expertScore N logits selectionBias second) (expertScore N logits selectionBias first)

/-- An expert of a selection, with its share of the weight of the selected. -/
def routedExpert (weightScale : F32) (order : List Nat) (expert : Nat) : RoutedExpert where
  expertId := expert
  coefficient := N.mul (N.div (expertWeight N logits expert)
    (N.max (order.foldl (fun sum selected => N.add sum (expertWeight N logits selected)) .zero)
      routingSumFloor)) weightScale

def candidateAt (expert : Nat) : RouteCandidate :=
  ⟨expert, expertScore N logits selectionBias expert, expertWeight N logits expert⟩

end Experts

/-- The comparison of finite numbers is a strict weak order. -/
structure FiniteOrdered (N : Numerics) : Prop where
  asymm : ∀ a b : F32, a.isFinite = true → b.isFinite = true → N.lt a b = true → N.lt b a = false
  negative : ∀ a b c : F32, a.isFinite = true → b.isFinite = true → c.isFinite = true →
    N.lt a c = true →
    N.lt a b = true ∨ N.lt b c = true

/-- What a call has to be given. -/
structure Routable (N : Numerics) (logits selectionBias : List F32) (expertUsedCount : Nat)
    (weightScale : F32) (buffers : RouteBuffers) : Prop where
  experts : logits.length ≤ u32Max
  biases : selectionBias.length = logits.length
  used : expertUsedCount ≠ 0 ∧ expertUsedCount ≤ logits.length
  candidates : buffers.candidates.length = logits.length
  selected : buffers.selected.length = expertUsedCount
  scale : weightScale.isFinite = true
  finite : ∀ expert < logits.length, (logits.getD expert .zero).isFinite = true ∧
    (selectionBias.getD expert .zero).isFinite = true ∧
      (expertScore N logits selectionBias expert).isFinite = true

theorem validateRoutes_eq_ok {N : Numerics} {index : Nat} {entries : List (F32 × F32)} {u : Unit} :
    validateRoutes N index entries = .ok u ↔ ∀ entry ∈ entries, entry.1.isFinite = true ∧
      entry.2.isFinite = true ∧
      (N.add (sigmoid N entry.1) entry.2).isFinite = true := by
  induction entries generalizing index with
  | nil => simp [validateRoutes]
  | cons entry entries ih =>
      simp only [validateRoutes, validateRoute, routeFinite, except_bind_ok_iff, ensure_eq_ok,
        exists_const, ih, List.forall_mem_cons]

theorem getD_zip {logits selectionBias : List F32} (hlength : selectionBias.length = logits.length)
    {expert : Nat} (hexpert : expert < logits.length) :
    (logits.zip selectionBias)[expert]? =
      some (logits.getD expert .zero, selectionBias.getD expert .zero) := by
  have hbias : expert < selectionBias.length := by omega
  rw [List.getElem?_zip_eq_some]
  simp [List.getD, List.getElem?_eq_getElem hexpert, List.getElem?_eq_getElem hbias]

theorem checkRoute_eq_ok {N : Numerics} {logits selectionBias : List F32} {expertUsedCount : Nat}
    {weightScale : F32} {buffers : RouteBuffers} {u : Unit} :
    checkRoute N logits selectionBias expertUsedCount weightScale buffers = .ok u ↔
      Routable N logits selectionBias expertUsedCount weightScale buffers := by
  simp only [checkRoute, routeFinite, except_bind_ok_iff, ensure_eq_ok, exists_const,
    validateRoutes_eq_ok]
  constructor
  · rintro ⟨hexperts, hbiases, hused, hcandidates, hselected, hscale, hfinite⟩
    refine ⟨hexperts, hbiases, hused, hcandidates, hselected, hscale, fun expert hexpert => ?_⟩
    have hentry := hfinite _ (List.mem_of_getElem? (getD_zip hbiases hexpert))
    rwa [expertScore, expertWeight]
  · rintro ⟨hexperts, hbiases, hused, hcandidates, hselected, hscale, hfinite⟩
    refine ⟨hexperts, hbiases, hused, hcandidates, hselected, hscale, fun entry hentry => ?_⟩
    obtain ⟨expert, hfound⟩ := List.mem_iff_getElem?.mp hentry
    obtain ⟨hlt, -⟩ := List.getElem?_eq_some_iff.mp hfound
    rw [List.length_zip] at hlt
    rw [getD_zip hbiases (by omega), Option.some_inj] at hfound
    have hexpert := hfinite expert (by omega)
    rw [expertScore, expertWeight] at hexpert
    rwa [← hfound]

/-! ### What is selected -/

section Selected
variable {N : Numerics} {logits selectionBias : List F32} {expertUsedCount : Nat}
    {weightScale : F32} {buffers : RouteBuffers}

theorem Routable.ranking (h : Routable N logits selectionBias expertUsedCount weightScale buffers)
    (ordered : FiniteOrdered N) :
    StrictWeakOn (List.range logits.length) (scoresHigher N logits selectionBias) := by
  have hfinite : ∀ expert ∈ List.range logits.length,
      (expertScore N logits selectionBias expert).isFinite = true :=
    fun expert hexpert => (h.finite expert (List.mem_range.mp hexpert)).2.2
  constructor
  · intro a ha b hb
    exact ordered.asymm _ _ (hfinite b hb) (hfinite a ha)
  · intro a ha b hb c hc hac
    exact (ordered.negative _ _ _ (hfinite c hc) (hfinite b hb) (hfinite a ha) hac).symm

/-- The candidates are those of the experts, in their order. -/
theorem candidates_eq (biases : selectionBias.length = logits.length) :
    ((logits.zip selectionBias).zipIdx.map fun entry =>
        (⟨entry.2, N.add (sigmoid N entry.1.1) entry.1.2, sigmoid N entry.1.1⟩ :
          RouteCandidate)) =
      (List.range logits.length).map (candidateAt N logits selectionBias) := by
  have hlength : (logits.zip selectionBias).length = logits.length := by
    rw [List.length_zip, biases, Nat.min_self]
  apply List.ext_getElem?
  intro expert
  rw [List.getElem?_map, List.getElem?_map, List.getElem?_zipIdx]
  by_cases hexpert : expert < logits.length
  · rw [getD_zip biases hexpert, List.getElem?_range hexpert, Option.map_some, Option.map_some,
      Option.map_some, Nat.zero_add]
    rfl
  · rw [List.getElem?_eq_none (by omega), List.getElem?_eq_none (by rw [List.length_range]; omega)]
    rfl

/-- The experts by rank, and the first of them. -/
def selectionOrder (N : Numerics) (logits selectionBias : List F32)
    (expertUsedCount : Nat) : List Nat :=
  ((List.range logits.length).mergeSort (rankLe (scoresHigher N logits selectionBias))).take
    expertUsedCount

theorem sorted_candidates :
    ((List.range logits.length).map (candidateAt N logits selectionBias)).mergeSort
      (candidateLe N) =
    ((List.range logits.length).mergeSort (rankLe (scoresHigher N logits selectionBias))).map
      (candidateAt N logits selectionBias) := by
  symm
  apply List.map_mergeSort
  intro first _ second _
  rfl

theorem routeExpertsInto_eq
      (h : Routable N logits selectionBias expertUsedCount weightScale buffers) :
    routeExpertsInto N logits selectionBias expertUsedCount weightScale buffers = (.ok (),
      { candidates :=
          ((List.range logits.length).mergeSort
            (rankLe (scoresHigher N logits selectionBias))).map
            (candidateAt N logits selectionBias)
        selected :=
          ((selectionOrder N logits selectionBias expertUsedCount).map
            (routedExpert N logits weightScale
              (selectionOrder N logits selectionBias expertUsedCount))).mergeSort
            fun left right => decide (left.expertId ≤ right.expertId) }) := by
  have hcheck : checkRoute N logits selectionBias expertUsedCount weightScale buffers = .ok () :=
    checkRoute_eq_ok.mpr h
  have hcandidates : buffers.candidates.length = (logits.zip selectionBias).zipIdx.length := by
    rw [List.length_zipIdx, List.length_zip, h.biases, Nat.min_self, h.candidates]
  have hchosen : buffers.selected.length =
      ((selectionOrder N logits selectionBias expertUsedCount).map
        (candidateAt N logits selectionBias)).length := by
    rw [List.length_map, selectionOrder, List.length_take, List.length_mergeSort,
      List.length_range, h.selected, Nat.min_eq_left h.used.2]
  have hsum : weightSum N
      ((selectionOrder N logits selectionBias expertUsedCount).map
        (candidateAt N logits selectionBias)) =
      N.max ((selectionOrder N logits selectionBias expertUsedCount).foldl
        (fun sum selected => N.add sum (expertWeight N logits selected)) .zero)
          routingSumFloor := by
    rw [weightSum, List.foldl_map]
    rfl
  have hwritten : (buffers.candidates.zipWith (fun _ entry =>
        (⟨entry.2, N.add (sigmoid N entry.1.1) entry.1.2, sigmoid N entry.1.1⟩ : RouteCandidate))
      (logits.zip selectionBias).zipIdx).mergeSort (candidateLe N) =
        ((List.range logits.length).mergeSort (rankLe (scoresHigher N logits selectionBias))).map
          (candidateAt N logits selectionBias) := by
    rw [zipWith_overwrite _ hcandidates, candidates_eq h.biases, sorted_candidates]
  have htake :
      (((List.range logits.length).mergeSort (rankLe (scoresHigher N logits selectionBias))).map
        (candidateAt N logits selectionBias)).take expertUsedCount =
        (selectionOrder N logits selectionBias expertUsedCount).map
          (candidateAt N logits selectionBias) := by
    rw [selectionOrder, List.map_take]
  rw [routeExpertsInto, Command.bind_of_ok (Command.read_run _),
    Command.bind_of_ok (by rw [Command.lift_run, hcheck]),
    Command.bind_of_ok (Command.update_run _ _), Command.bind_of_ok (Command.update_run _ _),
    Command.bind_of_ok (Command.read_run _), Command.bind_of_ok (Command.update_run _ _),
    Command.update_run]
  dsimp only
  rw [hwritten, htake, zipWith_overwrite _ hchosen, List.map_map, hsum]
  rfl

/-- What `routeExperts` makes of arguments that pass its checks. -/
def selectedOf (N : Numerics) (logits selectionBias : List F32) (expertUsedCount : Nat)
    (weightScale : F32) : List RoutedExpert :=
  let candidates := (logits.zip selectionBias).zipIdx.map fun entry =>
    ({ expertId := entry.2, selectionScore := N.add (sigmoid N entry.1.1) entry.1.2,
       unbiasedWeight := sigmoid N entry.1.1 } :
      RouteCandidate)
  let chosen := (candidates.mergeSort (candidateLe N)).take expertUsedCount
  (chosen.map fun candidate =>
    ({ expertId := candidate.expertId
       coefficient := N.mul (N.div candidate.unbiasedWeight (weightSum N chosen)) weightScale } :
      RoutedExpert)).mergeSort
    fun left right => decide (left.expertId ≤ right.expertId)

theorem routeExperts_eq :
    routeExperts N logits selectionBias expertUsedCount weightScale buffers.candidates.length
      buffers.selected.length =
      checkRoute N logits selectionBias expertUsedCount weightScale buffers >>= fun _ =>
        pure (selectedOf N logits selectionBias expertUsedCount weightScale) := by
  simp only [routeExperts, checkRoute, bind_assoc]
  rfl

/-- A call that fails has written nothing. -/
theorem routeExpertsInto_error {error : RoutingError} {after : RouteBuffers}
    (h : routeExpertsInto N logits selectionBias expertUsedCount weightScale buffers =
      (.error error, after)) : after = buffers := by
  cases hcheck : checkRoute N logits selectionBias expertUsedCount weightScale buffers with
  | ok _ =>
      rw [routeExpertsInto_eq (checkRoute_eq_ok.mp hcheck)] at h
      cases h
  | error refusal =>
      rw [routeExpertsInto, Command.bind_of_ok (Command.read_run _),
        Command.bind_of_error (by rw [Command.lift_run, hcheck])] at h
      exact (Prod.mk.inj h).2.symm

/-- The layer sees of a call what it leaves in the buffer of the selected. -/
theorem routeExperts_eq_into :
    routeExperts N logits selectionBias expertUsedCount weightScale buffers.candidates.length
    buffers.selected.length =
      (routeExpertsInto N logits selectionBias expertUsedCount weightScale buffers).1.map fun _ =>
      (routeExpertsInto N logits selectionBias expertUsedCount weightScale buffers).2.selected := by
  rw [routeExperts_eq]
  cases hcheck : checkRoute N logits selectionBias expertUsedCount weightScale buffers with
  | error refusal =>
      rw [routeExpertsInto, Command.bind_of_ok (Command.read_run _),
        Command.bind_of_error (by rw [Command.lift_run, hcheck])]
      rfl
  | ok _ =>
      have h := checkRoute_eq_ok.mp hcheck
      rw [routeExpertsInto_eq h, except_ok_bind, selectedOf, candidates_eq h.biases,
        sorted_candidates, ← List.map_take, List.map_map, weightSum, List.foldl_map]
      rfl

theorem mergeSort_experts {α : Type} {le : α → α → Bool} {expert : Nat → α}
    (h : ∀ first second, first < second → le (expert first) (expert second) = true)
    (order : List Nat) (ascending : order.Pairwise (· < ·)) :
    (order.map expert).mergeSort le = order.map expert :=
  List.mergeSort_of_pairwise (List.pairwise_map.mpr (ascending.imp (h _ _)))

/-- A host that prefers no expert selects the first ones. -/
theorem selectedOf_unordered (unordered : ∀ x y, N.lt x y = false)
    (biases : selectionBias.length = logits.length) :
    selectedOf N logits selectionBias expertUsedCount weightScale =
      ((List.range logits.length).take expertUsedCount).map
        (routedExpert N logits weightScale ((List.range logits.length).take expertUsedCount)) := by
  have hascending := List.pairwise_lt_range (n := logits.length)
  have hle : ∀ first second, first < second → candidateLe N
      (candidateAt N logits selectionBias first) (candidateAt N logits selectionBias second) =
        true := by
    intro first second hlt
    rw [candidateLe, unordered, unordered, if_neg Bool.false_ne_true, if_neg Bool.false_ne_true]
    exact decide_eq_true hlt.le
  unfold selectedOf
  rw [candidates_eq biases]
  dsimp only
  rw [mergeSort_experts hle _ hascending, ← List.map_take, List.map_map, weightSum, List.foldl_map]
  exact mergeSort_experts (fun _ _ hlt => decide_eq_true hlt.le) _
    (hascending.sublist (List.take_sublist _ _))

theorem routeExperts_unordered (unordered : ∀ x y, N.lt x y = false)
    (candidatesLength selectedLength : Nat) :
    routeExperts N logits selectionBias expertUsedCount weightScale candidatesLength
      selectedLength =
      checkRoute N logits selectionBias expertUsedCount weightScale
        ⟨List.replicate candidatesLength ⟨0, .zero, .zero⟩,
          List.replicate selectedLength ⟨0, .zero⟩⟩ >>= fun _ =>
        pure (((List.range logits.length).take expertUsedCount).map
          (routedExpert N logits weightScale
            ((List.range logits.length).take expertUsedCount))) := by
  generalize hbuffers : (⟨List.replicate candidatesLength ⟨0, .zero, .zero⟩,
    List.replicate selectedLength ⟨0, .zero⟩⟩ : RouteBuffers) = buffers
  have hcandidates : candidatesLength = buffers.candidates.length := by
    rw [← hbuffers, List.length_replicate]
  have hselected : selectedLength = buffers.selected.length := by
    rw [← hbuffers, List.length_replicate]
  rw [hcandidates, hselected, routeExperts_eq]
  cases hcheck : checkRoute N logits selectionBias expertUsedCount weightScale buffers with
  | error refusal => rfl
  | ok _ =>
      rw [except_ok_bind, except_ok_bind,
        selectedOf_unordered unordered (checkRoute_eq_ok.mp hcheck).biases]

end Selected

/-- Routing is exact top-k. What it selects is the one choice that comes first by score and id, in
ascending order of the ids, each with its share of the weight of the selected; the biases matter by
the order of the selected only; and a call that fails has written nothing. -/
theorem route_experts_top_k {N : Numerics} (ordered : FiniteOrdered N) :
    (∀ (logits selectionBias : List F32) (expertUsedCount : Nat) (weightScale : F32)
        (buffers after : RouteBuffers) (error : RoutingError),
        routeExpertsInto N logits selectionBias expertUsedCount weightScale buffers =
          (.error error, after) → after = buffers) ∧
      ∀ (logits selectionBias : List F32) (expertUsedCount : Nat) (weightScale : F32)
        (buffers : RouteBuffers),
        Routable N logits selectionBias expertUsedCount weightScale buffers →
        ∃ order after,
          routeExpertsInto N logits selectionBias expertUsedCount weightScale buffers =
            (.ok (), after) ∧
          FirstOf (Ranked (scoresHigher N logits selectionBias)) expertUsedCount
            (List.range logits.length) order ∧
          (∀ other, FirstOf (Ranked (scoresHigher N logits selectionBias)) expertUsedCount
            (List.range logits.length) other → other = order) ∧
          after.selected.Perm (order.map (routedExpert N logits weightScale order)) ∧
          (after.selected.Pairwise fun first second => first.expertId < second.expertId) ∧
          ∀ (otherBias : List F32) (otherBuffers : RouteBuffers),
            Routable N logits otherBias expertUsedCount weightScale otherBuffers →
            FirstOf (Ranked (scoresHigher N logits otherBias)) expertUsedCount
              (List.range logits.length) order →
            ∃ otherAfter,
              routeExpertsInto N logits otherBias expertUsedCount weightScale otherBuffers =
                (.ok (), otherAfter) ∧
              otherAfter.selected = after.selected := by
  refine ⟨fun _ _ _ _ _ _ _ => routeExpertsInto_error, ?_⟩
  intro logits selectionBias expertUsedCount weightScale buffers h
  have hchoice : ∀ {bias : List F32} {given : RouteBuffers},
      Routable N logits bias expertUsedCount weightScale given →
      FirstOf (Ranked (scoresHigher N logits bias)) expertUsedCount (List.range logits.length)
        (selectionOrder N logits bias expertUsedCount) := fun hgiven =>
    firstOf_ranked (hgiven.ranking ordered) List.nodup_range
      (by rw [List.length_range]; exact hgiven.used.2)
  have hunique : ∀ {bias : List F32} {given : RouteBuffers},
      Routable N logits bias expertUsedCount weightScale given →
      ∀ other, FirstOf (Ranked (scoresHigher N logits bias)) expertUsedCount
        (List.range logits.length) other →
        other = selectionOrder N logits bias expertUsedCount := fun hgiven other hother =>
    (hchoice hgiven).unique hother fun a ha b hb => Ranked.asymm (hgiven.ranking ordered) ha hb
  refine ⟨_, _, routeExpertsInto_eq h, hchoice h, hunique h, List.mergeSort_perm _ _, ?_, ?_⟩
  · -- The ids of the order are distinct, and the last sort is by them.
    have hperm := List.mergeSort_perm ((selectionOrder N logits selectionBias expertUsedCount).map
      (routedExpert N logits weightScale (selectionOrder N logits selectionBias expertUsedCount)))
        fun left right => decide (left.expertId ≤ right.expertId)
    have hids : (((selectionOrder N logits selectionBias expertUsedCount).map
        (routedExpert N logits weightScale
          (selectionOrder N logits selectionBias expertUsedCount))).map RoutedExpert.expertId) =
          selectionOrder N logits selectionBias expertUsedCount := by
      rw [List.map_map]
      exact List.map_id _
    have hdistinct : (selectionOrder N logits selectionBias expertUsedCount).Nodup :=
      (hchoice h).nodup fun a ha hself => Ranked.asymm (h.ranking ordered) ha ha hself hself
    have hnodup := ((hperm.map RoutedExpert.expertId).nodup_iff).mpr (by rwa [hids])
    rw [List.Nodup, List.pairwise_map] at hnodup
    refine ((List.pairwise_mergeSort ?_ ?_ _).and hnodup).imp ?_
    · intro a b c hab hbc
      simp only [decide_eq_true_eq] at hab hbc ⊢
      omega
    · intro a b
      simp only [Bool.or_eq_true, decide_eq_true_eq]
      omega
    · intro a b hboth
      have hle := of_decide_eq_true hboth.1
      have hne := hboth.2
      omega
  · intro otherBias otherBuffers hother hfirst
    have hsame := hunique hother _ hfirst
    refine ⟨_, routeExpertsInto_eq hother, ?_⟩
    rw [hsame]

theorem zeroNumerics_unordered (x y : F32) : zeroNumerics.lt x y = false := rfl

/-! ### Two experts of one logit -/

def half : F32 := .fromBits 0x3f000000

/-- The place of a number among the finite ones, where the zeroes are equal. -/
def finitePlace (x : F32) : Int := if x.toBits.msb then -(x.toBits.toNat % 2 ^ 31 : Nat)
      else x.toBits.toNat

/-- A host whose results are right for the numbers below: `exp 0`, `1 + 1`, `1 / 2`, and sums with
zero. -/
def halvingNumerics : Numerics := { zeroNumerics with
  neg := fun x => ⟨x.toBits ^^^ 0x80000000⟩
  exp := fun _ => one
  add := fun x y => if x = .zero then y else if y = .zero then x else if x = y ∧ y = half then one
    else .fromBits 0x40000000
  div := fun x y => if x = y then one else half
  mul := fun x _ => x
  max := fun x y => if finitePlace x < finitePlace y then y else x
  lt := fun x y => decide (finitePlace x < finitePlace y) }

theorem halvingNumerics_ordered : FiniteOrdered halvingNumerics := by
  constructor
  · intro a b _ _ hab
    have hlt := of_decide_eq_true hab
    exact decide_eq_false (by omega)
  · intro a b c _ _ _ hac
    have hlt := of_decide_eq_true hac
    rcases lt_or_ge (finitePlace a) (finitePlace b) with hab | hba
    · exact .inl (decide_eq_true hab)
    · exact .inr (decide_eq_true (by omega))

def oneRoute : RouteBuffers := ⟨List.replicate 2 ⟨0, .zero, .zero⟩, [⟨0, .zero⟩]⟩

/-- The bias decides, and the one that is selected has the whole weight. -/
theorem route_experts_top_k_two : ∃ after,
    routeExpertsInto halvingNumerics [.zero, .zero] [.zero, half] 1 one oneRoute = (.ok (), after) ∧
      after.selected = [⟨1, one⟩] := by
  have hroutable : Routable halvingNumerics [.zero, .zero] [.zero, half] 1 one oneRoute :=
    ⟨by decide, rfl, by decide, rfl, rfl, by decide, by decide⟩
  obtain ⟨order, after, hrun, -, hunique, hselected, -, -⟩ :=
    (route_experts_top_k halvingNumerics_ordered).2 _ _ _ _ _ hroutable
  have horder : order = [1] := by
    refine (hunique [1] ⟨rfl, List.pairwise_singleton _ _, by decide, ?_⟩).symm
    intro a ha b hb hout
    rw [List.mem_singleton] at ha hout
    have hbzero : b = 0 := by
      have := List.mem_range.mp hb
      simp only [List.length_cons, List.length_nil] at this
      omega
    rw [ha, hbzero]
    exact .inl (by decide)
  refine ⟨after, hrun, ?_⟩
  rw [horder] at hselected
  have hone : [1].map (routedExpert halvingNumerics [.zero, .zero] one [1]) =
      [⟨1, one⟩] := by decide
  rw [hone] at hselected
  exact List.perm_singleton.mp hselected

end LightBridge.Kernels
