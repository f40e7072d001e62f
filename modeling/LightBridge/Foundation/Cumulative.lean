import Mathlib.Algebra.Order.BigOperators.Group.List
import Mathlib.Data.Nat.Find

/-! Lists of weighted elements by their running total: the shortest prefix that reaches a threshold,
and the element at which the total passes a target. -/
namespace Foundation
variable {α β M : Type} [AddCommMonoid M]

def weightOf (weight : α → M) (all : List α) : M := (all.map weight).sum

@[simp] theorem weightOf_nil (weight : α → M) : weightOf weight [] = 0 := rfl

@[simp] theorem weightOf_cons (weight : α → M) (a : α) (all : List α) :
    weightOf weight (a :: all) = weight a + weightOf weight all := by
  simp [weightOf]

@[simp] theorem weightOf_append (weight : α → M) (before after : List α) :
    weightOf weight (before ++ after) = weightOf weight before + weightOf weight after := by
  simp [weightOf]

theorem weightOf_map (weight : β → M) (f : α → β) (all : List α) :
    weightOf weight (all.map f) = weightOf (fun a => weight (f a)) all := by
  simp [weightOf, Function.comp_def]

variable [LinearOrder M]

/-- The shortest prefix whose weight reaches the threshold. -/
structure ShortestReaching (weight : α → M) (threshold : M) (all chosen : List α) : Prop where
  isPrefix : chosen <+: all
  reaches : threshold ≤ weightOf weight chosen
  shortest : ∀ other, other <+: all → threshold ≤ weightOf weight other →
    chosen.length ≤ other.length

/-- The weight passes the target at this element. -/
def PassesAt (weight : α → M) (target : M) (all : List α) (a : α) : Prop :=
  ∃ before after, all = before ++ a :: after ∧ weightOf weight before ≤ target ∧
    target < weightOf weight (before ++ [a])

section Shortest
variable {weight : α → M} {threshold target : M} {all chosen other : List α} {a : α}

/-- There is one shortest prefix. -/
theorem ShortestReaching.unique (h : ShortestReaching weight threshold all chosen)
    (hother : ShortestReaching weight threshold all other) : other = chosen := by
  have hlength : other.length = chosen.length := Nat.le_antisymm
    (hother.shortest chosen h.isPrefix h.reaches) (h.shortest other hother.isPrefix hother.reaches)
  rw [List.prefix_iff_eq_take.mp hother.isPrefix, List.prefix_iff_eq_take.mp h.isPrefix, hlength]

/-- The front of a list is the shortest prefix where every shorter front stays below the threshold.
-/
theorem ShortestReaching.of_take {count : Nat} (hcount : count ≤ all.length)
    (reaches : threshold ≤ weightOf weight (all.take count))
    (below : ∀ fewer < count, weightOf weight (all.take fewer) < threshold) :
    ShortestReaching weight threshold all (all.take count) := by
  refine ⟨List.take_prefix count all, reaches, fun other hfront hother => ?_⟩
  by_contra hshort
  rw [List.length_take, Nat.min_eq_left hcount, Nat.not_le] at hshort
  have hbelow := below other.length hshort
  rw [← List.prefix_iff_eq_take.mp hfront] at hbelow
  exact absurd hother (not_le_of_gt hbelow)

theorem exists_shortestReaching (h : threshold ≤ weightOf weight all) :
    ∃ chosen, ShortestReaching weight threshold all chosen := by
  classical
  have hsome : ∃ count, threshold ≤ weightOf weight (all.take count) :=
    ⟨all.length, by rwa [List.take_length]⟩
  refine ⟨all.take (Nat.find hsome), .of_take ?_ (Nat.find_spec hsome) ?_⟩
  · exact Nat.find_min' hsome (by rwa [List.take_length])
  · exact fun fewer hfewer => lt_of_not_ge (Nat.find_min hsome hfewer)

theorem ShortestReaching.map {weight : β → M} {f : α → β}
    (h : ShortestReaching (fun a => weight (f a)) threshold all chosen) :
    ShortestReaching weight threshold (all.map f) (chosen.map f) := by
  refine ⟨h.isPrefix.map f, ?_, ?_⟩
  · rw [weightOf_map]
    exact h.reaches
  · intro other hsome hother
    obtain ⟨front, hfront, rfl⟩ := List.prefix_map_iff.mp hsome
    rw [weightOf_map] at hother
    rw [List.length_map, List.length_map]
    exact h.shortest front hfront hother

/-- A threshold above zero is reached by no empty prefix. -/
theorem ShortestReaching.mem_head (h : ShortestReaching weight threshold (a :: all) chosen)
    (positive : 0 < threshold) :
    a ∈ chosen := by
  cases chosen with
  | nil => exact absurd h.reaches (not_le_of_gt positive)
  | cons first chosen =>
      have hfirst := (List.cons_prefix_cons.mp h.isPrefix).1
      rw [← hfirst]
      exact List.mem_cons_self

theorem PassesAt.mem (h : PassesAt weight target all a) : a ∈ all := by
  obtain ⟨before, after, rfl, -, -⟩ := h
  exact List.mem_append_right before List.mem_cons_self

/-- The weight does not pass a target at an element without weight. -/
theorem PassesAt.weight_ne_zero (h : PassesAt weight target all a) : weight a ≠ 0 := by
  obtain ⟨before, after, -, hbelow, habove⟩ := h
  intro hzero
  rw [weightOf_append, weightOf_cons, weightOf_nil, hzero, add_zero, add_zero] at habove
  exact absurd hbelow (not_le_of_gt habove)

variable [IsOrderedAddMonoid M]

theorem weightOf_nonneg (nonneg : ∀ a ∈ all, 0 ≤ weight a) : 0 ≤ weightOf weight all := by
  refine List.sum_nonneg ?_
  intro total htotal
  obtain ⟨a, ha, rfl⟩ := List.mem_map.mp htotal
  exact nonneg a ha

theorem weight_le_weightOf (nonneg : ∀ a ∈ all, 0 ≤ weight a) (h : a ∈ all) :
    weight a ≤ weightOf weight all := by
  refine List.single_le_sum ?_ _ (List.mem_map_of_mem h)
  intro total htotal
  obtain ⟨b, hb, rfl⟩ := List.mem_map.mp htotal
  exact nonneg b hb

theorem weightOf_le_of_front (nonneg : ∀ a ∈ all, 0 ≤ weight a) (hfront : chosen <+: all) :
    weightOf weight chosen ≤ weightOf weight all := by
  obtain ⟨rest, rfl⟩ := hfront
  rw [weightOf_append]
  exact le_add_of_nonneg_right (weightOf_nonneg fun a ha =>
    nonneg a (List.mem_append_right chosen ha))

/-- No target below the whole weight is passed behind the shortest prefix that has the whole weight.
-/
theorem PassesAt.mem_whole (h : PassesAt weight target all a) (nonneg : ∀ a ∈ all, 0 ≤ weight a)
    (hwhole : ShortestReaching weight (weightOf weight all) all chosen) : a ∈ chosen := by
  obtain ⟨before, after, rfl, hbelow, habove⟩ := h
  have hthrough : before ++ [a] <+: before ++ a :: after := ⟨after, by simp⟩
  have hlt := habove.trans_le (weightOf_le_of_front nonneg hthrough)
  rcases List.prefix_or_prefix_of_prefix hwhole.isPrefix hthrough with hshort | hlong
  · -- A prefix that ends before the element weighs no more than the target.
    rcases List.prefix_concat_iff.mp hshort with rfl | hfront
    · exact List.mem_append_right before List.mem_cons_self
    · have hle : weightOf weight chosen ≤ weightOf weight before :=
        weightOf_le_of_front (fun b hb => nonneg b (List.mem_append_left _ hb)) hfront
      exact absurd ((hwhole.reaches.trans hle).trans hbelow) (not_le_of_gt hlt)
  · exact hlong.subset (List.mem_append_right before List.mem_cons_self)

end Shortest
end Foundation
