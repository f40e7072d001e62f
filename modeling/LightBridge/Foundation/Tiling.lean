import LightBridge.Foundation.Slices
import Mathlib.Algebra.Ring.Nat

/-! Ranges one behind the other, from a start to an end. -/
namespace Foundation

/-- Every range begins where the one before it ends. -/
inductive Tiled : Nat → List (Nat × Nat) → Nat → Prop where
  | nil (start : Nat) : Tiled start [] start
  | cons {start middle stop : Nat} {spans : List (Nat × Nat)} (ordered : start ≤ middle)
      (rest : Tiled middle spans stop) : Tiled start ((start, middle) :: spans) stop

namespace Tiled
variable {start stop : Nat} {spans : List (Nat × Nat)}

theorem le (h : Tiled start spans stop) : start ≤ stop := by
  induction h with
  | nil => exact Nat.le_refl _
  | cons ordered _ ih => exact Nat.le_trans ordered ih

/-- No range leaves the whole. -/
theorem bounds (h : Tiled start spans stop) : ∀ span ∈ spans, start ≤ span.1 ∧ span.1 ≤ span.2 ∧
      span.2 ≤ stop := by
  induction h with
  | nil => simp
  | cons ordered rest ih =>
      intro span hspan
      rcases List.mem_cons.mp hspan with rfl | hspan
      · exact ⟨Nat.le_refl _, ordered, rest.le⟩
      · obtain ⟨hstart, hordered, hstop⟩ := ih span hspan
        exact ⟨Nat.le_trans ordered hstart, hordered, hstop⟩

/-- An earlier range ends before a later one begins. -/
theorem pairwise (h : Tiled start spans stop) : spans.Pairwise fun first second =>
      first.2 ≤ second.1 := by
  induction h with
  | nil => exact List.Pairwise.nil
  | cons _ rest ih =>
      exact List.pairwise_cons.mpr ⟨fun span hspan => (rest.bounds span hspan).1, ih⟩

/-- Every place is in one of the ranges. -/
theorem covers (h : Tiled start spans stop) {place : Nat} (low : start ≤ place)
    (high : place < stop) :
    ∃ span ∈ spans, span.1 ≤ place ∧ place < span.2 := by
  induction h with
  | nil => omega
  | @cons start middle stop spans _ _ ih =>
      by_cases hplace : place < middle
      · exact ⟨(start, middle), List.mem_cons_self, low, hplace⟩
      · obtain ⟨span, hspan, hinside⟩ := ih (Nat.le_of_not_lt hplace) high
        exact ⟨span, List.mem_cons_of_mem _ hspan, hinside⟩

end Tiled

/-- Ranges of one width. -/
theorem tiled_range (width first count : Nat) :
    Tiled (first * width) ((List.range' first count).map fun i => (i * width, i * width + width))
      ((first + count) * width) := by
  induction count generalizing first with
  | zero => exact Tiled.nil _
  | succ count ih =>
      have hnext := ih (first + 1)
      rw [Nat.succ_mul, Nat.add_assoc, Nat.add_comm 1] at hnext
      rw [List.range'_succ, List.map_cons]
      exact Tiled.cons (Nat.le_add_right _ _) hnext

end Foundation
