import Mathlib.Algebra.BigOperators.Intervals
import Mathlib.Algebra.BigOperators.Ring.Finset

/-! Rows of numbers that are made of blocks, times the weights of their places. -/
namespace Foundation
open Finset

/-- A sum over a flat row is a sum over its blocks. -/
theorem sum_range_blocks {M : Type} [AddCommMonoid M] (m n : Nat) (f : Nat → M) :
    ∑ i ∈ range (m * n), f i = ∑ a ∈ range m, ∑ b ∈ range n, f (a * n + b) := by
  induction m with
  | zero => simp
  | succ m ih => rw [Nat.succ_mul, sum_range_add, ih, sum_range_succ]

theorem sum_map_range {M : Type} [AddCommMonoid M] (n : Nat) (f : Nat → M) :
    ((List.range n).map f).sum = ∑ i ∈ range n, f i := by
  induction n with
  | zero => rfl
  | succ n ih => simp [List.range_succ, sum_range_succ, ih]

/-- A loop that adds a value in every iteration to what it measures by. -/
theorem foldlM_measure {α β M : Type} [AddCommMonoid M] {f : β → α → Option β} {I : β → Prop}
    (measure : β → M) (value : α → M) (xs : List α)
    (step : ∀ b, ∀ a ∈ xs, I b →
      ∃ b', f b a = some b' ∧ I b' ∧ measure b' = measure b + value a) {b : β} (hb : I b) :
    ∃ b', xs.foldlM f b = some b' ∧ I b' ∧ measure b' = measure b + (xs.map value).sum := by
  induction xs generalizing b with
  | nil => exact ⟨b, rfl, hb, by simp⟩
  | cons x xs ih =>
      obtain ⟨middle, hstep, hmiddle, hmeasure⟩ := step b x List.mem_cons_self hb
      obtain ⟨last, hrest, hlast, hsum⟩ :=
        ih (fun b a ha => step b a (List.mem_cons_of_mem x ha)) hmiddle
      refine ⟨last, by rw [List.foldlM_cons, hstep]; exact hrest, hlast, ?_⟩
      rw [hsum, hmeasure, List.map_cons, List.sum_cons, add_assoc]

theorem foldl_add_eq {M : Type} [AddMonoid M] (xs : List M) (sum : M) :
    xs.foldl (· + ·) sum = sum + xs.sum := by
  induction xs generalizing sum with
  | nil => simp
  | cons x xs ih => rw [List.foldl_cons, ih, List.sum_cons, add_assoc]

theorem sum_zip_add {α M : Type} [AddCommMonoid M] {xs : List M} {ys : List α} (f : α → M)
    (h : xs.length = ys.length) :
    ((xs.zip ys).map fun pair => pair.1 + f pair.2).sum = xs.sum + (ys.map f).sum := by
  induction xs generalizing ys with
  | nil => simp [List.eq_nil_of_length_eq_zero h.symm]
  | cons x xs ih =>
      cases ys with
      | nil => cases h
      | cons y ys =>
          simp only [List.zip_cons_cons, List.map_cons, List.sum_cons, ih (Nat.succ.inj h)]
          rw [add_add_add_comm]

variable {K : Type} [Semiring K]

/-- A row times the weights of its places. -/
def pairing : List K → (Nat → K) → K
  | [], _ => 0
  | x :: xs, weight => x * weight 0 + pairing xs fun i => weight (i + 1)

theorem pairing_eq_sum (xs : List K) (weight : Nat → K) :
    pairing xs weight = ∑ i ∈ range xs.length, xs.getD i 0 * weight i := by
  induction xs generalizing weight with
  | nil => rfl
  | cons x xs ih => simp [pairing, ih, sum_range_succ', add_comm]

theorem pairing_congr {xs : List K} {weight weight' : Nat → K}
    (h : ∀ i < xs.length, weight i = weight' i) : pairing xs weight = pairing xs weight' := by
  rw [pairing_eq_sum, pairing_eq_sum]
  exact sum_congr rfl fun i hi => by rw [h i (mem_range.mp hi)]

theorem pairing_append (xs ys : List K) (weight : Nat → K) :
    pairing (xs ++ ys) weight = pairing xs weight + pairing ys fun i => weight (xs.length + i) := by
  induction xs generalizing weight with
  | nil => simp [pairing]
  | cons x xs ih =>
      have hplace (i : Nat) : xs.length + 1 + i = xs.length + i + 1 := Nat.add_right_comm _ _ _
      rw [List.cons_append, pairing, pairing, ih, add_assoc, List.length_cons]
      simp only [hplace]

theorem pairing_map_range (n : Nat) (f weight : Nat → K) :
    pairing ((List.range n).map f) weight = ∑ i ∈ range n, f i * weight i := by
  rw [pairing_eq_sum, List.length_map, List.length_range]
  refine sum_congr rfl fun i hi => ?_
  have hlt := mem_range.mp hi
  simp [List.getD_eq_getElem?_getD, hlt]

/-- A row of blocks of one length. -/
theorem pairing_flatMap_range {n : Nat} (m : Nat) {f : Nat → List K} (hf : ∀ k, (f k).length = n)
    (weight : Nat → K) : pairing ((List.range m).flatMap f) weight =
      ∑ k ∈ range m, pairing (f k) fun i => weight (k * n + i) := by
  induction m with
  | zero => rfl
  | succ m ih =>
      have hlength : ((List.range m).flatMap f).length = m * n := by
        simp [List.length_flatMap, hf]
      rw [List.range_succ, List.flatMap_append, pairing_append, ih, hlength, sum_range_succ]
      simp

end Foundation
