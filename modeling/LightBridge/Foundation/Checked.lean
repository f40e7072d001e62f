import Mathlib.Algebra.BigOperators.Group.List.Basic
import Mathlib.Algebra.Ring.Int.Defs

/-! Signed machine arithmetic that notices when it leaves its width, and accumulators whose
terms are bounded. -/
namespace Foundation

/-- A result of `width` bits, or nothing where it overflows. -/
def signed (width : Nat) (n : Int) : Option Int :=
  if -2 ^ (width - 1) ≤ n ∧ n < 2 ^ (width - 1) then some n else none

/-- The computation answers `value`, whose magnitude is at most `bound`. -/
structure Bounded (c : Option Int) (value : Int) (bound : Nat) : Prop where
  answers : c = some value
  le : value.natAbs ≤ bound

theorem signed_of_natAbs_lt {width : Nat} {n : Int} (h : n.natAbs < 2 ^ (width - 1)) :
    signed width n = some n := by
  have hlt : ((n.natAbs : Nat) : Int) < 2 ^ (width - 1) := by exact_mod_cast h
  rw [signed, if_pos]
  constructor
  · omega
  · omega

namespace Bounded

theorem pure {n : Int} {bound : Nat} (h : n.natAbs ≤ bound) : Bounded (some n) n bound := ⟨rfl, h⟩

theorem add {width : Nat} {a b : Int} {m n : Nat} (ha : a.natAbs ≤ m) (hb : b.natAbs ≤ n)
    (h : m + n < 2 ^ (width - 1)) : Bounded (signed width (a + b)) (a + b) (m + n) := by
  have hsum : (a + b).natAbs ≤ m + n := (Int.natAbs_add_le a b).trans (Nat.add_le_add ha hb)
  exact ⟨signed_of_natAbs_lt (Nat.lt_of_le_of_lt hsum h), hsum⟩

theorem mul {width : Nat} {a b : Int} {m n : Nat} (ha : a.natAbs ≤ m) (hb : b.natAbs ≤ n)
    (h : m * n < 2 ^ (width - 1)) : Bounded (signed width (a * b)) (a * b) (m * n) := by
  have hproduct : (a * b).natAbs ≤ m * n := by
    rw [Int.natAbs_mul]
    exact Nat.mul_le_mul ha hb
  exact ⟨signed_of_natAbs_lt (Nat.lt_of_le_of_lt hproduct h), hproduct⟩

theorem bind {c : Option Int} {k : Int → Option Int} {value value' : Int} {bound bound' : Nat}
    (h : Bounded c value bound) (hk : value.natAbs ≤ bound → Bounded (k value) value' bound') :
    Bounded (c >>= k) value' bound' := by
  rw [h.answers]
  exact hk h.le

theorem mono {c : Option Int} {value : Int} {bound bound' : Nat} (h : Bounded c value bound)
    (hle : bound ≤ bound') :
    Bounded c value bound' := ⟨h.answers, h.le.trans hle⟩

/-- A loop that adds a bounded term in every iteration, as long as all its terms fit. -/
theorem foldlM {ι : Type} {f : Int → ι → Option Int} {term : ι → Int} {xs : List ι}
    (bound limit : Nat)
    (step : ∀ i ∈ xs, ∀ sum : Int, sum.natAbs + bound ≤ limit →
      Bounded (f sum i) (sum + term i) (sum.natAbs + bound)) {start : Int}
    (h : start.natAbs + xs.length * bound ≤ limit) :
    Bounded (xs.foldlM f start) (start + (xs.map term).sum) (start.natAbs + xs.length * bound) := by
  induction xs generalizing start with
  | nil => exact ⟨by simp, by simp⟩
  | cons i xs ih =>
      rw [List.length_cons, Nat.succ_mul] at h
      have hstep := step i List.mem_cons_self start (by omega)
      have hnext := hstep.le
      have hrest : Bounded (xs.foldlM f (start + term i)) _ _ :=
        ih (fun j hj => step j (List.mem_cons_of_mem i hj)) (by omega)
      rw [List.foldlM_cons, List.map_cons, List.sum_cons, List.length_cons,
        Nat.succ_mul, ← add_assoc]
      refine Bounded.bind hstep fun _ => hrest.mono ?_
      omega

end Bounded
end Foundation
