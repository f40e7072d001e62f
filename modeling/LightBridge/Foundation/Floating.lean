import Mathlib.Algebra.Ring.Nat
import Mathlib.Order.Monotone.Basic
import Mathlib.Tactic.Ring

/-! The value of a binary floating-point magnitude, in units of the least one above zero. -/
namespace Foundation

/-- The units of a magnitude: the fraction has so many bits, and below the first exponent there is
no leading one. -/
def floatUnits (fractionBits magnitude : Nat) : Nat :=
  if magnitude / 2 ^ fractionBits = 0 then magnitude % 2 ^ fractionBits
  else (2 ^ fractionBits + magnitude % 2 ^ fractionBits) * 2 ^ (magnitude / 2 ^ fractionBits - 1)

variable {fractionBits : Nat}

@[simp] theorem floatUnits_zero : floatUnits fractionBits 0 = 0 := by
  simp [floatUnits]

theorem floatUnits_mk (exponent : Nat) {fraction : Nat} (h : fraction < 2 ^ fractionBits) :
    floatUnits fractionBits (exponent * 2 ^ fractionBits + fraction) =
      if exponent = 0 then fraction else (2 ^ fractionBits + fraction) * 2 ^ (exponent - 1) := by
  have hdiv : (exponent * 2 ^ fractionBits + fraction) / 2 ^ fractionBits = exponent := by
    rw [Nat.mul_comm, Nat.mul_add_div (Nat.two_pow_pos _), Nat.div_eq_of_lt h, Nat.add_zero]
  have hmod : (exponent * 2 ^ fractionBits + fraction) % 2 ^ fractionBits = fraction := by
    rw [Nat.mul_comm, Nat.mul_add_mod, Nat.mod_eq_of_lt h]
  rw [floatUnits, hdiv, hmod]

/-- The next magnitude is larger, across an exponent too. -/
theorem floatUnits_lt_succ (magnitude : Nat) :
    floatUnits fractionBits magnitude < floatUnits fractionBits (magnitude + 1) := by
  have hlt := Nat.mod_lt magnitude (Nat.two_pow_pos fractionBits)
  have hsplit := Nat.div_add_mod' magnitude (2 ^ fractionBits)
  generalize magnitude / 2 ^ fractionBits = exponent at hsplit
  generalize magnitude % 2 ^ fractionBits = fraction at hsplit hlt
  rw [← hsplit, floatUnits_mk exponent hlt]
  by_cases hlast : fraction + 1 < 2 ^ fractionBits
  · rw [Nat.add_assoc, floatUnits_mk exponent hlast]
    split
    · exact Nat.lt_succ_self fraction
    · exact Nat.mul_lt_mul_of_pos_right (by omega) (Nat.two_pow_pos _)
  · -- The fraction is full: the next magnitude starts the exponent above it.
    have hfull : exponent * 2 ^ fractionBits + fraction + 1 =
        (exponent + 1) * 2 ^ fractionBits + 0 := by
      rw [Nat.add_mul]
      omega
    rw [hfull, floatUnits_mk (exponent + 1) (Nat.two_pow_pos _), if_neg (Nat.succ_ne_zero exponent),
      Nat.add_sub_cancel, Nat.add_zero]
    split
    next hzero =>
      rw [hzero, Nat.pow_zero, Nat.mul_one]
      exact hlt
    next hzero =>
      have hdouble : 2 ^ exponent = 2 * 2 ^ (exponent - 1) := by
        rw [← Nat.pow_succ', Nat.succ_eq_add_one, Nat.sub_add_cancel (Nat.pos_of_ne_zero hzero)]
      calc
        (2 ^ fractionBits + fraction) * 2 ^ (exponent - 1) < (2 * 2 ^ fractionBits) *
          2 ^ (exponent - 1) :=
          Nat.mul_lt_mul_of_pos_right (by omega) (Nat.two_pow_pos _)
        _ = 2 ^ fractionBits * 2 ^ exponent := by
          rw [hdouble]
          ring

theorem floatUnits_strictMono : StrictMono (floatUnits fractionBits) :=
  strictMono_nat_of_lt_succ floatUnits_lt_succ

end Foundation
