import Mathlib.Algebra.Ring.Nat
import Mathlib.Algebra.Order.Ring.Nat

/-! Rounding up to a multiple of a power of two. -/
namespace Foundation

/-- A number of `width` bits rounded up to a multiple of a power of two by its mask, or nothing
where the sum overflows. -/
def alignUp (width value alignment : Nat) : Option Nat :=
  if value + (alignment - 1) < 2 ^ width then
    some ((value + (alignment - 1)) &&& (2 ^ width - 1 - (alignment - 1)))
  else none

/-- The bits that the mask leaves are those of the multiple below. -/
theorem and_not_mask {width k n : Nat} (h : n < 2 ^ width) (hk : 2 ^ k ≤ 2 ^ width) :
    n &&& (2 ^ width - 1 - (2 ^ k - 1)) = n / 2 ^ k * 2 ^ k := by
  have hpos : 0 < 2 ^ k := Nat.two_pow_pos k
  have hmask : 2 ^ width - 1 - (2 ^ k - 1) = 2 ^ width - ((2 ^ k - 1) + 1) := by omega
  apply Nat.eq_of_testBit_eq
  intro i
  rw [Nat.testBit_and, hmask, Nat.testBit_two_pow_sub_succ (by omega), Nat.testBit_two_pow_sub_one,
    Nat.testBit_mul_two_pow, Nat.testBit_div_two_pow]
  by_cases hi : k ≤ i
  · rw [Nat.sub_add_cancel hi]
    by_cases hwidth : i < width
    · simp [hi, hwidth]
    · have hbit : n.testBit i = false :=
        Nat.testBit_lt_two_pow
          (h.trans_le (Nat.pow_le_pow_right (by decide) (Nat.le_of_not_lt hwidth)))
      simp [hbit]
  · simp [hi, Nat.lt_of_not_le hi]

/-- The rounded number is the least multiple that is not below. -/
theorem alignUp_eq_some {width value alignment rounded : Nat} (hpower : alignment.isPowerOfTwo)
    (h : alignUp width value alignment = some rounded) :
    value ≤ rounded ∧ rounded < value + alignment ∧ alignment ∣ rounded ∧ rounded < 2 ^ width := by
  obtain ⟨k, rfl⟩ := hpower
  have hpos : 0 < 2 ^ k := Nat.two_pow_pos k
  unfold alignUp at h
  split at h
  · rename_i hlt
    rw [and_not_mask hlt (by omega), Option.some_inj] at h
    subst h
    have hmod := Nat.div_add_mod' (value + (2 ^ k - 1)) (2 ^ k)
    have hrest := Nat.mod_lt (value + (2 ^ k - 1)) hpos
    exact ⟨by omega, by omega, Nat.dvd_mul_left _ _, by omega⟩
  · cases h

/-- The least multiple of `alignment` that is not below `value`. -/
def roundUp (value alignment : Nat) : Nat := (value + (alignment - 1)) / alignment * alignment

theorem dvd_roundUp (value alignment : Nat) : alignment ∣ roundUp value alignment :=
  Nat.dvd_mul_left _ _

theorem le_roundUp (value : Nat) {alignment : Nat} (h : 0 < alignment) :
    value ≤ roundUp value alignment := by
  have hdiv := Nat.div_add_mod' (value + (alignment - 1)) alignment
  have hmod := Nat.mod_lt (value + (alignment - 1)) h
  rw [roundUp]
  omega

theorem roundUp_le {value bound alignment : Nat} (hle : value ≤ bound) (hdvd : alignment ∣ bound) :
    roundUp value alignment ≤ bound := by
  obtain ⟨k, rfl⟩ := hdvd
  rcases Nat.eq_zero_or_pos alignment with rfl | hpos
  · rw [roundUp, Nat.mul_zero, Nat.zero_mul]
  · have hlt : value + (alignment - 1) < alignment * (k + 1) := by
      rw [Nat.mul_succ]
      omega
    rw [roundUp, Nat.mul_comm alignment]
    exact Nat.mul_le_mul_right alignment (Nat.lt_succ_iff.mp (Nat.div_lt_of_lt_mul hlt))

/-- The mask rounds up. -/
theorem alignUp_eq_some_iff {width value alignment rounded : Nat}
    (hpower : alignment.isPowerOfTwo) :
    alignUp width value alignment = some rounded ↔ value + (alignment - 1) < 2 ^ width ∧
      rounded = roundUp value alignment := by
  obtain ⟨k, rfl⟩ := hpower
  have hpos : 0 < 2 ^ k := Nat.two_pow_pos k
  unfold alignUp
  split
  next hlt =>
    rw [and_not_mask hlt (by omega), roundUp, Option.some_inj]
    exact ⟨fun h => ⟨hlt, h.symm⟩, fun h => h.2.symm⟩
  next hge => exact ⟨nofun, fun h => absurd h.1 hge⟩

/-- A number can be rounded up where the multiple has the width. -/
theorem alignUp_of_roundUp_lt {width value alignment : Nat} (hpower : alignment.isPowerOfTwo)
    (hvalue : 0 < value)
    (h : roundUp value alignment < 2 ^ width) :
    alignUp width value alignment = some (roundUp value alignment) := by
  refine (alignUp_eq_some_iff hpower).mpr ⟨?_, rfl⟩
  have hle := le_roundUp value (Nat.pos_of_isPowerOfTwo hpower)
  have hmultiple := dvd_roundUp value alignment
  generalize roundUp value alignment = rounded at h hle hmultiple
  obtain ⟨k, rfl⟩ := hpower
  have hfirst : 2 ^ k ≤ rounded := Nat.le_of_dvd (by omega) hmultiple
  have hpowers : 2 ^ k ∣ 2 ^ width := (Nat.pow_dvd_pow_iff_le_right (by decide)).mpr
    ((Nat.pow_lt_pow_iff_right (by decide)).mp (lt_of_le_of_lt hfirst h)).le
  have hgap : 2 ^ k ≤ 2 ^ width - rounded :=
    Nat.le_of_dvd (by omega) (Nat.dvd_sub hpowers hmultiple)
  omega

/-- Rounding fails only where the number is close to the end of its width. -/
theorem alignUp_eq_none_iff {width value alignment : Nat} :
    alignUp width value alignment = none ↔ 2 ^ width ≤ value + (alignment - 1) := by
  unfold alignUp
  split
  · rename_i hlt
    exact ⟨nofun, fun hle => absurd hlt (Nat.not_lt.mpr hle)⟩
  · rename_i hnot
    exact ⟨fun _ => Nat.le_of_not_lt hnot, fun _ => rfl⟩

/-- A multiple is rounded to itself. -/
theorem alignUp_of_dvd {width value alignment rounded : Nat} (hpower : alignment.isPowerOfTwo)
    (hdvd : alignment ∣ value)
    (h : alignUp width value alignment = some rounded) : rounded = value := by
  obtain ⟨hle, hlt, hrounded, -⟩ := alignUp_eq_some hpower h
  obtain ⟨a, rfl⟩ := hdvd
  obtain ⟨b, rfl⟩ := hrounded
  have hpos : 0 < alignment := Nat.pos_of_ne_zero (by rintro rfl; simp at hlt)
  have hab : a ≤ b := Nat.le_of_mul_le_mul_left hle hpos
  have hba : b < a + 1 :=
    Nat.lt_of_mul_lt_mul_left (a := alignment) (by rw [Nat.mul_add, Nat.mul_one]; exact hlt)
  rw [Nat.le_antisymm (Nat.le_of_lt_succ hba) hab]

end Foundation
