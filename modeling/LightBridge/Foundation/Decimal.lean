import Mathlib.Algebra.Ring.Nat
import Mathlib.Data.List.Induction

/-! Decimal notation: the texts that are the notation of a number, and that each number has one. -/
namespace Foundation

/-- Digits that no leading zero makes longer than they have to be. -/
structure IsDecimal (text : List Char) : Prop where
  nonempty : text ≠ []
  digits : ∀ c ∈ text, c.isDigit = true
  leading : ¬ (text.length > 1 ∧ text.head? = some '0')

theorem isDigit_iff {c : Char} : c.isDigit = true ↔ 48 ≤ c.toNat ∧ c.toNat ≤ 57 := by
  simp only [Char.isDigit, Bool.and_eq_true, decide_eq_true_eq, ge_iff_le, UInt32.le_iff_toNat_le]
  rfl

/-- A digit is the digit of its own value. -/
theorem digitChar_toNat {c : Char} (h : c.isDigit = true) : (c.toNat - 48).digitChar = c := by
  obtain ⟨hlow, hhigh⟩ := isDigit_iff.mp h
  apply Char.ext
  apply UInt32.toNat_inj.mp
  change (c.toNat - 48).digitChar.toNat = c.toNat
  rw [Nat.toNat_digitChar_of_lt_ten (by omega)]
  omega

/-- A leading digit other than zero counts. -/
theorem ofDigitChars_pos {c : Char} {text : List Char} (hdigit : c.isDigit = true)
    (hzero : c ≠ '0') :
    0 < Nat.ofDigitChars 10 (c :: text) 0 := by
  have hpos : 0 < c.toNat - 48 := by
    by_contra hnot
    apply hzero
    rw [← digitChar_toNat hdigit, Nat.eq_zero_of_not_pos hnot]
    rfl
  rw [Nat.ofDigitChars_cons, Nat.ofDigitChars_eq_ofDigitChars_zero]
  have hpow : 0 < 10 ^ text.length := Nat.pow_pos (by decide)
  exact Nat.add_pos_left (Nat.mul_pos hpow (by simpa using hpos)) _

/-- A number has no other notation than the one it is printed in. -/
theorem IsDecimal.toDigits {text : List Char} (h : IsDecimal text) :
    Nat.toDigits 10 (Nat.ofDigitChars 10 text 0) = text := by
  induction text using List.reverseRecOn with
  | nil => exact absurd rfl h.nonempty
  | append_singleton init c ih =>
      have hdigit := h.digits c (List.mem_append_right init (List.mem_singleton_self c))
      obtain ⟨hlow, hhigh⟩ := isDigit_iff.mp hdigit
      have hlast : Nat.toDigits 10 (c.toNat - 48) = [c] := by
        rw [Nat.toDigits_of_lt_base (by omega), digitChar_toNat hdigit]
      rw [Nat.ofDigitChars_append]
      cases init with
      | nil => exact (congrArg _ (by simp [Nat.ofDigitChars_cons])).trans hlast
      | cons first rest =>
          have hfirst : first.isDigit = true := h.digits first (by simp)
          have hnonzero : first ≠ '0' := fun heq => h.leading ⟨by simp, by simp [heq]⟩
          have hinit : IsDecimal (first :: rest) :=
            ⟨List.cons_ne_nil _ _, fun d hd => h.digits d (List.mem_append_left _ hd), fun hzero =>
              hnonzero (Option.some.inj hzero.2)⟩
          have hvalue : Nat.ofDigitChars 10 [c] (Nat.ofDigitChars 10 (first :: rest) 0) =
              10 * Nat.ofDigitChars 10 (first :: rest) 0 + (c.toNat - 48) := by
            rw [Nat.ofDigitChars_cons, Nat.ofDigitChars_nil]
            rfl
          rw [hvalue, ← Nat.toDigits_append_toDigits (by decide) (ofDigitChars_pos hfirst hnonzero)
            (by omega), ih hinit, hlast]

/-- Only zero is printed with a leading zero. -/
theorem eq_zero_of_head_toDigits {n : Nat} (h : (Nat.toDigits 10 n).head? = some '0') : n = 0 := by
  induction n using Nat.base_induction 10 (by decide) with
  | single m hm =>
      rw [Nat.toDigits_of_lt_base hm, List.head?_singleton] at h
      exact Nat.digitChar_eq_zero.mp (Option.some.inj h)
  | digit m k hk hm ih =>
      rw [← Nat.toDigits_append_toDigits (by decide) hm hk, List.head?_append] at h
      cases hdigits : Nat.toDigits 10 m with
      | nil => exact absurd hdigits Nat.toDigits_ne_nil
      | cons first rest =>
          rw [hdigits] at h ih
          exact absurd (ih h) (Nat.ne_of_gt hm)

/-- What a number is printed as is its notation. -/
theorem isDecimal_toDigits (n : Nat) : IsDecimal (Nat.toDigits 10 n) := by
  refine ⟨Nat.toDigits_ne_nil, fun c hc =>
    Nat.isDigit_of_mem_toDigits (by decide) (by decide) hc, ?_⟩
  rintro ⟨hlong, hzero⟩
  rw [eq_zero_of_head_toDigits hzero, Nat.toDigits_zero] at hlong
  exact absurd hlong (by decide)

/-! ### A fixed number of digits -/

/-- A number in at least so many digits. -/
def padded (width n : Nat) : List Char := (Nat.toDigits 10 n).leftpad width '0'

theorem isDigit_of_mem_padded {width n : Nat} {c : Char} (h : c ∈ padded width n) :
    c.isDigit = true := by
  rw [padded, List.leftpad, List.mem_append] at h
  rcases h with hzero | hdigit
  · rw [List.eq_of_mem_replicate hzero]
    rfl
  · exact Nat.isDigit_of_mem_toDigits (by decide) (by decide) hdigit

theorem length_padded {width n : Nat} (hwidth : 0 < width) (h : n < 10 ^ width) :
    (padded width n).length = width := by
  rw [padded, List.length_leftpad,
    Nat.max_eq_left ((Nat.length_toDigits_le_iff (by decide) hwidth).mpr h)]

/-- Leading zeros do not count. -/
@[simp] theorem ofDigitChars_padded (width n : Nat) :
    Nat.ofDigitChars 10 (padded width n) 0 = n := by
  rw [padded, List.leftpad, Nat.ofDigitChars_append, Nat.ofDigitChars_replicate_zero, Nat.mul_zero,
    Nat.ofDigitChars_ten_toDigits]

theorem ofDigitChars_lt {text : List Char} (digits : ∀ c ∈ text, c.isDigit = true) :
    Nat.ofDigitChars 10 text 0 < 10 ^ text.length := by
  induction text with
  | nil => decide
  | cons c text ih =>
      obtain ⟨hdigit, hrest⟩ := List.forall_mem_cons.mp digits
      obtain ⟨hlow, hhigh⟩ := isDigit_iff.mp hdigit
      have hvalue : 10 ^ text.length * (c.toNat - 48) ≤ 10 ^ text.length * 9 :=
        Nat.mul_le_mul_left _ (by omega)
      have hzero : '0'.toNat = 48 := rfl
      rw [Nat.ofDigitChars_cons, Nat.ofDigitChars_eq_ofDigitChars_zero, List.length_cons,
        Nat.pow_succ, Nat.mul_zero, Nat.zero_add, hzero]
      have := ih hrest
      omega

/-- Digits of the same number are the same, when there are as many of them. -/
theorem ofDigitChars_inj {a b : List Char} (ha : ∀ c ∈ a, c.isDigit = true)
    (hb : ∀ c ∈ b, c.isDigit = true)
    (hlength : a.length = b.length) (h : Nat.ofDigitChars 10 a 0 = Nat.ofDigitChars 10 b 0) :
    a = b := by
  induction a generalizing b with
  | nil => exact (List.length_eq_zero_iff.mp hlength.symm).symm
  | cons c a ih =>
      cases b with
      | nil => cases hlength
      | cons d b =>
          obtain ⟨hc, ha⟩ := List.forall_mem_cons.mp ha
          obtain ⟨hd, hb⟩ := List.forall_mem_cons.mp hb
          have hlength : a.length = b.length := Nat.succ.inj hlength
          have hpos : 0 < 10 ^ b.length := Nat.pow_pos (by decide)
          have hzero : '0'.toNat = 48 := rfl
          rw [Nat.ofDigitChars_cons, Nat.ofDigitChars_cons, Nat.ofDigitChars_eq_ofDigitChars_zero,
            Nat.ofDigitChars_eq_ofDigitChars_zero (l := b), Nat.mul_zero, Nat.zero_add,
            Nat.zero_add, hzero, hlength] at h
          have hlast := ofDigitChars_lt ha
          rw [hlength] at hlast
          have hdigit : c.toNat - 48 = d.toNat - 48 := by
            have hquotient := congrArg (· / 10 ^ b.length) h
            simpa only [Nat.mul_add_div hpos, Nat.div_eq_of_lt hlast,
              Nat.div_eq_of_lt (ofDigitChars_lt hb), Nat.add_zero] using hquotient
          rw [hdigit] at h
          rw [← digitChar_toNat hc, ← digitChar_toNat hd, hdigit,
            ih ha hb hlength (Nat.add_left_cancel h)]

/-- Digits are the number they stand for, in as many digits. -/
theorem padded_ofDigitChars {text : List Char} (hne : text ≠ [])
    (digits : ∀ c ∈ text, c.isDigit = true) :
    padded text.length (Nat.ofDigitChars 10 text 0) = text :=
  ofDigitChars_inj (fun _ => isDigit_of_mem_padded) digits
    (length_padded (List.length_pos_iff.mpr hne) (ofDigitChars_lt digits)) (ofDigitChars_padded _ _)

end Foundation
