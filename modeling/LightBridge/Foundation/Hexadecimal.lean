import LightBridge.Foundation.Framing

/-! Hexadecimal numerals: a number is read from its digits, which hold no dash. -/
namespace Foundation

theorem digitChar_ne_dash : ∀ a < 16, Nat.digitChar a ≠ '-' := by
  decide

theorem dash_notMem_toDigits (n : Nat) : '-' ∉ Nat.toDigits 16 n := by
  induction n using Nat.strongRecOn with
  | ind n ih =>
      rcases Nat.lt_or_ge n 16 with hn | hn
      · rw [Nat.toDigits_of_lt_base hn, List.mem_singleton]
        exact (digitChar_ne_dash n hn).symm
      · rw [Nat.toDigits_of_base_le (by decide) hn, List.mem_append, List.mem_singleton]
        rintro (hfront | hlast)
        · exact ih (n / 16) (Nat.div_lt_self (by omega) (by decide)) hfront
        · exact digitChar_ne_dash (n % 16) (Nat.mod_lt n (by decide)) hlast.symm

theorem toDigits_injective (n : Nat) :
    ∀ m, Nat.toDigits 16 n = Nat.toDigits 16 m → n = m := by
  induction n using Nat.strongRecOn with
  | ind n ih =>
      intro m h
      rcases Nat.lt_or_ge n 16 with hn | hn
      · rcases Nat.lt_or_ge m 16 with hm | hm
        · rw [Nat.toDigits_of_lt_base hn, Nat.toDigits_of_lt_base hm] at h
          exact digitChar_injective hn hm (List.singleton_inj.mp h)
        · have hlength := congrArg List.length h
          have hpositive : 0 < (Nat.toDigits 16 (m / 16)).length := Nat.length_toDigits_pos
          rw [Nat.toDigits_of_lt_base hn, Nat.toDigits_of_base_le (by decide) hm,
            List.length_append, List.length_singleton, List.length_singleton] at hlength
          omega
      · rcases Nat.lt_or_ge m 16 with hm | hm
        · have hlength := congrArg List.length h
          have hpositive : 0 < (Nat.toDigits 16 (n / 16)).length := Nat.length_toDigits_pos
          rw [Nat.toDigits_of_lt_base hm, Nat.toDigits_of_base_le (by decide) hn,
            List.length_append, List.length_singleton, List.length_singleton] at hlength
          omega
        · rw [Nat.toDigits_of_base_le (by decide) hn, Nat.toDigits_of_base_le (by decide) hm] at h
          obtain ⟨hfront, hlast⟩ := List.append_inj' h rfl
          have hdiv := ih (n / 16) (Nat.div_lt_self (by omega) (by decide)) (m / 16) hfront
          have hmod := digitChar_injective (Nat.mod_lt n (by decide)) (Nat.mod_lt m (by decide))
            (List.singleton_inj.mp hlast)
          omega

end Foundation
