import Mathlib.Order.Lattice

/-! Binary search in a list by a key. -/
namespace Foundation
variable {α κ : Type} [LinearOrder κ]

/-- The loop over a window of `size` places from `base`: the half that is kept begins at the middle
unless the key there is greater. -/
def searchBase (key : α → κ) (xs : List α) (target : κ) : Nat → Nat → Nat → Nat
  | 0, _, base => base
  | fuel + 1, size, base =>
      if size ≤ 1 then base
      else
        match xs[base + size / 2]? with
        | none => base
        | some middle =>
            searchBase key xs target fuel (size - size / 2)
              (if target < key middle then base else base + size / 2)

/-- `binary_search_by_key`, with the place of a key that is found. -/
def binarySearchByKey (key : α → κ) (xs : List α) (target : κ) : Option Nat :=
  match xs[searchBase key xs target xs.length xs.length 0]? with
  | none => none
  | some found =>
      if key found = target then some (searchBase key xs target xs.length xs.length 0) else none

/-- The place of the key is in the window. -/
structure Window (xs : List α) (place size base : Nat) : Prop where
  low : base ≤ place
  high : place < base + size
  bounded : base + size ≤ xs.length

/-- One halving keeps the place of the key in the window. -/
theorem Window.halve {key : α → κ} {xs : List α} (sorted : xs.Pairwise fun a b => key a < key b)
    {place size base : Nat} (h : Window xs place size base) {found middle : α}
    (hfound : xs[place]? = some found) (hmiddle : xs[base + size / 2]? = some middle) :
    Window xs place (size - size / 2)
      (if key found < key middle then base else base + size / 2) := by
  obtain ⟨hplace, rfl⟩ := List.getElem?_eq_some_iff.mp hfound
  obtain ⟨hmid, rfl⟩ := List.getElem?_eq_some_iff.mp hmiddle
  have hlow := h.low
  have hhigh := h.high
  have hbounded := h.bounded
  rw [List.pairwise_iff_getElem] at sorted
  split
  · rename_i hlt
    have hbefore : place < base + size / 2 := by
      by_contra hnot
      rcases Nat.eq_or_lt_of_le (Nat.le_of_not_lt hnot) with heq | hgt
      · exact absurd hlt (by simp only [heq, lt_irrefl, not_false_eq_true])
      · exact absurd hlt (sorted _ _ hmid hplace hgt).asymm
    exact ⟨hlow, by omega, by omega⟩
  · rename_i hnot
    have hbehind : base + size / 2 ≤ place := by
      by_contra hlt
      exact hnot (sorted _ _ hplace hmid (Nat.lt_of_not_le hlt))
    exact ⟨hbehind, by omega, by omega⟩

/-- The loop ends at the place of the key. -/
theorem searchBase_eq {key : α → κ} {xs : List α} (sorted : xs.Pairwise fun a b => key a < key b)
    {found : α} {place fuel size base : Nat} (hfound : xs[place]? = some found)
    (h : Window xs place size base) (hfuel : size ≤ fuel) :
    searchBase key xs (key found) fuel size base = place := by
  induction fuel generalizing size base with
  | zero =>
      have hlow := h.low
      have hhigh := h.high
      omega
  | succ fuel ih =>
      have hlow := h.low
      have hhigh := h.high
      have hbounded := h.bounded
      rw [searchBase]
      split
      · omega
      · have hmid : base + size / 2 < xs.length := by omega
        rw [List.getElem?_eq_getElem hmid]
        exact ih (h.halve sorted hfound (List.getElem?_eq_getElem hmid)) (by omega)

/-- In a list whose keys ascend, the search finds exactly the element with the key. -/
theorem binarySearchByKey_eq_some_iff {key : α → κ} {xs : List α}
    (sorted : xs.Pairwise fun a b => key a < key b) {target : κ}
    {place : Nat} : binarySearchByKey key xs target = some place ↔ ∃ found,
      xs[place]? = some found ∧ key found = target := by
  unfold binarySearchByKey
  constructor
  · intro h
    split at h
    · cases h
    · rename_i found hfound
      split at h
      · rename_i hkey
        cases h
        exact ⟨found, hfound, hkey⟩
      · cases h
  · rintro ⟨found, hfound, rfl⟩
    have hplace := (List.getElem?_eq_some_iff.mp hfound).1
    have hwindow : Window xs place xs.length 0 := ⟨Nat.zero_le _, by omega, by omega⟩
    rw [searchBase_eq sorted hfound hwindow (Nat.le_refl _), hfound]
    exact if_pos rfl

end Foundation
