import Mathlib.Order.Lattice

/-! Finite maps as their entries in the order of the keys. -/
namespace Foundation
variable {κ υ : Type} [LinearOrder κ]

/-- The entries with this one put in place of another of its key or between the others. -/
def insertEntry (key : κ) (value : υ) : List (κ × υ) → List (κ × υ)
  | [] => [(key, value)]
  | entry :: entries =>
      if key < entry.1 then (key, value) :: entry :: entries
      else if key = entry.1 then (key, value) :: entries
      else entry :: insertEntry key value entries

structure SortedMap (κ υ : Type) [LinearOrder κ] where
  entries : List (κ × υ)
  sorted : entries.Pairwise fun a b => a.1 < b.1

theorem mem_insertEntry {key : κ} {value : υ} {entries : List (κ × υ)} {entry : κ × υ}
    (h : entry ∈ insertEntry key value entries) : entry = (key, value) ∨ entry ∈ entries := by
  induction entries with
  | nil => exact Or.inl (List.mem_singleton.mp h)
  | cons first entries ih =>
      unfold insertEntry at h
      split at h
      · exact List.mem_cons.mp h
      · split at h
        · exact (List.mem_cons.mp h).imp_right (List.mem_cons_of_mem first)
        · rcases List.mem_cons.mp h with rfl | h
          · exact Or.inr List.mem_cons_self
          · exact (ih h).imp_right (List.mem_cons_of_mem first)

/-- An entry behind all others. -/
theorem insertEntry_last {key : κ} (value : υ) {entries : List (κ × υ)}
    (h : ∀ entry ∈ entries, entry.1 < key) :
    insertEntry key value entries = entries ++ [(key, value)] := by
  induction entries with
  | nil => rfl
  | cons first entries ih =>
      have hfirst := h first List.mem_cons_self
      rw [insertEntry, if_neg (lt_asymm hfirst), if_neg (ne_of_gt hfirst), ih fun entry hmem =>
        h entry (List.mem_cons_of_mem first hmem)]
      rfl

theorem self_mem_insertEntry (key : κ) (value : υ) (entries : List (κ × υ)) :
    (key, value) ∈ insertEntry key value entries := by
  induction entries with
  | nil => exact List.mem_singleton_self _
  | cons first entries ih =>
      unfold insertEntry
      split
      · exact List.mem_cons_self
      · split
        · exact List.mem_cons_self
        · exact List.mem_cons_of_mem first ih

theorem mem_insertEntry_of_ne {key : κ} (value : υ) {entries : List (κ × υ)} {entry : κ × υ}
    (h : entry ∈ entries)
    (hne : key ≠ entry.1) : entry ∈ insertEntry key value entries := by
  induction entries with
  | nil => cases h
  | cons first entries ih =>
      unfold insertEntry
      split
      · exact List.mem_cons_of_mem _ h
      · split
        · rename_i hkey
          rcases List.mem_cons.mp h with rfl | h
          · exact absurd hkey hne
          · exact List.mem_cons_of_mem _ h
        · rcases List.mem_cons.mp h with rfl | h
          · exact List.mem_cons_self
          · exact List.mem_cons_of_mem first (ih h)

theorem insertEntry_sorted (key : κ) (value : υ) {entries : List (κ × υ)}
    (sorted : entries.Pairwise fun a b => a.1 < b.1) :
    (insertEntry key value entries).Pairwise fun a b => a.1 < b.1 := by
  induction entries with
  | nil => exact List.pairwise_singleton _ _
  | cons first entries ih =>
      obtain ⟨hfirst, hrest⟩ := List.pairwise_cons.mp sorted
      unfold insertEntry
      split
      · rename_i hlt
        apply List.pairwise_cons.mpr
        refine ⟨?_, sorted⟩
        intro entry hmem
        rcases List.mem_cons.mp hmem with rfl | hmem
        · exact hlt
        · exact lt_trans hlt (hfirst entry hmem)
      · rename_i hge
        split
        · rename_i heq
          apply List.pairwise_cons.mpr
          refine ⟨?_, hrest⟩
          intro entry hmem
          rw [heq]
          exact hfirst entry hmem
        · rename_i hne
          apply List.pairwise_cons.mpr
          refine ⟨?_, ih hrest⟩
          intro entry hmem
          rcases mem_insertEntry hmem with rfl | hmem
          · exact lt_of_le_of_ne (not_lt.mp hge) (Ne.symm hne)
          · exact hfirst entry hmem

namespace SortedMap

def empty : SortedMap κ υ := ⟨[], List.Pairwise.nil⟩

def contains (map : SortedMap κ υ) (key : κ) : Bool :=
  map.entries.any fun entry => decide (entry.1 = key)

def insert (map : SortedMap κ υ) (key : κ) (value : υ) : SortedMap κ υ :=
  ⟨insertEntry key value map.entries, insertEntry_sorted key value map.sorted⟩

/-- The value of a key. -/
def lookup (map : SortedMap κ υ) (key : κ) : Option υ :=
  (map.entries.find? fun entry => decide (entry.1 = key)).map Prod.snd

theorem contains_eq_true_iff {map : SortedMap κ υ} {key : κ} : map.contains key = true ↔ ∃ value,
      (key, value) ∈ map.entries := by
  unfold contains
  rw [List.any_eq_true]
  constructor
  · rintro ⟨⟨_, value⟩, hmem, hkey⟩
    obtain rfl := of_decide_eq_true hkey
    exact ⟨value, hmem⟩
  · rintro ⟨value, hmem⟩
    exact ⟨(key, value), hmem, decide_eq_true rfl⟩

/-- A key has one value. -/
theorem eq_of_mem (map : SortedMap κ υ) {key : κ} {value value' : υ}
    (h : (key, value) ∈ map.entries)
    (h' : (key, value') ∈ map.entries) : value = value' := by
  obtain ⟨i, hi, hvalue⟩ := List.mem_iff_getElem.mp h
  obtain ⟨j, hj, hvalue'⟩ := List.mem_iff_getElem.mp h'
  have hsorted := List.pairwise_iff_getElem.mp map.sorted
  rcases Nat.lt_trichotomy i j with hlt | rfl | hgt
  · have hkeys := hsorted i j hi hj hlt
    rw [hvalue, hvalue'] at hkeys
    exact absurd hkeys (lt_irrefl key)
  · exact (Prod.mk.inj (hvalue.symm.trans hvalue')).2
  · have hkeys := hsorted j i hj hi hgt
    rw [hvalue, hvalue'] at hkeys
    exact absurd hkeys (lt_irrefl key)

theorem lookup_eq_some_iff {map : SortedMap κ υ} {key : κ} {value : υ} :
    map.lookup key = some value ↔ (key, value) ∈ map.entries := by
  unfold lookup
  rw [Option.map_eq_some_iff]
  constructor
  · rintro ⟨⟨other, _⟩, hfound, rfl⟩
    have hkey := List.find?_some hfound
    cases of_decide_eq_true hkey
    exact List.mem_of_find?_eq_some hfound
  · intro hmem
    cases hfound : map.entries.find? fun entry => decide (entry.1 = key) with
    | none => exact absurd (decide_eq_true rfl) (List.find?_eq_none.mp hfound (key, value) hmem)
    | some entry =>
        obtain ⟨other, value'⟩ := entry
        have hkey := List.find?_some hfound
        cases of_decide_eq_true hkey
        exact ⟨_, rfl, map.eq_of_mem (List.mem_of_find?_eq_some hfound) hmem⟩

theorem lookup_eq_none_iff {map : SortedMap κ υ} {key : κ} :
    map.lookup key = none ↔ map.contains key = false := by
  unfold lookup contains
  rw [Option.map_eq_none_iff, List.find?_eq_none, List.any_eq_false]

@[simp] theorem lookup_empty (key : κ) : (empty : SortedMap κ υ).lookup key = none := rfl

theorem lookup_insert (map : SortedMap κ υ) (key other : κ) (value : υ) :
    (map.insert key value).lookup other = if key = other then some value else map.lookup other := by
  split
  · rename_i hkey
    subst hkey
    exact lookup_eq_some_iff.mpr (self_mem_insertEntry key value map.entries)
  · rename_i hne
    apply Option.ext
    intro found
    rw [lookup_eq_some_iff, lookup_eq_some_iff]
    constructor
    · intro hmem
      rcases mem_insertEntry hmem with heq | hmem
      · cases heq
        exact absurd rfl hne
      · exact hmem
    · intro hmem
      exact mem_insertEntry_of_ne value hmem hne

@[ext] theorem ext {a b : SortedMap κ υ} (h : a.entries = b.entries) : a = b := by
  cases a
  cases b
  cases h
  rfl

end SortedMap
end Foundation
