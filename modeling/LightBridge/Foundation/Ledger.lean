import Mathlib.Data.List.AList
import Mathlib.Data.List.Perm.Subperm
import Mathlib.Algebra.BigOperators.Group.List.Basic
import Mathlib.Algebra.Ring.Nat

/-! Finite tables whose values carry a weight, and the total weight of a table. -/
namespace Foundation

/-- A finite map; the order of its entries is its iteration order. -/
abbrev Table (K V : Type) : Type := AList (fun _ : K => V)

namespace Table
variable {K V : Type}

/-- Total weight of the values. -/
def total (w : V → Nat) (t : Table K V) : Nat := (t.entries.map fun entry => w entry.2).sum

theorem total_empty (w : V → Nat) : total w (∅ : Table K V) = 0 := rfl

/-- Two weights together. -/
theorem total_add (w w' : V → Nat) (t : Table K V) :
    total (fun v => w v + w' v) t = total w t + total w' t := by
  simp only [total]
  induction t.entries with
  | nil => rfl
  | cons entry entries ih =>
      simp only [List.map_cons, List.sum_cons, ih]
      omega

/-- A table of values of one weight. -/
theorem total_of_forall {w : V → Nat} {t : Table K V} {c : Nat}
    (h : ∀ entry ∈ t.entries, w entry.2 = c) :
    total w t = t.entries.length * c := by
  have hmap : (t.entries.map fun entry => w entry.2) = List.replicate t.entries.length c := by
    rw [List.eq_replicate_iff]
    exact ⟨List.length_map _, fun n hn => by
      obtain ⟨entry, hentry, rfl⟩ := List.mem_map.mp hn
      exact h entry hentry⟩
  rw [total, hmap, List.sum_replicate_nat]

theorem total_perm (w : V → Nat) {s t : Table K V} (h : s.entries.Perm t.entries) :
    total w s = total w t := (h.map _).sum_nat

variable [DecidableEq K]

/-- A removed entry and the rest. -/
theorem perm_erase {t : Table K V} {k : K} {v : V} (h : t.lookup k = some v) :
    t.entries.Perm (⟨k, v⟩ :: (t.erase k).entries) := by
  have hk : k ∈ t.entries.keys := by
    rw [← AList.keys, ← AList.mem_keys, ← AList.lookup_isSome, h]
    rfl
  obtain ⟨v', l₁, l₂, hnot, hentries, herase⟩ := List.exists_of_kerase hk
  have hv : v' = v := by
    have hlook : t.entries.dlookup k = some v := h
    rw [hentries, List.dlookup_append, List.dlookup_eq_none.mpr hnot, Option.none_or,
      List.dlookup_cons_eq] at hlook
    exact Option.some.inj hlook
  subst hv
  change t.entries.Perm (_ :: t.entries.kerase k)
  rw [herase, hentries]
  exact List.perm_middle

/-- A removed value takes its weight with it. -/
theorem total_erase (w : V → Nat) {t : Table K V} {k : K} {v : V} (h : t.lookup k = some v) :
    w v + total w (t.erase k) = total w t := by
  have hperm := ((perm_erase h).map fun entry => w entry.2).sum_nat
  rw [List.map_cons, List.sum_cons] at hperm
  exact hperm.symm

theorem total_insert (w : V → Nat) (t : Table K V) (k : K) (v : V) :
    total w (t.insert k v) = w v + total w (t.erase k) := by
  simp only [total, AList.entries_insert, List.map_cons, List.sum_cons]
  rfl

theorem total_insert_of_none (w : V → Nat) {t : Table K V} {k : K} (h : t.lookup k = none) (v : V) :
    total w (t.insert k v) = w v + total w t := by
  have hk : k ∉ t.entries.keys := by
    rw [← AList.keys, ← AList.mem_keys, ← AList.lookup_eq_none]
    exact h
  have herase : (t.erase k).entries = t.entries.kerase k := rfl
  rw [total_insert]
  simp only [total, herase, List.kerase_of_notMem_keys hk]

theorem le_total (w : V → Nat) {t : Table K V} {k : K} {v : V} (h : t.lookup k = some v) :
    w v ≤ total w t := by
  have := total_erase w h
  omega

theorem total_replace (w : V → Nat) {t : Table K V} {k : K} {v : V}
    (h : t.lookup k = some v) (v' : V) :
    total w (t.insert k v') + w v = w v' + total w t := by
  have := total_erase w h
  have := total_insert w t k v'
  omega

theorem lookup_insert_eq (t : Table K V) (k k' : K) (v : V) :
    (t.insert k v).lookup k' = if k' = k then some v else t.lookup k' := by
  by_cases h : k' = k
  · subst h; rw [if_pos rfl, AList.lookup_insert]
  · rw [if_neg h, AList.lookup_insert_ne h]

theorem lookup_erase_eq (t : Table K V) (k k' : K) :
    (t.erase k).lookup k' = if k' = k then none else t.lookup k' := by
  by_cases h : k' = k
  · subst h; rw [if_pos rfl, AList.lookup_erase]
  · rw [if_neg h, AList.lookup_erase_ne h]

theorem mem_entries_iff {t : Table K V} {k : K} {v : V} :
    (⟨k, v⟩ : Sigma fun _ : K => V) ∈ t.entries ↔ t.lookup k = some v :=
  (AList.mem_lookup_iff (s := t)).symm

theorem length_erase_lt {t : Table K V} {k : K} {v : V} (h : t.lookup k = some v) :
    (t.erase k).entries.length < t.entries.length := by
  have hw := total_erase (fun _ : V => 1) h
  simp only [total, List.map_const', List.sum_replicate_nat, Nat.mul_one] at hw
  omega

/-- Values of at least one weight at distinct keys. -/
theorem le_total_of_nodup {w : V → Nat} {c : Nat} {keys : List K} (nodup : keys.Nodup)
    {t : Table K V}
    (h : ∀ k ∈ keys, ∃ v, t.lookup k = some v ∧ c ≤ w v) : keys.length * c ≤ total w t := by
  induction keys generalizing t with
  | nil => simp
  | cons k keys ih =>
      obtain ⟨hnot, hnodup⟩ := List.nodup_cons.mp nodup
      obtain ⟨v, hv, hc⟩ := h k List.mem_cons_self
      have hrest : keys.length * c ≤ total w (t.erase k) := by
        refine ih hnodup fun k' hk' => ?_
        rw [lookup_erase_eq, if_neg (by rintro rfl; exact hnot hk')]
        exact h k' (List.mem_cons_of_mem k hk')
      have hsplit := total_erase w hv
      rw [List.length_cons, Nat.succ_mul]
      omega

omit [DecidableEq K] in
/-- A table is no longer than a list its keys come from. -/
theorem length_entries_le {t : Table K V} {keys : List K}
    (h : ∀ entry ∈ t.entries, entry.1 ∈ keys) :
    t.entries.length ≤ keys.length := by
  have hsub : t.entries.keys ⊆ keys := by
    intro k hk
    obtain ⟨entry, hentry, rfl⟩ := List.mem_map.mp hk
    exact h entry hentry
  have hle := (List.Nodup.subperm t.nodupKeys hsub).length_le
  rwa [List.keys, List.length_map] at hle

end Table
end Foundation
