import Mathlib.Data.List.Perm.Subperm

/-! The first of a list in an order of their own: a sort that is cut, and why no other choice comes
first. -/
namespace Foundation
variable {α : Type}

/-- A sort by an order that is total and transitive on the elements of the list. -/
theorem pairwise_mergeSort_of_mem {le : α → α → Bool} {all : List α}
    (trans : ∀ a ∈ all, ∀ b ∈ all, ∀ c ∈ all, le a b = true → le b c = true → le a c = true)
    (total : ∀ a ∈ all, ∀ b ∈ all, (le a b || le b a) = true) :
    (all.mergeSort le).Pairwise fun a b => le a b = true := by
  have hmap : (all.attach.mergeSort fun a b => le a.val b.val).map Subtype.val =
      all.mergeSort le := by
    rw [List.map_mergeSort (s := le) (fun _ _ _ _ => rfl), List.attach_map_subtype_val]
  rw [← hmap, List.pairwise_map]
  refine List.pairwise_mergeSort (α := { a // a ∈ all }) ?_ ?_ _
  · exact fun a b c => trans a a.property b b.property c c.property
  · exact fun a b => total a a.property b b.property

/-- Where those that pass the test come first, the front that passes is all that passes. -/
theorem takeWhile_eq_filter {test : α → Bool} {all : List α}
    (h : all.Pairwise fun a b => test b = true → test a = true) :
    all.takeWhile test = all.filter test := by
  induction all with
  | nil => rfl
  | cons a all ih =>
      obtain ⟨hfirst, hrest⟩ := List.pairwise_cons.mp h
      by_cases ha : test a = true
      · rw [List.takeWhile_cons_of_pos ha, List.filter_cons_of_pos ha, ih hrest]
      · rw [List.takeWhile_cons_of_neg ha, List.filter_cons_of_neg ha]
        exact (List.filter_eq_nil_iff.mpr fun b hb hpass => ha (hfirst b hb hpass)).symm

/-- So many elements, in their order, each before all that are left out. -/
structure FirstOf (before : α → α → Prop) (count : Nat) (all chosen : List α) : Prop where
  count : chosen.length = count
  ordered : chosen.Pairwise before
  mem : ∀ a ∈ chosen, a ∈ all
  first : ∀ a ∈ chosen, ∀ b ∈ all, b ∉ chosen → before a b

namespace FirstOf
variable {before : α → α → Prop} {count : Nat} {all chosen other : List α}

theorem nodup (h : FirstOf before count all chosen) (irrefl : ∀ a ∈ all, ¬ before a a) :
    chosen.Nodup := by
  refine h.ordered.imp_of_mem ?_
  rintro a b ha _ hbefore rfl
  exact irrefl a (h.mem a ha) hbefore

/-- What one choice has, every other choice of as many has. -/
theorem subset (h : FirstOf before count all chosen) (hother : FirstOf before count all other)
    (asymm : ∀ a ∈ all, ∀ b ∈ all, before a b → ¬ before b a) : chosen ⊆ other := by
  classical
  intro a ha
  by_contra hout
  have hirrefl : ∀ a ∈ all, ¬ before a a := fun a ha hself => asymm a ha a ha hself hself
  -- The other choice is as long, so it has an element that this one lacks, and the two come before
  -- each other.
  have hmissing : ∃ b ∈ other, b ∉ chosen := by
    by_contra hnone
    push Not at hnone
    have hperm := ((hother.nodup hirrefl).subperm hnone).perm_of_length_le
        (Nat.le_of_eq (h.count.trans hother.count.symm))
    exact hout (hperm.mem_iff.mpr ha)
  obtain ⟨b, hb, hbout⟩ := hmissing
  exact asymm a (h.mem a ha) b (hother.mem b hb) (h.first a ha b (hother.mem b hb) hbout)
    (hother.first b hb a (h.mem a ha) hout)

/-- There is one choice. -/
theorem unique (h : FirstOf before count all chosen) (hother : FirstOf before count all other)
    (asymm : ∀ a ∈ all, ∀ b ∈ all, before a b → ¬ before b a) : other = chosen := by
  have hirrefl : ∀ a ∈ all, ¬ before a a := fun a ha hself => asymm a ha a ha hself hself
  have hperm : other.Perm chosen :=
    (List.perm_ext_iff_of_nodup (hother.nodup hirrefl) (h.nodup hirrefl)).mpr fun a =>
    ⟨fun ha => hother.subset h asymm ha, fun ha => h.subset hother asymm ha⟩
  refine hperm.eq_of_pairwise ?_ hother.ordered h.ordered
  intro a b ha hb hab hba
  exact absurd hba (asymm a (hother.mem a ha) b (h.mem b hb) hab)

end FirstOf

/-- The front of a sorted list is the choice. -/
theorem firstOf_mergeSort {le : α → α → Bool} {all : List α} {count : Nat}
    (trans : ∀ a ∈ all, ∀ b ∈ all, ∀ c ∈ all, le a b = true → le b c = true → le a c = true)
    (total : ∀ a ∈ all, ∀ b ∈ all, (le a b || le b a) = true) (distinct : all.Nodup)
    (enough : count ≤ all.length) :
    FirstOf (fun a b => le a b = true ∧ a ≠ b) count all ((all.mergeSort le).take count) := by
  have hperm := List.mergeSort_perm all le
  have hsorted : (all.mergeSort le).Pairwise fun a b => le a b = true ∧ a ≠ b :=
    (pairwise_mergeSort_of_mem trans total).and (hperm.nodup_iff.mpr distinct)
  refine ⟨?_, hsorted.sublist (List.take_sublist _ _), ?_, ?_⟩
  · rw [List.length_take, List.length_mergeSort, Nat.min_eq_left enough]
  · exact fun a ha => hperm.mem_iff.mp (List.mem_of_mem_take ha)
  · intro a ha b hb hout
    rw [← List.take_append_drop count (all.mergeSort le), List.pairwise_append] at hsorted
    refine hsorted.2.2 a ha b ?_
    have hmem := hperm.mem_iff.mpr hb
    rw [← List.take_append_drop count (all.mergeSort le)] at hmem
    exact (List.mem_append.mp hmem).resolve_left hout

/-! ### Scores with ties -/

/-- A strict weak order of scores on the elements of a list. -/
structure StrictWeakOn (all : List α) (higher : α → α → Bool) : Prop where
  asymm : ∀ a ∈ all, ∀ b ∈ all, higher a b = true → higher b a = false
  negative : ∀ a ∈ all, ∀ b ∈ all, ∀ c ∈ all, higher a c = true → higher a b = true ∨
    higher b c = true

/-- The higher score first, and of equal ones the smaller number. -/
def rankLe (higher : Nat → Nat → Bool) (a b : Nat) : Bool :=
  if higher a b then true else if higher b a then false else decide (a ≤ b)

/-- The score is higher, or no lower at a smaller number. -/
def Ranked (higher : Nat → Nat → Bool) (a b : Nat) : Prop :=
  higher a b = true ∨ higher b a = false ∧ a < b

section Ranking
variable {higher : Nat → Nat → Bool} {all : List Nat}

theorem rankLe_iff (h : StrictWeakOn all higher) {a b : Nat} (ha : a ∈ all) (hb : b ∈ all) :
    rankLe higher a b = true ↔ higher a b = true ∨ higher b a = false ∧ a ≤ b := by
  have hasymm := h.asymm a ha b hb
  unfold rankLe
  cases hab : higher a b <;> cases hba : higher b a <;> simp_all

theorem rankLe_total (h : StrictWeakOn all higher) {a b : Nat} (ha : a ∈ all) (hb : b ∈ all) :
    (rankLe higher a b || rankLe higher b a) = true := by
  rw [Bool.or_eq_true, rankLe_iff h ha hb, rankLe_iff h hb ha]
  cases hab : higher a b with
  | true => exact .inl (.inl rfl)
  | false =>
      cases hba : higher b a with
      | true => exact .inr (.inl rfl)
      | false =>
          exact (Nat.le_total a b).imp (fun hle => .inr ⟨rfl, hle⟩) (fun hle => .inr ⟨rfl, hle⟩)

theorem rankLe_trans (h : StrictWeakOn all higher) {a b c : Nat} (ha : a ∈ all) (hb : b ∈ all)
    (hc : c ∈ all)
    (hab : rankLe higher a b = true) (hbc : rankLe higher b c = true) :
    rankLe higher a c = true := by
  rw [rankLe_iff h ha hb] at hab
  rw [rankLe_iff h hb hc] at hbc
  rw [rankLe_iff h ha hc]
  -- No one between the two scores: `c` above `a` would be above `b`, or leave `b` above `a`.
  have hca : higher c a = true → higher c b = true ∨ higher b a = true := h.negative c hc b hb a ha
  have hac := h.asymm a ha c hc
  rcases hab with hab | ⟨hba, hle⟩
  · left
    rcases h.negative a ha c hc b hb hab with hac | hcb
    · exact hac
    · rcases hbc with hbc | ⟨hbc, -⟩
      · rw [h.asymm b hb c hc hbc] at hcb
        cases hcb
      · rw [hbc] at hcb
        cases hcb
  · rcases hbc with hbc | ⟨hcb, hle'⟩
    · left
      rcases h.negative b hb a ha c hc hbc with hba' | hac
      · rw [hba] at hba'
        cases hba'
      · exact hac
    · right
      refine ⟨?_, Nat.le_trans hle hle'⟩
      cases hca' : higher c a with
      | false => rfl
      | true => rcases hca hca' with hcb' | hba' <;> simp_all

theorem Ranked.asymm (h : StrictWeakOn all higher) {a b : Nat} (ha : a ∈ all) (hb : b ∈ all)
    (hab : Ranked higher a b) :
    ¬ Ranked higher b a := by
  have hasymm := h.asymm a ha b hb
  rintro (hba | ⟨hno, hlt⟩)
  · rcases hab with hab | ⟨hno, -⟩
    · rw [hasymm hab] at hba
      cases hba
    · rw [hno] at hba
      cases hba
  · rcases hab with hab | ⟨-, hlt'⟩
    · rw [hno] at hab
      cases hab
    · omega

/-- The front of a ranking is the choice by score and number. -/
theorem firstOf_ranked {count : Nat} (h : StrictWeakOn all higher) (distinct : all.Nodup)
    (enough : count ≤ all.length) :
    FirstOf (Ranked higher) count all ((all.mergeSort (rankLe higher)).take count) := by
  have hfirst : FirstOf (fun a b => rankLe higher a b = true ∧ a ≠ b) count all
      ((all.mergeSort (rankLe higher)).take count) :=
    firstOf_mergeSort (fun a ha b hb c hc => rankLe_trans h ha hb hc)
      (fun a ha b hb => rankLe_total h ha hb) distinct enough
  have hranked : ∀ a ∈ all, ∀ b ∈ all, rankLe higher a b = true ∧ a ≠ b → Ranked higher a b := by
    rintro a ha b hb ⟨hle, hne⟩
    rcases (rankLe_iff h ha hb).mp hle with hab | ⟨hba, hab⟩
    · exact .inl hab
    · exact .inr ⟨hba, by omega⟩
  refine ⟨hfirst.count, ?_, hfirst.mem, ?_⟩
  · exact hfirst.ordered.imp_of_mem fun ha hb => hranked _ (hfirst.mem _ ha) _ (hfirst.mem _ hb)
  · exact fun a ha b hb hout => hranked a (hfirst.mem a ha) b hb (hfirst.first a ha b hb hout)

end Ranking

end Foundation
