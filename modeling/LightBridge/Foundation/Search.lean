import Mathlib.Data.List.Infix
import Mathlib.Data.List.TakeDrop
import Mathlib.Data.Nat.Find

/-! Searching a list for the first place where one of several patterns begins, at once or
piece by piece. -/
namespace Foundation
variable {α : Type} [DecidableEq α]

/-- `find`: the first place where the pattern begins. -/
def find (pattern : List α) : List α → Option Nat
  | [] => if pattern = [] then some 0 else none
  | x :: text => if pattern.isPrefixOf (x :: text) then some 0 else (find pattern text).map (· + 1)

/-- `split_once`. -/
def splitOnce (pattern text : List α) : Option (List α × List α) :=
  (find pattern text).map fun start => (text.take start, text.drop (start + pattern.length))

/-- `strip_prefix`. -/
def stripPrefix (front text : List α) : Option (List α) :=
  if front.isPrefixOf text then some (text.drop front.length) else none

/-- `strip_suffix`. -/
def stripSuffix (tail text : List α) : Option (List α) :=
  (stripPrefix tail.reverse text.reverse).map List.reverse

/-- `rsplit_once`: the text before the last place where a pattern ends, and the text behind it. -/
def rsplitOnce (pattern text : List α) : Option (List α × List α) :=
  (splitOnce pattern.reverse text.reverse).map fun (after, before) =>
    (before.reverse, after.reverse)

/-- The first place where any of the patterns begins. -/
def findAny (patterns : List (List α)) (text : List α) : Option Nat :=
  (patterns.filterMap fun pattern => find pattern text).min?

/-- The text before the first place where a pattern begins. -/
def cutAt (patterns : List (List α)) (text : List α) : List α :=
  text.take ((findAny patterns text).getD text.length)

/-- A pattern begins here. -/
def BeginsAt (patterns : List (List α)) (text : List α) (start : Nat) : Prop :=
  ∃ pattern ∈ patterns, pattern <+: text.drop start

theorem find_eq_some_iff {pattern text : List α} {start : Nat} :
    find pattern text = some start ↔ start ≤ text.length ∧ pattern <+: text.drop start ∧
      ∀ earlier, earlier < start → ¬ pattern <+: text.drop earlier := by
  induction text generalizing start with
  | nil =>
      unfold find
      split
      · rename_i hempty
        subst hempty
        constructor
        · intro h
          cases h
          exact ⟨Nat.le_refl _, List.nil_prefix, fun _ h => absurd h (Nat.not_lt_zero _)⟩
        · rintro ⟨hle, -, -⟩
          rw [Nat.le_zero.mp hle]
      · rename_i hne
        constructor
        · intro h
          cases h
        · rintro ⟨-, hpre, -⟩
          rw [List.drop_nil, List.prefix_nil] at hpre
          exact absurd hpre hne
  | cons x text ih =>
      unfold find
      split
      · rename_i hpre
        have hpre : pattern <+: x :: text := List.isPrefixOf_iff_prefix.mp hpre
        constructor
        · intro h
          cases h
          exact ⟨Nat.zero_le _, hpre, fun _ h => absurd h (Nat.not_lt_zero _)⟩
        · rintro ⟨-, -, hfirst⟩
          cases start with
          | zero => rfl
          | succ start => exact absurd hpre (hfirst 0 (Nat.succ_pos start))
      · rename_i hnot
        have hnot : ¬ pattern <+: x :: text := fun h => hnot (List.isPrefixOf_iff_prefix.mpr h)
        rw [Option.map_eq_some_iff]
        constructor
        · rintro ⟨inner, hinner, rfl⟩
          obtain ⟨hle, hpre, hfirst⟩ := ih.mp hinner
          refine ⟨Nat.succ_le_succ hle, hpre, ?_⟩
          intro earlier hearlier
          cases earlier with
          | zero => exact hnot
          | succ earlier => exact hfirst earlier (Nat.lt_of_succ_lt_succ hearlier)
        · rintro ⟨hle, hpre, hfirst⟩
          cases start with
          | zero => exact absurd hpre hnot
          | succ start =>
              refine ⟨start, ih.mpr ⟨Nat.le_of_succ_le_succ hle, hpre, ?_⟩, rfl⟩
              intro earlier hearlier
              exact hfirst (earlier + 1) (Nat.succ_lt_succ hearlier)

theorem find_eq_none_iff {pattern text : List α} :
    find pattern text = none ↔ ∀ start, start ≤ text.length → ¬ pattern <+: text.drop start := by
  constructor
  · intro hnone start hle hpre
    -- the first of the places up to `start` would have been found
    have hex : ∃ place, place ≤ text.length ∧ pattern <+: text.drop place := ⟨start, hle, hpre⟩
    have hfound : find pattern text = some (Nat.find hex) := by
      apply find_eq_some_iff.mpr
      obtain ⟨hplace, hbegins⟩ := Nat.find_spec hex
      refine ⟨hplace, hbegins, ?_⟩
      intro earlier hearlier hpre'
      exact Nat.find_min hex hearlier ⟨hearlier.le.trans hplace, hpre'⟩
    rw [hnone] at hfound
    cases hfound
  · intro h
    cases hfind : find pattern text with
    | none => rfl
    | some start =>
        obtain ⟨hle, hpre, -⟩ := find_eq_some_iff.mp hfind
        exact absurd hpre (h start hle)

theorem stripPrefix_eq_some_iff {front text rest : List α} : stripPrefix front text = some rest ↔
      text = front ++ rest := by
  unfold stripPrefix
  split
  · rename_i hpre
    obtain ⟨tail, rfl⟩ := List.isPrefixOf_iff_prefix.mp hpre
    rw [List.drop_left, Option.some_inj, List.append_cancel_left_eq]
  · rename_i hnot
    constructor
    · intro h
      cases h
    · rintro rfl
      exact absurd (List.isPrefixOf_iff_prefix.mpr (List.prefix_append front rest)) hnot

theorem splitOnce_eq_some {pattern text before after : List α}
    (h : splitOnce pattern text = some (before, after)) :
    text = before ++ pattern ++ after ∧ find pattern text = some before.length := by
  unfold splitOnce at h
  obtain ⟨start, hfind, hparts⟩ := Option.map_eq_some_iff.mp h
  obtain ⟨rfl, rfl⟩ := Prod.mk.inj hparts
  obtain ⟨hle, hpre, -⟩ := find_eq_some_iff.mp hfind
  obtain ⟨rest, hrest⟩ := hpre
  constructor
  · rw [← List.drop_drop, ← hrest, List.drop_left, List.append_assoc, hrest, List.take_append_drop]
  · rw [List.length_take, Nat.min_eq_left hle]
    exact hfind

/-- A pattern is found behind a text without its first letter. -/
theorem splitOnce_append_of_not_mem {letter : α} {tail front rest : List α} (h : letter ∉ front) :
    splitOnce (letter :: tail) (front ++ letter :: tail ++ rest) = some (front, rest) := by
  have hfind : find (letter :: tail) (front ++ letter :: tail ++ rest) = some front.length := by
    apply find_eq_some_iff.mpr
    refine ⟨by simp, ?_, ?_⟩
    · rw [List.append_assoc, List.drop_left]
      exact List.prefix_append _ _
    · intro earlier hearlier hpre
      rw [List.append_assoc, List.drop_append_of_le_length hearlier.le,
        List.drop_eq_getElem_cons hearlier] at hpre
      exact h ((List.cons_prefix_cons.mp hpre).1 ▸ List.getElem_mem hearlier)
  rw [splitOnce, hfind, Option.map_some, ← List.drop_drop, List.append_assoc, List.take_left,
    List.drop_left, List.drop_left]

theorem stripSuffix_eq_some_iff {tail text rest : List α} : stripSuffix tail text = some rest ↔
      text = rest ++ tail := by
  unfold stripSuffix
  rw [Option.map_eq_some_iff]
  constructor
  · rintro ⟨reversed, hstrip, rfl⟩
    rw [← List.reverse_reverse text, stripPrefix_eq_some_iff.mp hstrip, List.reverse_append,
      List.reverse_reverse]
  · rintro rfl
    exact ⟨rest.reverse, stripPrefix_eq_some_iff.mpr List.reverse_append, List.reverse_reverse rest⟩

theorem rsplitOnce_eq_some {pattern text before after : List α}
    (h : rsplitOnce pattern text = some (before, after)) :
    text = before ++ pattern ++ after := by
  obtain ⟨⟨last, first⟩, hsplit, hparts⟩ := Option.map_eq_some_iff.mp h
  obtain ⟨rfl, rfl⟩ := Prod.mk.inj hparts
  rw [← List.reverse_reverse text, (splitOnce_eq_some hsplit).1, List.reverse_append,
    List.reverse_append, List.reverse_reverse, List.append_assoc]

/-- A pattern is found in front of a text without its last letter. -/
theorem rsplitOnce_append_of_not_mem (letter : α) (front : List α) {before after : List α}
    (h : letter ∉ after) :
    rsplitOnce (front ++ [letter]) (before ++ (front ++ [letter]) ++ after) =
      some (before, after) := by
  have hreverse : (before ++ (front ++ [letter]) ++ after).reverse =
      after.reverse ++ letter :: front.reverse ++ before.reverse := by simp
  have hsplit : splitOnce (letter :: front.reverse)
      (after.reverse ++ letter :: front.reverse ++ before.reverse) =
      some (after.reverse, before.reverse) :=
        splitOnce_append_of_not_mem (fun hmem => h (List.mem_reverse.mp hmem))
  rw [rsplitOnce, hreverse, List.reverse_append, List.reverse_singleton, List.singleton_append,
    hsplit, Option.map_some]
  dsimp only
  rw [List.reverse_reverse, List.reverse_reverse]

theorem findAny_eq_none_iff {patterns : List (List α)} {text : List α} :
    findAny patterns text = none ↔ ∀ start, start ≤ text.length →
      ¬ BeginsAt patterns text start := by
  rw [findAny, List.min?_eq_none_iff, List.filterMap_eq_nil_iff]
  constructor
  · rintro h start hle ⟨pattern, hmem, hpre⟩
    exact find_eq_none_iff.mp (h pattern hmem) start hle hpre
  · intro h pattern hmem
    apply find_eq_none_iff.mpr
    intro start hle hpre
    exact h start hle ⟨pattern, hmem, hpre⟩

theorem findAny_eq_some_iff {patterns : List (List α)} {text : List α} {start : Nat} :
    findAny patterns text = some start ↔ start ≤ text.length ∧ BeginsAt patterns text start ∧
      ∀ earlier, earlier < start → ¬ BeginsAt patterns text earlier := by
  rw [findAny, List.min?_eq_some_iff]
  constructor
  · rintro ⟨hmem, hmin⟩
    obtain ⟨pattern, hpattern, hfind⟩ := List.mem_filterMap.mp hmem
    obtain ⟨hle, hpre, -⟩ := find_eq_some_iff.mp hfind
    refine ⟨hle, ⟨pattern, hpattern, hpre⟩, ?_⟩
    rintro earlier hearlier ⟨other, hother, hbegins⟩
    cases hfound : find other text with
    | none => exact find_eq_none_iff.mp hfound earlier (by omega) hbegins
    | some place =>
        have hplace := hmin place (List.mem_filterMap.mpr ⟨other, hother, hfound⟩)
        exact (find_eq_some_iff.mp hfound).2.2 earlier (by omega) hbegins
  · rintro ⟨hle, ⟨pattern, hpattern, hpre⟩, hfirst⟩
    constructor
    · apply List.mem_filterMap.mpr
      refine ⟨pattern, hpattern, find_eq_some_iff.mpr ⟨hle, hpre, ?_⟩⟩
      intro earlier hearlier hbegins
      exact hfirst earlier hearlier ⟨pattern, hpattern, hbegins⟩
    · intro place hplace
      obtain ⟨other, hother, hfound⟩ := List.mem_filterMap.mp hplace
      have hbegins := (find_eq_some_iff.mp hfound).2.1
      by_contra hlt
      exact hfirst place (by omega) ⟨other, hother, hbegins⟩

/-- The search goes on behind a front where no pattern begins. -/
theorem findAny_append {patterns : List (List α)} {front rest : List α}
    (clear : ∀ start, start < front.length → ¬ BeginsAt patterns (front ++ rest) start) :
    findAny patterns (front ++ rest) = (findAny patterns rest).map (· + front.length) := by
  have hshift : ∀ start, BeginsAt patterns (front ++ rest) (start + front.length) ↔
      BeginsAt patterns rest start := by
    intro start
    unfold BeginsAt
    rw [Nat.add_comm, ← List.drop_drop, List.drop_left]
  cases hrest : findAny patterns rest with
  | none =>
      apply findAny_eq_none_iff.mpr
      intro start hle hbegins
      by_cases hfront : start < front.length
      · exact clear start hfront hbegins
      · obtain ⟨inner, rfl⟩ := Nat.exists_eq_add_of_le' (Nat.le_of_not_lt hfront)
        rw [List.length_append] at hle
        exact findAny_eq_none_iff.mp hrest inner (by omega) ((hshift inner).mp hbegins)
  | some inner =>
      obtain ⟨hle, hbegins, hfirst⟩ := findAny_eq_some_iff.mp hrest
      apply findAny_eq_some_iff.mpr
      change inner + front.length ≤ _ ∧ BeginsAt patterns _ (inner + front.length) ∧ _
      refine ⟨?_, (hshift inner).mpr hbegins, ?_⟩
      · rw [List.length_append]
        omega
      · intro earlier (hearlier : earlier < inner + front.length) hearly
        by_cases hfront : earlier < front.length
        · exact clear earlier hfront hearly
        · obtain ⟨place, rfl⟩ := Nat.exists_eq_add_of_le' (Nat.le_of_not_lt hfront)
          exact hfirst place (by omega) ((hshift place).mp hearly)

theorem cutAt_append {patterns : List (List α)} {front rest : List α}
    (clear : ∀ start, start < front.length → ¬ BeginsAt patterns (front ++ rest) start) :
    cutAt patterns (front ++ rest) = front ++ cutAt patterns rest := by
  unfold cutAt
  rw [findAny_append clear]
  cases findAny patterns rest with
  | none => simp
  | some start =>
      rw [Option.map_some, Option.getD_some, Option.getD_some, Nat.add_comm,
        List.take_length_add_append]

theorem cutAt_of_none {patterns : List (List α)} {text : List α}
    (h : findAny patterns text = none) :
    cutAt patterns text = text := by
  unfold cutAt
  rw [h, Option.getD_none, List.take_length]

theorem findAny_ne_none_iff {patterns : List (List α)} {text : List α} :
    findAny patterns text ≠ none ↔ ∃ pattern ∈ patterns, pattern <:+: text := by
  rw [← not_iff_not, not_not, findAny_eq_none_iff]
  constructor
  · rintro hnone ⟨pattern, hmem, front, back, rfl⟩
    refine hnone front.length (by simp) ⟨pattern, hmem, ?_⟩
    rw [List.append_assoc, List.drop_left]
    exact List.prefix_append _ _
  · rintro hinfix start - ⟨pattern, hmem, hpre⟩
    exact hinfix ⟨pattern, hmem, hpre.isInfix.trans (List.drop_suffix start text).isInfix⟩

/-- No pattern lies inside another, behind its beginning and before its end. -/
def Unnested (patterns : List (List α)) : Prop :=
  ∀ inner ∈ patterns, ∀ outer ∈ patterns, ∀ front back, outer = front ++ inner ++ back →
    front = [] ∨ back = []

omit [DecidableEq α] in
theorem Unnested.of_length_eq {patterns : List (List α)} {length : Nat}
    (h : ∀ pattern ∈ patterns, pattern.length = length) :
    Unnested patterns := by
  rintro inner hinner outer houter front back rfl
  have := (h _ houter).trans (h inner hinner).symm
  rw [List.length_append, List.length_append] at this
  exact Or.inl (List.length_eq_zero_iff.mp (by omega))

/-- What follows a text with a pattern does not change where the first one begins. -/
theorem Unnested.findAny_append {patterns : List (List α)} (unnested : Unnested patterns)
    {text : List α} {start : Nat}
    (h : findAny patterns text = some start) (more : List α) :
    findAny patterns (text ++ more) = some start := by
  obtain ⟨hle, ⟨inner, hinner, hpre⟩, hfirst⟩ := findAny_eq_some_iff.mp h
  apply findAny_eq_some_iff.mpr
  refine ⟨?_, ⟨inner, hinner, ?_⟩, ?_⟩
  · rw [List.length_append]
    omega
  · rw [List.drop_append_of_le_length hle]
    exact hpre.trans (List.prefix_append _ _)
  · rintro earlier hearlier ⟨outer, houter, hbegins⟩
    rw [List.drop_append_of_le_length (by omega)] at hbegins
    rcases List.prefix_or_prefix_of_prefix hbegins (List.prefix_append _ more) with hwhole | hpart
    · exact hfirst earlier hearlier ⟨outer, houter, hwhole⟩
    · -- the later pattern ends in the text, the earlier one behind it
      by_cases hends : outer <+: text.drop earlier
      · exact hfirst earlier hearlier ⟨outer, houter, hends⟩
      · obtain ⟨beyond, hbeyond⟩ := hpart
        obtain ⟨rest, hrest⟩ := hpre
        have hsplit : text.drop earlier = (text.drop earlier).take (start - earlier) ++
            (inner ++ rest) := by
          rw [hrest, ← Nat.add_sub_cancel' hearlier.le, ← List.drop_drop, Nat.add_sub_cancel_left,
            List.take_append_drop]
        rw [hsplit] at hbeyond
        have houter' : outer = (text.drop earlier).take (start - earlier) ++ inner ++
            (rest ++ beyond) := by
          rw [← hbeyond]
          simp only [List.append_assoc]
        rcases unnested inner hinner outer houter _ _ houter' with hfront | hback
        · have := congrArg List.length hfront
          rw [List.length_take, List.length_drop, List.length_nil] at this
          omega
        · obtain ⟨-, rfl⟩ := List.append_eq_nil_iff.mp hback
          rw [List.append_nil, ← hsplit] at hbeyond
          exact hends (hbeyond ▸ List.prefix_refl _)

theorem Unnested.cutAt_append {patterns : List (List α)} (unnested : Unnested patterns)
    {text : List α}
    (h : findAny patterns text ≠ none) (more : List α) :
    cutAt patterns (text ++ more) = cutAt patterns text := by
  obtain ⟨start, hstart⟩ := Option.ne_none_iff_exists'.mp h
  unfold cutAt
  rw [unnested.findAny_append hstart more, hstart, Option.getD_some]
  exact List.take_append_of_le_length (findAny_eq_some_iff.mp hstart).1

/-! ### Piece by piece -/

/-- The pieces a pattern can begin with. -/
def beginnings (pattern : List α) : List (List α) :=
  ((List.range' 1 (pattern.length - 1)).map fun length => pattern.take length) ++ [pattern]

/-- The length of the longest end of the text that a pattern begins with. -/
def held (patterns : List (List α)) (text : List α) : Nat :=
  (((patterns.flatMap beginnings).filter fun piece => piece.isSuffixOf text).map
    List.length).max?.getD 0

omit [DecidableEq α] in
theorem mem_beginnings {pattern piece : List α} (hne : piece ≠ []) (h : piece <+: pattern) :
    piece ∈ beginnings pattern := by
  unfold beginnings
  by_cases hfull : piece.length = pattern.length
  · rw [h.eq_of_length hfull]
    exact List.mem_append_right _ (List.mem_singleton.mpr rfl)
  · apply List.mem_append_left
    apply List.mem_map.mpr
    have hpos := List.length_pos_iff.mpr hne
    have hle := h.length_le
    refine ⟨piece.length, List.mem_range'_1.mpr ⟨hpos, by omega⟩,
      (List.prefix_iff_eq_take.mp h).symm⟩

theorem length_le_held {patterns : List (List α)} {text pattern piece : List α}
    (hmem : pattern ∈ patterns)
    (hne : piece ≠ []) (hbegin : piece <+: pattern) (hend : piece <:+ text) :
    piece.length ≤ held patterns text := by
  have hpiece : piece.length ∈ ((patterns.flatMap beginnings).filter fun piece =>
      piece.isSuffixOf text).map List.length := by
    apply List.mem_map_of_mem
    exact List.mem_filter.mpr ⟨List.mem_flatMap.mpr ⟨pattern, hmem, mem_beginnings hne hbegin⟩,
      List.isSuffixOf_iff_suffix.mpr hend⟩
  unfold held
  cases hmax : (((patterns.flatMap beginnings).filter fun piece => piece.isSuffixOf text).map
    List.length).max? with
  | none =>
      rw [List.max?_eq_none_iff.mp hmax] at hpiece
      cases hpiece
  | some longest => exact (List.max?_eq_some_iff.mp hmax).2 _ hpiece

theorem held_le (patterns : List (List α)) (text : List α) : held patterns text ≤ text.length := by
  unfold held
  cases hmax : (((patterns.flatMap beginnings).filter fun piece => piece.isSuffixOf text).map
    List.length).max? with
  | none => exact Nat.zero_le _
  | some longest =>
      obtain ⟨piece, hpiece, rfl⟩ := List.mem_map.mp (List.max?_eq_some_iff.mp hmax).1
      exact (List.isSuffixOf_iff_suffix.mp (List.mem_filter.mp hpiece).2).length_le

/-- No pattern begins before the held end, whatever follows. -/
theorem not_beginsAt_of_lt_held {patterns : List (List α)} {text : List α}
    (hnone : findAny patterns text = none) (more : List α) {start : Nat}
    (hstart : start < text.length - held patterns text) :
    ¬ BeginsAt patterns (text ++ more) start := by
  rintro ⟨pattern, hmem, hpre⟩
  have hle : start ≤ text.length := by omega
  rw [List.drop_append_of_le_length hle] at hpre
  rcases List.prefix_or_prefix_of_prefix hpre (List.prefix_append _ more) with hwhole | hpart
  · exact findAny_eq_none_iff.mp hnone start hle ⟨pattern, hmem, hwhole⟩
  · have hne : text.drop start ≠ [] := by
      intro hempty
      have := congrArg List.length hempty
      rw [List.length_drop, List.length_nil] at this
      omega
    have hheld := length_le_held hmem hne hpart (List.drop_suffix start text)
    rw [List.length_drop] at hheld
    omega

end Foundation
