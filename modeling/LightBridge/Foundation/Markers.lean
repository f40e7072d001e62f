import LightBridge.Foundation.Search

/-! Markers: words between an opening and a closing letter that stand nowhere else in them. A
marker begins in no text before another one, so texts that are free of a marker can be told
apart again after it was put between them. -/
namespace Foundation
variable {α : Type}

structure Marker (opening closing : α) (word : List α) : Prop where
  head : word.head? = some opening
  once : opening ∉ word.tail
  last : word.getLast? = some closing
  before : closing ∉ word.dropLast

instance [DecidableEq α] (opening closing : α) (word : List α) :
    Decidable (Marker opening closing word) :=
  decidable_of_iff (word.head? = some opening ∧ opening ∉ word.tail ∧ word.getLast? = some closing ∧
    closing ∉ word.dropLast)
    ⟨fun h => ⟨h.1, h.2.1, h.2.2.1, h.2.2.2⟩, fun h => ⟨h.head, h.once, h.last, h.before⟩⟩

/-- The text does not contain the marker. -/
def Free (marker text : List α) : Prop := ¬ marker <:+: text

instance [DecidableEq α] (marker text : List α) : Decidable (Free marker text) :=
  inferInstanceAs (Decidable (¬ marker <:+: text))

theorem infix_iff_exists_drop {word text : List α} : word <:+: text ↔ ∃ start, start ≤ text.length ∧
      word <+: text.drop start := by
  constructor
  · rintro ⟨front, back, rfl⟩
    refine ⟨front.length, by simp, ?_⟩
    rw [List.append_assoc, List.drop_left]
    exact List.prefix_append _ _
  · rintro ⟨start, -, hpre⟩
    exact hpre.isInfix.trans (List.drop_suffix start text).isInfix

theorem Free.within {marker part text : List α} (h : Free marker text) (hpart : part <:+: text) :
    Free marker part :=
  fun hmarker => h (hmarker.trans hpart)

theorem Free.nil {marker : List α} (hne : marker ≠ []) : Free marker [] :=
  fun h => hne (List.infix_nil.mp h)

/-- A letter that no marker contains completes none. -/
theorem Free.concat {marker text : List α} (h : Free marker text) (hne : marker ≠ []) {letter : α}
    (hletter : letter ∉ marker) :
    Free marker (text ++ [letter]) := by
  intro hinfix
  rcases List.infix_concat_iff.mp hinfix with hsuffix | hinside
  · rcases List.suffix_concat_iff.mp hsuffix with hempty | ⟨front, rfl, -⟩
    · exact hne hempty
    · exact hletter (List.mem_append_right front (List.mem_singleton_self letter))
  · exact h hinside

namespace Marker
variable {opening closing : α} {marker other : List α}

theorem ne_nil (h : Marker opening closing marker) : marker ≠ [] := by
  rintro rfl
  exact absurd h.head nofun

theorem eq_cons (h : Marker opening closing marker) : marker = opening :: marker.tail :=
  (List.cons_head?_tail h.head).symm

theorem head_append (h : Marker opening closing marker) (rest : List α) :
    (marker ++ rest).head? = some opening := by
  rw [h.eq_cons]
  rfl

/-- No marker begins another one. -/
theorem eq_of_prefix (h : Marker opening closing marker) (h' : Marker opening closing other)
    (hpre : marker <+: other) :
    marker = other := by
  obtain ⟨rest, rfl⟩ := hpre
  cases rest with
  | nil => exact (List.append_nil marker).symm
  | cons letter rest =>
      refine absurd ?_ h'.before
      rw [List.dropLast_append_of_ne_nil (List.cons_ne_nil letter rest)]
      exact List.mem_append_left _ (List.mem_of_getLast? h.last)

theorem eq_of_prefix_append (h : Marker opening closing marker) (h' : Marker opening closing other)
    {rest : List α}
    (hpre : marker <+: other ++ rest) : marker = other := by
  rcases List.prefix_or_prefix_of_prefix hpre (List.prefix_append other rest) with hle | hge
  · exact h.eq_of_prefix h' hle
  · exact (h'.eq_of_prefix h hge).symm

/-- A marker that begins in a text before an opening letter ends in it. -/
theorem prefix_of_prefix_append (h : Marker opening closing marker) {field rest : List α}
    (hfield : field ≠ [])
    (hrest : rest = [] ∨ rest.head? = some opening) (hpre : marker <+: field ++ rest) :
    marker <+: field := by
  rcases List.prefix_or_prefix_of_prefix hpre (List.prefix_append field rest) with hle | ⟨more, rfl⟩
  · exact hle
  · cases more with
    | nil => rw [List.append_nil]
    | cons letter more =>
        exfalso
        have hmore : letter :: more <+: rest := (List.prefix_append_right_inj field).mp hpre
        have hletter : rest.head? = some letter := by
          obtain ⟨_, rfl⟩ := hmore
          rfl
        rcases hrest with rfl | hopening
        · cases hletter
        · obtain rfl := Option.some.inj (hletter.symm.trans hopening)
          apply h.once
          cases field with
          | nil => exact absurd rfl hfield
          | cons first field => exact List.mem_append_right field List.mem_cons_self

/-- A marker lies on one side of an opening letter. -/
theorem infix_append_iff (h : Marker opening closing marker) {field rest : List α}
    (hrest : rest = [] ∨ rest.head? = some opening) :
    marker <:+: field ++ rest ↔ marker <:+: field ∨ marker <:+: rest := by
  constructor
  · intro hinfix
    obtain ⟨start, -, hpre⟩ := infix_iff_exists_drop.mp hinfix
    by_cases hstart : start < field.length
    · rw [List.drop_append_of_le_length hstart.le] at hpre
      have hne : field.drop start ≠ [] := by
        rw [ne_eq, List.drop_eq_nil_iff]
        omega
      exact Or.inl
        ((h.prefix_of_prefix_append hne hrest hpre).isInfix.trans
          (List.drop_suffix start field).isInfix)
    · obtain ⟨inner, rfl⟩ := Nat.exists_eq_add_of_le (Nat.le_of_not_lt hstart)
      rw [← List.drop_drop, List.drop_left] at hpre
      exact Or.inr (hpre.isInfix.trans (List.drop_suffix inner rest).isInfix)
  · rintro (hfield | hrest)
    · exact hfield.trans (List.prefix_append field rest).isInfix
    · exact hrest.trans (List.suffix_append field rest).isInfix

/-- Another marker in front of a text puts none into it. -/
theorem infix_marker_append_iff (h : Marker opening closing marker)
    (h' : Marker opening closing other) (hne : marker ≠ other)
    (rest : List α) : marker <:+: other ++ rest ↔ marker <:+: rest := by
  constructor
  · intro hinfix
    obtain ⟨start, -, hpre⟩ := infix_iff_exists_drop.mp hinfix
    by_cases hstart : start < other.length
    · exfalso
      cases start with
      | zero => exact hne (h.eq_of_prefix_append h' hpre)
      | succ inner =>
          rw [h'.eq_cons, List.length_cons, Nat.add_lt_add_iff_right] at hstart
          rw [h'.eq_cons, List.cons_append, List.drop_succ_cons,
            List.drop_append_of_le_length hstart.le, List.drop_eq_getElem_cons hstart, h.eq_cons,
            List.cons_append, List.cons_prefix_cons] at hpre
          exact h'.once (hpre.1 ▸ List.getElem_mem hstart)
    · obtain ⟨inner, rfl⟩ := Nat.exists_eq_add_of_le (Nat.le_of_not_lt hstart)
      rw [← List.drop_drop, List.drop_left] at hpre
      exact hpre.isInfix.trans (List.drop_suffix inner rest).isInfix
  · exact fun hrest => hrest.trans (List.suffix_append other rest).isInfix

theorem free_append_iff (h : Marker opening closing marker) {field rest : List α}
    (hrest : rest = [] ∨ rest.head? = some opening) :
    Free marker (field ++ rest) ↔ Free marker field ∧ Free marker rest := by
  unfold Free
  rw [h.infix_append_iff hrest, not_or]

theorem free_marker_append_iff (h : Marker opening closing marker)
    (h' : Marker opening closing other) (hne : marker ≠ other)
    (rest : List α) : Free marker (other ++ rest) ↔ Free marker rest :=
  not_congr (h.infix_marker_append_iff h' hne rest)

/-- A text without the opening letter is free of markers. -/
theorem free_of_not_mem (h : Marker opening closing marker) {text : List α}
    (hmem : opening ∉ text) : Free marker text := by
  intro hinfix
  apply hmem
  apply hinfix.subset
  rw [h.eq_cons]
  exact List.mem_cons_self

end Marker

section Split
variable [DecidableEq α] {opening closing : α} {marker : List α}

theorem splitOnce_eq_none_iff {text : List α} : splitOnce marker text = none ↔
      Free marker text := by
  unfold splitOnce Free
  rw [Option.map_eq_none_iff, find_eq_none_iff, infix_iff_exists_drop, not_exists]
  exact forall_congr' fun start => not_and.symm

/-- The text before the first occurrence has none. -/
theorem free_of_splitOnce (hne : marker ≠ []) {text before after : List α}
    (h : splitOnce marker text = some (before, after)) :
    Free marker before := by
  obtain ⟨rfl, hfind⟩ := splitOnce_eq_some h
  intro hinfix
  obtain ⟨start, hle, hpre⟩ := infix_iff_exists_drop.mp hinfix
  have hlength := hpre.length_le
  rw [List.length_drop] at hlength
  have hpos := List.length_pos_iff.mpr hne
  apply (find_eq_some_iff.mp hfind).2.2 start (by omega)
  rw [List.append_assoc, List.drop_append_of_le_length hle]
  exact hpre.trans (List.prefix_append _ _)

/-- What follows a text makes no difference to a first occurrence in it. -/
theorem splitOnce_append_of_some {text before after : List α}
    (h : splitOnce marker text = some (before, after)) (more : List α) :
    splitOnce marker (text ++ more) = some (before, after ++ more) := by
  obtain ⟨htext, hfind⟩ := splitOnce_eq_some h
  obtain ⟨hle, hpre, hfirst⟩ := find_eq_some_iff.mp hfind
  have hlength := hpre.length_le
  rw [List.length_drop] at hlength
  have hfind' : find marker (text ++ more) = some before.length := by
    apply find_eq_some_iff.mpr
    refine ⟨by rw [List.length_append]; omega, ?_, ?_⟩
    · rw [List.drop_append_of_le_length hle]
      exact hpre.trans (List.prefix_append _ _)
    · intro start hstart hearly
      rw [List.drop_append_of_le_length (by omega)] at hearly
      apply hfirst start hstart
      apply List.prefix_of_prefix_length_le hearly (List.prefix_append _ more)
      rw [List.length_drop]
      omega
  unfold splitOnce
  rw [hfind', Option.map_some, htext, List.append_assoc, List.append_assoc,
    List.take_left, ← List.drop_drop, List.drop_left, List.drop_left]

/-- A text that goes on differs from one it begins with only behind their first occurrence. -/
theorem splitOnce_prefix {text whole before after before' after' : List α} (hpre : text <+: whole)
    (h : splitOnce marker text = some (before, after))
    (h' : splitOnce marker whole = some (before', after')) :
    before = before' ∧ after <+: after' := by
  obtain ⟨more, rfl⟩ := hpre
  obtain ⟨rfl, rfl⟩ :=
    Prod.mk.inj (Option.some.inj ((splitOnce_append_of_some h more).symm.trans h'))
  exact ⟨rfl, List.prefix_append after more⟩

/-- A marker behind a text that is free of it is found there. -/
theorem Marker.splitOnce_append (h : Marker opening closing marker) {front : List α}
    (free : Free marker front) (rest : List α) :
    splitOnce marker (front ++ marker ++ rest) = some (front, rest) := by
  have hfind : find marker (front ++ marker ++ rest) = some front.length := by
    apply find_eq_some_iff.mpr
    refine ⟨by simp, ?_, ?_⟩
    · rw [List.append_assoc, List.drop_left]
      exact List.prefix_append _ _
    · intro start hstart hpre
      rw [List.append_assoc, List.drop_append_of_le_length hstart.le] at hpre
      have hne : front.drop start ≠ [] := by
        rw [ne_eq, List.drop_eq_nil_iff]
        omega
      have hinside := h.prefix_of_prefix_append hne (Or.inr (h.head_append rest)) hpre
      exact free (hinside.isInfix.trans (List.drop_suffix start front).isInfix)
  unfold splitOnce
  rw [hfind, Option.map_some, ← List.drop_drop, List.append_assoc, List.take_left, List.drop_left,
    List.drop_left]

/-- What is split off the beginning of a text before a marker ends there, or at an earlier
occurrence. -/
theorem Marker.splitOnce_beginning (h : Marker opening closing marker)
    {text front rest before after : List α} (hpre : text <+: front ++ (marker ++ rest))
    (hsplit : splitOnce marker text = some (before, after)) :
    Free marker front ∧ before = front ∧ after <+: rest ∨ ∃ more,
      front = before ++ marker ++ more := by
  rw [← List.append_assoc] at hpre
  cases hfirst : splitOnce marker front with
  | none =>
      have hfree := splitOnce_eq_none_iff.mp hfirst
      exact Or.inl ⟨hfree, splitOnce_prefix hpre hsplit (h.splitOnce_append hfree rest)⟩
  | some pair =>
      obtain ⟨early, more⟩ := pair
      rw [List.append_assoc] at hpre
      obtain ⟨rfl, -⟩ := splitOnce_prefix hpre hsplit (splitOnce_append_of_some hfirst _)
      exact Or.inr ⟨more, (splitOnce_eq_some hfirst).1⟩

end Split

/-! ### The markers of a text -/

section Marks
variable [DecidableEq α] {opening closing : α} {markers : List (List α)}

/-- The markers that begin in a text, in their order. -/
def marks (markers : List (List α)) : List α → List (List α)
  | [] => []
  | letter :: text =>
      (markers.find? fun marker => marker.isPrefixOf (letter :: text)).toList ++ marks markers text

theorem find?_marker_none {text : List α} (h : ∀ marker ∈ markers, ¬ marker <+: text) :
    markers.find? (fun marker => marker.isPrefixOf text) = none := by
  rw [List.find?_eq_none]
  exact fun marker hmem hpre => h marker hmem (List.isPrefixOf_iff_prefix.mp hpre)

/-- The markers of two parts, the second of which opens one. -/
theorem marks_append (hmarkers : ∀ marker ∈ markers, Marker opening closing marker) (field : List α)
    {rest : List α}
    (hrest : rest = [] ∨ rest.head? = some opening) :
    marks markers (field ++ rest) = marks markers field ++ marks markers rest := by
  induction field with
  | nil => rfl
  | cons letter field ih =>
      have hfirst : (markers.find? fun marker => marker.isPrefixOf (letter :: field ++ rest)) =
          markers.find? fun marker => marker.isPrefixOf (letter :: field) := by
        rw [← List.head?_filter, ← List.head?_filter]
        apply congrArg List.head?
        apply List.filter_congr
        intro marker hmem
        rw [Bool.eq_iff_iff, List.isPrefixOf_iff_prefix, List.isPrefixOf_iff_prefix]
        exact ⟨(hmarkers marker hmem).prefix_of_prefix_append (List.cons_ne_nil _ _) hrest,
          fun hpre => hpre.trans (List.prefix_append _ rest)⟩
      rw [List.cons_append, marks, marks, ih, ← List.cons_append, hfirst, List.append_assoc]

/-- No marker begins in letters that open none. -/
theorem marks_append_of_not_mem (hmarkers : ∀ marker ∈ markers, Marker opening closing marker)
    {field : List α}
    (h : opening ∉ field) (rest : List α) : marks markers (field ++ rest) = marks markers rest := by
  induction field with
  | nil => rfl
  | cons letter field ih =>
      obtain ⟨hletter, hfield⟩ := not_or.mp (List.mem_cons.not.mp h)
      have hnone : markers.find? (fun marker => marker.isPrefixOf (letter :: (field ++ rest))) =
          none := by
        apply find?_marker_none
        intro marker hmem hpre
        rw [(hmarkers marker hmem).eq_cons, List.cons_prefix_cons] at hpre
        exact hletter hpre.1
      rw [List.cons_append, marks, hnone, ih hfield]
      rfl

theorem marks_marker (hmarkers : ∀ marker ∈ markers, Marker opening closing marker)
    {marker : List α} (hmem : marker ∈ markers)
    (rest : List α) : marks markers (marker ++ rest) = marker :: marks markers rest := by
  have hself := hmarkers marker hmem
  have hfound : markers.find? (fun other => other.isPrefixOf (marker ++ rest)) = some marker := by
    cases hfind : markers.find? fun other => other.isPrefixOf (marker ++ rest) with
    | none =>
        have := List.find?_eq_none.mp hfind marker hmem
        exact absurd (List.isPrefixOf_iff_prefix.mpr (List.prefix_append marker rest)) this
    | some other =>
        have hother := hmarkers other (List.mem_of_find?_eq_some hfind)
        have hpre : other <+: marker ++ rest :=
          List.isPrefixOf_iff_prefix.mp (by simpa using List.find?_some hfind)
        rw [hother.eq_of_prefix_append hself hpre]
  rw [hself.eq_cons, List.cons_append] at hfound ⊢
  rw [marks, hfound, marks_append_of_not_mem hmarkers hself.once]
  rfl

/-- Another marker is passed over. -/
theorem marks_other (hmarkers : ∀ marker ∈ markers, Marker opening closing marker) {other : List α}
    (hother : Marker opening closing other) (hmem : other ∉ markers) (rest : List α) :
    marks markers (other ++ rest) = marks markers rest := by
  have hnone : markers.find? (fun marker => marker.isPrefixOf (other ++ rest)) = none := by
    apply find?_marker_none
    intro marker hmarker hpre
    rw [(hmarkers marker hmarker).eq_of_prefix_append hother hpre] at hmarker
    exact hmem hmarker
  rw [hother.eq_cons, List.cons_append] at hnone ⊢
  rw [marks, hnone, marks_append_of_not_mem hmarkers hother.once]
  rfl

theorem marks_of_free {text : List α} (h : ∀ marker ∈ markers, Free marker text) :
    marks markers text = [] := by
  induction text with
  | nil => rfl
  | cons letter text ih =>
      have hnone : markers.find? (fun marker => marker.isPrefixOf (letter :: text)) = none :=
        find?_marker_none fun marker hmem hpre => h marker hmem hpre.isInfix
      rw [marks, hnone, ih fun marker hmem =>
        (h marker hmem).within (List.suffix_cons letter text).isInfix]
      rfl

end Marks
end Foundation
