import LightBridge.Foundation.Search

/-! Codes whose words can be told apart from any place in a coded text. A search over the coded
letters then finds what a search over the text does, at the place where the code puts it. -/
namespace Foundation
variable {α β : Type}

/-- A word is not empty and begins no other, and its first letter, no other one, leads. -/
structure Synchronizing (code : α → List β) (leads : β → Bool) : Prop where
  nonempty : ∀ a, code a ≠ []
  first : ∀ a letter word, code a = letter :: word → leads letter = true
  later : ∀ a letter word, code a = letter :: word → ∀ other ∈ word, leads other = false
  apart : ∀ a b rest rest', code a ++ rest = code b ++ rest' → a = b

def encode (code : α → List β) (text : List α) : List β := text.flatMap code

/-- A place before a leading letter, or the end. -/
def isBoundary (leads : β → Bool) (coded : List β) (place : Nat) : Bool :=
  match coded[place]? with
  | some letter => leads letter
  | none => place == coded.length

section Encode
variable {code : α → List β} {leads : β → Bool}

@[simp] theorem encode_nil : encode code [] = [] := rfl

@[simp] theorem encode_cons (a : α) (text : List α) :
    encode code (a :: text) = code a ++ encode code text := rfl

@[simp] theorem encode_append (text more : List α) :
    encode code (text ++ more) = encode code text ++ encode code more :=
  List.flatMap_append

theorem encode_flatten (chunks : List (List α)) :
    encode code chunks.flatten = (chunks.map (encode code)).flatten := by
  induction chunks with
  | nil => rfl
  | cons chunk chunks ih =>
      rw [List.flatten_cons, encode_append, ih, List.map_cons, List.flatten_cons]

theorem encode_eq_nil_iff (sync : Synchronizing code leads) {text : List α} :
    encode code text = [] ↔ text = [] := by
  cases text with
  | nil => simp
  | cons a text => simp [sync.nonempty a]

/-- The code of a text that follows another leads. -/
theorem encode_leads (sync : Synchronizing code leads) {text : List α} {letter : β} {rest : List β}
    (h : encode code text = letter :: rest) : leads letter = true := by
  cases text with
  | nil => cases h
  | cons a text =>
      cases hword : code a with
      | nil => exact absurd hword (sync.nonempty a)
      | cons lead word =>
          rw [encode_cons, hword] at h
          cases h
          exact sync.first a letter word hword

theorem encode_prefix_iff (sync : Synchronizing code leads) {front text : List α} :
    encode code front <+: encode code text ↔ front <+: text := by
  constructor
  · intro h
    induction front generalizing text with
    | nil => exact List.nil_prefix
    | cons a front ih =>
        obtain ⟨more, hmore⟩ := h
        cases text with
        | nil =>
            rw [encode_cons, List.append_assoc, encode_nil, List.append_eq_nil_iff] at hmore
            exact absurd hmore.1 (sync.nonempty a)
        | cons b text =>
            rw [encode_cons, encode_cons, List.append_assoc] at hmore
            obtain rfl := sync.apart a b _ _ hmore
            rw [List.append_cancel_left_eq] at hmore
            exact List.cons_prefix_cons.mpr ⟨rfl, ih ⟨more, hmore⟩⟩
  · rintro ⟨more, rfl⟩
    rw [encode_append]
    exact List.prefix_append _ _

theorem encode_injective (sync : Synchronizing code leads) : Function.Injective (encode code) := by
  intro text other h
  have hle : text <+: other := (encode_prefix_iff sync).mp (h ▸ List.prefix_refl _)
  have hge : other <+: text := (encode_prefix_iff sync).mp (h ▸ List.prefix_refl _)
  exact hle.eq_of_length_le hge.length_le

theorem isBoundary_append (front coded : List β) (place : Nat) :
    isBoundary leads (front ++ coded) (front.length + place) = isBoundary leads coded place := by
  unfold isBoundary
  rw [List.getElem?_append_right (Nat.le_add_right _ _), Nat.add_sub_cancel_left,
    List.length_append]
  cases coded[place]? with
  | some letter => rfl
  | none => simp

/-- A text can be cut where its code is at a boundary. -/
theorem split_of_isBoundary (sync : Synchronizing code leads) {text : List α} {place : Nat}
    (h : isBoundary leads (encode code text) place = true) :
    ∃ front rest, text = front ++ rest ∧ (encode code front).length = place := by
  induction text generalizing place with
  | nil =>
      have hplace : place = 0 := by simpa [isBoundary] using h
      exact ⟨[], [], rfl, hplace.symm⟩
  | cons a text ih =>
      by_cases hinside : place < (code a).length
      · cases place with
        | zero => exact ⟨[], a :: text, rfl, rfl⟩
        | succ inner =>
            -- every letter of a word but the first does not lead
            exfalso
            cases hword : code a with
            | nil => exact sync.nonempty a hword
            | cons letter word =>
                rw [hword, List.length_cons, Nat.add_lt_add_iff_right] at hinside
                have hlater :=
                  sync.later a letter word hword (word[inner]) (List.getElem_mem hinside)
                unfold isBoundary at h
                rw [encode_cons, hword, List.cons_append, List.getElem?_cons_succ,
                  List.getElem?_append_left hinside, List.getElem?_eq_getElem hinside] at h
                change leads word[inner] = true at h
                rw [hlater] at h
                cases h
      · obtain ⟨inner, rfl⟩ := Nat.exists_eq_add_of_le (Nat.le_of_not_lt hinside)
        rw [encode_cons, isBoundary_append] at h
        obtain ⟨front, rest, rfl, rfl⟩ := ih h
        exact ⟨a :: front, rest, rfl, by rw [encode_cons, List.length_append]⟩

theorem isBoundary_encode (sync : Synchronizing code leads) (front rest : List α) :
    isBoundary leads (encode code (front ++ rest)) (encode code front).length = true := by
  rw [encode_append, ← Nat.add_zero (encode code front).length, isBoundary_append]
  cases hrest : encode code rest with
  | nil => rfl
  | cons letter coded => exact encode_leads sync hrest

/-- A coded pattern begins nowhere but where the pattern does. -/
theorem encode_prefix_drop_iff (sync : Synchronizing code leads) {pattern text : List α}
    (hne : pattern ≠ []) {place : Nat} :
    encode code pattern <+: (encode code text).drop place ↔
      ∃ front rest, text = front ++ rest ∧
        (encode code front).length = place ∧
        pattern <+: rest := by
  constructor
  · intro h
    have hboundary : isBoundary leads (encode code text) place = true := by
      obtain ⟨more, hmore⟩ := h
      cases hcoded : encode code pattern with
      | nil => exact absurd ((encode_eq_nil_iff sync).mp hcoded) hne
      | cons letter coded =>
          have hplace : (encode code text)[place]? = some letter := by
            rw [← Nat.add_zero place, ← List.getElem?_drop, ← hmore, hcoded]
            rfl
          unfold isBoundary
          rw [hplace]
          exact encode_leads sync hcoded
    obtain ⟨front, rest, rfl, rfl⟩ := split_of_isBoundary sync hboundary
    rw [encode_append, List.drop_left, encode_prefix_iff sync] at h
    exact ⟨front, rest, rfl, rfl, h⟩
  · rintro ⟨front, rest, rfl, rfl, hpre⟩
    rw [encode_append, List.drop_left]
    exact (encode_prefix_iff sync).mpr hpre

theorem encode_suffix_iff (sync : Synchronizing code leads) {back text : List α} :
    encode code back <:+ encode code text ↔ back <:+ text := by
  constructor
  · rintro ⟨coded, hcoded⟩
    by_cases hne : back = []
    · exact hne ▸ List.nil_suffix
    · have hpre : encode code back <+: (encode code text).drop coded.length := by
        rw [← hcoded, List.drop_left]
      obtain ⟨front, rest, rfl, hlength, -⟩ := (encode_prefix_drop_iff sync hne).mp hpre
      rw [encode_append] at hcoded
      obtain ⟨-, hback⟩ := List.append_inj hcoded hlength.symm
      exact encode_injective sync hback ▸ List.suffix_append front rest
  · rintro ⟨front, rfl⟩
    rw [encode_append]
    exact List.suffix_append _ _

end Encode

section Search
variable [DecidableEq α] [DecidableEq β] {code : α → List β} {leads : β → Bool}

/-- The search over the code finds the place where the search over the text does. -/
theorem findAny_encode (sync : Synchronizing code leads) {patterns : List (List α)}
    (nonempty : ∀ pattern ∈ patterns, pattern ≠ []) (text : List α) :
    findAny (patterns.map (encode code)) (encode code text) =
      (findAny patterns text).map fun start => (encode code (text.take start)).length := by
  have hbegins : ∀ place, BeginsAt (patterns.map (encode code)) (encode code text) place ↔
      ∃ front rest, text = front ++ rest ∧ (encode code front).length = place ∧
        BeginsAt patterns text front.length := by
    intro place
    unfold BeginsAt
    constructor
    · rintro ⟨_, hmem, hpre⟩
      obtain ⟨pattern, hpattern, rfl⟩ := List.mem_map.mp hmem
      obtain ⟨front, rest, rfl, hplace, hpre⟩ :=
        (encode_prefix_drop_iff sync (nonempty pattern hpattern)).mp hpre
      exact ⟨front, rest, rfl, hplace, pattern, hpattern, by rwa [List.drop_left]⟩
    · rintro ⟨front, rest, rfl, hplace, pattern, hpattern, hpre⟩
      rw [List.drop_left] at hpre
      exact ⟨_, List.mem_map_of_mem hpattern,
        (encode_prefix_drop_iff sync (nonempty pattern hpattern)).mpr
        ⟨front, rest, rfl, hplace, hpre⟩⟩
  cases hfind : findAny patterns text with
  | none =>
      apply findAny_eq_none_iff.mpr
      intro place _ hplace
      obtain ⟨front, rest, htext, -, hfront⟩ := (hbegins place).mp hplace
      exact findAny_eq_none_iff.mp hfind front.length (by simp [htext]) hfront
  | some start =>
      obtain ⟨hle, hstart, hfirst⟩ := findAny_eq_some_iff.mp hfind
      apply findAny_eq_some_iff.mpr
      have hlength : (text.take start).length = start := by
        rw [List.length_take, Nat.min_eq_left hle]
      have hcoded : encode code text = encode code (text.take start) ++
          encode code (text.drop start) := by
        rw [← encode_append, List.take_append_drop]
      refine ⟨?_,
        (hbegins _).mpr ⟨_, _, (List.take_append_drop start text).symm, rfl,
        hlength.symm ▸ hstart⟩, ?_⟩
      · rw [hcoded, List.length_append]
        exact Nat.le_add_right _ _
      · intro place (hplace : place < (encode code (text.take start)).length) hearly
        obtain ⟨front, rest, htext, rfl, hfront⟩ := (hbegins place).mp hearly
        by_cases hlt : front.length < start
        · exact hfirst front.length hlt hfront
        · have hpre : text.take start <+: front := by
            apply List.prefix_of_prefix_length_le (List.take_prefix start text)
              (htext ▸ List.prefix_append front rest)
            omega
          have := ((encode_prefix_iff sync).mpr hpre).length_le
          omega

/-- The length of the longest of the pieces that the text ends with. -/
def longestEnd (pieces : List (List α)) (text : List α) : Nat :=
  ((pieces.filter fun piece => piece.isSuffixOf text).map List.length).max?.getD 0

theorem held_eq_longestEnd (patterns : List (List α)) (text : List α) :
    held patterns text = longestEnd (patterns.flatMap beginnings) text := rfl

omit [DecidableEq α] [DecidableEq β] in
theorem length_encode_le_of_suffix {back other text : List α} (hback : back <:+ text)
    (hother : other <:+ text)
    (hle : back.length ≤ other.length) :
    (encode code back).length ≤ (encode code other).length := by
  obtain ⟨front, rfl⟩ := List.suffix_of_suffix_length_le hback hother hle
  rw [encode_append, List.length_append]
  exact Nat.le_add_left _ _

theorem longestEnd_encode (sync : Synchronizing code leads) (pieces : List (List α))
    (text : List α) :
    longestEnd (pieces.map (encode code)) (encode code text) =
      (encode code (text.drop (text.length - longestEnd pieces text))).length := by
  have hfilter : (pieces.map (encode code)).filter
      (fun piece => piece.isSuffixOf (encode code text)) =
      (pieces.filter fun piece => piece.isSuffixOf text).map (encode code) := by
    rw [List.filter_map]
    congr 2
    ext piece
    rw [Function.comp_apply, Bool.eq_iff_iff, List.isSuffixOf_iff_suffix,
      List.isSuffixOf_iff_suffix, encode_suffix_iff sync]
  unfold longestEnd
  rw [hfilter]
  generalize hends : (pieces.filter fun piece => piece.isSuffixOf text) = ends
  have hsuffix : ∀ piece ∈ ends, piece <:+ text := by
    intro piece hmem
    rw [← hends] at hmem
    exact List.isSuffixOf_iff_suffix.mp (List.mem_filter.mp hmem).2
  cases hmax : (ends.map List.length).max? with
  | none =>
      rw [List.max?_eq_none_iff, List.map_eq_nil_iff] at hmax
      rw [hmax]
      simp
  | some longest =>
      obtain ⟨hmem, hlongest⟩ := List.max?_eq_some_iff.mp hmax
      obtain ⟨piece, hpiece, rfl⟩ := List.mem_map.mp hmem
      have hdrop : text.drop (text.length - piece.length) = piece :=
        (List.suffix_iff_eq_drop.mp (hsuffix piece hpiece)).symm
      rw [Option.getD_some, hdrop]
      have hcoded : ((ends.map (encode code)).map List.length).max? =
          some (encode code piece).length := by
        apply List.max?_eq_some_iff.mpr
        refine ⟨List.mem_map_of_mem (List.mem_map_of_mem hpiece), ?_⟩
        intro length hlength
        obtain ⟨coded, hcoded, rfl⟩ := List.mem_map.mp hlength
        obtain ⟨other, hother, rfl⟩ := List.mem_map.mp hcoded
        exact length_encode_le_of_suffix (hsuffix other hother) (hsuffix piece hpiece)
          (hlongest _ (List.mem_map_of_mem hother))
      rw [hcoded, Option.getD_some]

end Search
end Foundation
