import LightBridge.Tokenizer.Rendering

/-! A parsed reply that is rendered as history and parsed again. -/
namespace LightBridge.Tokenizer
open Foundation

section Echo
variable {V : Type} (serde : Serde V)

/-! ### What the parser accepts -/

theorem parseArgument_eq_ok {callIndex : Nat} {input key rest : Text} {value : V}
    (h : parseArgument serde callIndex input = .ok ((key, value), rest)) :
    ∃ remainder behind written, input = argumentKeyBeginToken ++
      (key ++ (argumentKeyEndToken ++ remainder)) ∧
      Free argumentKeyEndToken key ∧ key ≠ [] ∧
      trimNewlines remainder = argumentValueBeginToken ++ behind ∧
      splitOnce argumentValueEndToken behind = some (written, rest) ∧
      value = parseValue serde written := by
  unfold parseArgument at h
  obtain ⟨afterBegin, hbegin, h⟩ := except_bind_ok_iff.mp h
  obtain ⟨⟨key, remainder⟩, hkey, h⟩ := except_bind_ok_iff.mp h
  obtain ⟨_, hnonempty, h⟩ := except_bind_ok_iff.mp h
  obtain ⟨behind, hvalue, h⟩ := except_bind_ok_iff.mp h
  obtain ⟨⟨written, last⟩, hend, h⟩ := except_bind_ok_iff.mp h
  cases h
  have hsplit := okOr_eq_ok.mp hkey
  refine ⟨remainder, behind, written, ?_, free_of_splitOnce argumentKeyEnd_marker.ne_nil hsplit,
    ensure_eq_ok.mp hnonempty, expect_eq_ok.mp hvalue, okOr_eq_ok.mp hend, rfl⟩
  rw [expect_eq_ok.mp hbegin, expectOnce_eq_ok hkey, List.append_assoc]

theorem trimNewlines_suffix (text : Text) : trimNewlines text <:+ text :=
  List.dropWhile_suffix isNewline

/-- An argument that was read lies in front of the text behind it. -/
theorem parseArgument_suffix {callIndex : Nat} {input key rest : Text} {value : V}
    (h : parseArgument serde callIndex input = .ok ((key, value), rest)) : rest <:+ input := by
  obtain ⟨remainder, behind, written, rfl, -, -, hbehind, hsplit, -⟩ := parseArgument_eq_ok serde h
  have hrest : rest <:+ behind := by
    rw [(splitOnce_eq_some hsplit).1]
    exact List.suffix_append _ rest
  have hremainder : behind <:+ remainder := by
    have htrim := trimNewlines_suffix remainder
    rw [hbehind] at htrim
    exact (List.suffix_append _ behind).trans htrim
  exact hrest.trans
    (hremainder.trans
      ((List.suffix_append _ _).trans ((List.suffix_append _ _).trans (List.suffix_append _ _))))

/-- An induction over a loop that answers, from its end. -/
theorem parseArguments_induction {callIndex : Nat} {result : SortedMap Text V}
    {motive : SortedMap Text V → Text → Prop} (done : motive result [])
    (step : ∀ arguments input key value rest,
      parseArgument serde callIndex input = .ok ((key, value), rest) →
      arguments.contains key = false → motive (arguments.insert key value) (trimNewlines rest) →
      motive arguments input)
    {arguments : SortedMap Text V} {input : Text}
    (h : parseArguments serde callIndex arguments input = .ok result) :
    motive arguments input := by
  induction hlength : input.length using Nat.strong_induction_on generalizing arguments input with
  | _ length ih =>
    rcases parseArguments_eq_ok serde h with ⟨rfl, rfl⟩ | ⟨key, value, rest, hparsed, hfresh, hrest⟩
    · exact done
    · have hshorter : (trimNewlines rest).length < length :=
        hlength ▸ (length_trimNewlines rest).trans_lt (length_parseArgument serde hparsed)
      exact step arguments input key value rest hparsed hfresh (ih _ hshorter hrest rfl)

/-- Entries stay in the map. -/
theorem parseArguments_keeps {callIndex : Nat} {arguments result : SortedMap Text V} {input : Text}
    (h : parseArguments serde callIndex arguments input = .ok result) : ∀ entry ∈ arguments.entries,
      entry ∈ result.entries := by
  apply parseArguments_induction serde ?done ?step h
  case done => exact fun entry hmem => hmem
  case step =>
    intro arguments input key value rest _ hfresh ih entry hmem
    apply ih
    apply mem_insertEntry_of_ne value hmem
    rintro rfl
    exact Bool.eq_false_iff.mp hfresh (SortedMap.contains_eq_true_iff.mpr ⟨entry.2, hmem⟩)

/-- The keys of a parsed call. -/
theorem parseArguments_keys {callIndex : Nat} {arguments result : SortedMap Text V} {input : Text}
    (h : parseArguments serde callIndex arguments input = .ok result) : ∀ entry ∈ result.entries,
      entry ∈ arguments.entries ∨ entry.1 ≠ [] ∧ Free argumentKeyEndToken entry.1 ∧
      entry.1 <:+: input := by
  apply parseArguments_induction serde ?done ?step h
  case done => exact fun entry hmem => Or.inl hmem
  case step =>
    intro arguments input key value rest hparsed _ ih entry hmem
    have hbehind : trimNewlines rest <:+: input :=
      ((trimNewlines_suffix rest).trans (parseArgument_suffix serde hparsed)).isInfix
    rcases ih entry hmem with hinserted | ⟨hnonempty, hfree, hinfix⟩
    · rcases mem_insertEntry hinserted with rfl | hbefore
      · obtain ⟨remainder, behind, written, rfl, hfree, hnonempty, -⟩ :=
          parseArgument_eq_ok serde hparsed
        refine Or.inr ⟨hnonempty, hfree, ?_⟩
        exact (List.prefix_append key _).isInfix.trans (List.suffix_append _ _).isInfix
      · exact Or.inl hbefore
    · exact Or.inr ⟨hnonempty, hfree, hinfix.trans hbehind⟩

/-- A call whose name and keys are read as they were written. -/
structure SpelledCall (call : ToolCall V) : Prop where
  nonempty : call.name ≠ []
  name : Free toolSeparatorToken call.name
  nameInCalls : Free toolCallsEndToken call.name
  key : ∀ argument ∈ call.arguments.entries, argument.1 ≠ [] ∧ Free argumentKeyEndToken argument.1 ∧
    Free toolCallEndToken argument.1 ∧ Free toolCallsEndToken argument.1

theorem parseToolCall_eq_ok {callIndex : Nat} {input rest : Text} {call : ToolCall V}
    (h : parseToolCall serde callIndex input = .ok (call, rest)) :
    ∃ remainder arguments, input = toolCallBeginToken ++
      (call.name ++ (toolSeparatorToken ++ remainder)) ∧
      Free toolSeparatorToken call.name ∧ call.name ≠ [] ∧
      splitOnce toolCallEndToken remainder = some (arguments, rest) ∧
      parseArguments serde callIndex .empty (trimNewlines arguments) = .ok call.arguments := by
  unfold parseToolCall at h
  obtain ⟨afterBegin, hbegin, h⟩ := except_bind_ok_iff.mp h
  obtain ⟨⟨name, remainder⟩, hname, h⟩ := except_bind_ok_iff.mp h
  obtain ⟨_, hnonempty, h⟩ := except_bind_ok_iff.mp h
  obtain ⟨⟨arguments, last⟩, hend, h⟩ := except_bind_ok_iff.mp h
  obtain ⟨map, hmap, h⟩ := except_bind_ok_iff.mp h
  cases h
  refine ⟨remainder, arguments, ?_,
    free_of_splitOnce toolSeparator_marker.ne_nil (okOr_eq_ok.mp hname), ensure_eq_ok.mp hnonempty,
    okOr_eq_ok.mp hend, hmap⟩
  rw [expect_eq_ok.mp hbegin, expectOnce_eq_ok hname, List.append_assoc]

theorem parseToolCall_suffix {callIndex : Nat} {input rest : Text} {call : ToolCall V}
    (h : parseToolCall serde callIndex input = .ok (call, rest)) : rest <:+ input := by
  obtain ⟨remainder, arguments, rfl, -, -, hend, -⟩ := parseToolCall_eq_ok serde h
  rw [(splitOnce_eq_some hend).1]
  exact (List.suffix_append _ rest).trans
    ((List.suffix_append _ _).trans ((List.suffix_append _ _).trans (List.suffix_append _ _)))

theorem parseToolCall_spelled {callIndex : Nat} {input rest : Text} {call : ToolCall V}
    (h : parseToolCall serde callIndex input = .ok (call, rest))
    (free : Free toolCallsEndToken input) : SpelledCall call := by
  obtain ⟨remainder, arguments, rfl, hname, hnonempty, hend, hmap⟩ := parseToolCall_eq_ok serde h
  have hinName : call.name <:+: toolCallBeginToken ++
      (call.name ++ (toolSeparatorToken ++ remainder)) :=
    (List.prefix_append call.name _).isInfix.trans (List.suffix_append _ _).isInfix
  refine ⟨hnonempty, hname, free.within hinName, ?_⟩
  intro argument hmem
  rcases parseArguments_keys serde hmap argument hmem with hnone | ⟨hpresent, hkey, hinfix⟩
  · cases hnone
  · have hinArguments := hinfix.trans (trimNewlines_suffix arguments).isInfix
    have harguments : arguments <:+: toolCallBeginToken ++
        (call.name ++ (toolSeparatorToken ++ remainder)) := by
      rw [(splitOnce_eq_some hend).1, List.append_assoc]
      exact (List.prefix_append arguments _).isInfix.trans
        ((List.suffix_append _ _).trans
          ((List.suffix_append _ _).trans (List.suffix_append _ _))).isInfix
    exact ⟨hpresent, hkey, (free_of_splitOnce toolCallEnd_marker.ne_nil hend).within hinArguments,
      free.within (hinArguments.trans harguments)⟩

/-- What a loop over the calls that answers has done. -/
theorem parseToolCalls_eq_ok {calls result : List (ToolCall V)} {input : Text}
    (h : parseToolCalls serde calls input = .ok result) :
    input = [] ∧ result = calls ∨ ∃ call rest,
      parseToolCall serde calls.length input = .ok (call, rest) ∧
      parseToolCalls serde (calls ++ [call]) (trimNewlines rest) = .ok result := by
  rw [parseToolCalls] at h
  split at h
  · rename_i hempty
    cases h
    exact Or.inl ⟨hempty, rfl⟩
  · split at h
    · cases h
    · rename_i call rest hparsed
      exact Or.inr ⟨call, rest, hparsed, h⟩

/-- An induction over a loop that answers, from its end. -/
theorem parseToolCalls_induction {result : List (ToolCall V)}
    {motive : List (ToolCall V) → Text → Prop} (done : motive result [])
    (step : ∀ calls input call rest, parseToolCall serde calls.length input = .ok (call, rest) →
      motive (calls ++ [call]) (trimNewlines rest) → motive calls input)
    {calls : List (ToolCall V)} {input : Text} (h : parseToolCalls serde calls input = .ok result) :
    motive calls input := by
  induction hlength : input.length using Nat.strong_induction_on generalizing calls input with
  | _ length ih =>
    rcases parseToolCalls_eq_ok serde h with ⟨rfl, rfl⟩ | ⟨call, rest, hparsed, hrest⟩
    · exact done
    · have hshorter : (trimNewlines rest).length < length :=
        hlength ▸ (length_trimNewlines rest).trans_lt (length_parseToolCall serde hparsed)
      exact step calls input call rest hparsed (ih _ hshorter hrest rfl)

/-- Calls stay in the list. -/
theorem parseToolCalls_keeps {calls result : List (ToolCall V)} {input : Text}
    (h : parseToolCalls serde calls input = .ok result) :
    calls <+: result := by
  apply parseToolCalls_induction serde ?done ?step h
  case done => exact List.prefix_rfl
  case step => exact fun calls input call rest _ ih => (List.prefix_append calls [call]).trans ih

theorem parseToolCalls_spelled {calls result : List (ToolCall V)} {input : Text}
    (h : parseToolCalls serde calls input = .ok result) :
    Free toolCallsEndToken input → ∀ call ∈ result, call ∈ calls ∨ SpelledCall call := by
  apply parseToolCalls_induction serde ?done ?step h
  case done => exact fun _ call hmem => Or.inl hmem
  case step =>
    intro calls input call rest hparsed ih free other hmem
    have hbehind := (trimNewlines_suffix rest).trans (parseToolCall_suffix serde hparsed)
    rcases ih (free.within hbehind.isInfix) other hmem with hbefore | hspelled
    · rcases List.mem_append.mp hbefore with hbefore | hself
      · exact Or.inl hbefore
      · cases List.mem_singleton.mp hself
        exact Or.inr (parseToolCall_spelled serde hparsed free)
    · exact Or.inr hspelled

theorem splitReasoning_free (raw : Text) (effort : ReasoningEffort) :
    Free thinkEndToken ((splitReasoning raw effort).1.getD []) := by
  unfold splitReasoning
  split
  · dsimp only
    split
    · rename_i hsplit
      exact free_of_splitOnce thinkEnd_marker.ne_nil hsplit
    · rename_i hsplit
      exact splitOnce_eq_none_iff.mp hsplit
  · split
    · rename_i hsplit
      obtain ⟨_, -, hsplit⟩ := Option.bind_eq_some_iff.mp hsplit
      exact free_of_splitOnce thinkEnd_marker.ne_nil hsplit
    · exact .nil thinkEnd_marker.ne_nil

/-- A parsed reply is spelled so that its text can be found again. -/
theorem parse_spelled {raw : Text} {effort : ReasoningEffort} {out : AssistantOutput V}
    (h : parseAssistantOutput serde raw effort = .ok out) :
    Free toolCallsBeginToken out.content ∧ Free thinkEndToken (out.reasoning.getD []) ∧
      ∀ call ∈ out.toolCalls, SpelledCall call := by
  have hreasoning := splitReasoning_free raw effort
  unfold parseAssistantOutput at h
  dsimp only at h
  split at h
  · rename_i hsplit
    cases h
    exact ⟨splitOnce_eq_none_iff.mp hsplit, hreasoning, fun call hmem => (nomatch hmem)⟩
  · rename_i content callsAndTail hsplit
    obtain ⟨⟨calls, tail⟩, hend, h⟩ := except_bind_ok_iff.mp h
    obtain ⟨_, -, h⟩ := except_bind_ok_iff.mp h
    obtain ⟨toolCalls, hcalls, h⟩ := except_bind_ok_iff.mp h
    cases h
    have hfree := (free_of_splitOnce toolCallsEnd_marker.ne_nil (okOr_eq_ok.mp hend)).within
        (trimNewlines_suffix calls).isInfix
    refine ⟨free_of_splitOnce toolCallsBegin_marker.ne_nil hsplit, hreasoning, ?_⟩
    intro call hmem
    exact (parseToolCalls_spelled serde hcalls hfree call hmem).resolve_left
      (fun hnone => (nomatch hnone))

/-! ### What is read back -/

/-- `serde_json`: every value has a text it is read back from, a string is shorter than its quoted
text, and a text cut off in a string is none of a value. -/
structure Serde.Json : Prop where
  inverts : ∀ value, ∃ text, serde.toText value = .ok text ∧ serde.fromText text = some value
  quoted : ∀ text string, serde.fromText text = some (serde.string string) →
    string.length < text.length
  cut : ∀ value front rest, serde.asString value = none →
    serde.toText value = .ok (front ++ '<' :: rest) →
    serde.fromText front = none

/-- A value whose text is free of the markers behind it, and is no other value's. -/
def StableValue (value : V) : Prop :=
  ∀ written, Written serde value written → Free argumentValueEndToken written ∧
    Free toolCallEndToken written ∧
    Free toolCallsEndToken written ∧ parseValue serde written = value

variable {serde}

theorem Serde.Json.written (json : serde.Json) (value : V) :
    ∃ written, Written serde value written := by
  cases hstring : serde.asString value with
  | some string => exact ⟨string, Or.inl hstring⟩
  | none =>
      obtain ⟨text, htext, -⟩ := json.inverts value
      exact ⟨text, Or.inr ⟨hstring, htext⟩⟩

theorem Written.unique {value : V} {written other : Text} (h : Written serde value written)
    (h' : Written serde value other) :
    written = other := by
  rcases h with hstring | ⟨hnone, htext⟩
  · rcases h' with hstring' | ⟨hnone', -⟩
    · exact Option.some.inj (hstring.symm.trans hstring')
    · cases hstring.symm.trans hnone'
  · rcases h' with hstring' | ⟨-, htext'⟩
    · cases hnone.symm.trans hstring'
    · exact Except.ok.inj (htext.symm.trans htext')

/-- A value is not read from the front of its text before a marker. -/
theorem Serde.Json.parseValue_front (json : serde.Json) {marker front rest : Text}
    (h : ProtocolMarker marker) {value : V}
    (written : Written serde value (front ++ marker ++ rest)) : parseValue serde front ≠ value := by
  have hlonger : front.length < (front ++ marker ++ rest).length := by
    have hpos := List.length_pos_iff.mpr h.ne_nil
    simp only [List.length_append]
    omega
  intro hvalue
  unfold parseValue at hvalue
  rcases written with hstring | ⟨hnone, htext⟩
  · obtain rfl := (serde.asString_eq value _).mp hstring
    cases hfront : serde.fromText front with
    | some other =>
        rw [hfront, Option.getD_some] at hvalue
        have := json.quoted front _ (hvalue ▸ hfront)
        omega
    | none =>
        rw [hfront, Option.getD_none] at hvalue
        have hself := (serde.asString_eq (serde.string front) front).mpr rfl
        rw [hvalue, hstring] at hself
        rw [Option.some.inj hself] at hlonger
        exact lt_irrefl _ hlonger
  · rw [List.append_assoc, h.eq_cons] at htext
    rw [json.cut value front _ hnone htext, Option.getD_none] at hvalue
    rw [← hvalue, (serde.asString_eq (serde.string front) front).mpr rfl] at hnone
    cases hnone

theorem trimNewlines_prefix {text whole : Text} (h : text <+: whole) (opens : Opens whole) :
    trimNewlines text <+: whole := by
  have htext : Opens text := by
    obtain ⟨more, rfl⟩ := h
    cases text with
    | nil => exact Or.inl rfl
    | cons letter text => exact Or.inr (opens.resolve_left (List.cons_ne_nil _ _))
  rwa [trimNewlines_of_opens htext]

theorem trimNewlines_behind_newline {text whole : Text} (h : text <+: "\n".toList ++ whole)
    (opens : Opens whole) :
    trimNewlines text <+: whole := by
  cases text with
  | nil => exact List.nil_prefix
  | cons letter text =>
      obtain ⟨rfl, htext⟩ := List.cons_prefix_cons.mp h
      have htrim : trimNewlines text <+: whole := trimNewlines_prefix htext opens
      exact htrim

/-- An argument read from the beginning of a written one: its key is the same, and so is its value
if the text of the value does not contain the marker behind it. -/
theorem parseArgument_prefix (json : serde.Json) {callIndex : Nat}
    {input key written rest behind : Text} {value read : V} (hkey : Free argumentKeyEndToken key)
    (hwritten : Written serde value written) (hinput : input <+: argumentText key written rest)
    {key' : Text} (h : parseArgument serde callIndex input = .ok ((key', read), behind)) :
    key' = key ∧
      (read = value → Free argumentValueEndToken written ∧ parseValue serde written = value ∧
        written <:+: input ∧
      behind <+: "\n".toList ++ rest) := by
  obtain ⟨remainder, inValue, front, rfl, hkey', -, hinValue, hsplit, rfl⟩ :=
    parseArgument_eq_ok serde h
  have hafterKey := (List.prefix_append_right_inj _).mp hinput
  obtain ⟨rfl, hremainder⟩ := splitOnce_prefix hafterKey
    (by rw [← List.append_assoc]; exact argumentKeyEnd_marker.splitOnce_append hkey' remainder)
    (by rw [← List.append_assoc]; exact argumentKeyEnd_marker.splitOnce_append hkey _)
  have hopens := trimNewlines_behind_newline hremainder (opens_marker argumentValueBegin_marker _)
  rw [hinValue, List.prefix_append_right_inj] at hopens
  refine ⟨rfl, fun hvalue => ?_⟩
  rcases argumentValueEnd_marker.splitOnce_beginning hopens hsplit with ⟨hfree, rfl, hbehind⟩
    | ⟨more, rfl⟩
  case inr => exact absurd hvalue (json.parseValue_front argumentValueEnd_marker hwritten)
  refine ⟨hfree, hvalue, ?_, hbehind⟩
  have hinRemainder : front <:+: remainder := by
    have hfront : front <:+: inValue := by
      rw [(splitOnce_eq_some hsplit).1, List.append_assoc]
      exact (List.prefix_append front _).isInfix
    have htrim := trimNewlines_suffix remainder
    rw [hinValue] at htrim
    exact hfront.trans ((List.suffix_append _ inValue).trans htrim).isInfix
  exact hinRemainder.trans
    ((List.suffix_append _ _).trans
      ((List.suffix_append _ _).trans (List.suffix_append _ _))).isInfix

/-- Arguments that are all read from the beginning of their text have values that are read back. -/
theorem parseArguments_prefix (json : serde.Json) {callIndex : Nat} {entries : List (Text × V)}
    {texts : List Text} (encoded : EncodedArguments serde entries texts)
    (keys : ∀ entry ∈ entries, Free argumentKeyEndToken entry.1)
    {arguments result : SortedMap Text V} {input : Text} (hinput : input <+: texts.flatten)
    (h : parseArguments serde callIndex arguments input = .ok result)
    (hresult : result.entries = arguments.entries ++ entries) :
    ∀ entry ∈ entries, ∀ written, Written serde entry.2 written →
      Free argumentValueEndToken written ∧ parseValue serde written = entry.2 ∧
      written <:+: input := by
  induction encoded generalizing arguments input with
  | nil => exact fun entry hmem => (nomatch hmem)
  | @cons entry text entries texts hfirst hrest ih =>
      obtain ⟨key, value⟩ := entry
      obtain ⟨text, hwritten, rfl⟩ := (encodeArgument_eq_ok serde).mp hfirst
      obtain ⟨hkey, hkeys⟩ := List.forall_mem_cons.mp keys
      have hmem : (key, value) ∈ result.entries :=
        hresult ▸ List.mem_append_right _ List.mem_cons_self
      rcases parseArguments_eq_ok serde h with ⟨-, rfl⟩ | ⟨key', read, behind, hparsed, -, hbehind⟩
      · exact absurd (List.self_eq_append_right.mp hresult) (List.cons_ne_nil _ _)
      · rw [List.flatten_cons, argumentText_append] at hinput
        obtain ⟨rfl, hsame⟩ := parseArgument_prefix json hkey hwritten hinput hparsed
        have hread : read = value :=
          result.eq_of_mem
            (parseArguments_keeps serde hbehind _
              (self_mem_insertEntry key' read arguments.entries)) hmem
        subst hread
        obtain ⟨hfree, hvalue, hinfix, hnext⟩ := hsame rfl
        have hsorted := result.sorted
        rw [hresult, List.pairwise_append] at hsorted
        have hentries : result.entries = (arguments.insert key' read).entries ++ entries := by
          change result.entries = insertEntry key' read arguments.entries ++ entries
          rw [insertEntry_last read fun entry hmem => hsorted.2.2 entry hmem _ List.mem_cons_self,
            hresult, List.append_assoc]
          rfl
        have hlater :=
          ih hkeys (trimNewlines_behind_newline hnext (opens_arguments serde hrest))
            hbehind hentries
        have hsuffix := (trimNewlines_suffix behind).trans (parseArgument_suffix serde hparsed)
        refine List.forall_mem_cons.mpr ⟨?_, ?_⟩
        · intro other hother
          obtain rfl := hother.unique hwritten
          exact ⟨hfree, hvalue, hinfix⟩
        · intro entry hmem written hwritten
          obtain ⟨hfree, hvalue, hinfix⟩ := hlater entry hmem written hwritten
          exact ⟨hfree, hvalue, hinfix.trans hsuffix.isInfix⟩

/-- A call read from the beginning of a written one, if it is the same, has values that are read
back. -/
theorem parseToolCall_prefix (json : serde.Json) {callIndex : Nat} {call : ToolCall V}
    (spelled : SpelledCall call) {text : Text} (written : WrittenCall serde call text)
    {input rest behind : Text} (hinput : input <+: text ++ rest)
    (h : parseToolCall serde callIndex input = .ok (call, behind)) :
    (∀ argument ∈ call.arguments.entries, ∀ written, Written serde argument.2 written →
      Free argumentValueEndToken written ∧
      Free toolCallEndToken written ∧ parseValue serde written = argument.2 ∧ written <:+: input) ∧
      behind <+: "\n".toList ++ rest := by
  obtain ⟨-, texts, htexts, rfl⟩ := written
  obtain ⟨remainder, arguments, rfl, hname, -, hsplit, hmap⟩ := parseToolCall_eq_ok serde h
  rw [callText_append] at hinput
  have hafterName := (List.prefix_append_right_inj _).mp hinput
  obtain ⟨-, hremainder⟩ := splitOnce_prefix hafterName
    (by rw [← List.append_assoc]; exact toolSeparator_marker.splitOnce_append hname remainder)
    (by rw [← List.append_assoc]; exact toolSeparator_marker.splitOnce_append hname _)
  rw [← List.append_assoc "\n".toList] at hremainder
  have hends := toolCallEnd_marker.splitOnce_beginning hremainder hsplit
  have harguments : arguments <+: "\n".toList ++ texts.flatten := by
    rcases hends with ⟨-, rfl, -⟩ | ⟨more, hmore⟩
    · exact List.prefix_rfl
    · rw [hmore, List.append_assoc]
      exact List.prefix_append _ _
  have hvalues := parseArguments_prefix json htexts (fun entry hmem => (spelled.key entry hmem).2.1)
    (trimNewlines_behind_newline harguments (opens_arguments serde htexts)) hmap rfl
  have hstable : ∀ argument ∈ call.arguments.entries, ∀ written, Written serde argument.2 written →
      Free argumentValueEndToken written ∧ Free toolCallEndToken written ∧
        parseValue serde written = argument.2 ∧
        written <:+: arguments := by
    intro argument hmem written hwritten
    obtain ⟨hfree, hvalue, hinfix⟩ := hvalues argument hmem written hwritten
    have hinArguments := hinfix.trans (trimNewlines_suffix arguments).isInfix
    exact ⟨hfree, (free_of_splitOnce toolCallEnd_marker.ne_nil hsplit).within hinArguments, hvalue,
      hinArguments⟩
  have hinInput : arguments <:+: toolCallBeginToken ++
      (call.name ++ (toolSeparatorToken ++ remainder)) := by
    rw [(splitOnce_eq_some hsplit).1, List.append_assoc]
    exact (List.prefix_append arguments _).isInfix.trans
      ((List.suffix_append _ _).trans
        ((List.suffix_append _ _).trans (List.suffix_append _ _))).isInfix
  constructor
  · intro argument hmem written hwritten
    obtain ⟨hfree, hfreeCall, hvalue, hinfix⟩ := hstable argument hmem written hwritten
    exact ⟨hfree, hfreeCall, hvalue, hinfix.trans hinInput⟩
  · have hfree : Free toolCallEndToken ("\n".toList ++ texts.flatten) := by
      rw [toolCallEnd_marker.free_append_iff (opens_arguments serde htexts)]
      refine ⟨newline_free toolCallEnd_marker,
        free_arguments serde toolCallEnd_marker (by decide) htexts ?_⟩
      intro argument hmem
      exact ⟨(spelled.key argument hmem).2.2.1, fun written hwritten =>
        (hstable argument hmem written hwritten).2.1⟩
    rcases hends with ⟨-, -, hbehind⟩ | ⟨more, hmore⟩
    · exact hbehind
    · refine absurd ?_ (hmore ▸ hfree)
      exact (List.suffix_append arguments _).isInfix.trans (List.prefix_append _ more).isInfix

theorem parseToolCalls_prefix (json : serde.Json) {toolCalls : List (ToolCall V)}
    {texts : List Text} (written : List.Forall₂ (WrittenCall serde) toolCalls texts)
    (spelled : ∀ call ∈ toolCalls, SpelledCall call) {calls : List (ToolCall V)} {input : Text}
    (hinput : input <+: texts.flatten)
    (h : parseToolCalls serde calls input = .ok (calls ++ toolCalls)) :
    ∀ call ∈ toolCalls, ∀ argument ∈ call.arguments.entries, ∀ written,
      Written serde argument.2 written →
      Free argumentValueEndToken written ∧ Free toolCallEndToken written ∧
      parseValue serde written = argument.2 ∧
        written <:+: input := by
  induction written generalizing calls input with
  | nil => exact fun call hmem => (nomatch hmem)
  | @cons call text toolCalls texts hfirst hrest ih =>
      obtain ⟨hcall, hcalls⟩ := List.forall_mem_cons.mp spelled
      rcases parseToolCalls_eq_ok serde h with ⟨-, hend⟩ | ⟨parsed, behind, hparsed, hbehind⟩
      · exact absurd (List.self_eq_append_right.mp hend.symm) (List.cons_ne_nil _ _)
      · have hkept := parseToolCalls_keeps serde hbehind
        rw [List.prefix_append_right_inj, List.cons_prefix_cons] at hkept
        obtain rfl := hkept.1
        obtain ⟨hvalues, hnext⟩ := parseToolCall_prefix json hcall hfirst hinput hparsed
        have hlater := ih hcalls (trimNewlines_behind_newline hnext (opens_calls serde hrest))
          (hbehind.trans (congrArg Except.ok (List.append_cons calls parsed toolCalls)))
        have hsuffix := (trimNewlines_suffix behind).trans (parseToolCall_suffix serde hparsed)
        refine List.forall_mem_cons.mpr ⟨hvalues, ?_⟩
        intro call hmem argument hargument written hwritten
        obtain ⟨hfree, hfreeCall, hvalue, hinfix⟩ :=
          hlater call hmem argument hargument written hwritten
        exact ⟨hfree, hfreeCall, hvalue, hinfix.trans hsuffix.isInfix⟩

/-- A message whose calls are all read from its text has values that are read back. -/
theorem parse_rendered_stable (json : serde.Json) {content reasoning text : Text}
    {toolCalls : List (ToolCall V)} (hcontent : Free toolCallsBeginToken content)
    (hreasoning : Free thinkEndToken reasoning) (spelled : ∀ call ∈ toolCalls, SpelledCall call)
    (h : renderAssistant serde content reasoning toolCalls = .ok text) {effort : ReasoningEffort}
    {echo : AssistantOutput V} (parsed : parseAssistantOutput serde text effort = .ok echo)
    (hcalls : echo.toolCalls = toolCalls) : ∀ call ∈ toolCalls, ∀ argument ∈ call.arguments.entries,
      StableValue serde argument.2 := by
  unfold renderAssistant at h
  dsimp only at h
  by_cases hempty : toolCalls = []
  · subst hempty
    exact fun call hmem => (nomatch hmem)
  · rw [if_neg hempty] at h
    obtain ⟨texts, hwritten, rfl⟩ := (appendToolCalls_eq_ok serde).mp h
    rw [parse_enveloped serde hcontent hreasoning] at parsed
    obtain ⟨⟨calls, tail⟩, hend, parsed⟩ := except_bind_ok_iff.mp parsed
    obtain ⟨_, -, parsed⟩ := except_bind_ok_iff.mp parsed
    obtain ⟨toolCalls', hread, parsed⟩ := except_bind_ok_iff.mp parsed
    cases parsed
    cases hcalls
    have hsplit := okOr_eq_ok.mp hend
    have hbeginning : calls <+: "\n".toList ++ texts.flatten := by
      have hwhole : "\n".toList ++ (texts.flatten ++ (toolCallsEndToken ++ [])) <+:
          "\n".toList ++ texts.flatten ++ (toolCallsEndToken ++ []) := by
        rw [List.append_assoc]
      rcases toolCallsEnd_marker.splitOnce_beginning hwhole hsplit with ⟨-, rfl, -⟩ | ⟨more, hmore⟩
      · exact List.prefix_rfl
      · rw [hmore, List.append_assoc]
        exact List.prefix_append _ _
    have hvalues := parseToolCalls_prefix json hwritten spelled
      (trimNewlines_behind_newline hbeginning (opens_calls serde hwritten)) hread
    intro call hmem argument hargument written hwritten
    obtain ⟨hfree, hfreeCall, hvalue, hinfix⟩ :=
      hvalues call hmem argument hargument written hwritten
    have hinCalls := hinfix.trans (trimNewlines_suffix calls).isInfix
    exact ⟨hfree, hfreeCall,
      (free_of_splitOnce toolCallsEnd_marker.ne_nil hsplit).within hinCalls, hvalue⟩

theorem SpelledCall.readable {call : ToolCall V} (h : SpelledCall call)
    (stable : ∀ argument ∈ call.arguments.entries, StableValue serde argument.2) :
    ReadableCall serde call where
  nonempty := h.nonempty
  name := h.name
  nameInCalls := h.nameInCalls
  arguments argument hmem := by
    obtain ⟨hnonempty, hkey, hkeyInCall, hkeyInCalls⟩ := h.key argument hmem
    exact ⟨hnonempty, hkey, hkeyInCall, hkeyInCalls, stable argument hmem⟩

theorem encodeArguments_total (json : serde.Json) (entries : List (Text × V)) :
    ∃ texts, EncodedArguments serde entries texts := by
  induction entries with
  | nil => exact ⟨[], .nil⟩
  | cons entry entries ih =>
      obtain ⟨texts, htexts⟩ := ih
      obtain ⟨written, hwritten⟩ := json.written entry.2
      exact ⟨_ :: texts, .cons ((encodeArgument_eq_ok serde).mpr ⟨written, hwritten, rfl⟩) htexts⟩

/-- Calls with names can be rendered. -/
theorem renderAssistant_total (json : serde.Json) (content reasoning : Text)
    {toolCalls : List (ToolCall V)}
    (named : ∀ call ∈ toolCalls, call.name ≠ []) :
    ∃ text, renderAssistant serde content reasoning toolCalls = .ok text := by
  have hcalls : ∃ texts, List.Forall₂ (WrittenCall serde) toolCalls texts := by
    induction toolCalls with
    | nil => exact ⟨[], .nil⟩
    | cons call toolCalls ih =>
        obtain ⟨hname, hnames⟩ := List.forall_mem_cons.mp named
        obtain ⟨texts, htexts⟩ := ih hnames
        obtain ⟨arguments, harguments⟩ := encodeArguments_total json call.arguments.entries
        exact ⟨_ :: texts, .cons ⟨hname, arguments, harguments, rfl⟩ htexts⟩
  obtain ⟨texts, htexts⟩ := hcalls
  unfold renderAssistant
  dsimp only
  by_cases hempty : toolCalls = []
  · exact ⟨_, if_pos hempty⟩
  · rw [if_neg hempty]
    exact ⟨_, (appendToolCalls_eq_ok serde).mpr ⟨texts, htexts, rfl⟩⟩

/-- The same reply, an absent reasoning being an empty one. -/
def AssistantOutput.Same (out echo : AssistantOutput V) : Prop :=
  echo.content = out.content ∧ echo.reasoning.getD [] = out.reasoning.getD [] ∧
    echo.toolCalls = out.toolCalls

/-- A reply that is rendered with its reasoning as history is parsed into the same reply exactly
when its values are stable: each is read back from its text, which contains none of the markers
behind it. -/
theorem parse_echoed_iff (json : serde.Json) {raw : Text} {effort : ReasoningEffort}
    {out : AssistantOutput V} (parsed : parseAssistantOutput serde raw effort = .ok out)
    {options : ChatTemplateOptions V} {count index : Nat} {lastUser : Option Nat}
    {preserveThinking : Bool}
    (included : (options.isTraining || preserveThinking || lastUser.any fun last =>
      decide (last < index)) = true)
    (shown : out.toolCalls ≠ [] ∨ (index + 1 == count && options.rawLastAssistant) = false)
    (state : FormatState) :
    (∃ state' text echo,
      formatMessage serde options count lastUser preserveThinking index
        (.assistant out.content out.reasoning out.toolCalls) state = .ok state' ∧
      state'.output = (closeToolResponsesIfNeeded state).output ++ assistantToken ++ text ++
        (if out.toolCalls = [] ∧ (index + 1 == count) = true ∧ options.isTraining = false then []
        else eosToken) ∧
      parseAssistantOutput serde text effort = .ok echo ∧ out.Same echo) ↔
    ∀ call ∈ out.toolCalls, ∀ argument ∈ call.arguments.entries, StableValue serde argument.2 := by
  obtain ⟨hcontent, hreasoning, hspelled⟩ := parse_spelled serde parsed
  unfold formatMessage
  dsimp only
  rw [included, formatAssistant_included serde shown]
  constructor
  · rintro ⟨state', text, echo, hformat, houtput, hecho, -, -, hcalls⟩
    obtain ⟨rendered, hrendered, rfl⟩ := except_map_ok_iff.mp hformat
    have htext : rendered = text := by
      dsimp only at houtput
      exact List.append_cancel_left (List.append_cancel_right houtput)
    subst htext
    exact parse_rendered_stable json hcontent hreasoning hspelled hrendered hecho hcalls
  · intro stable
    obtain ⟨text, htext⟩ := renderAssistant_total json out.content (out.reasoning.getD [])
      fun call hmem => (hspelled call hmem).nonempty
    have hreadable : ReadableMessage serde out.content (out.reasoning.getD []) out.toolCalls :=
      ⟨hcontent, hreasoning, fun call hmem => (hspelled call hmem).readable (stable call hmem)⟩
    refine ⟨_, text, _, except_map_ok_iff.mpr ⟨text, htext, rfl⟩, rfl,
      parse_rendered serde hreadable htext effort, rfl, rfl, rfl⟩

end Echo

/-! ### A string that is a number -/

theorem smallSerde_json : smallSerde.Json where
  inverts value := ⟨value.toText, rfl, value.fromText_toText⟩
  quoted text string h := by
    change SmallJson.fromText text = some (.string string) at h
    unfold SmallJson.fromText at h
    split at h
    · cases h
    · split at h
      · rename_i hquoted
        cases h
        obtain ⟨rest, rfl⟩ := List.head?_eq_some_iff.mp hquoted.1
        simp only [List.tail_cons, List.length_dropLast, List.length_cons]
        omega
      · cases h
  cut value front rest hnone htext := by
    cases value with
    | string text => cases hnone
    | number digits =>
        have hdigits : digits.1 = front ++ '<' :: rest := Except.ok.inj htext
        have hall :=
          List.all_eq_true.mp digits.2.2 '<'
            (hdigits ▸ List.mem_append_right front List.mem_cons_self)
        exact absurd hall (by decide)

/-- A call with one argument, as the model writes it. -/
def spokenCall (value : Text) : Text :=
  callText "search".toList (argumentText "query".toList value []) []

def spokenReply (value : Text) : Text :=
  toolCallsBeginToken ++ (spokenCall value ++ (toolCallsEndToken ++ []))

def searchCall (query : SmallJson) : ToolCall SmallJson where
  name := "search".toList
  arguments := ⟨[("query".toList, query)], List.pairwise_singleton _ _⟩

def searchReply (query : SmallJson) : AssistantOutput SmallJson where
  content := []
  reasoning := none
  toolCalls := [searchCall query]

theorem parse_spokenReply {value : Text} (h : '<' ∉ value) :
    parseAssistantOutput smallSerde (spokenReply value) .noThink =
      .ok (searchReply (parseValue smallSerde value)) := by
  have hquery : '<' ∉ "query".toList := by decide
  have hsearch : '<' ∉ "search".toList := by decide
  have hnone : stripPrefix thinkBeginToken (spokenReply value) = none := by
    rw [Option.eq_none_iff_forall_ne_some]
    intro rest hrest
    have hpre : thinkBeginToken <+: toolCallsBeginToken ++
        (spokenCall value ++ (toolCallsEndToken ++ [])) :=
      ⟨rest, (stripPrefix_eq_some_iff.mp hrest).symm⟩
    exact absurd (thinkBegin_marker.eq_of_prefix_append toolCallsBegin_marker hpre) (by decide)
  have hsplit : splitOnce toolCallsBeginToken (spokenReply value) =
      some ([], spokenCall value ++ (toolCallsEndToken ++ [])) :=
    toolCallsBegin_marker.splitOnce_append (.nil toolCallsBegin_marker.ne_nil) _
  have hopens : Opens (argumentText "query".toList value []) :=
    opens_marker argumentKeyBegin_marker _
  have hfree : Free toolCallsEndToken (spokenCall value) := by
    unfold spokenCall
    rw [free_callText_iff toolCallsEnd_marker hopens (Or.inl rfl) (by decide),
      free_argumentText_iff toolCallsEnd_marker (Or.inl rfl) (by decide)]
    exact ⟨toolCallsEnd_marker.free_of_not_mem hsearch, ⟨toolCallsEnd_marker.free_of_not_mem hquery,
      toolCallsEnd_marker.free_of_not_mem h, .nil toolCallsEnd_marker.ne_nil⟩,
      .nil toolCallsEnd_marker.ne_nil⟩
  have hfreeCall : Free toolCallEndToken ("\n".toList ++ argumentText "query".toList value []) := by
    rw [toolCallEnd_marker.free_append_iff hopens,
      free_argumentText_iff toolCallEnd_marker (Or.inl rfl) (by decide)]
    exact ⟨newline_free toolCallEnd_marker, toolCallEnd_marker.free_of_not_mem hquery,
      toolCallEnd_marker.free_of_not_mem h, .nil toolCallEnd_marker.ne_nil⟩
  have harguments : parseArguments smallSerde 0 .empty
      (trimNewlines (argumentText "query".toList value [])) =
      .ok (searchCall (parseValue smallSerde value)).arguments := by
    rw [trimNewlines_of_opens hopens,
      parseArguments_step smallSerde (parseArgument_text smallSerde 0 [] (by decide)
      (argumentKeyEnd_marker.free_of_not_mem hquery)
      (argumentValueEnd_marker.free_of_not_mem h)) rfl]
    exact parseArguments_nil smallSerde 0 _
  have hcalls : parseToolCalls smallSerde [] (spokenCall value) =
      .ok [searchCall (parseValue smallSerde value)] := by
    have hcall : parseToolCall smallSerde ([] : List (ToolCall SmallJson)).length
        (spokenCall value) = .ok (searchCall (parseValue smallSerde value), "\n".toList ++ []) :=
      parseToolCall_text smallSerde 0 [] (by decide) (toolSeparator_marker.free_of_not_mem hsearch)
        hfreeCall harguments
    exact (parseToolCalls_step smallSerde hcall).trans (parseToolCalls_nil smallSerde _)
  have htrim : trimNewlines (spokenCall value) = spokenCall value :=
    trimNewlines_of_opens (opens_marker toolCallBegin_marker _)
  unfold parseAssistantOutput splitReasoning
  rw [if_neg (fun hne => hne rfl), hnone]
  dsimp only [Option.bind_none]
  rw [hsplit]
  dsimp only
  rw [expectOnce_append toolCallsEnd_marker hfree, except_ok_bind]
  dsimp only
  rw [htrim, hcalls]
  rfl

theorem stableValue_small {value : SmallJson} (h : '<' ∉ value.asString.getD value.toText)
    (hvalue : parseValue smallSerde (value.asString.getD value.toText) = value) :
    StableValue smallSerde value := by
  intro written hwritten
  cases smallSerde_written hwritten
  exact ⟨argumentValueEnd_marker.free_of_not_mem h, toolCallEnd_marker.free_of_not_mem h,
    toolCallsEnd_marker.free_of_not_mem h, hvalue⟩

def five : SmallJson := .number ⟨"5".toList, by decide⟩

/-- The model quotes a number: the string is rendered without its quotes and parsed into the number.
-/
theorem echo_unstable : smallSerde.Json ∧
    parseAssistantOutput smallSerde (spokenReply "\"5\"".toList) .noThink =
      .ok (searchReply (.string "5".toList)) ∧
    ∃ state' text echo,
      formatMessage smallSerde quietOptions 2 (some 0) false 1
        (.assistant [] none [searchCall (.string "5".toList)])
        ⟨userToken, false, true, false⟩ = .ok state' ∧
      state'.output = userToken ++ assistantToken ++ text ++ eosToken ∧
      parseAssistantOutput smallSerde text .noThink = .ok echo ∧
      echo.toolCalls = [searchCall five] ∧
      ¬ (searchReply (.string "5".toList)).Same echo := by
  have hfive : parseAssistantOutput smallSerde (spokenReply "5".toList) .noThink =
      .ok (searchReply five) :=
    parse_spokenReply (by decide)
  have hquoted : parseAssistantOutput smallSerde (spokenReply "\"5\"".toList) .noThink =
      .ok (searchReply (.string "5".toList)) :=
    parse_spokenReply (by decide)
  have hreadable : ReadableMessage smallSerde [] [] [searchCall five] := by
    obtain ⟨hcontent, hreasoning, hspelled⟩ := parse_spelled smallSerde hfive
    refine ⟨hcontent, hreasoning, fun call hmem => (hspelled call hmem).readable ?_⟩
    cases List.mem_singleton.mp hmem
    exact List.forall_mem_singleton.mpr (stableValue_small (by decide) (by decide))
  obtain ⟨text, htext⟩ :=
    renderAssistant_total smallSerde_json [] [] (List.forall_mem_singleton.mpr (by decide) :
    ∀ call ∈ [searchCall five], call.name ≠ [])
  -- both values are written as a digit
  have hsame : renderAssistant smallSerde [] [] [searchCall (.string "5".toList)] =
      .ok text := htext
  have hformat : formatMessage smallSerde quietOptions 2 (some 0) false 1
      (.assistant [] none [searchCall (.string "5".toList)])
      ⟨userToken, false, true, false⟩ =
        .ok ⟨userToken ++ assistantToken ++ text ++ eosToken, false, true, true⟩ := by
    unfold formatMessage
    dsimp only
    exact (formatAssistant_included smallSerde (Or.inl (List.cons_ne_nil _ _)) _).trans
      (except_map_ok_iff.mpr ⟨text, hsame, rfl⟩)
  refine ⟨smallSerde_json, hquoted, _, text, _, hformat, rfl,
    parse_rendered smallSerde hreadable htext .noThink, rfl, ?_⟩
  rintro ⟨-, -, hcalls⟩
  exact absurd (congrArg (fun calls => calls.map fun call => call.arguments.entries) hcalls)
    (by decide)

/-- The same call with a text that is no JSON. -/
theorem parse_echoed_rust : ∃ state' text echo,
    formatMessage smallSerde quietOptions 2 (some 0) false 1
      (.assistant [] none [searchCall (.string "rust".toList)])
      ⟨userToken, false, true, false⟩ = .ok state' ∧
    state'.output = userToken ++ assistantToken ++ text ++ eosToken ∧
    parseAssistantOutput smallSerde text .noThink = .ok echo ∧
      (searchReply (.string "rust".toList)).Same echo := by
  have hstable : ∀ call ∈ (searchReply (.string "rust".toList)).toolCalls,
      ∀ argument ∈ call.arguments.entries,
      StableValue smallSerde argument.2 := by
    exact List.forall_mem_singleton.mpr
      (List.forall_mem_singleton.mpr (stableValue_small (by decide) (by decide)))
  have hparsed : parseAssistantOutput smallSerde (spokenReply "rust".toList) .noThink =
      .ok (searchReply (.string "rust".toList)) :=
    parse_spokenReply (by decide)
  exact (parse_echoed_iff smallSerde_json hparsed rfl (Or.inl (List.cons_ne_nil _ _)) _).mpr hstable

end LightBridge.Tokenizer
