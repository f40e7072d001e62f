import LightBridge.Foundation.Markers
import LightBridge.Tokenizer.Assistant

/-! An assistant message as the chat formatter writes it and as the parser reads it. -/
namespace LightBridge.Tokenizer
open Foundation

/-! ### The markers -/

abbrev ProtocolMarker (marker : Text) : Prop := Marker '<' '>' marker

theorem thinkBegin_marker : ProtocolMarker thinkBeginToken := by decide
theorem thinkEnd_marker : ProtocolMarker thinkEndToken := by decide
theorem toolCallsBegin_marker : ProtocolMarker toolCallsBeginToken := by decide
theorem toolCallsEnd_marker : ProtocolMarker toolCallsEndToken := by decide
theorem toolCallBegin_marker : ProtocolMarker toolCallBeginToken := by decide
theorem toolCallEnd_marker : ProtocolMarker toolCallEndToken := by decide
theorem toolSeparator_marker : ProtocolMarker toolSeparatorToken := by decide
theorem argumentKeyBegin_marker : ProtocolMarker argumentKeyBeginToken := by decide
theorem argumentKeyEnd_marker : ProtocolMarker argumentKeyEndToken := by decide
theorem argumentValueBegin_marker : ProtocolMarker argumentValueBeginToken := by decide
theorem argumentValueEnd_marker : ProtocolMarker argumentValueEndToken := by decide

theorem newline_free {marker : Text} (h : ProtocolMarker marker) : Free marker "\n".toList :=
  h.free_of_not_mem (by decide)

/-- Nothing, or a marker and what follows it. -/
def Opens (text : Text) : Prop := text = [] ∨ text.head? = some '<'

theorem opens_marker {marker : Text} (h : ProtocolMarker marker) (rest : Text) :
    Opens (marker ++ rest) :=
  Or.inr (h.head_append rest)

theorem trimNewlines_of_opens {text : Text} (h : Opens text) : trimNewlines text = text := by
  rcases h with rfl | h
  · rfl
  · obtain ⟨rest, rfl⟩ := List.head?_eq_some_iff.mp h
    rfl

theorem trimNewlines_newline (text : Text) :
    trimNewlines ("\n".toList ++ text) = trimNewlines text := rfl

/-! ### What is written -/

section Write
variable {V : Type} (serde : Serde V)

/-- The text of an argument value: a string as it is, any other value as JSON. -/
def Written (value : V) (text : Text) : Prop :=
  serde.asString value = some text ∨ serde.asString value = none ∧ serde.toText value = .ok text

/-- The text of an argument, in front of what follows it. -/
def argumentText (key value rest : Text) : Text :=
  argumentKeyBeginToken ++
    (key ++ (argumentKeyEndToken ++ ("\n".toList ++ (argumentValueBeginToken ++ (value ++
    (argumentValueEndToken ++ ("\n".toList ++ rest)))))))

/-- The text of a tool call, in front of what follows it. -/
def callText (name arguments rest : Text) : Text :=
  toolCallBeginToken ++
    (name ++ (toolSeparatorToken ++
      ("\n".toList ++ (arguments ++ (toolCallEndToken ++ ("\n".toList ++ rest))))))

theorem encodeArgument_eq_ok {key text : Text} {value : V} :
    encodeArgument serde (key, value) = .ok text ↔ ∃ written, Written serde value written ∧
      text = argumentText key written [] := by
  unfold encodeArgument Written
  dsimp only
  have htext : ∀ written, argumentKeyBeginToken ++ key ++ argumentKeyEndToken ++ "\n".toList ++
      argumentValueBeginToken ++ written ++
      argumentValueEndToken ++ "\n".toList = argumentText key written [] := by
    intro written
    simp only [argumentText, List.append_assoc, List.append_nil]
  cases hstring : serde.asString value with
  | some string =>
      dsimp only
      rw [except_ok_bind, htext]
      constructor
      · intro h
        cases h
        exact ⟨string, Or.inl rfl, rfl⟩
      · rintro ⟨_, h | h, rfl⟩
        · cases h
          rfl
        · cases h.1
  | none =>
      dsimp only
      rw [except_bind_ok_iff]
      constructor
      · rintro ⟨written, hwritten, h⟩
        rw [htext] at h
        cases h
        exact ⟨written, Or.inr ⟨rfl, wrap_eq_ok.mp hwritten⟩, rfl⟩
      · rintro ⟨written, h | h, rfl⟩
        · cases h
        · refine ⟨written, wrap_eq_ok.mpr h.2, ?_⟩
          rw [htext]
          rfl

/-- A marker that is none of an argument's own lies in its key, in its value or behind it. -/
theorem free_argumentText_iff {marker key value rest : Text} (h : ProtocolMarker marker)
    (hrest : Opens rest)
    (hne : marker ≠ argumentKeyBeginToken ∧ marker ≠ argumentKeyEndToken ∧
      marker ≠ argumentValueBeginToken ∧
      marker ≠ argumentValueEndToken) :
    Free marker (argumentText key value rest) ↔ Free marker key ∧ Free marker value ∧
      Free marker rest := by
  obtain ⟨hkeyBegin, hkeyEnd, hvalueBegin, hvalueEnd⟩ := hne
  unfold argumentText
  rw [h.free_marker_append_iff argumentKeyBegin_marker hkeyBegin,
    h.free_append_iff (opens_marker argumentKeyEnd_marker _),
    h.free_marker_append_iff argumentKeyEnd_marker hkeyEnd,
    h.free_append_iff (opens_marker argumentValueBegin_marker _),
    h.free_marker_append_iff argumentValueBegin_marker hvalueBegin,
    h.free_append_iff (opens_marker argumentValueEnd_marker _),
    h.free_marker_append_iff argumentValueEnd_marker hvalueEnd, h.free_append_iff hrest,
    and_iff_right (newline_free h), and_iff_right (newline_free h)]

theorem free_callText_iff {marker name arguments rest : Text} (h : ProtocolMarker marker)
    (harguments : Opens arguments) (hrest : Opens rest)
    (hne : marker ≠ toolCallBeginToken ∧ marker ≠ toolSeparatorToken ∧ marker ≠ toolCallEndToken) :
    Free marker (callText name arguments rest) ↔ Free marker name ∧ Free marker arguments ∧
      Free marker rest := by
  obtain ⟨hbegin, hseparator, hend⟩ := hne
  have hbehind : Opens (arguments ++ (toolCallEndToken ++ ("\n".toList ++ rest))) := by
    rcases harguments with rfl | hopens
    · exact opens_marker toolCallEnd_marker _
    · exact Or.inr (by rw [List.head?_append, hopens]; rfl)
  unfold callText
  rw [h.free_marker_append_iff toolCallBegin_marker hbegin,
    h.free_append_iff (opens_marker toolSeparator_marker _),
    h.free_marker_append_iff toolSeparator_marker hseparator, h.free_append_iff hbehind,
    h.free_append_iff (opens_marker toolCallEnd_marker _),
    h.free_marker_append_iff toolCallEnd_marker hend, h.free_append_iff hrest,
    and_iff_right (newline_free h), and_iff_right (newline_free h)]

/-! ### What is read -/

theorem expect_append (marker rest : Text) : expect marker (marker ++ rest) = .ok rest :=
  expect_eq_ok.mpr rfl

theorem expectOnce_append {marker front : Text} (h : ProtocolMarker marker)
    (free : Free marker front) (rest : Text) :
    expectOnce marker (front ++ (marker ++ rest)) = .ok (front, rest) := by
  unfold expectOnce
  rw [← List.append_assoc, h.splitOnce_append free]
  rfl

theorem parseArgument_text (callIndex : Nat) {key value : Text} (rest : Text) (nonempty : key ≠ [])
    (hkey : Free argumentKeyEndToken key) (hvalue : Free argumentValueEndToken value) :
    parseArgument serde callIndex (argumentText key value rest) =
      .ok ((key, parseValue serde value), "\n".toList ++ rest) := by
  unfold parseArgument argumentText
  rw [expect_append, except_ok_bind, expectOnce_append argumentKeyEnd_marker hkey, except_ok_bind]
  dsimp only
  rw [ensure, if_pos nonempty, except_ok_bind, trimNewlines_newline,
    trimNewlines_of_opens (opens_marker argumentValueBegin_marker _), expect_append, except_ok_bind,
    expectOnce_append argumentValueEnd_marker hvalue]
  rfl

theorem parseArguments_nil (callIndex : Nat) (arguments : SortedMap Text V) :
    parseArguments serde callIndex arguments [] = .ok arguments := by
  rw [parseArguments, if_pos rfl]

/-- One step of the loop over the arguments. -/
theorem parseArguments_step {callIndex : Nat} {arguments : SortedMap Text V}
    {input key rest : Text} {value : V}
    (h : parseArgument serde callIndex input = .ok ((key, value), rest))
    (fresh : arguments.contains key = false) :
    parseArguments serde callIndex arguments input =
      parseArguments serde callIndex (arguments.insert key value) (trimNewlines rest) := by
  have hne : input ≠ [] := by
    rintro rfl
    have := length_parseArgument serde h
    exact absurd this (Nat.not_lt_zero _)
  rw [parseArguments, if_neg hne]
  split
  · rename_i herror
    cases h.symm.trans herror
  · rename_i hparsed
    cases h.symm.trans hparsed
    rw [if_neg (Bool.eq_false_iff.mp fresh)]

/-- What a loop over the arguments that answers has done. -/
theorem parseArguments_eq_ok {callIndex : Nat} {arguments result : SortedMap Text V} {input : Text}
    (h : parseArguments serde callIndex arguments input = .ok result) :
    input = [] ∧ result = arguments ∨ ∃ key value rest,
      parseArgument serde callIndex input = .ok ((key, value), rest) ∧
      arguments.contains key = false ∧
      parseArguments serde callIndex (arguments.insert key value) (trimNewlines rest) =
        .ok result := by
  rw [parseArguments] at h
  split at h
  · rename_i hempty
    cases h
    exact Or.inl ⟨hempty, rfl⟩
  · split at h
    · cases h
    · rename_i key value rest hparsed
      split at h
      · cases h
      · rename_i hfresh
        exact Or.inr ⟨key, value, rest, hparsed, Bool.eq_false_iff.mpr hfresh, h⟩

/-- A key, and the text of its value, that are read as they were written. -/
structure ReadableArgument (argument : Text × V) : Prop where
  nonempty : argument.1 ≠ []
  key : Free argumentKeyEndToken argument.1
  keyInCall : Free toolCallEndToken argument.1
  keyInCalls : Free toolCallsEndToken argument.1
  value : ∀ written, Written serde argument.2 written → Free argumentValueEndToken written ∧
    Free toolCallEndToken written ∧
    Free toolCallsEndToken written ∧ parseValue serde written = argument.2

/-- Arguments as they are written one after another. -/
abbrev EncodedArguments (entries : List (Text × V)) (texts : List Text) : Prop :=
  List.Forall₂ (fun entry text => encodeArgument serde entry = .ok text) entries texts

theorem argumentText_append (key value rest : Text) :
    argumentText key value [] ++ rest = argumentText key value rest := by
  simp only [argumentText, List.append_assoc, List.append_nil]

theorem opens_arguments {entries : List (Text × V)} {texts : List Text}
    (h : EncodedArguments serde entries texts) :
    Opens texts.flatten := by
  cases h with
  | nil => exact Or.inl rfl
  | @cons entry text entries texts hfirst hrest =>
      obtain ⟨written, -, rfl⟩ := (encodeArgument_eq_ok serde).mp hfirst
      rw [List.flatten_cons, argumentText_append]
      exact opens_marker argumentKeyBegin_marker _

theorem free_arguments {marker : Text} (h : ProtocolMarker marker)
    (hne : marker ≠ argumentKeyBeginToken ∧
      marker ≠ argumentKeyEndToken ∧ marker ≠ argumentValueBeginToken ∧
        marker ≠ argumentValueEndToken)
    {entries : List (Text × V)} {texts : List Text} (encoded : EncodedArguments serde entries texts)
    (free : ∀ entry ∈ entries, Free marker entry.1 ∧ ∀ written, Written serde entry.2 written →
      Free marker written) :
    Free marker texts.flatten := by
  induction encoded with
  | nil => exact .nil h.ne_nil
  | @cons entry text entries texts hfirst hrest ih =>
      obtain ⟨written, hwritten, rfl⟩ := (encodeArgument_eq_ok serde).mp hfirst
      obtain ⟨hentry, hentries⟩ := List.forall_mem_cons.mp free
      rw [List.flatten_cons, argumentText_append,
        free_argumentText_iff h (opens_arguments serde hrest) hne]
      exact ⟨hentry.1, hentry.2 written hwritten, ih hentries⟩

/-- Arguments that are written in the order of their keys are read into the same map. -/
theorem parseArguments_encoded (callIndex : Nat) {entries : List (Text × V)} {texts : List Text}
    (encoded : EncodedArguments serde entries texts)
    (readable : ∀ entry ∈ entries, ReadableArgument serde entry)
    (arguments result : SortedMap Text V)
    (hresult : result.entries = arguments.entries ++ entries) :
    parseArguments serde callIndex arguments texts.flatten = .ok result := by
  induction encoded generalizing arguments with
  | nil =>
      rw [List.flatten_nil, parseArguments_nil]
      exact congrArg Except.ok (SortedMap.ext (hresult.trans (List.append_nil _)).symm)
  | @cons entry text entries texts hfirst hrest ih =>
      obtain ⟨key, value⟩ := entry
      obtain ⟨written, hwritten, rfl⟩ := (encodeArgument_eq_ok serde).mp hfirst
      obtain ⟨hentry, hentries⟩ := List.forall_mem_cons.mp readable
      obtain ⟨hend, -, -, hvalue⟩ := hentry.value written hwritten
      have hsorted := result.sorted
      rw [hresult, List.pairwise_append] at hsorted
      have hbelow : ∀ entry ∈ arguments.entries, entry.1 < key :=
        fun entry hmem => hsorted.2.2 entry hmem _ List.mem_cons_self
      have hfresh : arguments.contains key = false := by
        rw [← Bool.not_eq_true, SortedMap.contains_eq_true_iff]
        rintro ⟨other, hmem⟩
        exact lt_irrefl key (hbelow _ hmem)
      rw [List.flatten_cons, argumentText_append, parseArguments_step serde
        (parseArgument_text serde callIndex _ hentry.nonempty hentry.key hend) hfresh,
        trimNewlines_newline, trimNewlines_of_opens (opens_arguments serde hrest), hvalue]
      apply ih hentries
      change result.entries = insertEntry key value arguments.entries ++ entries
      rw [insertEntry_last value hbelow, hresult, List.append_assoc]
      rfl

/-! ### Tool calls -/

/-- A call as it is written. -/
def WrittenCall (call : ToolCall V) (text : Text) : Prop :=
  call.name ≠ [] ∧ ∃ texts, EncodedArguments serde call.arguments.entries texts ∧
    text = callText call.name texts.flatten []

theorem encodeToolCall_eq_ok {call : ToolCall V} {callIndex : Nat} {text : Text} :
    encodeToolCall serde call callIndex = .ok text ↔ WrittenCall serde call text := by
  have htext : ∀ texts : List Text,
      toolCallBeginToken ++ call.name ++ toolSeparatorToken ++ "\n".toList ++ texts.flatten ++
      toolCallEndToken ++ "\n".toList = callText call.name texts.flatten [] := by
    intro texts
    simp only [callText, List.append_assoc, List.append_nil]
  unfold encodeToolCall WrittenCall
  rw [except_bind_ok_iff]
  constructor
  · rintro ⟨_, hname, h⟩
    obtain ⟨texts, htexts, h⟩ := except_bind_ok_iff.mp h
    rw [htext] at h
    cases h
    exact ⟨ensure_eq_ok.mp hname, texts, except_mapM_ok_iff.mp htexts, rfl⟩
  · rintro ⟨hname, texts, htexts, rfl⟩
    refine ⟨(), ensure_eq_ok.mpr hname,
      except_bind_ok_iff.mpr ⟨texts, except_mapM_ok_iff.mpr htexts, ?_⟩⟩
    rw [htext]
    rfl

/-- The calls between their markers, behind the text in front of them. -/
theorem appendToolCalls_eq_ok {output text : Text} {toolCalls : List (ToolCall V)} :
    appendToolCalls serde output toolCalls = .ok text ↔ ∃ calls,
      List.Forall₂ (WrittenCall serde) toolCalls calls ∧
      text = output ++
      (toolCallsBeginToken ++ ("\n".toList ++ (calls.flatten ++ (toolCallsEndToken ++ [])))) := by
  have hcalls : ∀ calls : List Text,
      List.Forall₂ (fun (entry : ToolCall V × Nat) text =>
        encodeToolCall serde entry.1 entry.2 = .ok text)
        toolCalls.zipIdx calls ↔ List.Forall₂ (WrittenCall serde) toolCalls calls := by
    intro calls
    have hfst : toolCalls = toolCalls.zipIdx.map Prod.fst := (List.zipIdx_map_fst 0 toolCalls).symm
    conv_rhs => rw [hfst, List.forall₂_map_left_iff]
    simp only [encodeToolCall_eq_ok]
  unfold appendToolCalls
  rw [except_bind_ok_iff]
  constructor
  · rintro ⟨calls, hmapM, h⟩
    refine ⟨calls, (hcalls calls).mp (except_mapM_ok_iff.mp hmapM), ?_⟩
    cases h
    simp only [List.append_assoc, List.append_nil]
  · rintro ⟨calls, hwritten, rfl⟩
    refine ⟨calls, except_mapM_ok_iff.mpr ((hcalls calls).mpr hwritten), ?_⟩
    simp only [List.append_assoc, List.append_nil]
    rfl

/-- A call whose name and arguments are read as they were written. -/
structure ReadableCall (call : ToolCall V) : Prop where
  nonempty : call.name ≠ []
  name : Free toolSeparatorToken call.name
  nameInCalls : Free toolCallsEndToken call.name
  arguments : ∀ argument ∈ call.arguments.entries, ReadableArgument serde argument

theorem callText_append (name arguments rest : Text) :
    callText name arguments [] ++ rest = callText name arguments rest := by
  simp only [callText, List.append_assoc, List.append_nil]

/-- A call with the text of its arguments is read by their loop. -/
theorem parseToolCall_text (callIndex : Nat) {name arguments : Text} (rest : Text)
    {map : SortedMap Text V} (nonempty : name ≠ []) (hname : Free toolSeparatorToken name)
    (harguments : Free toolCallEndToken ("\n".toList ++ arguments))
    (hmap : parseArguments serde callIndex .empty (trimNewlines arguments) = .ok map) :
    parseToolCall serde callIndex (callText name arguments rest) =
      .ok ({ name, arguments := map }, "\n".toList ++ rest) := by
  unfold parseToolCall callText
  rw [expect_append, except_ok_bind, expectOnce_append toolSeparator_marker hname, except_ok_bind]
  dsimp only
  rw [ensure, if_pos nonempty, except_ok_bind, ← List.append_assoc "\n".toList,
    expectOnce_append toolCallEnd_marker harguments, except_ok_bind]
  dsimp only
  rw [trimNewlines_newline, hmap]
  rfl

theorem parseToolCall_written (callIndex : Nat) {call : ToolCall V}
    (readable : ReadableCall serde call) {text : Text} (written : WrittenCall serde call text)
    (rest : Text) :
    parseToolCall serde callIndex (text ++ rest) = .ok (call, "\n".toList ++ rest) := by
  obtain ⟨-, texts, htexts, rfl⟩ := written
  have hfree : Free toolCallEndToken ("\n".toList ++ texts.flatten) := by
    rw [toolCallEnd_marker.free_append_iff (opens_arguments serde htexts)]
    refine ⟨newline_free toolCallEnd_marker,
      free_arguments serde toolCallEnd_marker (by decide) htexts ?_⟩
    intro argument hmem
    have hargument := readable.arguments argument hmem
    exact ⟨hargument.keyInCall, fun written hwritten => (hargument.value written hwritten).2.1⟩
  have harguments : parseArguments serde callIndex .empty (trimNewlines texts.flatten) =
      .ok call.arguments := by
    rw [trimNewlines_of_opens (opens_arguments serde htexts)]
    exact parseArguments_encoded serde callIndex htexts readable.arguments .empty call.arguments rfl
  rw [callText_append]
  exact parseToolCall_text serde callIndex rest readable.nonempty readable.name hfree harguments

theorem parseToolCalls_nil (calls : List (ToolCall V)) :
    parseToolCalls serde calls [] = .ok calls := by
  rw [parseToolCalls, if_pos rfl]

theorem parseToolCalls_step {calls : List (ToolCall V)} {call : ToolCall V} {input rest : Text}
    (h : parseToolCall serde calls.length input = .ok (call, rest)) :
    parseToolCalls serde calls input =
      parseToolCalls serde (calls ++ [call]) (trimNewlines rest) := by
  have hne : input ≠ [] := by
    rintro rfl
    have := length_parseToolCall serde h
    exact absurd this (Nat.not_lt_zero _)
  rw [parseToolCalls, if_neg hne]
  split
  · rename_i herror
    cases h.symm.trans herror
  · rename_i hparsed
    cases h.symm.trans hparsed
    rfl

theorem opens_calls {toolCalls : List (ToolCall V)} {texts : List Text}
    (h : List.Forall₂ (WrittenCall serde) toolCalls texts) :
    Opens texts.flatten := by
  cases h with
  | nil => exact Or.inl rfl
  | @cons call text toolCalls texts hfirst hrest =>
      obtain ⟨-, arguments, -, rfl⟩ := hfirst
      rw [List.flatten_cons, callText_append]
      exact opens_marker toolCallBegin_marker _

/-- A marker that is none of a call's own lies in a name, in a key or in a value. -/
theorem free_callTexts {marker : Text} (h : ProtocolMarker marker)
    (hne : marker ≠ toolCallBeginToken ∧ marker ≠ toolSeparatorToken ∧ marker ≠ toolCallEndToken)
    (hneArgument : marker ≠ argumentKeyBeginToken ∧ marker ≠ argumentKeyEndToken ∧
      marker ≠ argumentValueBeginToken ∧
      marker ≠ argumentValueEndToken)
    {toolCalls : List (ToolCall V)} {texts : List Text}
    (written : List.Forall₂ (WrittenCall serde) toolCalls texts)
    (free : ∀ call ∈ toolCalls, Free marker call.name ∧ ∀ entry ∈ call.arguments.entries,
      Free marker entry.1 ∧ ∀ written, Written serde entry.2 written → Free marker written) :
    Free marker texts.flatten := by
  induction written with
  | nil => exact .nil h.ne_nil
  | @cons call text toolCalls texts hfirst hrest ih =>
      obtain ⟨-, arguments, harguments, rfl⟩ := hfirst
      obtain ⟨⟨hname, hentries⟩, hcalls⟩ := List.forall_mem_cons.mp free
      rw [List.flatten_cons, callText_append,
        free_callText_iff h (opens_arguments serde harguments) (opens_calls serde hrest) hne]
      exact ⟨hname, free_arguments serde h hneArgument harguments hentries, ih hcalls⟩

theorem free_calls {toolCalls : List (ToolCall V)} {texts : List Text}
    (written : List.Forall₂ (WrittenCall serde) toolCalls texts)
    (readable : ∀ call ∈ toolCalls, ReadableCall serde call) :
    Free toolCallsEndToken texts.flatten := by
  refine free_callTexts serde toolCallsEnd_marker (by decide) (by decide) written ?_
  intro call hcall
  have hreadable := readable call hcall
  refine ⟨hreadable.nameInCalls, fun argument hmem => ?_⟩
  have hargument := hreadable.arguments argument hmem
  exact ⟨hargument.keyInCalls, fun written hwritten => (hargument.value written hwritten).2.2.1⟩

theorem parseToolCalls_written {toolCalls : List (ToolCall V)} {texts : List Text}
    (written : List.Forall₂ (WrittenCall serde) toolCalls texts)
    (readable : ∀ call ∈ toolCalls, ReadableCall serde call)
    (calls : List (ToolCall V)) : parseToolCalls serde calls texts.flatten =
      .ok (calls ++ toolCalls) := by
  induction written generalizing calls with
  | nil => rw [List.flatten_nil, parseToolCalls_nil, List.append_nil]
  | @cons call text toolCalls texts hfirst hrest ih =>
      obtain ⟨hcall, hcalls⟩ := List.forall_mem_cons.mp readable
      rw [List.flatten_cons,
        parseToolCalls_step serde (parseToolCall_written serde _ hcall hfirst _),
        trimNewlines_newline, trimNewlines_of_opens (opens_calls serde hrest), ih hcalls,
        List.append_assoc, List.singleton_append]

/-! ### Messages -/

/-- An assistant message with its reasoning, less the marker in front and the end of the sequence.
-/
def renderAssistant (content reasoning : Text) (toolCalls : List (ToolCall V)) :
    Except ChatError Text :=
  let assistantContent := thinkBeginToken ++ reasoning ++ thinkEndToken ++ content
  if toolCalls = [] then .ok assistantContent else appendToolCalls serde assistantContent toolCalls

theorem appendToolCalls_append (front output : Text) (toolCalls : List (ToolCall V)) :
    appendToolCalls serde (front ++ output) toolCalls =
      (appendToolCalls serde output toolCalls).map (front ++ ·) := by
  unfold appendToolCalls
  generalize List.mapM (m := Except ChatError) _ toolCalls.zipIdx = encoded
  cases encoded with
  | error error => rfl
  | ok calls =>
      change Except.ok _ = Except.ok _
      simp only [List.append_assoc]

/-- What the formatter writes for an assistant message whose reasoning it includes. -/
theorem formatAssistant_included {options : ChatTemplateOptions V} {isLast : Bool} {content : Text}
    {reasoning : Option Text} {toolCalls : List (ToolCall V)}
    (shown : toolCalls ≠ [] ∨ (isLast && options.rawLastAssistant) = false) (state : FormatState) :
    formatAssistant serde options isLast true content reasoning toolCalls state =
      (renderAssistant serde content (reasoning.getD []) toolCalls).map fun text =>
        { closeToolResponsesIfNeeded state with
          output := (closeToolResponsesIfNeeded state).output ++ assistantToken ++ text ++
            (if toolCalls = [] ∧ isLast = true ∧ options.isTraining = false then [] else eosToken)
          previousWasTool := false
          lastIsAssistant := isLast } := by
  unfold formatAssistant renderAssistant
  dsimp only
  rw [if_pos rfl]
  by_cases hcalls : toolCalls = []
  · have hending : (if (!isLast || options.isTraining) = true then eosToken else []) =
        if toolCalls = [] ∧ isLast = true ∧ options.isTraining = false then [] else eosToken := by
      cases isLast with
      | false => simp
      | true => cases options.isTraining <;> simp [hcalls]
    rw [if_pos hcalls, if_pos hcalls, shown.resolve_left (not_not.mpr hcalls),
      if_neg Bool.false_ne_true, hending]
    rfl
  · rw [if_neg hcalls, if_neg hcalls, if_neg fun h => hcalls h.1, appendToolCalls_append]
    cases appendToolCalls serde (thinkBeginToken ++ reasoning.getD [] ++ thinkEndToken ++ content)
      toolCalls with
    | error error => rfl
    | ok text =>
        change Except.ok _ = Except.ok _
        simp only [List.append_assoc]

/-- A message that is read as it was written. -/
structure ReadableMessage (content reasoning : Text) (toolCalls : List (ToolCall V)) : Prop where
  content : Free toolCallsBeginToken content
  reasoning : Free thinkEndToken reasoning
  toolCalls : ∀ call ∈ toolCalls, ReadableCall serde call

theorem splitReasoning_thought {reasoning : Text} (free : Free thinkEndToken reasoning)
    (body : Text) (effort : ReasoningEffort) :
    splitReasoning (thinkBeginToken ++ (reasoning ++ (thinkEndToken ++ body))) effort =
      (some reasoning, body) := by
  have hstrip : stripPrefix thinkBeginToken
      (thinkBeginToken ++ (reasoning ++ (thinkEndToken ++ body))) =
      some (reasoning ++ (thinkEndToken ++ body)) := stripPrefix_eq_some_iff.mpr rfl
  have hsplit : splitOnce thinkEndToken (reasoning ++ (thinkEndToken ++ body)) =
      some (reasoning, body) := by
    rw [← List.append_assoc]
    exact thinkEnd_marker.splitOnce_append free body
  unfold splitReasoning
  rw [hstrip]
  split
  · dsimp only [Option.getD_some]
    rw [hsplit]
  · dsimp only [Option.bind_some]
    rw [hsplit]

/-- The calls behind a message that can be found again. -/
theorem parse_enveloped {content reasoning : Text} (hcontent : Free toolCallsBeginToken content)
    (hreasoning : Free thinkEndToken reasoning) (behind : Text) (effort : ReasoningEffort) :
    parseAssistantOutput serde (thinkBeginToken ++ reasoning ++ thinkEndToken ++ content ++
      (toolCallsBeginToken ++ behind)) effort =
      (do
        let (calls, tail) ← expectOnce toolCallsEndToken behind
        ensure (tail.all isNewline = true) .trailingToolText
        let toolCalls ← parseToolCalls serde [] (trimNewlines calls)
        pure { content, reasoning := some reasoning, toolCalls }) := by
  unfold parseAssistantOutput
  simp only [List.append_assoc]
  rw [splitReasoning_thought hreasoning]
  dsimp only
  rw [← List.append_assoc content, toolCallsBegin_marker.splitOnce_append hcontent]

theorem parse_rendered {content reasoning text : Text} {toolCalls : List (ToolCall V)}
    (readable : ReadableMessage serde content reasoning toolCalls)
    (h : renderAssistant serde content reasoning toolCalls = .ok text) (effort : ReasoningEffort) :
    parseAssistantOutput serde text effort =
      .ok { content, reasoning := some reasoning, toolCalls } := by
  unfold renderAssistant at h
  dsimp only at h
  by_cases hcalls : toolCalls = []
  · subst hcalls
    rw [if_pos rfl] at h
    cases h
    unfold parseAssistantOutput
    rw [List.append_assoc, List.append_assoc, splitReasoning_thought readable.reasoning]
    dsimp only
    rw [splitOnce_eq_none_iff.mpr readable.content]
  · rw [if_neg hcalls] at h
    obtain ⟨texts, hwritten, rfl⟩ := (appendToolCalls_eq_ok serde).mp h
    have hfree : Free toolCallsEndToken ("\n".toList ++ texts.flatten) := by
      rw [toolCallsEnd_marker.free_append_iff (opens_calls serde hwritten)]
      exact ⟨newline_free toolCallsEnd_marker, free_calls serde hwritten readable.toolCalls⟩
    rw [parse_enveloped serde readable.content readable.reasoning, ← List.append_assoc "\n".toList,
      expectOnce_append toolCallsEnd_marker hfree, except_ok_bind]
    dsimp only
    rw [trimNewlines_newline, trimNewlines_of_opens (opens_calls serde hwritten),
      parseToolCalls_written serde hwritten readable.toolCalls]
    rfl

def protocolMarkers : List Text :=
  [bosToken, eosToken, userToken, assistantToken, thinkBeginToken, thinkEndToken,
    toolCallsBeginToken, toolCallsEndToken, toolCallBeginToken, toolCallEndToken,
    toolSeparatorToken, argumentKeyBeginToken, argumentKeyEndToken, argumentValueBeginToken,
    argumentValueEndToken, toolResponsesBeginToken, toolResponsesEndToken, toolResponseBeginToken,
    toolResponseEndToken, reasoningModeToken]

/-- A text without protocol markers. -/
def Plain (text : Text) : Prop := ∀ marker ∈ protocolMarkers, Free marker text

theorem protocolMarker_of_mem : ∀ marker ∈ protocolMarkers, ProtocolMarker marker := by decide

theorem plain_of_not_mem {text : Text} (h : '<' ∉ text) : Plain text := fun marker hmem =>
  (protocolMarker_of_mem marker hmem).free_of_not_mem h

/-- A message without protocol markers, with names and keys, and with no string that is JSON. -/
structure PlainMessage (content reasoning : Text) (toolCalls : List (ToolCall V)) : Prop where
  content : Plain content
  reasoning : Plain reasoning
  name : ∀ call ∈ toolCalls, call.name ≠ [] ∧ Plain call.name
  key : ∀ call ∈ toolCalls, ∀ argument ∈ call.arguments.entries, argument.1 ≠ [] ∧ Plain argument.1
  value : ∀ call ∈ toolCalls, ∀ argument ∈ call.arguments.entries, ∀ written,
    Written serde argument.2 written → Plain written
  string : ∀ call ∈ toolCalls, ∀ argument ∈ call.arguments.entries, ∀ string,
    serde.asString argument.2 = some string →
    serde.fromText string = none

/-- A written value is read back, unless it is a string that is JSON. -/
theorem parseValue_written (inverts : ∀ value text, serde.toText value = .ok text →
      serde.fromText text = some value)
    {value : V} {written : Text} (h : Written serde value written)
    (string : ∀ string, serde.asString value = some string → serde.fromText string = none) :
    parseValue serde written = value := by
  unfold parseValue
  rcases h with hstring | ⟨-, htext⟩
  · rw [string written hstring, Option.getD_none]
    exact ((serde.asString_eq value written).mp hstring).symm
  · rw [inverts value written htext, Option.getD_some]

theorem PlainMessage.readable (inverts : ∀ value text, serde.toText value = .ok text →
      serde.fromText text = some value)
    {content reasoning : Text} {toolCalls : List (ToolCall V)}
    (h : PlainMessage serde content reasoning toolCalls) :
    ReadableMessage serde content reasoning toolCalls where
  content := h.content _ (by decide)
  reasoning := h.reasoning _ (by decide)
  toolCalls call hcall := by
    obtain ⟨hnonempty, hname⟩ := h.name call hcall
    refine ⟨hnonempty, hname _ (by decide), hname _ (by decide), ?_⟩
    intro argument hargument
    obtain ⟨hpresent, hkey⟩ := h.key call hcall argument hargument
    refine ⟨hpresent, hkey _ (by decide), hkey _ (by decide), hkey _ (by decide), ?_⟩
    intro written hwritten
    have hvalue := h.value call hcall argument hargument written hwritten
    exact ⟨hvalue _ (by decide), hvalue _ (by decide), hvalue _ (by decide),
      parseValue_written serde inverts hwritten (h.string call hcall argument hargument)⟩

/-- What the formatter writes for a plain assistant message with its reasoning is parsed into that
message. -/
theorem parse_formatted (inverts : ∀ value text, serde.toText value = .ok text →
      serde.fromText text = some value)
    (effort : ReasoningEffort) {options : ChatTemplateOptions V} {count index : Nat}
    {lastUser : Option Nat} {preserveThinking : Bool} {content : Text} {reasoning : Option Text}
    {toolCalls : List (ToolCall V)} {state state' : FormatState}
    (plain : PlainMessage serde content (reasoning.getD []) toolCalls)
    (included : (options.isTraining || preserveThinking || lastUser.any fun last =>
      decide (last < index)) = true)
    (shown : toolCalls ≠ [] ∨ (index + 1 == count && options.rawLastAssistant) = false)
    (h : formatMessage serde options count lastUser preserveThinking index
      (.assistant content reasoning toolCalls) state = .ok state') :
    ∃ text, renderAssistant serde content (reasoning.getD []) toolCalls = .ok text ∧
      state'.output = (closeToolResponsesIfNeeded state).output ++ assistantToken ++ text ++
        (if toolCalls = [] ∧ (index + 1 == count) = true ∧ options.isTraining = false then []
          else eosToken) ∧
      parseAssistantOutput serde text effort =
      .ok { content, reasoning := some (reasoning.getD []), toolCalls } := by
  unfold formatMessage at h
  dsimp only at h
  rw [included, formatAssistant_included serde shown] at h
  obtain ⟨text, htext, rfl⟩ := except_map_ok_iff.mp h
  exact ⟨text, htext, rfl, parse_rendered serde (plain.readable serde inverts) htext effort⟩

end Write

/-! ### A small JSON -/

/-- Numbers, by their digits, and strings. -/
inductive SmallJson where
  | number (digits : { text : Text // text ≠ [] ∧ text.all Char.isDigit = true })
  | string (text : Text)
  deriving DecidableEq

def SmallJson.toText : SmallJson → Text
  | .number digits => digits.1
  | .string text => '"' :: (text ++ ['"'])

def SmallJson.fromText (text : Text) : Option SmallJson :=
  if h : text ≠ [] ∧ text.all Char.isDigit = true then some (.number ⟨text, h⟩)
  else if text.head? = some '"' ∧
    text.tail.getLast? = some '"' then some (.string text.tail.dropLast)
  else none

theorem SmallJson.fromText_toText (value : SmallJson) : fromText value.toText = some value := by
  cases value with
  | number digits =>
      unfold fromText toText
      rw [dif_pos digits.2]
  | string text =>
      have hdigits : ¬ ((toText (.string text)) ≠ [] ∧
          (toText (.string text)).all Char.isDigit = true) := by
        simp [toText]
      unfold fromText
      rw [dif_neg hdigits]
      simp [toText]

def SmallJson.asString : SmallJson → Option Text
  | .number _ => none
  | .string text => some text

def smallSerde : Serde SmallJson where
  isObject _ := false
  string := .string
  asString := SmallJson.asString
  asString_eq value text := by
    cases value with
    | number digits => simp [SmallJson.asString]
    | string other => simp [SmallJson.asString]
  toText value := .ok value.toText
  fromText := SmallJson.fromText

theorem smallSerde_inverts (value : SmallJson) (text : Text)
    (h : smallSerde.toText value = .ok text) :
    smallSerde.fromText text = some value := by
  cases h
  exact value.fromText_toText

def smallCall : ToolCall SmallJson where
  name := "search".toList
  arguments :=
    ⟨[("count".toList, .number ⟨"3".toList, by decide⟩), ("query".toList, .string "rust".toList)],
      by decide⟩

theorem smallSerde_written {value : SmallJson} {written : Text}
    (h : Written smallSerde value written) :
    written = (value.asString).getD value.toText := by
  rcases h with hstring | ⟨hnone, htext⟩
  · change value.asString = some written at hstring
    rw [hstring, Option.getD_some]
  · change value.asString = none at hnone
    cases htext
    rw [hnone, Option.getD_none]

theorem smallCall_plain : PlainMessage smallSerde "Calling.".toList ((some "check".toList).getD [])
    [smallCall] where
  content := plain_of_not_mem (by decide)
  reasoning := plain_of_not_mem (by decide)
  name := List.forall_mem_singleton.mpr ⟨by decide, plain_of_not_mem (by decide)⟩
  key := by
    have hkeys : ∀ argument ∈ smallCall.arguments.entries, argument.1 ≠ [] ∧
        '<' ∉ argument.1 := by decide
    exact List.forall_mem_singleton.mpr fun argument hmem =>
      (hkeys argument hmem).imp_right plain_of_not_mem
  value := by
    have hvalues : ∀ argument ∈ smallCall.arguments.entries,
        '<' ∉ argument.2.asString.getD argument.2.toText := by decide
    refine List.forall_mem_singleton.mpr fun argument hmem written hwritten => ?_
    rw [smallSerde_written hwritten]
    exact plain_of_not_mem (hvalues argument hmem)
  string := by
    have hstrings : ∀ argument ∈ smallCall.arguments.entries, ∀ string ∈ argument.2.asString,
        SmallJson.fromText string = none := by decide
    exact List.forall_mem_singleton.mpr fun argument hmem string hstring =>
      hstrings argument hmem string hstring

def smallOptions : ChatTemplateOptions SmallJson where
  addGenerationPrompt := true
  reasoningEffort := .high
  preservedThinking := none
  isTraining := false
  rawLastAssistant := false
  tools := []

def quietOptions : ChatTemplateOptions SmallJson :=
  { smallOptions with reasoningEffort := .noThink }

/-- A call with a number and a string behind a user message. -/
theorem parse_formatted_small : ∃ state' text,
    formatMessage smallSerde smallOptions 2 (some 0) false 1
      (.assistant "Calling.".toList (some "check".toList) [smallCall])
        ⟨userToken, false, true, false⟩ = .ok state' ∧
      renderAssistant smallSerde "Calling.".toList "check".toList [smallCall] = .ok text ∧
      state'.output = userToken ++ assistantToken ++ text ++ eosToken ∧
      parseAssistantOutput smallSerde text .low =
        .ok { content := "Calling.".toList, reasoning := some "check".toList,
              toolCalls := [smallCall] } := by
  have hanswered : (formatMessage smallSerde smallOptions 2 (some 0) false 1
      (.assistant "Calling.".toList (some "check".toList) [smallCall])
        ⟨userToken, false, true, false⟩).isOk = true := by
    decide +kernel
  cases h : formatMessage smallSerde smallOptions 2 (some 0) false 1
      (.assistant "Calling.".toList (some "check".toList) [smallCall])
        ⟨userToken, false, true, false⟩ with
  | error error =>
      rw [h] at hanswered
      cases hanswered
  | ok state' =>
      obtain ⟨text, htext, houtput, hparse⟩ :=
        parse_formatted smallSerde smallSerde_inverts .low smallCall_plain rfl
        (Or.inl (List.cons_ne_nil _ _)) h
      exact ⟨state', text, rfl, htext, houtput, hparse⟩

end LightBridge.Tokenizer
