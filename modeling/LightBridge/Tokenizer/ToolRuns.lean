import LightBridge.Tokenizer.Turns

/-! The markers around the tool responses of a prompt. -/
namespace LightBridge.Tokenizer
open Foundation

/-- The markers of the turns and of the tool responses. -/
def turnMarkers : List Text :=
  [userToken, assistantToken, toolResponsesBeginToken, toolResponsesEndToken,
    toolResponseBeginToken, toolResponseEndToken]

theorem turnMarkers_included : ∀ marker ∈ turnMarkers, marker ∈ protocolMarkers := by decide

theorem turnMarkers_marker : ∀ marker ∈ turnMarkers, ProtocolMarker marker := fun marker hmem =>
  protocolMarker_of_mem marker (turnMarkers_included marker hmem)

theorem marks_plain {text rest : Text} (h : Plain text) (hrest : Opens rest) :
    marks turnMarkers (text ++ rest) = marks turnMarkers rest := by
  rw [marks_append turnMarkers_marker text hrest, marks_of_free fun marker hmem =>
    h marker (turnMarkers_included marker hmem)]
  rfl

theorem marks_newline (rest : Text) :
    marks turnMarkers ("\n".toList ++ rest) = marks turnMarkers rest :=
  marks_append_of_not_mem turnMarkers_marker (by decide) rest

/-- A marker behind a text. -/
theorem marks_behind (front : Text) {marker : Text} (hmem : marker ∈ turnMarkers) (rest : Text) :
    marks turnMarkers (front ++ (marker ++ rest)) = marks turnMarkers front ++ marker ::
      marks turnMarkers rest := by
  rw [marks_append turnMarkers_marker front (opens_marker (turnMarkers_marker marker hmem) rest),
    marks_marker turnMarkers_marker hmem]

theorem marks_nil : marks turnMarkers [] = [] := rfl

section Runs
variable {V : Type} (serde : Serde V)

/-! ### Runs of tool messages -/

def isTool : ChatMessage V → Bool
  | .tool _ => true
  | _ => false

/-- Whether a run of tool messages goes on behind this message; system messages are written
elsewhere. -/
def follows (inRun : Bool) : ChatMessage V → Bool
  | .system _ => inRun
  | .user _ => false
  | .assistant _ _ _ => false
  | .tool _ => true

/-- The number of maximal runs of tool messages. -/
def toolRuns (inRun : Bool) : List (ChatMessage V) → Nat
  | [] => 0
  | message :: messages =>
      (if isTool message && !inRun then 1 else 0) + toolRuns (follows inRun message) messages

def endMarks (inRun : Bool) : List Text := if inRun then [toolResponsesEndToken] else []

/-- The markers of a message, with the one in front of a tool response that begins the responses. -/
def turnMarks (inRun begins : Bool) : ChatMessage V → List Text
  | .system _ => []
  | .user _ => endMarks inRun ++ [userToken]
  | .assistant _ _ _ => endMarks inRun ++ [assistantToken]
  | .tool _ =>
      (if begins then [toolResponsesBeginToken] else []) ++
        [toolResponseBeginToken, toolResponseEndToken]

/-- Every run of tool messages between a begin marker and an end marker. -/
def balancedMarks (inRun : Bool) : List (ChatMessage V) → List Text
  | [] => endMarks inRun
  | message :: messages =>
      turnMarks inRun (!inRun) message ++ balancedMarks (follows inRun message) messages

/-- The markers as the formatter writes them: one begin marker. -/
def writtenMarks (inRun isFirst : Bool) : List (ChatMessage V) → List Text
  | [] => endMarks inRun
  | message :: messages =>
      turnMarks inRun isFirst message ++ writtenMarks (follows inRun message)
        (isFirst && !isTool message) messages

/-- The begin markers are those of at most one run. -/
theorem writtenMarks_eq_iff (messages : List (ChatMessage V)) {inRun isFirst : Bool}
    (h : isFirst = true → inRun = false) :
    writtenMarks inRun isFirst messages = balancedMarks inRun messages ↔
      toolRuns inRun messages ≤ if isFirst then 1 else 0 := by
  induction messages generalizing inRun isFirst with
  | nil => simp [writtenMarks, balancedMarks, toolRuns]
  | cons message messages ih =>
      unfold writtenMarks balancedMarks toolRuns
      cases message with
      | system content =>
          have hrest := ih h
          simpa [turnMarks, follows, isTool] using hrest
      | user content =>
          have hrest := ih (fun _ => rfl : isFirst = true → false = false)
          simpa [turnMarks, follows, isTool] using hrest
      | assistant content reasoning toolCalls =>
          have hrest := ih (fun _ => rfl : isFirst = true → false = false)
          simpa [turnMarks, follows, isTool] using hrest
      | tool content =>
          have hrest := ih (nofun : false = true → true = false)
          cases isFirst with
          | true =>
              cases h rfl
              have hsucc : 1 + toolRuns true messages ≤ 1 ↔ toolRuns true messages = 0 := by omega
              simpa [turnMarks, follows, isTool, hsucc] using hrest
          | false =>
              cases inRun with
              | true => simpa [turnMarks, follows, isTool] using hrest
              | false =>
                  have hne : toolResponseBeginToken ≠ toolResponsesBeginToken := by decide
                  simp [turnMarks, follows, isTool, hne]

/-! ### The markers of a prompt -/

/-- A message whose texts contain no protocol marker. -/
def PlainTurn : ChatMessage V → Prop
  | .system content => Plain content
  | .user content => Plain content
  | .assistant content reasoning toolCalls => Plain content ∧ Plain (reasoning.getD []) ∧
      ∀ call ∈ toolCalls, Plain call.name ∧ ∀ argument ∈ call.arguments.entries, Plain argument.1 ∧
        ∀ written, Written serde argument.2 written → Plain written
  | .tool content => Plain content

variable {serde}

/-- The text of a reply, in front of what follows it. -/
def thoughtText (reasoning content rest : Text) : Text :=
  thinkBeginToken ++ (reasoning ++ (thinkEndToken ++ (content ++ rest)))

theorem free_thoughtText {marker reasoning content rest : Text} (hmem : marker ∈ turnMarkers)
    (hreasoning : Free marker reasoning) (hcontent : Free marker content) (hrest : Opens rest)
    (hfree : Free marker rest) :
    Free marker (thoughtText reasoning content rest) := by
  have hother : ∀ marker ∈ turnMarkers, marker ≠ thinkBeginToken ∧
      marker ≠ thinkEndToken := by decide
  have hmarker := turnMarkers_marker marker hmem
  obtain ⟨hbegin, hend⟩ := hother marker hmem
  unfold thoughtText
  rw [hmarker.free_marker_append_iff thinkBegin_marker hbegin,
    hmarker.free_append_iff (opens_marker thinkEnd_marker _),
    hmarker.free_marker_append_iff thinkEnd_marker hend, hmarker.free_append_iff hrest]
  exact ⟨hreasoning, hcontent, hfree⟩

/-- What an assistant writes, without the marker in front. -/
theorem formatAssistant_free {options : ChatTemplateOptions V} {isLast includeReasoning : Bool}
    {content : Text} {reasoning : Option Text} {toolCalls : List (ToolCall V)}
    {state state' : FormatState} (plain : PlainTurn serde (.assistant content reasoning toolCalls))
    (h : formatAssistant serde options isLast includeReasoning content reasoning toolCalls state =
      .ok state') :
    ∃ text, state'.output = (closeToolResponsesIfNeeded state).output ++ (assistantToken ++ text) ∧
      ∀ marker ∈ turnMarkers, Free marker text := by
  obtain ⟨hcontent, hreasoning, hcalls⟩ := plain
  have hshown : ∀ marker ∈ turnMarkers,
      Free marker (if includeReasoning then reasoning.getD [] else []) := by
    intro marker hmem
    split
    · exact hreasoning marker (turnMarkers_included marker hmem)
    · exact .nil (turnMarkers_marker marker hmem).ne_nil
  have heos : ∀ marker ∈ turnMarkers, Free marker eosToken := by decide
  unfold formatAssistant at h
  dsimp only at h
  split at h
  · split at h
    · cases h
      exact ⟨content, List.append_assoc _ _ _, fun marker hmem =>
        hcontent marker (turnMarkers_included marker hmem)⟩
    · cases h
      refine ⟨thoughtText (if includeReasoning then reasoning.getD [] else []) content
        (if (!isLast || options.isTraining) then eosToken else []), by
        simp only [thoughtText, List.append_assoc], ?_⟩
      intro marker hmem
      apply free_thoughtText hmem (hshown marker hmem)
        (hcontent marker (turnMarkers_included marker hmem))
      · split
        · exact Or.inr rfl
        · exact Or.inl rfl
      · split
        · exact heos marker hmem
        · exact .nil (turnMarkers_marker marker hmem).ne_nil
  · obtain ⟨output, houtput, h⟩ := except_bind_ok_iff.mp h
    cases h
    obtain ⟨texts, hwritten, rfl⟩ := (appendToolCalls_eq_ok serde).mp houtput
    refine ⟨thoughtText (if includeReasoning then reasoning.getD [] else []) content
      (toolCallsBeginToken ++ ("\n".toList ++ (texts.flatten ++ (toolCallsEndToken ++ eosToken)))),
      by simp only [thoughtText, List.append_assoc, List.nil_append], ?_⟩
    intro marker hmem
    have hmarker := turnMarkers_marker marker hmem
    have hother : ∀ marker ∈ turnMarkers, marker ≠ toolCallsBeginToken ∧
        marker ≠ toolCallsEndToken := by decide
    have hcall : ∀ marker ∈ turnMarkers, marker ≠ toolCallBeginToken ∧ marker ≠ toolSeparatorToken ∧
        marker ≠ toolCallEndToken := by
      decide
    have hargument : ∀ marker ∈ turnMarkers, marker ≠ argumentKeyBeginToken ∧
        marker ≠ argumentKeyEndToken ∧
        marker ≠ argumentValueBeginToken ∧ marker ≠ argumentValueEndToken := by decide
    obtain ⟨hbegin, hend⟩ := hother marker hmem
    have hbehind : Opens (texts.flatten ++ (toolCallsEndToken ++ eosToken)) := by
      rcases opens_calls serde hwritten with hempty | hopens
      · rw [hempty]
        exact opens_marker toolCallsEnd_marker _
      · exact Or.inr (by rw [List.head?_append, hopens]; rfl)
    apply free_thoughtText hmem (hshown marker hmem)
      (hcontent marker (turnMarkers_included marker hmem)) (opens_marker toolCallsBegin_marker _)
    rw [hmarker.free_marker_append_iff toolCallsBegin_marker hbegin,
      hmarker.free_append_iff hbehind, hmarker.free_append_iff (opens_marker toolCallsEnd_marker _),
      hmarker.free_marker_append_iff toolCallsEnd_marker hend]
    refine ⟨newline_free hmarker, ?_, heos marker hmem⟩
    apply free_callTexts serde hmarker (hcall marker hmem) (hargument marker hmem) hwritten
    intro call hcallMem
    obtain ⟨hname, harguments⟩ := hcalls call hcallMem
    refine ⟨hname marker (turnMarkers_included marker hmem), fun argument hargumentMem => ?_⟩
    obtain ⟨hkey, hvalue⟩ := harguments argument hargumentMem
    exact ⟨hkey marker (turnMarkers_included marker hmem), fun written hwritten =>
      hvalue written hwritten marker (turnMarkers_included marker hmem)⟩

/-! ### Messages -/

theorem marks_close (state : FormatState) :
    marks turnMarkers (closeToolResponsesIfNeeded state).output =
      marks turnMarkers state.output ++ endMarks state.previousWasTool := by
  unfold closeToolResponsesIfNeeded endMarks
  split
  · dsimp only
    rw [← List.append_nil toolResponsesEndToken, marks_behind _ (by decide)]
    rfl
  · exact (List.append_nil _).symm

theorem close_previousWasTool (state : FormatState) :
    (closeToolResponsesIfNeeded state).previousWasTool = false := by
  unfold closeToolResponsesIfNeeded
  split
  · rfl
  · exact Bool.eq_false_iff.mpr ‹_›

theorem close_isFirstToolResponse (state : FormatState) :
    (closeToolResponsesIfNeeded state).isFirstToolResponse = state.isFirstToolResponse := by
  unfold closeToolResponsesIfNeeded
  split <;> rfl

theorem marks_response {content : Text} (plain : Plain content) (front : Text) :
    marks turnMarkers
      (front ++ (toolResponseBeginToken ++ ("\n".toList ++ (content ++ ("\n".toList ++
      (toolResponseEndToken ++ "\n".toList)))))) = marks turnMarkers front ++
      [toolResponseBeginToken, toolResponseEndToken] := by
  have hcontent : Plain (content ++ "\n".toList) := by
    have hnewline : ∀ marker ∈ protocolMarkers, '\n' ∉ marker := by decide
    exact fun marker hmem => (plain marker hmem).concat (protocolMarker_of_mem marker hmem).ne_nil
      (hnewline marker hmem)
  rw [marks_behind _ (by decide), marks_newline, ← List.append_assoc content,
    marks_plain hcontent (opens_marker (turnMarkers_marker toolResponseEndToken (by decide)) _),
    marks_marker turnMarkers_marker (by decide)]
  rfl

theorem formatTool_marks {content : Text} (plain : Plain content) (state : FormatState) :
    marks turnMarkers (formatTool content state).output = marks turnMarkers state.output ++
      ((if state.isFirstToolResponse then [toolResponsesBeginToken] else []) ++
        [toolResponseBeginToken, toolResponseEndToken]) := by
  unfold formatTool
  dsimp only
  rw [List.append_assoc, List.append_assoc, List.append_assoc, List.append_assoc, List.append_assoc]
  rw [marks_response plain, ← List.append_assoc]
  split
  · rw [marks_behind _ (by decide)]
    rfl
  · rw [List.append_nil, List.append_nil]

/-- What a message adds to the markers. -/
theorem formatMessage_marks {options : ChatTemplateOptions V} {count index : Nat}
    {lastUser : Option Nat} {preserveThinking : Bool} {message : ChatMessage V}
    {state state' : FormatState} (plain : PlainTurn serde message)
    (h : formatMessage serde options count lastUser preserveThinking index message state =
      .ok state') :
    marks turnMarkers state'.output =
        marks turnMarkers state.output ++
        turnMarks state.previousWasTool state.isFirstToolResponse message ∧
      state'.previousWasTool = follows state.previousWasTool message ∧
      state'.isFirstToolResponse = (state.isFirstToolResponse && !isTool message) := by
  cases message with
  | system content =>
      cases h
      exact ⟨(List.append_nil _).symm, rfl, (Bool.and_true _).symm⟩
  | user content =>
      cases h
      refine ⟨?_, close_previousWasTool state,
        (close_isFirstToolResponse state).trans (Bool.and_true _).symm⟩
      dsimp only
      rw [List.append_assoc, marks_behind _ (by decide), marks_close, ← List.append_nil content,
        marks_plain plain (Or.inl rfl), marks_nil, List.append_assoc]
      rfl
  | assistant content reasoning toolCalls =>
      obtain ⟨text, htext, hfree⟩ := formatAssistant_free plain h
      obtain ⟨output, rfl⟩ := formatAssistant_eq_ok serde h
      refine ⟨?_, rfl, (close_isFirstToolResponse state).trans (Bool.and_true _).symm⟩
      rw [htext, marks_behind _ (by decide), marks_close, marks_of_free hfree, List.append_assoc]
      rfl
  | tool content =>
      cases h
      exact ⟨formatTool_marks plain state, rfl, (Bool.and_false _).symm⟩

/-- What the messages add to the markers. -/
theorem formatMessages_marks {options : ChatTemplateOptions V} {count : Nat} {lastUser : Option Nat}
    {preserveThinking : Bool} {messages : List (ChatMessage V)}
    (plain : ∀ message ∈ messages, PlainTurn serde message) {index : Nat}
    {state state' : FormatState}
    (h : formatMessages serde options count lastUser preserveThinking index messages state =
      .ok state') :
    marks turnMarkers (closeToolResponsesIfNeeded state').output =
      marks turnMarkers state.output ++
      writtenMarks state.previousWasTool state.isFirstToolResponse messages := by
  induction messages generalizing index state with
  | nil =>
      cases h
      exact marks_close state'
  | cons message messages ih =>
      obtain ⟨hfirst, hrest⟩ := List.forall_mem_cons.mp plain
      obtain ⟨next, hnext, h⟩ := except_bind_ok_iff.mp h
      obtain ⟨hmarks, hrun, hbegins⟩ := formatMessage_marks hfirst hnext
      rw [ih hrest h, hmarks, hrun, hbegins, List.append_assoc]
      rfl

/-! ### Prompts -/

def awaitsReply (messages : List (ChatMessage V)) : Bool :=
  match messages.getLast? with
  | some (.assistant _ _ _) => false
  | _ => true

theorem formatMessages_lastIsAssistant {options : ChatTemplateOptions V} {lastUser : Option Nat}
    {preserveThinking : Bool} {messages : List (ChatMessage V)} {output : Text}
    {state : FormatState}
    (h : formatMessages serde options messages.length lastUser preserveThinking 0 messages
      (beginning output) = .ok state) :
    state.lastIsAssistant = !awaitsReply messages := by
  by_cases hawaits : Awaits messages
  · have hopen : state.lastIsAssistant = false := by
      refine formatMessages_open serde h ?_ rfl
      intro index content reasoning toolCalls hmessage
      have := hawaits.early hmessage
      omega
    have hreply : awaitsReply messages = true := by
      unfold awaitsReply
      split
      · rename_i hlast
        exact absurd hlast (hawaits _ _ _)
      · rfl
    rw [hopen, hreply]
    rfl
  · simp only [Awaits, not_forall, not_not] at hawaits
    obtain ⟨content, reasoning, toolCalls, hlast⟩ := hawaits
    obtain ⟨front, rfl⟩ := List.getLast?_eq_some_iff.mp hlast
    rw [formatMessages_append] at h
    obtain ⟨next, -, h⟩ := except_bind_ok_iff.mp h
    obtain ⟨final, hfinal, h⟩ := except_bind_ok_iff.mp h
    cases h
    obtain ⟨output, rfl⟩ := formatAssistant_eq_ok serde hfinal
    unfold awaitsReply
    rw [hlast]
    simp

theorem marks_generationPrompt (front : Text) (effort : ReasoningEffort) :
    marks turnMarkers (front ++ generationPrompt effort) = marks turnMarkers front ++
      [assistantToken] := by
  unfold generationPrompt
  rw [marks_behind _ (by decide)]
  cases effort with
  | high => rfl
  | low => rfl
  | noThink => rfl

/-- The markers of a prompt: those in front of the messages, those of the messages, and the one of
the reply that is asked for. -/
theorem formatChat_marks {messages : List (ChatMessage V)} {options : ChatTemplateOptions V}
    {prompt : Text} (plain : ∀ message ∈ messages, PlainTurn serde message)
    (h : formatChat serde messages options = .ok prompt) :
    ∃ front, opening serde (messages.flatMap systemContent) options = .ok front ∧
      marks turnMarkers prompt = marks turnMarkers front ++ writtenMarks false true messages ++
        (if options.addGenerationPrompt && awaitsReply messages then [assistantToken] else []) := by
  rw [formatChat_eq] at h
  obtain ⟨front, hfront, h⟩ := except_bind_ok_iff.mp h
  obtain ⟨state, hmessages, h⟩ := except_bind_ok_iff.mp h
  cases h
  refine ⟨front, hfront, ?_⟩
  have hmarks := formatMessages_marks plain hmessages
  unfold closing
  rw [formatMessages_lastIsAssistant hmessages, Bool.not_not]
  split
  · rw [marks_generationPrompt, hmarks]
    rfl
  · rw [List.append_nil, List.append_nil, hmarks]
    rfl

/-- Every run of tool messages stands between its own begin and end markers exactly when there is at
most one run. -/
theorem tool_responses_balanced_iff {messages : List (ChatMessage V)}
    {options : ChatTemplateOptions V} {prompt : Text}
    (plain : ∀ message ∈ messages, PlainTurn serde message)
    (h : formatChat serde messages options = .ok prompt) :
    ∃ front, opening serde (messages.flatMap systemContent) options = .ok front ∧
      (marks turnMarkers prompt = marks turnMarkers front ++ balancedMarks false messages ++
        (if options.addGenerationPrompt && awaitsReply messages then [assistantToken] else []) ↔
        toolRuns false messages ≤ 1) := by
  obtain ⟨front, hfront, hmarks⟩ := formatChat_marks plain h
  refine ⟨front, hfront, ?_⟩
  rw [hmarks, List.append_left_inj, List.append_right_inj,
    writtenMarks_eq_iff messages fun _ => rfl]
  rfl

end Runs

/-- Two rounds of a tool. -/
def twoRounds : List (ChatMessage SmallJson) :=
  [.user "Find it".toList, .assistant [] none [smallCall], .tool "one".toList,
    .assistant [] none [smallCall], .tool "two".toList]

theorem twoRounds_plain : ∀ message ∈ twoRounds, PlainTurn smallSerde message := by
  have hcall : ∀ call ∈ [smallCall], Plain call.name ∧ ∀ argument ∈ call.arguments.entries,
      Plain argument.1 ∧
      ∀ written, Written smallSerde argument.2 written → Plain written := by
    intro call hmem
    refine ⟨(smallCall_plain.name call hmem).2, fun argument hargument => ?_⟩
    exact ⟨(smallCall_plain.key call hmem argument hargument).2,
      smallCall_plain.value call hmem argument hargument⟩
  have hassistant : PlainTurn smallSerde (.assistant [] none [smallCall]) :=
    ⟨plain_of_not_mem (by decide), plain_of_not_mem (by decide), hcall⟩
  unfold twoRounds
  simp only [List.forall_mem_cons]
  exact ⟨plain_of_not_mem (by decide), hassistant, plain_of_not_mem (by decide), hassistant,
    plain_of_not_mem (by decide), nofun⟩

/-- The second round has no begin marker. -/
theorem tool_responses_unbalanced : (∀ message ∈ twoRounds, PlainTurn smallSerde message) ∧
      ∃ front prompt,
    opening smallSerde (twoRounds.flatMap systemContent) smallOptions = .ok front ∧
      formatChat smallSerde twoRounds smallOptions = .ok prompt ∧
      marks turnMarkers prompt = [userToken, assistantToken, toolResponsesBeginToken,
        toolResponseBeginToken, toolResponseEndToken, toolResponsesEndToken, assistantToken,
        toolResponseBeginToken, toolResponseEndToken, toolResponsesEndToken, assistantToken] ∧
      marks turnMarkers prompt ≠ marks turnMarkers front ++ balancedMarks false twoRounds ++
      [assistantToken] := by
  obtain ⟨front, hfront, hmarks⟩ :=
    formatChat_marks twoRounds_plain (rfl : formatChat smallSerde twoRounds smallOptions = .ok _)
  have hnone : marks turnMarkers front = [] := by
    cases hfront
    decide +kernel
  rw [hnone] at hmarks
  refine ⟨twoRounds_plain, front, _, hfront, rfl, hmarks, ?_⟩
  rw [hmarks, hnone]
  decide +kernel

/-- One round between its markers. -/
theorem tool_responses_balanced_round : ∃ front prompt,
      formatChat smallSerde (twoRounds.take 3) smallOptions = .ok prompt ∧
    opening smallSerde ((twoRounds.take 3).flatMap systemContent) smallOptions = .ok front ∧
    marks turnMarkers prompt = marks turnMarkers front ++ balancedMarks false (twoRounds.take 3) ++
      [assistantToken] := by
  have hplain : ∀ message ∈ twoRounds.take 3, PlainTurn smallSerde message := fun message hmem =>
    twoRounds_plain message (List.mem_of_mem_take hmem)
  obtain ⟨front, hfront, hbalanced⟩ := tool_responses_balanced_iff hplain
    (rfl : formatChat smallSerde (twoRounds.take 3) smallOptions = .ok _)
  exact ⟨front, _, rfl, hfront, hbalanced.mpr (by decide)⟩

end LightBridge.Tokenizer
