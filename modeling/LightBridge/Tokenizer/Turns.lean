import LightBridge.Tokenizer.Rendering

/-! The prompt of a turn within the prompt of the next one. -/
namespace LightBridge.Tokenizer
open Foundation

section Turns
variable {V : Type} (serde : Serde V)

/-! ### The parts of a prompt -/

/-- What stands in front of the messages. -/
def opening (systemPrompt : Text) (options : ChatTemplateOptions V) : Except ChatError Text := do
  checkTools serde options.tools
  if options.tools.isEmpty then
    pure (bosToken ++
      (systemPrompt ++ reasoningModeToken ++ "reasoning_effort:".toList ++
        options.reasoningEffort.asStr))
  else appendToolInstructions serde (bosToken ++ systemPrompt) systemPrompt options

def preserves (options : ChatTemplateOptions V) : Bool :=
  options.preservedThinking.getD (!options.tools.isEmpty)

/-- What stands behind the messages. -/
def closing (options : ChatTemplateOptions V) (state : FormatState) : Text :=
  (closeToolResponsesIfNeeded state).output ++
    if options.addGenerationPrompt && !state.lastIsAssistant then generationPrompt
      options.reasoningEffort else []

def beginning (output : Text) : FormatState :=
  { output, previousWasTool := false, isFirstToolResponse := true, lastIsAssistant := false }

theorem closeToolResponsesIfNeeded_lastIsAssistant (state : FormatState) :
    (closeToolResponsesIfNeeded state).lastIsAssistant = state.lastIsAssistant := by
  unfold closeToolResponsesIfNeeded
  split <;> rfl

theorem formatChat_eq (messages : List (ChatMessage V)) (options : ChatTemplateOptions V) :
    formatChat serde messages options = (do
      let output ← opening serde (messages.flatMap systemContent) options
      let state ← formatMessages serde options messages.length (lastUserIndex messages)
        (preserves options) 0 messages (beginning output)
      pure (closing options state)) := by
  have hclosing : ∀ state : FormatState,
      (if (options.addGenerationPrompt && !(closeToolResponsesIfNeeded state).lastIsAssistant) =
        true
      then (closeToolResponsesIfNeeded state).output ++ generationPrompt options.reasoningEffort
      else (closeToolResponsesIfNeeded state).output) = closing options state := by
    intro state
    unfold closing
    rw [closeToolResponsesIfNeeded_lastIsAssistant]
    split
    · rfl
    · exact (List.append_nil _).symm
  unfold formatChat opening preserves
  dsimp only
  simp only [hclosing]
  cases checkTools serde options.tools with
  | error error => rfl
  | ok _ =>
      cases htools : options.tools.isEmpty with
      | true => rfl
      | false => rfl

theorem formatMessages_append (options : ChatTemplateOptions V) (count : Nat)
    (lastUser : Option Nat) (preserveThinking : Bool) (messages more : List (ChatMessage V))
    (index : Nat) (state : FormatState) :
    formatMessages serde options count lastUser preserveThinking index
      (messages ++ more) state = (do
      let state ← formatMessages serde options count lastUser preserveThinking index messages state
      formatMessages serde options count lastUser preserveThinking
        (index + messages.length) more state) := by
  induction messages generalizing index state with
  | nil => rfl
  | cons message messages ih =>
      rw [List.cons_append, formatMessages, formatMessages, List.length_cons]
      cases formatMessage serde options count lastUser preserveThinking index message state with
      | error error => rfl
      | ok state =>
          rw [except_ok_bind, except_ok_bind, ih, Nat.add_right_comm, Nat.add_assoc]

/-- Messages that are written alike one by one. -/
theorem formatMessages_congr {options : ChatTemplateOptions V} {count count' : Nat}
    {lastUser lastUser' : Option Nat} {preserveThinking : Bool} {messages : List (ChatMessage V)}
    {index : Nat} (h : ∀ offset message, messages[offset]? = some message →
      formatMessage serde options count lastUser preserveThinking (index + offset) message =
        formatMessage serde options count' lastUser' preserveThinking (index + offset) message) :
    formatMessages serde options count lastUser preserveThinking index messages =
      formatMessages serde options count' lastUser' preserveThinking index messages := by
  induction messages generalizing index with
  | nil =>
      funext state
      rfl
  | cons message messages ih =>
      funext state
      have hrest : formatMessages serde options count lastUser preserveThinking
          (index + 1) messages =
          formatMessages serde options count' lastUser' preserveThinking (index + 1) messages := by
        apply ih
        intro offset message hmessage
        rw [Nat.add_right_comm, Nat.add_assoc]
        exact h (offset + 1) message hmessage
      rw [formatMessages, formatMessages, ← Nat.add_zero index, h 0 message rfl,
        Nat.add_zero, hrest]

/-- An assistant message changes the output, closes the tool responses and may be the last one. -/
theorem formatAssistant_eq_ok {options : ChatTemplateOptions V} {isLast includeReasoning : Bool}
    {content : Text} {reasoning : Option Text} {toolCalls : List (ToolCall V)}
    {state state' : FormatState}
    (h : formatAssistant serde options isLast includeReasoning content reasoning toolCalls state =
      .ok state') :
    ∃ output,
      state' = { closeToolResponsesIfNeeded state with
        output, previousWasTool := false, lastIsAssistant := isLast } := by
  unfold formatAssistant at h
  dsimp only at h
  split at h
  · split at h
    · cases h
      exact ⟨_, rfl⟩
    · cases h
      exact ⟨_, rfl⟩
  · obtain ⟨output, -, h⟩ := except_bind_ok_iff.mp h
    cases h
    exact ⟨_, rfl⟩

theorem formatMessage_open {options : ChatTemplateOptions V} {count index : Nat}
    {lastUser : Option Nat} {preserveThinking : Bool} {message : ChatMessage V}
    {state state' : FormatState}
    (h : formatMessage serde options count lastUser preserveThinking index message state =
      .ok state')
    (early : ∀ content reasoning toolCalls, message = .assistant content reasoning toolCalls →
      index + 1 ≠ count)
    (open' : state.lastIsAssistant = false) : state'.lastIsAssistant = false := by
  cases message with
  | system content =>
      cases h
      exact open'
  | user content =>
      cases h
      rfl
  | assistant content reasoning toolCalls =>
      obtain ⟨output, rfl⟩ := formatAssistant_eq_ok serde h
      exact beq_false_of_ne (early content reasoning toolCalls rfl)
  | tool content =>
      cases h
      rfl

/-- Behind messages none of which is the last one and an assistant's, the model may be asked to
write. -/
theorem formatMessages_open {options : ChatTemplateOptions V} {count : Nat} {lastUser : Option Nat}
    {preserveThinking : Bool} {messages : List (ChatMessage V)} {index : Nat}
    {state state' : FormatState}
    (h : formatMessages serde options count lastUser preserveThinking index messages state =
      .ok state')
    (early : ∀ offset content reasoning toolCalls,
      messages[offset]? = some (.assistant content reasoning toolCalls) →
      index + offset + 1 ≠ count)
    (open' : state.lastIsAssistant = false) : state'.lastIsAssistant = false := by
  induction messages generalizing index state with
  | nil =>
      cases h
      exact open'
  | cons message messages ih =>
      obtain ⟨next, hnext, h⟩ := except_bind_ok_iff.mp h
      have hopen : next.lastIsAssistant = false := by
        refine formatMessage_open serde hnext ?_ open'
        rintro content reasoning toolCalls rfl
        exact early 0 content reasoning toolCalls rfl
      apply ih h _ hopen
      intro offset content reasoning toolCalls hmessage
      rw [Nat.add_right_comm index 1 offset]
      exact early (offset + 1) content reasoning toolCalls hmessage

/-! ### The next turn -/

/-- The conversation waits for a reply. -/
def Awaits (messages : List (ChatMessage V)) : Prop :=
  ∀ content reasoning toolCalls, messages.getLast? ≠ some (.assistant content reasoning toolCalls)

/-- No assistant message behind the last user message carries reasoning. -/
def Settled (messages : List (ChatMessage V)) : Prop :=
  ∀ lastUser ∈ lastUserIndex messages, ∀ index content reasoning toolCalls, lastUser < index →
    messages[index]? = some (.assistant content reasoning toolCalls) → reasoning.getD [] = []

variable {serde}

theorem Awaits.early {messages : List (ChatMessage V)} (h : Awaits messages) {index : Nat}
    {content : Text} {reasoning : Option Text} {toolCalls : List (ToolCall V)}
    (hmessage : messages[index]? = some (.assistant content reasoning toolCalls)) :
    index + 1 < messages.length := by
  have hlt := (List.getElem?_eq_some_iff.mp hmessage).1
  rcases Nat.lt_or_eq_of_le (Nat.succ_le_of_lt hlt) with hearly | hlast
  · exact hearly
  · refine absurd ?_ (h content reasoning toolCalls)
    rw [List.getLast?_eq_getElem?, ← hlast]
    exact hmessage

theorem lastUserIndex_append_user (messages : List (ChatMessage V)) (reply : ChatMessage V)
    (question : Text) :
    lastUserIndex (messages ++ [reply, .user question]) = some (messages.length + 1) := by
  unfold lastUserIndex
  rw [List.reverse_append]
  simp [List.findIdx?_cons, isUser]

/-- Earlier messages are written as before. -/
theorem formatMessages_stable {messages : List (ChatMessage V)} {options : ChatTemplateOptions V}
    (awaits : Awaits messages)
    (settled : options.isTraining = true ∨ preserves options = true ∨ Settled messages) :
    formatMessages serde options messages.length (lastUserIndex messages) (preserves options) 0
        messages =
      formatMessages serde options (messages.length + 2) (some (messages.length + 1))
        (preserves options) 0 messages := by
  apply formatMessages_congr
  intro index message hmessage
  rw [Nat.zero_add]
  funext state
  cases message with
  | system content => rfl
  | user content => rfl
  | tool content => rfl
  | assistant content reasoning toolCalls =>
      have hearly := awaits.early hmessage
      have hlast : (index + 1 == messages.length) = false := beq_false_of_ne hearly.ne
      have hlast' : (index + 1 == messages.length + 2) = false := beq_false_of_ne (by omega)
      unfold formatMessage
      dsimp only
      rw [hlast, hlast']
      have hbefore : ¬ messages.length + 1 < index := by omega
      rw [Option.any_some, decide_eq_false hbefore]
      cases hkept : options.isTraining || preserves options with
      | true => rw [Bool.true_or, Bool.true_or]
      | false =>
          obtain ⟨htraining, hpreserves⟩ := Bool.or_eq_false_iff.mp hkept
          have hsettled := (settled.resolve_left (Bool.eq_false_iff.mp htraining)).resolve_left
              (Bool.eq_false_iff.mp hpreserves)
          cases hlastUser : lastUserIndex messages with
          | none => rfl
          | some lastUser =>
              by_cases hbehind : lastUser < index
              · have hnone :=
                  hsettled lastUser hlastUser index content reasoning toolCalls hbehind hmessage
                unfold formatAssistant
                rw [hnone, ite_self, ite_self]
              · rw [Option.any_some, decide_eq_false hbehind]

/-- The reply and the question behind it. -/
theorem formatMessages_reply (options : ChatTemplateOptions V) (count : Nat) (reply question : Text)
    (reasoning : Option Text) (state : FormatState) :
    formatMessages serde options (count + 2) (some (count + 1)) (preserves options) count
        [.assistant reply reasoning [], .user question] state =
      .ok { closeToolResponsesIfNeeded state with
        output := (closeToolResponsesIfNeeded state).output ++ assistantToken ++ (thinkBeginToken ++
          (if options.isTraining || preserves options then reasoning.getD [] else []) ++
            thinkEndToken ++ reply ++ eosToken) ++
            userToken ++ question
        previousWasTool := false
        lastIsAssistant := false } := by
  have hlast : (count + 1 == count + 2) = false := beq_false_of_ne (by omega)
  have hbefore : ¬ count + 1 < count := by omega
  have hreply : formatMessage serde options (count + 2) (some (count + 1)) (preserves options) count
      (.assistant reply reasoning []) state =
      .ok { closeToolResponsesIfNeeded state with
        output := (closeToolResponsesIfNeeded state).output ++ assistantToken ++ (thinkBeginToken ++
          (if options.isTraining || preserves options then reasoning.getD [] else []) ++
            thinkEndToken ++ reply ++ eosToken)
        previousWasTool := false
        lastIsAssistant := false } := by
    unfold formatMessage formatAssistant
    dsimp only
    rw [hlast, Option.any_some, decide_eq_false hbefore, Bool.or_false, if_pos rfl, Bool.false_and,
      if_neg Bool.false_ne_true, Bool.not_false, Bool.true_or, if_pos rfl]
    simp only [List.append_assoc]
    rfl
  rw [formatMessages, hreply]
  rfl

/-- The prompt of the next turn, with the reply as it is written there. -/
theorem formatChat_next {messages : List (ChatMessage V)} {options : ChatTemplateOptions V}
    {prompt : Text} (asks : options.addGenerationPrompt = true) (awaits : Awaits messages)
    (settled : options.isTraining = true ∨ preserves options = true ∨ Settled messages)
    (h : formatChat serde messages options = .ok prompt) :
    ∃ front, prompt = front ++ generationPrompt options.reasoningEffort ∧
      ∀ reply question reasoning,
      formatChat serde (messages ++ [.assistant reply reasoning [], .user question]) options =
        .ok (front ++ assistantToken ++ (thinkBeginToken ++
          (if options.isTraining || preserves options then reasoning.getD [] else []) ++
            thinkEndToken ++ reply ++ eosToken) ++
            userToken ++ question ++ generationPrompt options.reasoningEffort) := by
  rw [formatChat_eq] at h
  obtain ⟨output, hopening, h⟩ := except_bind_ok_iff.mp h
  obtain ⟨state, hmessages, h⟩ := except_bind_ok_iff.mp h
  cases h
  have hopen : state.lastIsAssistant = false := by
    refine formatMessages_open serde hmessages ?_ rfl
    intro index content reasoning toolCalls hmessage
    have := awaits.early hmessage
    omega
  refine ⟨(closeToolResponsesIfNeeded state).output, ?_, ?_⟩
  · unfold closing
    rw [asks, hopen]
    rfl
  · intro reply question reasoning
    have hsystem : (messages ++ [ChatMessage.assistant reply reasoning [], .user question]).flatMap
        systemContent = messages.flatMap systemContent := by
      rw [List.flatMap_append]
      exact List.append_nil _
    rw [formatChat_eq, hsystem, hopening, except_ok_bind, lastUserIndex_append_user,
      formatMessages_append, List.length_append, List.length_cons,
      List.length_singleton, ← formatMessages_stable awaits settled, hmessages, except_ok_bind,
      Nat.zero_add, formatMessages_reply, except_ok_bind]
    unfold closing
    rw [asks]
    rfl

/-- Without thinking the next prompt goes on behind the reply; with thinking that is preserved,
behind the reasoning and the reply. -/
theorem prompt_prefix_next {messages : List (ChatMessage V)} {options : ChatTemplateOptions V}
    {prompt : Text} (asks : options.addGenerationPrompt = true) (awaits : Awaits messages)
    (settled : options.isTraining = true ∨ preserves options = true ∨ Settled messages)
    (h : formatChat serde messages options = .ok prompt) (reply question : Text) :
    (options.reasoningEffort = .noThink → ∃ next,
      formatChat serde (messages ++ [.assistant reply none [], .user question]) options = .ok next ∧
        prompt ++ reply ++ eosToken ++ userToken ++ question <+: next) ∧
    (options.reasoningEffort ≠ .noThink → preserves options = true → ∀ reasoning, ∃ next,
      formatChat serde (messages ++ [.assistant reply (some reasoning) [], .user question])
        options = .ok next ∧
        prompt ++ reasoning ++ thinkEndToken ++ reply ++ eosToken ++ userToken ++
          question <+: next) := by
  obtain ⟨front, rfl, hnext⟩ := formatChat_next asks awaits settled h
  constructor
  · intro heffort
    refine ⟨_, hnext reply question none, generationPrompt options.reasoningEffort, ?_⟩
    rw [heffort, Option.getD_none, ite_self]
    simp only [generationPrompt, List.append_assoc, List.nil_append]
  · intro heffort hpreserves reasoning
    have hthinks : generationPrompt options.reasoningEffort =
        assistantToken ++ thinkBeginToken := by
      cases heffort' : options.reasoningEffort with
      | high => rfl
      | low => rfl
      | noThink => exact absurd heffort' heffort
    refine ⟨_, hnext reply question (some reasoning), generationPrompt options.reasoningEffort, ?_⟩
    rw [hpreserves, Bool.or_true, if_pos rfl, Option.getD_some, hthinks]
    simp only [List.append_assoc]

end Turns

def shortTalk : List (ChatMessage SmallJson) :=
  [.user "Hi".toList, .assistant "Hello".toList (some "greet".toList) [], .user "Bye".toList]

def preservingOptions : ChatTemplateOptions SmallJson :=
  { smallOptions with preservedThinking := some true }

/-- Without thinking, and with thinking that is preserved. -/
theorem prompt_prefix_next_short :
    (∃ prompt next, formatChat smallSerde shortTalk quietOptions = .ok prompt ∧
      formatChat smallSerde (shortTalk ++ [.assistant "See you".toList none [], .user "Hi".toList])
        quietOptions = .ok next ∧
      prompt ++ "See you".toList ++ eosToken ++ userToken ++ "Hi".toList <+: next) ∧
    ∃ prompt next, formatChat smallSerde shortTalk preservingOptions = .ok prompt ∧
      formatChat smallSerde
        (shortTalk ++ [.assistant "See you".toList (some "part".toList) [], .user "Hi".toList])
        preservingOptions = .ok next ∧
      prompt ++ "part".toList ++ thinkEndToken ++ "See you".toList ++ eosToken ++ userToken ++
      "Hi".toList <+: next := by
  have hawaits : Awaits shortTalk := fun content reasoning toolCalls h => by cases h
  have hsettled : Settled shortTalk := by
    intro lastUser hlastUser index content reasoning toolCalls hbehind hmessage
    obtain rfl : 2 = lastUser := Option.some.inj hlastUser
    have hindex : index < 3 := (List.getElem?_eq_some_iff.mp hmessage).1
    omega
  constructor
  · obtain ⟨next, hnext, hprefix⟩ :=
      (prompt_prefix_next (rfl : quietOptions.addGenerationPrompt = true) hawaits
      (Or.inr (Or.inr hsettled)) rfl "See you".toList "Hi".toList).1 rfl
    exact ⟨_, next, rfl, hnext, hprefix⟩
  · obtain ⟨next, hnext, hprefix⟩ :=
      (prompt_prefix_next (rfl : preservingOptions.addGenerationPrompt = true) hawaits
      (Or.inr (Or.inl rfl)) rfl "See you".toList "Hi".toList).2 nofun rfl "part".toList
    exact ⟨_, next, rfl, hnext, hprefix⟩

end LightBridge.Tokenizer
