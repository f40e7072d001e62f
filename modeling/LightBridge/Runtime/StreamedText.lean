import LightBridge.Runtime.PrefixReuse

/-! What a completion streams and what it returns: the callback is passed the decoded tokens
less the special ones up to the first stop sequence, the text is parsed out of all of them. -/
namespace LightBridge.Runtime
open Foundation Command Tokenizer GenerationSession

namespace Generator
variable {Ω S E R W τ : Type}

/-- A callback that goes on moves `Going` to one more token, one that breaks reaches `Halted`. -/
structure Emits (emit : Callback τ) (Going Halted : List Nat → τ → Prop) : Prop where
  passed : ∀ ids token state, Going ids state → (emit token state).1 = false →
    Going (ids ++ [token.tokenId]) (emit token state).2
  broke : ∀ ids token state, Going ids state → (emit token state).1 = true →
    Halted (ids ++ [token.tokenId]) (emit token state).2

section Emits
variable {emit : Callback τ} {Going Halted : List Nat → τ → Prop}

theorem emitToken_emits (emits : Emits emit Going Halted) {config : SamplingConfig}
    {token : GeneratedToken} {generated ids : List Nat} {reason : Option StopReason}
    {state state' : τ} (going : Going generated state)
    (h : emitToken (E := E) config emit token generated state = (.ok (ids, reason), state')) :
    Going ids state' ∨ reason ≠ none ∧ Halted ids state' := by
  unfold emitToken at h
  dsimp only at h
  split at h
  · cases hbroke : (emit token state).1 with
    | false =>
        have hpassed := emits.passed generated token state going hbroke
        cases h
        exact Or.inl hpassed
    | true =>
        have hhalted := emits.broke generated token state going hbroke
        rw [hbroke, if_pos rfl] at h
        cases h
        exact Or.inr ⟨nofun, hhalted⟩
  · cases h
    exact Or.inl going

/-- The tokens of a decoding loop are those its callback was given. -/
theorem decode_emits (emits : Emits emit Going Halted) (model : CausalModel Ω S E)
    (host : SamplerHost R W) (env : CallEnvironment Ω) (config : SamplingConfig)
    (promptLength : Nat) (exhausted : StopReason) {remaining index : Nat} {sampler : Sampler R}
    {generated ids : List Nat} {reason : StopReason} {session session' : GenerationSession S}
    {state state' : τ} (going : Going generated state)
    (h : decode model host env config emit promptLength exhausted remaining index sampler generated
      (session, state) =
      (.ok (ids, reason), session', state')) : Going ids state' ∨ Halted ids state' := by
  induction remaining generalizing index sampler generated session state with
  | zero =>
      cases h
      exact Or.inl going
  | succ remaining ih =>
      unfold decode at h
      split at h
      · cases h
        exact Or.inl going
      · obtain ⟨_, _, hread, h⟩ := Command.bind_ok_iff.mp h
        cases hread
        obtain ⟨tokenId, _, h⟩ := Command.lift_bind_ok_iff.mp h
        obtain ⟨_, ⟨evaluated, kept⟩, hevaluate, h⟩ := Command.bind_ok_iff.mp h
        have hkept : kept = state := by
          obtain ⟨_, _, hlast⟩ := Command.zoom_eq_iff.mp hevaluate
          exact (congrArg Prod.snd hlast).symm
        rw [hkept] at h
        obtain ⟨⟨emitted, next⟩, ⟨evaluated', state''⟩, hemit, h⟩ := Command.bind_ok_iff.mp h
        have hemitted : emitToken (E := E) config emit ⟨tokenId, index⟩ generated state =
            (.ok (emitted, next), state'') := by
          obtain ⟨_, hrun, hlast⟩ := Command.zoom_eq_iff.mp hemit
          cases hlast
          exact hrun
        cases next with
        | some stopReason =>
            cases h
            exact (emitToken_emits emits going hemitted).imp_right And.right
        | none =>
            rcases emitToken_emits emits going hemitted with hgoing | ⟨hsome, _⟩
            · exact ih hgoing h
            · exact absurd rfl hsome

theorem generateStream_emits (emits : Emits emit Going Halted) (model : CausalModel Ω S E)
    (host : SamplerHost R W) (env : CallEnvironment Ω) (config : SamplingConfig)
    (promptTokens : List Nat) {outcome : GenerationOutcome} {session session' : GenerationSession S}
    {state state' : τ} (going : Going [] state)
    (h : generateStream model host env config promptTokens emit (session, state) =
      (.ok outcome, session', state')) :
    Going outcome.tokenIds state' ∨ Halted outcome.tokenIds state' := by
  unfold generateStream at h
  obtain ⟨_, _, hread, h⟩ := Command.bind_ok_iff.mp h
  cases hread
  obtain ⟨limit, _, h⟩ := Command.lift_bind_ok_iff.mp h
  split at h
  · cases h
    exact Or.inl going
  · obtain ⟨absorbed, ⟨filled, kept⟩, hprefill, h⟩ := Command.bind_ok_iff.mp h
    have hkept : kept = state := by
      obtain ⟨_, _, hlast⟩ := Command.zoom_eq_iff.mp hprefill
      exact (congrArg Prod.snd hlast).symm
    rw [hkept] at h
    split at h
    · obtain ⟨sampler, _, h⟩ := Command.lift_bind_ok_iff.mp h
      obtain ⟨⟨ids, reason⟩, last, hdecode, h⟩ := Command.bind_ok_iff.mp h
      cases h
      exact decode_emits emits model host env config _ _ going hdecode
    · cases h
      exact Or.inl going

end Emits
end Generator

namespace Hy3ChatEngine
variable {Ω S E R W V υ : Type}

/-- A callback that also keeps every text it is passed. -/
def recording (emit : TextCallback υ) : TextCallback (υ × List Text) := fun text (caller, chunks) =>
  ((emit text caller).1, (emit text caller).2, chunks ++ [text])

/-- One token for the incremental decoder, and what it adds to the text. -/
def decodeStep (tokenizer : Hy3Tokenizer V) (decoded : IncrementalDecoder × Text) (id : Nat) :
    IncrementalDecoder × Text :=
  match tokenizer.push id decoded.1 with
  | (.ok (some chunk), decoder) => (decoder, decoded.2 ++ chunk)
  | (_, decoder) => (decoder, decoded.2)

def decodeSteps (tokenizer : Hy3Tokenizer V) (ids : List Nat) : IncrementalDecoder × Text :=
  ids.foldl (decodeStep tokenizer) (Hy3Tokenizer.incrementalDecoder true, [])

/-- The text of some tokens as it comes token by token. -/
def incrementalText (tokenizer : Hy3Tokenizer V) (ids : List Nat) : Text :=
  (decodeSteps tokenizer ids).2

/-- The text that is let through for some tokens, from their text as a whole: the one that came
token by token decides when it has a stop sequence. -/
def shownText (tokenizer : Hy3Tokenizer V) (stopSequences : List Text) (ids : List Nat)
    (decoded : Text) : Text :=
  if findAny stopSequences (incrementalText tokenizer ids) =
    none then truncateAtFirstStop decoded stopSequences
  else truncateAtFirstStop (incrementalText tokenizer ids) stopSequences

/-- The stream goes on: all of the text up to here was let through but for a held end. -/
structure Streaming (tokenizer : Hy3Tokenizer V) (stopSequences : List Text) (ids : List Nat)
    (stream : StreamState) (chunks : List Text) : Prop where
  decoded : (stream.decoder, stream.incrementalText) = decodeSteps tokenizer ids
  stops : stream.filter.stopSequences = stopSequences
  passed : stream.filter.Passed stream.incrementalText stream.visibleText
  recorded : chunks.flatten = stream.visibleText
  decodeError : stream.decodeError = none
  callbackStopped : stream.callbackStopped = false
  matchedStop : stream.matchedStop = false

/-- The stream has met a stop sequence. -/
structure Cut (tokenizer : Hy3Tokenizer V) (stopSequences : List Text) (ids : List Nat)
    (stream : StreamState) (chunks : List Text) : Prop where
  stopped : findAny stopSequences (incrementalText tokenizer ids) ≠ none
  visible : stream.visibleText = truncateAtFirstStop (incrementalText tokenizer ids) stopSequences
  recorded : chunks.flatten = stream.visibleText
  matchedStop : stream.matchedStop = true

/-- Where a callback that never breaks has stopped a stream. -/
def Halted (tokenizer : Hy3Tokenizer V) (stopSequences : List Text) (ids : List Nat)
    (stream : StreamState) (chunks : List Text) : Prop :=
  stream.decodeError ≠ none ∨ Cut tokenizer stopSequences ids stream chunks

section Streamed
variable {tokenizer : Hy3Tokenizer V} {stopSequences : List Text} {ids : List Nat}
    {stream : StreamState}
  {chunks : List Text} {emit : TextCallback υ} {caller : υ}

theorem decodeSteps_append (tokenizer : Hy3Tokenizer V) (ids : List Nat) (id : Nat) :
    decodeSteps tokenizer (ids ++ [id]) = decodeStep tokenizer (decodeSteps tokenizer ids) id := by
  unfold decodeSteps
  rw [List.foldl_append]
  rfl

theorem Streaming.start (tokenizer : Hy3Tokenizer V)
    (nonempty : ∀ stop ∈ stopSequences, stop ≠ []) :
    Streaming tokenizer stopSequences [] (.start stopSequences) [] where
  decoded := rfl
  stops := rfl
  passed := .new nonempty
  recorded := rfl
  decodeError := rfl
  callbackStopped := rfl
  matchedStop := rfl

/-- A text that is not empty is recorded, an empty one adds nothing. -/
theorem emitText_recording (steady : ∀ text caller, (emit text caller).1 = false)
    (text : Text) (caller : υ) (chunks : List Text) :
    ∃ caller' chunks', emitText (recording emit) text (caller, chunks) = (false, caller', chunks') ∧
      chunks'.flatten = chunks.flatten ++ text := by
  unfold emitText
  split
  · rename_i hempty
    refine ⟨caller, chunks, rfl, ?_⟩
    rw [hempty, List.append_nil]
  · exact ⟨(emit text caller).2, chunks ++ [text], Prod.ext (steady text caller) rfl,
      List.flatten_concat⟩

/-- What a decoded chunk does to a stream that goes on. -/
theorem streamChunk_streaming (steady : ∀ text caller, (emit text caller).1 = false) (caller : υ)
    {chunk : Text} {id : Nat} (h : Streaming tokenizer stopSequences ids stream chunks)
    {decoder : IncrementalDecoder}
    (hpush : tokenizer.push id stream.decoder = (.ok (some chunk), decoder)) :
    ∃ broke stream' caller' chunks',
      streamChunk (recording emit) chunk { stream with decoder }
        (caller, chunks) = (broke, stream', caller', chunks') ∧
      (broke = false → Streaming tokenizer stopSequences (ids ++ [id]) stream' chunks') ∧
      (broke = true → Cut tokenizer stopSequences (ids ++ [id]) stream' chunks') := by
  have hdecoded : decodeSteps tokenizer (ids ++ [id]) =
      (decoder, stream.incrementalText ++ chunk) := by
    rw [decodeSteps_append, ← h.decoded, decodeStep, hpush]
  rcases hupdate : stream.filter.push chunk with ⟨update, filter⟩
  obtain ⟨caller', chunks', hemit, hrecorded⟩ := emitText_recording steady update.text caller chunks
  rw [h.recorded] at hrecorded
  unfold streamChunk
  dsimp only
  rw [hupdate]
  dsimp only
  rw [hemit]
  cases hstopped : update.stopped with
  | true =>
      refine ⟨_, _, _, _, rfl, nofun, fun _ => ?_⟩
      obtain ⟨hfound, hvisible⟩ := h.passed.push_stopped hupdate hstopped
      rw [h.stops] at hfound hvisible
      have htext : incrementalText tokenizer (ids ++ [id]) = stream.incrementalText ++ chunk :=
        congrArg Prod.snd hdecoded
      constructor
      · rw [htext]
        exact hfound
      · rw [htext]
        exact hvisible
      · exact hrecorded
      · rfl
  | false =>
      refine ⟨_, _, _, _, rfl, fun _ => ?_, nofun⟩
      obtain ⟨hpassed, hstops⟩ := h.passed.push_passed hupdate hstopped
      exact ⟨hdecoded.symm, hstops.trans h.stops, hpassed, hrecorded, h.decodeError,
        h.callbackStopped, h.matchedStop⟩

theorem streamToken_emits (steady : ∀ text caller, (emit text caller).1 = false)
    (tokenizer : Hy3Tokenizer V) (stopSequences : List Text) :
    Generator.Emits (streamToken tokenizer (recording emit))
      (fun ids state => Streaming tokenizer stopSequences ids state.1 state.2.2)
      fun ids state => Halted tokenizer stopSequences ids state.1 state.2.2 := by
  have hstep : ∀ (ids : List Nat) (token : GeneratedToken) (state : StreamState × υ × List Text),
      Streaming tokenizer stopSequences ids state.1 state.2.2 →
        ∃ broke stream' caller' chunks',
          streamToken tokenizer (recording emit) token state = (broke, stream', caller', chunks') ∧
          (broke = false → Streaming tokenizer stopSequences
            (ids ++ [token.tokenId]) stream' chunks') ∧
          (broke = true → Halted tokenizer stopSequences
            (ids ++ [token.tokenId]) stream' chunks') := by
    rintro ids token ⟨stream, caller, chunks⟩ h
    have hdecoded := decodeSteps_append tokenizer ids token.tokenId
    rw [← h.decoded] at hdecoded
    unfold streamToken
    dsimp only
    rcases hpush : tokenizer.push token.tokenId stream.decoder with ⟨error | _ | chunk, decoder⟩
    · exact ⟨_, _, _, _, rfl, nofun, fun _ => Or.inl nofun⟩
    · refine ⟨_, _, _, _, rfl, fun _ => ?_, nofun⟩
      rw [decodeStep, hpush] at hdecoded
      exact ⟨hdecoded.symm, h.stops, h.passed, h.recorded, h.decodeError, h.callbackStopped,
        h.matchedStop⟩
    · obtain ⟨broke, stream', caller', chunks', hrun, hgoing, hcut⟩ :=
        streamChunk_streaming steady caller h hpush
      exact ⟨broke, stream', caller', chunks', hrun, hgoing, fun hbroke => Or.inr (hcut hbroke)⟩
  constructor
  · intro ids token state h hpassed
    obtain ⟨broke, stream', caller', chunks', hrun, hgoing, _⟩ := hstep ids token state h
    rw [hrun] at hpassed ⊢
    exact hgoing hpassed
  · intro ids token state h hbroke
    obtain ⟨broke, stream', caller', chunks', hrun, _, hhalted⟩ := hstep ids token state h
    rw [hrun] at hbroke ⊢
    exact hhalted hbroke

/-- The text behind the stream is let through up to its first stop sequence. -/
theorem flush_recording (steady : ∀ text caller, (emit text caller).1 = false) {decodedText : Text}
    {outcome outcome' : GenerationOutcome} {stream' : StreamState} {caller' : υ}
    {chunks' : List Text} (h : Streaming tokenizer stopSequences ids stream chunks)
    (hrun : flush (E := E) (recording emit) decodedText outcome stream (caller, chunks) =
      (.ok (outcome', stream'), caller', chunks')) :
    outcome'.tokenIds = outcome.tokenIds ∧ chunks'.flatten = stream'.visibleText ∧
      stream'.visibleText = truncateAtFirstStop decodedText stopSequences := by
  unfold flush at hrun
  obtain ⟨suffix, hsuffix, hrun⟩ := Command.lift_bind_ok_iff.mp hrun
  have htext : decodedText = stream.incrementalText ++ suffix :=
    stripPrefix_eq_some_iff.mp (okOr_eq_ok.mp hsuffix)
  rcases hupdate : stream.filter.push suffix with ⟨update, filter⟩
  rw [hupdate] at hrun
  obtain ⟨caller₁, chunks₁, hemit, hrecorded⟩ := emitText_recording steady update.text caller chunks
  rw [h.recorded] at hrecorded
  obtain ⟨broke, _, hbroke, hrun⟩ := Command.bind_ok_iff.mp hrun
  rw [hemit] at hbroke
  cases hbroke
  cases hstopped : update.stopped with
  | true =>
      dsimp only at hrun
      rw [if_pos hstopped] at hrun
      cases hrun
      refine ⟨rfl, hrecorded, ?_⟩
      have hvisible := (h.passed.push_stopped hupdate hstopped).2
      rw [h.stops, ← htext] at hvisible
      exact hvisible
  | false =>
      simp only [hstopped, Bool.false_eq_true, if_false] at hrun
      obtain ⟨hpassed, hstops⟩ := h.passed.push_passed hupdate hstopped
      obtain ⟨caller₂, chunks₂, hemit₂, hrecorded₂⟩ :=
        emitText_recording steady filter.finish.1 caller₁ chunks₁
      obtain ⟨broke, _, hbroke, hrun⟩ := Command.bind_ok_iff.mp hrun
      rw [hemit₂] at hbroke
      cases hbroke
      cases hrun
      rw [hrecorded] at hrecorded₂
      refine ⟨rfl, hrecorded₂, ?_⟩
      have hvisible := hpassed.finish
      rw [hstops, h.stops, ← htext] at hvisible
      exact hvisible

end Streamed

/-! ### What is returned -/

/-- The text behind the thinking section that it begins with, if it begins with one. -/
def behindThinking (raw : Text) : Text :=
  ((stripPrefix thinkBeginToken raw).bind (splitOnce thinkEndToken)).elim raw Prod.snd

def beforeToolCalls (body : Text) : Text := (splitOnce toolCallsBeginToken body).elim body Prod.fst

/-- The reply in the text of a turn that does not think. -/
def replyOf (raw : Text) : Text := beforeToolCalls (behindThinking raw)

theorem parse_content {serde : Serde V} {raw : Text} {assistant : AssistantOutput V}
    (h : parseAssistantOutput serde raw .noThink = .ok assistant) :
    assistant.content = replyOf raw := by
  have hbody : (splitReasoning raw .noThink).2 = behindThinking raw := by
    unfold splitReasoning behindThinking
    rw [if_neg (not_not.mpr rfl)]
    cases (stripPrefix thinkBeginToken raw).bind (splitOnce thinkEndToken) with
    | none => rfl
    | some parts => rfl
  unfold parseAssistantOutput at h
  dsimp only at h
  unfold replyOf beforeToolCalls
  rw [← hbody]
  cases hcalls : splitOnce toolCallsBeginToken (splitReasoning raw .noThink).2 with
  | none =>
      rw [hcalls] at h
      cases h
      rfl
  | some parts =>
      rw [hcalls] at h
      obtain ⟨_, _, h⟩ := except_bind_ok_iff.mp h
      obtain ⟨_, _, h⟩ := except_bind_ok_iff.mp h
      obtain ⟨_, _, h⟩ := except_bind_ok_iff.mp h
      cases h
      rfl

theorem length_splitOnce {marker text before after : Text}
    (h : splitOnce marker text = some (before, after))
    (nonempty : 0 < marker.length) : before.length < text.length ∧ after.length < text.length := by
  have hlength := congrArg List.length (splitOnce_eq_some h).1
  simp only [List.length_append] at hlength
  omega

theorem beforeToolCalls_eq_self_iff (body : Text) :
    (beforeToolCalls body).length ≤ body.length ∧
      (beforeToolCalls body = body ↔ splitOnce toolCallsBeginToken body = none) := by
  unfold beforeToolCalls
  cases hcalls : splitOnce toolCallsBeginToken body with
  | none => exact ⟨Nat.le_refl _, fun _ => rfl, fun _ => rfl⟩
  | some parts =>
      have hlt := (length_splitOnce hcalls (by decide)).1
      refine ⟨hlt.le, fun hself => ?_, nofun⟩
      exact absurd (congrArg List.length hself) hlt.ne

/-- A text is the reply as it is when it has no thinking section in front and no tool calls. -/
theorem replyOf_eq_self_iff (raw : Text) :
    replyOf raw = raw ↔ (stripPrefix thinkBeginToken raw).bind (splitOnce thinkEndToken) = none ∧
      splitOnce toolCallsBeginToken raw = none := by
  unfold replyOf behindThinking
  cases hthought : (stripPrefix thinkBeginToken raw).bind (splitOnce thinkEndToken) with
  | none =>
      change beforeToolCalls raw = raw ↔ _
      rw [(beforeToolCalls_eq_self_iff raw).2]
      exact ⟨fun hcalls => ⟨rfl, hcalls⟩, And.right⟩
  | some parts =>
      obtain ⟨inner, hinner, hparts⟩ := Option.bind_eq_some_iff.mp hthought
      have hraw := congrArg List.length (stripPrefix_eq_some_iff.mp hinner)
      rw [List.length_append] at hraw
      have hlt := (length_splitOnce hparts (by decide)).2
      have hle := (beforeToolCalls_eq_self_iff parts.2).1
      constructor
      · intro hself
        have hlength : (beforeToolCalls parts.2).length = raw.length := congrArg List.length hself
        omega
      · rintro ⟨hnone, _⟩
        cases hnone

theorem assistantOf_content (tokenizer : Hy3Tokenizer V) (raw visible : Text) :
    visible = (assistantOf tokenizer raw visible .noThink).1.content ↔
      (∃ error, parseAssistantOutput tokenizer.serde raw .noThink = .error error) ∨
      visible = replyOf raw := by
  unfold assistantOf
  cases hparse : parseAssistantOutput tokenizer.serde raw .noThink with
  | error error => exact ⟨fun _ => Or.inl ⟨error, rfl⟩, fun _ => rfl⟩
  | ok assistant =>
      change visible = assistant.content ↔ _
      rw [parse_content hparse]
      exact ⟨Or.inr, fun h => h.resolve_left nofun⟩

/-- These tokens are streamed as they are returned: their tool calls cannot be read, or the reply in
all of their text is what was let through of the text less the special tokens. -/
def StreamedAsReturned (tokenizer : Hy3Tokenizer V) (stopSequences : List Text)
    (ids : List Nat) : Prop :=
  ∀ decoded raw, tokenizer.decode ids true = .ok decoded → tokenizer.decode ids false = .ok raw →
    (∃ error,
      parseAssistantOutput tokenizer.serde (truncateAtFirstStop raw stopSequences) .noThink =
        .error error) ∨
      shownText tokenizer stopSequences ids decoded =
        replyOf (truncateAtFirstStop raw stopSequences)

section Complete
variable {engine : Hy3ChatEngine Ω S E R W V} {emit : TextCallback υ}

theorem streamTokens_run {engine : Hy3ChatEngine Ω S E R W V} {env : CallEnvironment Ω}
    {sampling : SamplingConfig} {stopSequences : List Text} {promptSuffix : List Nat}
    {emit : TextCallback υ} {session session' : GenerationSession S} {caller caller' : υ}
    {outcome : GenerationOutcome} {stream : StreamState}
    (h : Generator.generateStream engine.model.toCausalModel engine.host env
      (sampling.insertStop engine.tokenizer.eos)
      promptSuffix (streamToken engine.tokenizer emit) (session, .start stopSequences, caller) =
        (.ok outcome, session', stream, caller')) :
    streamTokens engine env sampling stopSequences promptSuffix emit (session, caller) =
      (.ok (outcome, stream), session', caller') := by
  unfold streamTokens
  rw [h]

/-- What an answered completion has passed to its callback, and its text. -/
theorem assemble_streamed (steady : ∀ text caller, (emit text caller).1 = false)
    {request : ChatRequest V} {promptTokens : List Nat} {cached : Nat} {outcome : GenerationOutcome}
    {stream : StreamState} {caller caller' : υ} {chunks chunks' : List Text}
    {completion : ChatCompletion V}
    (h : Streaming engine.tokenizer request.stopSequences outcome.tokenIds stream chunks ∨
      Halted engine.tokenizer request.stopSequences outcome.tokenIds stream chunks)
    (hrun : assemble engine request promptTokens cached (recording emit) outcome stream
      (caller, chunks) = (.ok completion, caller', chunks')) :
    completion.generation.tokenIds = outcome.tokenIds ∧ ∃ decoded raw,
      engine.tokenizer.decode outcome.tokenIds true = .ok decoded ∧
      engine.tokenizer.decode outcome.tokenIds false = .ok raw ∧
      chunks'.flatten = shownText engine.tokenizer request.stopSequences outcome.tokenIds decoded ∧
      completion.text =
      (assistantOf engine.tokenizer (truncateAtFirstStop raw request.stopSequences) chunks'.flatten
        request.template.reasoningEffort).1.content := by
  unfold assemble at hrun
  obtain ⟨_, herror, hrun⟩ := Command.lift_bind_ok_iff.mp hrun
  have hdecodeError : stream.decodeError = none := by
    cases hstream : stream.decodeError with
    | none => rfl
    | some error =>
        rw [hstream] at herror
        cases herror
  obtain ⟨decoded, hdecoded, hrun⟩ := Command.lift_bind_ok_iff.mp hrun
  rw [wrap_eq_ok] at hdecoded
  obtain ⟨⟨ended, stream'⟩, ⟨caller₁, chunks₁⟩, hflush, hrun⟩ := Command.bind_ok_iff.mp hrun
  -- what the stream has let through, whether or not its end was flushed
  have hended : ended.tokenIds = outcome.tokenIds ∧ chunks₁.flatten = stream'.visibleText ∧
      stream'.visibleText = shownText engine.tokenizer request.stopSequences outcome.tokenIds
        decoded := by
    rcases h with hgoing | hfailed | hcut
    · rw [hgoing.callbackStopped, hgoing.matchedStop, Bool.false_or,
        if_neg Bool.false_ne_true] at hflush
      obtain ⟨hids, hrecorded, hvisible⟩ := flush_recording steady hgoing hflush
      refine ⟨hids, hrecorded, ?_⟩
      have hunstopped : findAny request.stopSequences
          (incrementalText engine.tokenizer outcome.tokenIds) = none := by
        rw [← hgoing.stops, incrementalText, ← hgoing.decoded]
        exact hgoing.passed.unstopped
      rw [hvisible, shownText, if_pos hunstopped]
    · exact absurd hdecodeError hfailed
    · rw [hcut.matchedStop, Bool.or_true, if_pos rfl] at hflush
      cases hflush
      refine ⟨rfl, hcut.recorded, ?_⟩
      rw [hcut.visible, shownText, if_neg hcut.stopped]
  obtain ⟨hids, hrecorded, hvisible⟩ := hended
  have hids' : (if stream'.matchedStop =
      true then { ended with stopReason := StopReason.stopSequence } else ended).tokenIds =
      outcome.tokenIds := by
    split
    · exact hids
    · exact hids
  obtain ⟨raw, hraw, hrun⟩ := Command.lift_bind_ok_iff.mp hrun
  rw [wrap_eq_ok, hids'] at hraw
  cases hrun
  refine ⟨hids', decoded, raw, hdecoded, hraw, ?_, ?_⟩
  · rw [hrecorded, hvisible]
  · rw [hrecorded]
    rfl

/-- The texts that a callback that never breaks is passed are together the text that is returned
exactly when the generated tokens are streamed as they are returned. -/
theorem streamed_text_iff (steady : ∀ text caller, (emit text caller).1 = false)
    {env : CallEnvironment Ω} {request : ChatRequest V}
    (noThink : request.template.reasoningEffort = .noThink) {session session' : GenerationSession S}
    {caller caller' : υ} {chunks : List Text} {completion : ChatCompletion V}
    (h : completeWithStopsInSession engine env request (recording emit) (session, caller, []) =
      (.ok completion, session', caller', chunks)) :
    chunks.flatten = completion.text ↔
      StreamedAsReturned engine.tokenizer request.stopSequences completion.generation.tokenIds := by
  unfold completeWithStopsInSession at h
  obtain ⟨_, hstops, h⟩ := Command.lift_bind_ok_iff.mp h
  have nonempty : ∀ stop ∈ request.stopSequences, stop ≠ [] := by
    unfold checkStops at hstops
    split at hstops
    · cases hstops
    · rename_i hfound
      intro stop hmem hempty
      have := List.findIdx?_eq_none_iff.mp hfound stop hmem
      rw [hempty] at this
      cases this
  obtain ⟨promptTokens, _, h⟩ := Command.lift_bind_ok_iff.mp h
  obtain ⟨_, _, hupdate, h⟩ := Command.bind_ok_iff.mp h
  cases hupdate
  obtain ⟨_, _, hread, h⟩ := Command.bind_ok_iff.mp h
  cases hread
  obtain ⟨⟨outcome, stream⟩, ⟨last, caller₁, chunks₁⟩, hstream, h⟩ := Command.bind_ok_iff.mp h
  have hassemble : assemble engine request promptTokens
      (resume engine.model.toCausalModel promptTokens session).history.length
        (recording emit) outcome stream
        (caller₁, chunks₁) = (.ok completion, caller', chunks) := by
    obtain ⟨_, hrun, hlast⟩ := Command.zoom_eq_iff.mp h
    cases hlast
    exact hrun
  -- the stream ends going on, or where it met a stop sequence
  have hended : Streaming engine.tokenizer request.stopSequences outcome.tokenIds stream chunks₁ ∨
      Halted engine.tokenizer request.stopSequences outcome.tokenIds stream chunks₁ := by
    unfold streamTokens at hstream
    dsimp only at hstream
    split at hstream
    · rename_i hgenerated
      cases hstream
      exact Generator.generateStream_emits
        (streamToken_emits steady engine.tokenizer request.stopSequences) _ _ _ _ _
        (.start engine.tokenizer nonempty) hgenerated
    · cases hstream
  obtain ⟨hids, decoded, raw, hdecoded, hraw, hchunks, htext⟩ :=
    assemble_streamed steady hended hassemble
  rw [htext, noThink, assistantOf_content, hids, hchunks]
  constructor
  · intro hsame decoded' raw' hdecoded' hraw'
    cases hdecoded.symm.trans hdecoded'
    cases hraw.symm.trans hraw'
    exact hsame
  · exact fun hsame => hsame decoded raw hdecoded hraw

/-- Tokens that decode the same with and without the special ones, and whose text comes token by
token as the front of it, are streamed as they are returned unless their text has a thinking section
in front or tool calls that can be read. -/
theorem streamedAsReturned_plain {tokenizer : Hy3Tokenizer V} {stopSequences : List Text}
    {ids : List Nat} {text : Text} (hshown : tokenizer.decode ids true = .ok text)
    (hraw : tokenizer.decode ids false = .ok text)
    (hstop : findAny stopSequences (incrementalText tokenizer ids) ≠ none →
      truncateAtFirstStop (incrementalText tokenizer ids) stopSequences =
        truncateAtFirstStop text stopSequences) :
    StreamedAsReturned tokenizer stopSequences ids ↔
      (∃ error,
        parseAssistantOutput tokenizer.serde (truncateAtFirstStop text stopSequences) .noThink =
          .error error) ∨
        (stripPrefix thinkBeginToken (truncateAtFirstStop text stopSequences)).bind
          (splitOnce thinkEndToken) = none ∧
          splitOnce toolCallsBeginToken (truncateAtFirstStop text stopSequences) = none := by
  have hsame : shownText tokenizer stopSequences ids text =
      truncateAtFirstStop text stopSequences := by
    unfold shownText
    split
    · rfl
    · rename_i hfound
      exact hstop hfound
  rw [← replyOf_eq_self_iff]
  constructor
  · intro h
    rcases h text text hshown hraw with herror | hreply
    · exact Or.inl herror
    · exact Or.inr (hreply.symm.trans hsame)
  · intro h decoded raw hdecoded hraw'
    cases hshown.symm.trans hdecoded
    cases hraw.symm.trans hraw'
    rw [hsame]
    exact h.imp_right Eq.symm

theorem speaking_context : 8 ≤ usizeMax := by decide

/-- A model of two tokens that likes the first one best. -/
def speakingModel : SnapshotModel Bool Nat Unit where
  vocabularySize := 2
  contextLength := 8
  contextLength_le := speaking_context
  newSession _ := .ok 0
  resetSession _ := 0
  position session := session
  evaluateToken fault _ := fun (session, logits) =>
    if fault then (.error (), session, logits) else (.ok (), session + 1, [F32.one, F32.zero])
  modelFingerprint := ⟨List.replicate 32 0, length_zeros⟩
  exportKvSnapshot _ _ _ := .error ()
  restoreKvSnapshot _ _ _ := Command.raise ()

/-- A tokenizer whose first token is a special one, or the letter `z`. -/
def speakingTokenizer (special : Bool) : Hy3Tokenizer Text where
  inner := ⟨fun text => .ok (List.replicate (text.count 'z') 0),
    fun ids skip =>
      .ok (ids.flatMap fun _ => if special then if skip then [] else userToken else ['z']),
    fun _ _ state => (.ok (if special then none else some ['z']), state)⟩
  serde := ⟨fun _ => false, id, some, fun _ _ => Option.some_inj, .ok, fun _ => none⟩
  eos := 1

def speakingEngine (special : Bool) : Hy3ChatEngine Bool Nat Unit Unit Unit Text :=
  ⟨speakingModel, greedyHost, speakingTokenizer special, Nat.lt_succ_self 1⟩

def speakingRequest : ChatRequest Text :=
  { countingRequest ['z'] with
    sampling := { SamplingConfig.default with temperature := .zero, maxNewTokens := 1 } }

def speakingSession : GenerationSession Nat := ⟨0, [], [F32.zero, F32.zero], false, true⟩

def steadyCallback : TextCallback Unit := fun _ caller => (false, caller)

theorem speaking_sample (sampler : Sampler Unit) (hgreedy : sampler.config.temperature = .zero)
    (hplain : sampler.config.repetitionPenalty = .one) (hsize : sampler.vocabularySize = 2)
    (history : List Nat) (rng : Unit) :
    sampler.sample greedyHost [F32.one, F32.zero] history rng = (.ok 0, rng) := by
  have hcandidates : candidatesOf greedyHost sampler.config [F32.one, F32.zero] history =
      [⟨0, F32.one, ()⟩, ⟨1, F32.zero, ()⟩] := by
    unfold candidatesOf isRepeated
    rw [hplain]
    rfl
  unfold Sampler.sample
  rw [hsize, hcandidates, List.mergeSort_of_pairwise (by decide), hgreedy]
  rfl

/-- The stream of one sampled token. -/
theorem speaking_stream {τ : Type} (emit : Callback τ) (stream : τ) :
    Generator.generateStream speakingModel.toCausalModel greedyHost calmCall
      (speakingRequest.sampling.insertStop 1) [0] emit
        (speakingSession, stream) =
      (.ok (outcome [0] (if (emit ⟨0, 0⟩ stream).1 then .callback else .maxTokens) 1),
        ⟨2, [0, 0], [F32.one, F32.zero], true, true⟩, (emit ⟨0, 0⟩ stream).2) := by
  have hcalm : ∀ n, ¬ calmCall.cancelled n = true := fun _ => Bool.false_ne_true
  have hprepare : Generator.prepare speakingModel.toCausalModel calmCall.alloc
      (speakingRequest.sampling.insertStop 1) [0]
      speakingSession = .ok 1 := by decide +kernel
  have hprefill : Generator.prefill speakingModel.toCausalModel calmCall 0 [0]
      (Prod.fst (speakingSession, stream)) =
      (.ok true, ⟨1, [0], [F32.one, F32.zero], true, true⟩) := rfl
  have hnew : wrap (GenerationError.sampling (E := Unit))
      (Sampler.new greedyHost calmCall.alloc
        (speakingRequest.sampling.insertStop 1) speakingModel.vocabularySize) =
        .ok ⟨speakingRequest.sampling.insertStop 1, 2, ()⟩ := by decide +kernel
  have hsample := speaking_sample ⟨speakingRequest.sampling.insertStop 1, 2, ()⟩ rfl rfl rfl [0] ()
  have hdecode : Generator.decode speakingModel.toCausalModel greedyHost calmCall
      (speakingRequest.sampling.insertStop 1) emit
      1 .maxTokens 1 0 ⟨speakingRequest.sampling.insertStop 1, 2, ()⟩ []
        (⟨1, [0], [F32.one, F32.zero], true, true⟩, stream) =
        (.ok ([0], if (emit ⟨0, 0⟩ stream).1 then .callback else .maxTokens),
          ⟨2, [0, 0], [F32.one, F32.zero], true, true⟩, (emit ⟨0, 0⟩ stream).2) := by
    have hemit : (Generator.emitToken (E := Unit) (speakingRequest.sampling.insertStop 1) emit
        ⟨0, 0⟩ []).zoom Prod.snd
        (fun caller state => (state.1, caller))
          ((⟨2, [0, 0], [F32.one, F32.zero], true, true⟩ : GenerationSession Nat), stream) =
        (.ok ([0], if (emit ⟨0, 0⟩ stream).1 then some .callback else none),
          ⟨2, [0, 0], [F32.one, F32.zero], true, true⟩, (emit ⟨0, 0⟩ stream).2) := rfl
    unfold Generator.decode
    rw [if_neg (hcalm _), Command.bind_of_ok (Command.read_run _)]
    dsimp only
    rw [hsample]
    have hevaluate : Generator.evaluate speakingModel.toCausalModel (calmCall.world (1 + 0)) 0
        (Prod.fst ((⟨1, [0], [F32.one, F32.zero], true, true⟩ : GenerationSession Nat), stream)) =
          (.ok (), ⟨2, [0, 0], [F32.one, F32.zero], true, true⟩) := rfl
    change (Command.lift (.ok 0) >>= _) _ = _
    rw [Command.bind_of_ok (Command.lift_run _ _), Command.bind_of_ok (Command.zoom_run hevaluate),
      Command.bind_of_ok hemit]
    cases (emit ⟨0, 0⟩ stream).1 with
    | true => rfl
    | false => rfl
  unfold Generator.generateStream
  rw [Command.bind_of_ok (Command.read_run _)]
  dsimp only
  rw [hprepare, Command.bind_of_ok (Command.lift_run _ _), if_neg (hcalm _),
    Command.bind_of_ok (Command.zoom_run hprefill), if_pos rfl, hnew,
    Command.bind_of_ok (Command.lift_run _ _)]
  exact Command.bind_of_ok hdecode

/-- What is completed with the one token. -/
def spoken (text : Text) : ChatCompletion Text where
  promptTokenIds := [0]
  cachedPromptTokens := 0
  text
  rawText := text
  assistant := .plain text
  structuredOutputError := none
  generation := outcome [0] .maxTokens 1

theorem speaking_complete (special : Bool) :
    completeWithStopsInSession (speakingEngine special) calmCall speakingRequest
      (recording steadyCallback)
        (speakingSession, (), []) =
      (.ok (spoken (if special then userToken else ['z'])),
        ⟨2, [0, 0], [F32.one, F32.zero], true, true⟩, (),
        if special then [] else [['z']]) := by
  have hprompt : promptOf (speakingEngine special) speakingRequest = .ok [0] := by
    cases special <;> decide +kernel
  have hgenerated : Generator.generateStream (speakingEngine special).model.toCausalModel
      (speakingEngine special).host calmCall
      (speakingRequest.sampling.insertStop (speakingEngine special).tokenizer.eos) [0]
      (streamToken (speakingEngine special).tokenizer (recording steadyCallback))
      (speakingSession, .start speakingRequest.stopSequences, (), []) = _ := speaking_stream _ _
  have hstream : streamTokens (speakingEngine special) calmCall speakingRequest.sampling
      speakingRequest.stopSequences
      ([0].drop
        (resume (speakingEngine special).model.toCausalModel [0] speakingSession).history.length)
      (recording steadyCallback)
        (resume (speakingEngine special).model.toCausalModel [0] speakingSession, (), []) = _ :=
    streamTokens_run hgenerated
  rw [complete_run _ _ _ hprompt]
  refine (Command.bind_of_ok hstream).trans ?_
  cases special with
  | true => rfl
  | false => rfl

/-- A letter is streamed as it is returned. -/
theorem streamed_text_iff_letter : StreamedAsReturned (speakingTokenizer false) [] [0] :=
  (streamed_text_iff (fun _ _ => rfl) rfl (speaking_complete false)).mp rfl

/-- A special token is returned as its text, of which nothing is streamed. -/
theorem not_streamed_text :
    speakingRequest.template.tools = [] ∧
      speakingRequest.template.reasoningEffort = .noThink ∧
      completeWithStopsInSession (speakingEngine true) calmCall speakingRequest
          (recording steadyCallback) (speakingSession, (), []) =
        (.ok (spoken userToken), ⟨2, [0, 0], [F32.one, F32.zero], true, true⟩, (), []) ∧
      ([] : List Text).flatten ≠ (spoken userToken).text :=
  ⟨rfl, rfl, speaking_complete true, by decide⟩

end Complete
end Hy3ChatEngine
end LightBridge.Runtime
