import LightBridge.Runtime.ChatSession
import LightBridge.Runtime.StopFilter

/-! `Hy3ChatEngine`: a chat request becomes a prompt, tokens are streamed through the decoder
and the stop filter, and the generated tokens are parsed into the reply. -/
namespace LightBridge.Runtime
open Foundation Tokenizer

/-- `Hy3ChatEngine`, with the host of its sampler. `from_parts` rejects a tokenizer of
another vocabulary, which holds the end of sequence. -/
structure Hy3ChatEngine (Ω S E R W V : Type) where
  model : SnapshotModel Ω S E
  host : SamplerHost R W
  tokenizer : Hy3Tokenizer V
  eos_lt : tokenizer.eos < model.vocabularySize

/-- `ChatCompletion`. The error of the parser stands for its text. -/
structure ChatCompletion (V : Type) where
  promptTokenIds : List Nat
  cachedPromptTokens : Nat
  text : Text
  rawText : Text
  assistant : AssistantOutput V
  structuredOutputError : Option AssistantParseError
  generation : GenerationOutcome

/-- What a caller asks for. -/
structure ChatRequest (V : Type) where
  messages : List (ChatMessage V)
  template : ChatTemplateOptions V
  sampling : SamplingConfig
  stopSequences : List Text

/-- The callback for text, on its own state; `true` is `Break`. -/
abbrev TextCallback (υ : Type) : Type := Text → υ → Bool × υ

/-- The variables that the token callback captures. -/
structure StreamState where
  decoder : IncrementalDecoder
  filter : TextStopFilter
  incrementalText : Text
  visibleText : Text
  decodeError : Option TokenizerError
  callbackStopped : Bool
  matchedStop : Bool
  deriving DecidableEq, Repr

def StreamState.start (stopSequences : List Text) : StreamState where
  decoder := Hy3Tokenizer.incrementalDecoder true
  filter := .new stopSequences
  incrementalText := []
  visibleText := []
  decodeError := none
  callbackStopped := false
  matchedStop := false

namespace Hy3ChatEngine
variable {Ω S E R W V υ : Type}

/-- `!text.is_empty() && emit(text).is_break()`. -/
def emitText (emit : TextCallback υ) (text : Text) (caller : υ) : Bool × υ :=
  if text = [] then (false, caller) else emit text caller

/-- What the token callback does with a decoded chunk. -/
def streamChunk (emit : TextCallback υ) (chunk : Text) (stream : StreamState) (caller : υ) :
    Bool × StreamState × υ :=
  let (update, filter) := stream.filter.push chunk
  let stream := { stream with
    filter, incrementalText := stream.incrementalText ++ chunk,
    visibleText := stream.visibleText ++ update.text }
  let (broke, caller) := emitText emit update.text caller
  if broke then (true, { stream with callbackStopped := true }, caller)
  else if update.stopped then (true, { stream with matchedStop := true }, caller)
  else (false, stream, caller)

/-- The token callback of `complete_with_stops_in_session`. -/
def streamToken (tokenizer : Hy3Tokenizer V) (emit : TextCallback υ) : Callback (StreamState × υ) :=
  fun token (stream, caller) =>
    match tokenizer.push token.tokenId stream.decoder with
    | (.error error, decoder) => (true, { stream with decoder, decodeError := some error }, caller)
    | (.ok none, decoder) => (false, { stream with decoder }, caller)
    | (.ok (some chunk), decoder) => streamChunk emit chunk { stream with decoder } caller

/-- The generation under a completion, and what its callback captured. -/
def streamTokens (engine : Hy3ChatEngine Ω S E R W V) (env : CallEnvironment Ω)
    (sampling : SamplingConfig) (stopSequences : List Text) (promptSuffix : List Nat)
    (emit : TextCallback υ) :
    Command (GenerationSession S × υ) (ChatEngineError E TokenizerError)
      (GenerationOutcome × StreamState) := fun state =>
  match Generator.generateStream engine.model.toCausalModel engine.host env
    (sampling.insertStop engine.tokenizer.eos)
      promptSuffix (streamToken engine.tokenizer emit) (state.1, .start stopSequences, state.2) with
  | (.ok outcome, (session, stream, caller)) => (.ok (outcome, stream), (session, caller))
  | (.error error, (session, _, caller)) => (.error (.generation error), (session, caller))

/-- The text behind what was decoded token by token, once the generation has ended. -/
def flush (emit : TextCallback υ) (decodedText : Text) (outcome : GenerationOutcome)
    (stream : StreamState) :
    Command υ (ChatEngineError E TokenizerError) (GenerationOutcome × StreamState) := do
  let suffix ← Command.lift
    (okOr (stripPrefix stream.incrementalText decodedText) .incrementalDecodeDiverged)
  let (update, filter) := stream.filter.push suffix
  let stream := { stream with filter, visibleText := stream.visibleText ++ update.text }
  let broke ← fun caller =>
    (.ok (emitText emit update.text caller).1, (emitText emit update.text caller).2)
  let outcome := if broke then { outcome with stopReason := .callback } else outcome
  let stream := if broke then { stream with callbackStopped := true } else stream
  if update.stopped then pure (outcome, { stream with matchedStop := true })
  else if broke then pure (outcome, stream)
  else do
    let (suffix, filter) := stream.filter.finish
    let stream := { stream with filter, visibleText := stream.visibleText ++ suffix }
    let broke ← fun caller => (.ok (emitText emit suffix caller).1, (emitText emit suffix caller).2)
    pure (if broke then { outcome with stopReason := .callback } else outcome, stream)

/-- What `parse_assistant_output` makes of the reply, or its visible text. -/
def assistantOf (tokenizer : Hy3Tokenizer V) (rawText visibleText : Text)
    (effort : ReasoningEffort) :
    AssistantOutput V × Option AssistantParseError :=
  match parseAssistantOutput tokenizer.serde rawText effort with
  | .ok assistant => (assistant, none)
  | .error error => (.plain visibleText, some error)

/-- The end of `assemble`, when all of the text has been let through. -/
def conclude (engine : Hy3ChatEngine Ω S E R W V) (request : ChatRequest V)
    (promptTokens : List Nat) (cachedPromptTokens : Nat) (outcome : GenerationOutcome)
    (stream : StreamState) :
    Command υ (ChatEngineError E TokenizerError) (ChatCompletion V) := do
  let outcome := if stream.matchedStop then { outcome with stopReason := .stopSequence }
    else outcome
  let rawDecoded ← Command.lift (wrap .tokenizer (engine.tokenizer.decode outcome.tokenIds false))
  let rawText := truncateAtFirstStop rawDecoded request.stopSequences
  let (assistant, structuredOutputError) :=
    assistantOf engine.tokenizer rawText stream.visibleText request.template.reasoningEffort
  pure {
    promptTokenIds := promptTokens, cachedPromptTokens, text := assistant.content,
    rawText, assistant, structuredOutputError, generation := outcome }

/-- What follows the generation. -/
def assemble (engine : Hy3ChatEngine Ω S E R W V) (request : ChatRequest V)
    (promptTokens : List Nat) (cachedPromptTokens : Nat) (emit : TextCallback υ)
    (outcome : GenerationOutcome) (stream : StreamState) :
    Command υ (ChatEngineError E TokenizerError) (ChatCompletion V) := do
  Command.lift (match stream.decodeError with
    | some error => .error (.tokenizer error)
    | none => .ok ())
  let decodedText ← Command.lift (wrap .tokenizer (engine.tokenizer.decode outcome.tokenIds true))
  let outcome := { outcome with promptTokens := promptTokens.length }
  let (outcome, stream) ←
    (if stream.callbackStopped || stream.matchedStop then pure (outcome, stream)
    else flush emit decodedText outcome stream)
  conclude engine request promptTokens cachedPromptTokens outcome stream

def checkStops (stopSequences : List Text) : Except (ChatEngineError E TokenizerError) Unit :=
  match stopSequences.findIdx? List.isEmpty with
  | some index => .error (.emptyStopSequence index)
  | none => .ok ()

/-- The session a completion goes on with: as it is when the prompt extends it, else reset. -/
def resume (model : CausalModel Ω S E) (promptTokens : List Nat) (session : GenerationSession S) :
    GenerationSession S :=
  if session.history.isPrefixOf promptTokens then session else Generator.reset model session

def completeWithStopsInSession (engine : Hy3ChatEngine Ω S E R W V) (env : CallEnvironment Ω)
    (request : ChatRequest V) (emit : TextCallback υ) :
    Command (GenerationSession S × υ) (ChatEngineError E TokenizerError) (ChatCompletion V) := do
  Command.lift (checkStops request.stopSequences)
  let promptTokens ← Command.lift
    (wrap .tokenizer (engine.tokenizer.formatAndEncode request.messages request.template))
  Command.update fun state => (resume engine.model.toCausalModel promptTokens state.1, state.2)
  let (session, _) ← Command.read
  let cachedPromptTokens := session.history.length
  let (outcome, stream) ← streamTokens engine env request.sampling request.stopSequences
    (promptTokens.drop cachedPromptTokens) emit
  (assemble engine request promptTokens cachedPromptTokens emit outcome stream).zoom Prod.snd
    fun caller state => (state.1, caller)

/-! ### A completion and its session -/

section Complete
variable {engine : Hy3ChatEngine Ω S E R W V} {session : GenerationSession S}

/-- What a completion goes on with is the front of its prompt. -/
theorem resume_prefix (model : CausalModel Ω S E) (promptTokens : List Nat)
    (session : GenerationSession S) :
    (resume model promptTokens session).history <+: promptTokens := by
  unfold resume
  split
  · rename_i hfront
    exact List.isPrefixOf_iff_prefix.mp hfront
  · exact List.nil_prefix

/-- What a completion checks and encodes before it looks at its session. -/
def promptOf (engine : Hy3ChatEngine Ω S E R W V) (request : ChatRequest V) :
    Except (ChatEngineError E TokenizerError) (List Nat) := do
  checkStops request.stopSequences
  wrap .tokenizer (engine.tokenizer.formatAndEncode request.messages request.template)

theorem complete_refused (env : CallEnvironment Ω) {request : ChatRequest V}
    (emit : TextCallback υ) (caller : υ) {error : ChatEngineError E TokenizerError}
    (hprompt : promptOf engine request = .error error) :
    completeWithStopsInSession engine env request emit (session, caller) =
      (.error error, session, caller) := by
  unfold completeWithStopsInSession
  rcases except_bind_error_iff.mp hprompt with hstops | ⟨_, hstops, hencoded⟩
  · rw [hstops, Command.bind_of_error (Command.lift_run _ _)]
  · rw [hstops, hencoded, Command.bind_of_ok (Command.lift_run _ _),
      Command.bind_of_error (Command.lift_run _ _)]

/-- A completion of an encoded request runs its stream from the session it goes on with. -/
theorem complete_run (env : CallEnvironment Ω) {request : ChatRequest V}
    (emit : TextCallback υ) (caller : υ) {promptTokens : List Nat}
    (hprompt : promptOf engine request = .ok promptTokens) :
    completeWithStopsInSession engine env request emit (session, caller) =
      (streamTokens engine env request.sampling request.stopSequences
        (promptTokens.drop (resume engine.model.toCausalModel promptTokens session).history.length)
        emit >>= fun ended =>
          (assemble engine request promptTokens
            (resume engine.model.toCausalModel promptTokens session).history.length emit ended.1
            ended.2).zoom Prod.snd
              fun caller state => (state.1, caller))
        (resume engine.model.toCausalModel promptTokens session, caller) := by
  unfold completeWithStopsInSession
  obtain ⟨_, hstops, hencoded⟩ := except_bind_ok_iff.mp hprompt
  rw [hstops, hencoded, Command.bind_of_ok (Command.lift_run _ _),
    Command.bind_of_ok (Command.lift_run _ _), Command.bind_of_ok (Command.update_run _ _),
    Command.bind_of_ok (Command.read_run _)]

end Complete
end Hy3ChatEngine
end LightBridge.Runtime
