import LightBridge.Runtime.Leaving
import LightBridge.Server.Requests

/-! The answers of `bridge-server`: a completion as one response, or as a stream of events for a
client that may leave. -/
namespace LightBridge.Server
open Foundation Command Tokenizer LightBridge.Runtime

/-! ### Completions as JSON -/

structure AssistantFunctionCall where
  name : Text
  arguments : Text
  deriving DecidableEq, Repr

structure AssistantToolCall where
  id : Text
  kind : String
  function : AssistantFunctionCall
  deriving DecidableEq, Repr

structure AssistantMessage where
  role : String
  content : Option Text
  reasoningContent : Option Text
  toolCalls : List AssistantToolCall
  deriving DecidableEq, Repr

/-- The object of `assistant_delta`; a call has its index. -/
structure AssistantDelta where
  content : Option Text
  reasoningContent : Option Text
  toolCalls : List (AssistantToolCall × Nat)
  deriving DecidableEq, Repr

structure Usage where
  promptTokens : Nat
  cachedTokens : Nat
  completionTokens : Nat
  totalTokens : Nat
  deriving DecidableEq, Repr

/-- How the host writes what the model does not look into, and what its clock says each time. -/
structure ResponseHost (E : Type) where
  argumentsText : SortedMap Text Value → Text
  errorText : ChatEngineError E TokenizerError → String
  unixSeconds : Nat → Nat

/-- `trim_start_matches`, at most `fuel` times. -/
def trimStartMatches (pattern : Text) : Nat → Text → Text
  | 0, text => text
  | fuel + 1, text =>
      match stripPrefix pattern text with
      | some rest => trimStartMatches pattern fuel rest
      | none => text

/-- The identifier of a call. -/
def toolCallId (id : Text) (index : Nat) : Text :=
  "call_".toList ++ trimStartMatches "chatcmpl-".toList id.length id ++ "_".toList ++
    Nat.toDigits 10 index

section Responses
variable {E : Type} (host : ResponseHost E)

def responseToolCalls (id : Text) (calls : List (ToolCall Value)) : List AssistantToolCall :=
  calls.zipIdx.map fun call => {
    id := toolCallId id call.2
    kind := "function"
    function := { name := call.1.name, arguments := host.argumentsText call.1.arguments } }

def assistantMessage (id : Text) (output : AssistantOutput Value) : AssistantMessage where
  role := "assistant"
  content := if output.content.isEmpty && !output.toolCalls.isEmpty then none
    else some output.content
  reasoningContent := output.reasoning
  toolCalls := responseToolCalls host id output.toolCalls

def assistantDelta (id : Text) (output : AssistantOutput Value) : AssistantDelta where
  content := if output.content.isEmpty then none else some output.content
  reasoningContent := output.reasoning
  toolCalls := (responseToolCalls host id output.toolCalls).zipIdx

end Responses

def completionUsage (completion : ChatCompletion Value) : Usage where
  promptTokens := completion.promptTokenIds.length
  cachedTokens := completion.cachedPromptTokens
  completionTokens := completion.generation.tokenIds.length
  totalTokens := saturatingAdd completion.promptTokenIds.length
    completion.generation.tokenIds.length

def finishReason : StopReason → String
  | .stopToken _ | .stopSequence => "stop"
  | .maxTokens | .contextLength => "length"
  | .cancelled | .callback => "cancelled"

def completionFinishReason (completion : ChatCompletion Value) : String :=
  if completion.assistant.toolCalls.isEmpty then finishReason completion.generation.stopReason
  else "tool_calls"

/-- `ChatCompletionResponse`, with its one choice. -/
structure ChatCompletionResponse where
  id : Text
  created : Nat
  model : Text
  message : AssistantMessage
  finishReason : String
  usage : Usage
  deriving DecidableEq, Repr

def nonStreamingResponse {E : Type} (host : ResponseHost E) (asked : Nat) (id : Text)
    (completion : ChatCompletion Value) : ChatCompletionResponse where
  id := id
  created := host.unixSeconds asked
  model := modelId
  message := assistantMessage host id completion.assistant
  finishReason := completionFinishReason completion
  usage := completionUsage completion

/-! ### Events -/

inductive Delta where
  | role
  | content (text : Text)
  | assistant (delta : AssistantDelta)
  | empty
  deriving DecidableEq, Repr

/-- A chunk has a choice, with its delta and finish reason, or none; its usage may be absent or
null. -/
structure Chunk where
  id : Text
  created : Nat
  model : Text
  choice : Option (Delta × Option String)
  usage : Option (Option Usage)
  deriving DecidableEq, Repr

inductive Event where
  | chunk (chunk : Chunk)
  | error (message kind : String)
  | done
  deriving DecidableEq, Repr

/-- A channel to a client, which leaves after `remaining` more events if that is a number. The
channel of tokio holds up to 32 events, for which `blocking_send` waits; it is assumed to lose none
and to keep their order. -/
structure Connection where
  received : List Event
  remaining : Option Nat
  asked : Nat
  deriving DecidableEq, Repr

namespace Connection

/-- Nothing was sent yet. -/
def start (remaining : Option Nat) : Connection := ⟨[], remaining, 0⟩

/-- `send_event`: `true` when the client takes the event. -/
def sendEvent (event : Event) (connection : Connection) : Bool × Connection :=
  match connection.remaining with
  | some 0 => (false, connection)
  | some (left + 1) =>
      (true, { connection with received := connection.received ++ [event], remaining := some left })
  | none => (true, { connection with received := connection.received ++ [event] })

/-- A client that stays takes every event. -/
theorem sendEvent_staying {connection : Connection} (h : connection.remaining = none)
    (event : Event) : connection.sendEvent event =
      (true, { connection with received := connection.received ++ [event] }) := by
  rw [sendEvent, h]

end Connection

section Streams
variable {Ω S E R W : Type} (host : ResponseHost E) (id : Text)

/-- The chunk that is made when the clock has been asked before. -/
def chunkAt (asked : Nat) (choice : Option (Delta × Option String))
    (usage : Option (Option Usage)) : Event :=
  .chunk { id, created := host.unixSeconds asked, model := modelId, choice, usage }

def sendChunk (choice : Option (Delta × Option String)) (usage : Option (Option Usage))
    (connection : Connection) : Bool × Connection :=
  Connection.sendEvent (chunkAt host id connection.asked choice usage)
    { connection with asked := connection.asked + 1 }

/-- `add_null_usage`. -/
def nullUsage (includeUsage : Bool) : Option (Option Usage) :=
  if includeUsage then some none else none

variable (prepared : PreparedRequest)

/-- The callback of `stream_completion`. The completion is cancelled where it breaks, and does
not look at its token again. -/
def onText : TextCallback Connection := fun text connection =>
  if prepared.bufferStructuredOutput then (false, connection)
  else
    let (sent, connection) := sendChunk host id (some (.content text, none))
      (nullUsage prepared.includeUsage) connection
    (!sent, connection)

/-- What `stream_completion` sends behind the texts. -/
def finishStream (result : Except (ChatEngineError E TokenizerError) (ChatCompletion Value))
    (connection : Connection) : Connection :=
  let connection :=
    match result with
    | .ok completion =>
        let connection :=
          if prepared.bufferStructuredOutput then
            (sendChunk host id
              (some (.assistant (assistantDelta host id completion.assistant), none))
              (nullUsage prepared.includeUsage) connection).2
          else connection
        let connection := (sendChunk host id (some (.empty, completionFinishReason completion))
          (nullUsage prepared.includeUsage) connection).2
        if prepared.includeUsage then
          (sendChunk host id none (some (completionUsage completion)) connection).2
        else connection
    | .error error => (connection.sendEvent (.error (host.errorText error) "inference_error")).2
  (connection.sendEvent .done).2

/-- What the engine is asked. -/
def PreparedRequest.chat : ChatRequest Value where
  messages := prepared.messages
  template := prepared.template
  sampling := prepared.sampling
  stopSequences := prepared.stopSequences

/-- The worker of `stream_completion`. -/
def streamCompletion (engine : Hy3ChatEngine Ω S E R W Value) (opening : Ω)
    (env : CallEnvironment Ω) (connection : Connection) : Connection :=
  let (sent, connection) := sendChunk host id (some (.role, none))
    (nullUsage prepared.includeUsage) connection
  if sent then
    let (result, connection) := Hy3ChatEngine.completeWithStops engine opening env prepared.chat
      (onText host id prepared) connection
    finishStream host id prepared result connection
  else connection

end Streams

/-! ### A client that leaves -/

/-- Beside a client that stays, one that leaves after `n` events has not left. -/
structure InStep (n : Nat) (leaving staying : Connection) : Prop where
  received : leaving.received = staying.received
  asked : leaving.asked = staying.asked
  remaining : leaving.remaining = some (n - staying.received.length)
  length_le : staying.received.length ≤ n
  stays : staying.remaining = none

/-- It has left, with the first `n` events. -/
structure Left (n : Nat) (leaving staying : Connection) : Prop where
  received : leaving.received = staying.received.take n
  remaining : leaving.remaining = some 0
  length_le : n ≤ staying.received.length
  stays : staying.remaining = none

section Leaving
variable {n : Nat} {leaving staying : Connection}

theorem InStep.start (n : Nat) : InStep n (.start (some n)) (.start none) :=
  ⟨rfl, rfl, rfl, Nat.zero_le n, rfl⟩

theorem InStep.ask (h : InStep n leaving staying) :
    InStep n { leaving with asked := leaving.asked + 1 }
      { staying with asked := staying.asked + 1 } :=
  ⟨h.received, congrArg (· + 1) h.asked, h.remaining, h.length_le, h.stays⟩

theorem InStep.sendEvent (h : InStep n leaving staying) (event : Event) :
    ((leaving.sendEvent event).1 = (staying.sendEvent event).1 ∧
      InStep n (leaving.sendEvent event).2 (staying.sendEvent event).2) ∨
      (leaving.sendEvent event).1 = false ∧
      Left n (leaving.sendEvent event).2 (staying.sendEvent event).2 := by
  have hlength := h.length_le
  rw [Connection.sendEvent_staying h.stays]
  cases hleft : n - staying.received.length with
  | zero =>
      have hleaving : leaving.sendEvent event = (false, leaving) := by
        rw [Connection.sendEvent, h.remaining, hleft]
      rw [hleaving]
      have hfull : staying.received.length = n := by omega
      refine .inr ⟨rfl, ?_, by rw [h.remaining, hleft], ?_, h.stays⟩
      · rw [h.received, ← hfull, List.take_left]
      · simp [hfull]
  | succ left =>
      have hleaving : leaving.sendEvent event = (true, { leaving with
          received := leaving.received ++ [event], remaining := some left }) := by
        rw [Connection.sendEvent, h.remaining, hleft]
      rw [hleaving]
      refine .inl ⟨rfl, ?_, h.asked, ?_, ?_, h.stays⟩
      · simp only [h.received]
      · simp only [List.length_append, List.length_singleton]
        congr 1
        omega
      · simp only [List.length_append, List.length_singleton]
        omega

theorem Left.sendEvent_left (h : Left n leaving staying) (event : Event) :
    Left n (leaving.sendEvent event).2 staying := by
  rw [Connection.sendEvent, h.remaining]
  exact h

theorem Left.sendEvent_right (h : Left n leaving staying) (event : Event) :
    Left n leaving (staying.sendEvent event).2 := by
  rw [Connection.sendEvent_staying h.stays]
  refine ⟨?_, h.remaining, ?_, h.stays⟩
  · rw [h.received, List.take_append_of_le_length h.length_le]
  · have hlength := h.length_le
    simp only [List.length_append]
    omega

variable {E : Type} (host : ResponseHost E) (id : Text) (prepared : PreparedRequest)

theorem InStep.sendChunk (h : InStep n leaving staying) (choice : Option (Delta × Option String))
    (usage : Option (Option Usage)) :
    ((Server.sendChunk host id choice usage leaving).1 =
        (Server.sendChunk host id choice usage staying).1 ∧
      InStep n (Server.sendChunk host id choice usage leaving).2
        (Server.sendChunk host id choice usage staying).2) ∨
      (Server.sendChunk host id choice usage leaving).1 = false ∧
      Left n (Server.sendChunk host id choice usage leaving).2
        (Server.sendChunk host id choice usage staying).2 := by
  have hevent : chunkAt host id leaving.asked choice usage =
      chunkAt host id staying.asked choice usage := by rw [h.asked]
  unfold Server.sendChunk
  rw [hevent]
  exact h.ask.sendEvent _

theorem Left.sendChunk_left (h : Left n leaving staying)
    (choice : Option (Delta × Option String)) (usage : Option (Option Usage)) :
    Left n (sendChunk host id choice usage leaving).2 staying := by
  have hasked : Left n { leaving with asked := leaving.asked + 1 } staying :=
    ⟨h.received, h.remaining, h.length_le, h.stays⟩
  exact hasked.sendEvent_left _

theorem Left.sendChunk_right (h : Left n leaving staying)
    (choice : Option (Delta × Option String)) (usage : Option (Option Usage)) :
    Left n leaving (sendChunk host id choice usage staying).2 := by
  have hasked : Left n leaving { staying with asked := staying.asked + 1 } :=
    ⟨h.received, h.remaining, h.length_le, h.stays⟩
  exact hasked.sendEvent_right _

/-- The texts of a completion leave one client and reach the other. -/
theorem onText_leaves (n : Nat) :
    Leaves (InStep n) (Left n) (onText host id prepared) (onText host id prepared) := by
  constructor
  · intro text leaving staying h
    unfold onText
    split
    · exact .inl ⟨rfl, h⟩
    · rcases h.sendChunk host id (some (.content text, none))
        (nullUsage prepared.includeUsage) with ⟨hsame, hnext⟩ | ⟨-, hleft⟩
      · exact .inl ⟨congrArg (fun sent => !sent) hsame, hnext⟩
      · exact .inr hleft
  · intro text leaving staying h
    unfold onText
    split
    · exact h
    · exact h.sendChunk_left host id _ _
  · intro text leaving staying h
    unfold onText
    split
    · exact h
    · exact h.sendChunk_right host id _ _

theorem Left.finishStream_left (h : Left n leaving staying)
    (result : Except (ChatEngineError E TokenizerError) (ChatCompletion Value)) :
    Left n (finishStream host id prepared result leaving) staying := by
  unfold finishStream
  apply Left.sendEvent_left
  cases result with
  | error error => exact h.sendEvent_left _
  | ok completion =>
      dsimp only
      split
      · split
        · exact ((h.sendChunk_left host id _ _).sendChunk_left host id _ _).sendChunk_left host id
            _ _
        · exact (h.sendChunk_left host id _ _).sendChunk_left host id _ _
      · split
        · exact (h.sendChunk_left host id _ _).sendChunk_left host id _ _
        · exact h.sendChunk_left host id _ _

theorem Left.finishStream_right (h : Left n leaving staying)
    (result : Except (ChatEngineError E TokenizerError) (ChatCompletion Value)) :
    Left n leaving (finishStream host id prepared result staying) := by
  unfold finishStream
  apply Left.sendEvent_right
  cases result with
  | error error => exact h.sendEvent_right _
  | ok completion =>
      dsimp only
      split
      · split
        · exact ((h.sendChunk_right host id _ _).sendChunk_right host id _ _).sendChunk_right host
            id _ _
        · exact (h.sendChunk_right host id _ _).sendChunk_right host id _ _
      · split
        · exact (h.sendChunk_right host id _ _).sendChunk_right host id _ _
        · exact h.sendChunk_right host id _ _

/-- The client that leaves has what it received before the other client. -/
def Follows (n : Nat) (leaving staying : Connection) : Prop :=
  InStep n leaving staying ∨ Left n leaving staying

theorem Follows.received (h : Follows n leaving staying) :
    leaving.received = staying.received.take n := by
  rcases h with h | h
  · rw [h.received, List.take_of_length_le h.length_le]
  · exact h.received

theorem Follows.sendEvent (h : Follows n leaving staying) (event : Event) :
    Follows n (leaving.sendEvent event).2 (staying.sendEvent event).2 := by
  rcases h with h | h
  · exact (h.sendEvent event).imp And.right And.right
  · exact .inr ((h.sendEvent_left event).sendEvent_right event)

theorem Follows.sendChunk (h : Follows n leaving staying)
    (choice : Option (Delta × Option String)) (usage : Option (Option Usage)) :
    Follows n (Server.sendChunk host id choice usage leaving).2
      (Server.sendChunk host id choice usage staying).2 := by
  rcases h with h | h
  · exact (h.sendChunk host id choice usage).imp And.right And.right
  · exact .inr ((h.sendChunk_left host id choice usage).sendChunk_right host id choice usage)

theorem Follows.finishStream (h : Follows n leaving staying)
    (result : Except (ChatEngineError E TokenizerError) (ChatCompletion Value)) :
    Follows n (Server.finishStream host id prepared result leaving)
      (Server.finishStream host id prepared result staying) := by
  unfold Server.finishStream
  apply Follows.sendEvent
  cases result with
  | error error => exact h.sendEvent _
  | ok completion =>
      dsimp only
      split
      · split
        · exact ((h.sendChunk host id _ _).sendChunk host id _ _).sendChunk host id _ _
        · exact (h.sendChunk host id _ _).sendChunk host id _ _
      · split
        · exact (h.sendChunk host id _ _).sendChunk host id _ _
        · exact h.sendChunk host id _ _

variable {Ω S R W : Type}

theorem streamCompletion_follows (engine : Hy3ChatEngine Ω S E R W Value) (opening : Ω)
    (env : CallEnvironment Ω) (n : Nat) :
    Follows n (streamCompletion host id prepared engine opening env (.start (some n)))
      (streamCompletion host id prepared engine opening env (.start none)) := by
  have hleaves := onText_leaves host id prepared n
  unfold streamCompletion
  dsimp only
  have hsent : (sendChunk host id (some (.role, none)) (nullUsage prepared.includeUsage)
      (.start none)).1 = true := rfl
  rw [hsent]
  rcases (InStep.start n).sendChunk host id (some (.role, none))
    (nullUsage prepared.includeUsage) with ⟨hsame, hnext⟩ | ⟨hrefused, hleft⟩
  · rw [hsame, hsent, if_pos rfl, if_pos rfl]
    have hrun := Hy3ChatEngine.completeWithStops_leaves hleaves engine opening env prepared.chat
      hnext
    generalize Hy3ChatEngine.completeWithStops engine opening env prepared.chat
      (onText host id prepared) (sendChunk host id (some (.role, none))
        (nullUsage prepared.includeUsage) (.start (some n))).2 = first at hrun ⊢
    generalize Hy3ChatEngine.completeWithStops engine opening env prepared.chat
      (onText host id prepared) (sendChunk host id (some (.role, none))
        (nullUsage prepared.includeUsage) (.start none)).2 = second at hrun ⊢
    cases hrun with
    | together result s t h => exact Follows.finishStream host id prepared (.inl h) result
    | behind result result' s t h =>
        exact .inr ((h.finishStream_left host id prepared result).finishStream_right host id
          prepared result')
  · rw [hrefused, if_neg Bool.false_ne_true, if_pos rfl]
    have hkeeps := Hy3ChatEngine.completeWithStops_keeps
      (fun text staying => hleaves.right text _ staying) engine opening env prepared.chat _ hleft
    exact .inr (hkeeps.finishStream_right host id prepared _)

/-- A client that leaves after `n` events has received the first `n` of the events that it would
have received had it stayed. -/
theorem streamCompletion_prefix (engine : Hy3ChatEngine Ω S E R W Value) (opening : Ω)
    (env : CallEnvironment Ω) (n : Nat) :
    (streamCompletion host id prepared engine opening env (.start (some n))).received =
      (streamCompletion host id prepared engine opening env (.start none)).received.take n :=
  (streamCompletion_follows host id prepared engine opening env n).received

end Leaving

/-! ### A client that stays -/

section Staying
variable {E : Type} (host : ResponseHost E) (id : Text) (prepared : PreparedRequest)

/-- The texts that are sent as they come. -/
def shownTexts (texts : List Text) : List Text :=
  if prepared.bufferStructuredOutput then [] else texts

/-- The opening, and the texts behind it. -/
def openingEvents (texts : List Text) : List Event :=
  chunkAt host id 0 (some (.role, none)) (nullUsage prepared.includeUsage) ::
    texts.mapIdx fun index text =>
      chunkAt host id (index + 1) (some (.content text, none)) (nullUsage prepared.includeUsage)

/-- What is behind the texts, when the clock has been asked before. -/
def closingEvents (asked : Nat)
    (result : Except (ChatEngineError E TokenizerError) (ChatCompletion Value)) : List Event :=
  match result with
  | .error error => [.error (host.errorText error) "inference_error", .done]
  | .ok completion =>
      let structured := if prepared.bufferStructuredOutput then
        [chunkAt host id asked
          (some (.assistant (assistantDelta host id completion.assistant), none))
          (nullUsage prepared.includeUsage)] else []
      let asked := asked + structured.length
      structured ++ [chunkAt host id asked (some (.empty, completionFinishReason completion))
        (nullUsage prepared.includeUsage)] ++
        (if prepared.includeUsage then
          [chunkAt host id (asked + 1) none (some (completionUsage completion))] else []) ++ [.done]

/-- The events of a stream that shows the texts and ends with the result. -/
def transcript (texts : List Text)
    (result : Except (ChatEngineError E TokenizerError) (ChatCompletion Value)) : List Event :=
  openingEvents host id prepared texts ++ closingEvents host id prepared (texts.length + 1) result

/-- The callback of a completion that is not streamed. -/
def continueText : TextCallback Unit := fun _ caller => (false, caller)

/-- A callback that keeps the texts. -/
def recordText : TextCallback (List Text) := fun text texts => (false, texts ++ [text])

theorem record_simulates :
    Simulates (fun _ _ => True) recordText continueText :=
  fun _ _ _ _ => ⟨rfl, trivial⟩

/-- A client that stays has the texts that were shown. -/
def Showing (connection : Connection) (texts : List Text) : Prop :=
  connection = ⟨openingEvents host id prepared (shownTexts prepared texts), none,
    (shownTexts prepared texts).length + 1⟩

theorem onText_simulates :
    Simulates (Showing host id prepared) (onText host id prepared) recordText := by
  rintro text _ texts rfl
  unfold onText recordText
  cases hbuffer : prepared.bufferStructuredOutput with
  | true => exact ⟨rfl, by simp [Showing, shownTexts, hbuffer]⟩
  | false =>
      refine ⟨rfl, ?_⟩
      simp [Showing, shownTexts, hbuffer, sendChunk, Connection.sendEvent, openingEvents,
        List.mapIdx_append]

theorem finishStream_staying (received : List Event) (asked : Nat)
    (result : Except (ChatEngineError E TokenizerError) (ChatCompletion Value)) :
    (finishStream host id prepared result ⟨received, none, asked⟩).received =
      received ++ closingEvents host id prepared asked result := by
  cases result with
  | error error => simp [finishStream, closingEvents, Connection.sendEvent]
  | ok completion =>
      cases hbuffer : prepared.bufferStructuredOutput <;> cases husage : prepared.includeUsage <;>
        simp [finishStream, closingEvents, sendChunk, Connection.sendEvent, hbuffer, husage]

variable {Ω S R W : Type}

/-- A client that stays receives the transcript of what the completion shows. -/
theorem streamCompletion_staying (engine : Hy3ChatEngine Ω S E R W Value) (opening : Ω)
    (env : CallEnvironment Ω) :
    let recorded := Hy3ChatEngine.completeWithStops engine opening env prepared.chat recordText []
    (streamCompletion host id prepared engine opening env (.start none)).received =
      transcript host id prepared (shownTexts prepared recorded.2) recorded.1 := by
  intro recorded
  have hstart : Showing host id prepared ⟨openingEvents host id prepared [], none, 1⟩ [] := by
    simp [Showing, shownTexts]
  have hstream : Paired (fun _ => Showing host id prepared) (Showing host id prepared)
      (Hy3ChatEngine.completeWithStops engine opening env prepared.chat (onText host id prepared)
        ⟨openingEvents host id prepared [], none, 1⟩) recorded :=
    Hy3ChatEngine.completeWithStops_simulates (onText_simulates host id prepared) engine opening env
      prepared.chat hstart
  have hopening : sendChunk host id (some (.role, none)) (nullUsage prepared.includeUsage)
      (.start none) = (true, ⟨openingEvents host id prepared [], none, 1⟩) := rfl
  unfold streamCompletion
  rw [hopening]
  dsimp only
  rw [if_pos rfl]
  generalize Hy3ChatEngine.completeWithStops engine opening env prepared.chat
    (onText host id prepared) ⟨openingEvents host id prepared [], none, 1⟩ = streamed at hstream ⊢
  generalize recorded = x at hstream ⊢
  cases hstream with
  | answered completion connection texts h =>
      rw [h, finishStream_staying]
      rfl
  | failed error connection texts h =>
      rw [h, finishStream_staying]
      rfl

/-- A client that stays receives the opening, the texts of the completion as they come or, where
they are held back, none of them, and the end of the completion: that of a request without a
stream. -/
theorem streamCompletion_transcript (engine : Hy3ChatEngine Ω S E R W Value) (opening : Ω)
    (env : CallEnvironment Ω) :
    let recorded := Hy3ChatEngine.completeWithStops engine opening env prepared.chat recordText []
    (streamCompletion host id prepared engine opening env (.start none)).received =
      transcript host id prepared (shownTexts prepared recorded.2) recorded.1 ∧
      (Hy3ChatEngine.completeWithStops engine opening env prepared.chat continueText ()).1 =
        recorded.1 := by
  intro recorded
  have hplain : Paired (fun _ _ _ => True) (fun _ _ => True) recorded
      (Hy3ChatEngine.completeWithStops engine opening env prepared.chat continueText ()) :=
    Hy3ChatEngine.completeWithStops_simulates record_simulates engine opening env prepared.chat
      trivial
  refine ⟨streamCompletion_staying host id prepared engine opening env, ?_⟩
  generalize recorded = x at hplain ⊢
  generalize Hy3ChatEngine.completeWithStops engine opening env prepared.chat continueText () = y
    at hplain ⊢
  cases hplain with
  | answered completion s t h => rfl
  | failed error s t h => rfl

end Staying
end LightBridge.Server
