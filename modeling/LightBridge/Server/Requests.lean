import LightBridge.Runtime.ChatEngine

/-! The requests of `bridge-server`: their messages and limits, and what is prepared for the
engine. -/
namespace LightBridge.Server
open Foundation Tokenizer LightBridge.Runtime

/-! ### JSON and errors -/

/-- `serde_json::Value`. -/
inductive Value where
  | null
  | bool (value : Bool)
  | number (text : Text)
  | string (text : Text)
  | array (values : List Value)
  | object (entries : List (Text × Value))

namespace Value

def isObject : Value → Bool
  | .object _ => true
  | _ => false

def asStr : Value → Option Text
  | .string text => some text
  | _ => none

/-- `get` of a key. -/
def get (key : Text) : Value → Option Value
  | .object entries => (entries.find? fun entry => entry.1 == key).map Prod.snd
  | _ => none

end Value

inductive StatusCode where
  | badRequest
  | notFound
  | tooManyRequests
  | internalServerError
  deriving DecidableEq, Repr

structure ApiError where
  status : StatusCode
  message : String
  kind : String
  deriving DecidableEq, Repr

namespace ApiError

def ofBadRequest (message : String) : ApiError := ⟨.badRequest, message, "invalid_request_error"⟩
def ofNotFound (message : String) : ApiError := ⟨.notFound, message, "not_found_error"⟩
def ofBusy : ApiError :=
  ⟨.tooManyRequests, "all bounded inference slots are busy", "rate_limit_error"⟩
def ofInternal (message : String) : ApiError := ⟨.internalServerError, message, "server_error"⟩

end ApiError

/-- How the host writes values into texts, reads JSON, and answers reservations of tool calls. -/
structure Formatting where
  debug : Text → String
  float : F32 → String
  fromStr : Text → Except String Value
  reserved : Nat → Bool

/-- `Display` of a `SamplingError`. -/
def samplingErrorText (float : F32 → String) : SamplingError → String
  | .emptyVocabulary => "cannot sample an empty vocabulary"
  | .invalidTemperature temperature =>
      "temperature must be finite and non-negative, got " ++ float temperature
  | .invalidTopP topP => "top_p must be finite and in (0, 1], got " ++ float topP
  | .invalidRepetitionPenalty penalty =>
      "repetition penalty must be finite and positive, got " ++ float penalty
  | .stopTokenOutOfRange tokenId vocabularySize =>
      s!"stop token {tokenId} is outside vocabulary size {vocabularySize}"
  | .logitCountMismatch expected actual =>
      s!"logit count {actual} does not match vocabulary size {expected}"
  | .nanLogit tokenId => s!"model produced NaN at token ID {tokenId}"
  | .noCandidate => "all candidate logits are negative infinity"
  | .allocationFailed => "allocation failed while reserving sampler storage"

/-! ### Messages -/

/-- `ApiToolCall`; its identifier is read and not used. -/
structure ApiToolCall where
  kind : Text
  name : Text
  arguments : Text

structure ApiMessage where
  role : Text
  content : Option Value
  reasoningContent : Option Text
  toolCalls : List ApiToolCall

/-- The text of one content part. -/
def partText (index : Nat) (part : Value × Nat) : Except ApiError Text :=
  okOr ((part.1.get "text".toList).bind Value.asStr)
    (.ofBadRequest s!"message {index} content part {part.2} is not a text part")

def messageContent (content : Option Value) (index : Nat) : Except ApiError Text :=
  match content with
  | none | some .null => .ok []
  | some (.string content) => .ok content
  | some (.array parts) => (parts.zipIdx.mapM (partText index)).map List.flatten
  | some _ =>
      .error (.ofBadRequest
        s!"message {index} content must be a string, null, or text-part array")

/-- The arguments as a map, where a later entry replaces an earlier one. -/
def collectArguments (entries : List (Text × Value)) : SortedMap Text Value :=
  entries.foldl (fun arguments entry => arguments.insert entry.1 entry.2) .empty

section Convert
variable (host : Formatting)

def convertToolCall (index : Nat) (call : ApiToolCall × Nat) :
    Except ApiError (ToolCall Value) := do
  ensure (call.1.kind = "function".toList)
    (.ofBadRequest (s!"message {index} tool call {call.2} has unsupported type " ++
      host.debug call.1.kind))
  let arguments ← wrap (fun error => .ofBadRequest
      (s!"message {index} tool call {call.2} arguments are not JSON: " ++ error))
    (host.fromStr call.1.arguments)
  match arguments with
  | .object entries => .ok { name := call.1.name, arguments := collectArguments entries }
  | _ => .error (.ofBadRequest
      s!"message {index} tool call {call.2} arguments must be a JSON object")

def convertMessage (message : ApiMessage × Nat) : Except ApiError (ChatMessage Value) := do
  let content ← messageContent message.1.content message.2
  if message.1.role = "system".toList ∨ message.1.role = "developer".toList then
    pure (.system content)
  else if message.1.role = "user".toList then pure (.user content)
  else if message.1.role = "tool".toList then pure (.tool content)
  else if message.1.role = "assistant".toList then do
    ensure (host.reserved message.1.toolCalls.length) (.ofInternal "failed to reserve tool calls")
    let calls ← message.1.toolCalls.zipIdx.mapM (convertToolCall host message.2)
    pure (.assistant content message.1.reasoningContent calls)
  else .error (.ofBadRequest
    (s!"message {message.2} has unsupported role " ++ host.debug message.1.role))

def convertMessages (messages : List ApiMessage) : Except ApiError (List (ChatMessage Value)) :=
  messages.zipIdx.mapM (convertMessage host)

end Convert

def templateOptions (effort : Option ReasoningEffort) (tools : List Value) :
    Except ApiError (ChatTemplateOptions Value) := do
  ensure (tools.any (fun tool => !tool.isObject) = false)
    (.ofBadRequest "every tool must be a JSON object")
  pure {
    addGenerationPrompt := true, reasoningEffort := effort.getD .noThink
    preservedThinking := none, isTraining := false, rawLastAssistant := false, tools }

/-! ### Requests -/

inductive StopSequences where
  | one (value : Text)
  | many (values : List Text)

def StopSequences.intoVec : StopSequences → List Text
  | .one value => [value]
  | .many values => values

structure ChatCompletionRequest where
  model : Option Text
  messages : List ApiMessage
  maxTokens : Option Nat
  maxCompletionTokens : Option Nat
  temperature : Option F32
  topP : Option F32
  topK : Option Nat
  repetitionPenalty : Option F32
  repetitionWindow : Option Nat
  seed : Option Nat
  reasoningEffort : Option ReasoningEffort
  tools : List Value
  stream : Bool
  n : Option Nat
  stop : Option StopSequences
  /-- `include_usage` of the options for streams. -/
  streamOptions : Option Bool

def modelId : Text := "hy3-1m-iq2-m".toList
def defaultMaxNewTokens : Nat := 256
def maxStopSequences : Nat := 4
def maxTemperature : F32 := .fromBits 0x40000000

structure PreparedRequest where
  messages : List (ChatMessage Value)
  template : ChatTemplateOptions Value
  sampling : SamplingConfig
  stopSequences : List Text
  includeUsage : Bool
  bufferStructuredOutput : Bool
  stream : Bool

namespace PreparedRequest

/-- The options of the sampler; its stop tokens are those of the engine. -/
def samplingOf (request : ChatCompletionRequest) (maxNewTokens : Nat) : SamplingConfig where
  maxNewTokens := maxNewTokens
  temperature := request.temperature.getD (.fromBits 0x3f666666)
  topK := request.topK.getD 0
  topP := request.topP.getD .one
  seed := request.seed.getD 0
  repetitionPenalty := request.repetitionPenalty.getD .one
  repeatLastN := request.repetitionWindow.getD 64
  stopTokens := SamplingConfig.default.stopTokens
  emitStopToken := false

/-- `PreparedRequest::new`, for a tokenizer of `vocabularySize` tokens. -/
def new (host : Formatting) (request : ChatCompletionRequest)
    (serverMaxNewTokens vocabularySize : Nat) : Except ApiError PreparedRequest := do
  let maxNewTokens :=
    (request.maxCompletionTokens.or request.maxTokens).getD defaultMaxNewTokens
  ensure (¬ (maxNewTokens = 0 ∨ maxNewTokens > serverMaxNewTokens))
    (.ofBadRequest s!"max tokens must be within 1..={serverMaxNewTokens}")
  ensure (∀ temperature ∈ request.temperature, temperature.isFinite = true ∧
      temperature.negative = false ∧ temperature.magnitude ≤ maxTemperature.magnitude)
    (.ofBadRequest "temperature must be finite and within 0..=2")
  let messages ← convertMessages host request.messages
  ensure (messages ≠ []) (.ofBadRequest "messages must not be empty")
  let template ← templateOptions request.reasoningEffort request.tools
  let sampling := samplingOf request maxNewTokens
  wrap (fun error => .ofBadRequest (samplingErrorText host.float error))
    (sampling.validate vocabularySize)
  let stopSequences := (request.stop.map StopSequences.intoVec).getD []
  ensure (stopSequences.length ≤ maxStopSequences)
    (.ofBadRequest s!"at most {maxStopSequences} stop sequences are supported")
  ensure (stopSequences.any List.isEmpty = false)
    (.ofBadRequest "stop sequences must not be empty")
  let includeUsage := request.streamOptions.getD false
  ensure (¬ (includeUsage = true ∧ request.stream = false))
    (.ofBadRequest "stream_options may only be used when stream is true")
  let bufferStructuredOutput := !template.tools.isEmpty || template.reasoningEffort != .noThink
  pure {
    messages, template, sampling, stopSequences, includeUsage, bufferStructuredOutput
    stream := request.stream }

end PreparedRequest
end LightBridge.Server
