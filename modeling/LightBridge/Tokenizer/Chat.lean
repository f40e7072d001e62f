import LightBridge.Foundation.SortedMap
import LightBridge.Host
import Mathlib.Data.Char
import Mathlib.Data.List.Lex

/-! The chat template: messages rendered as the prompt of a completion. -/
namespace LightBridge.Tokenizer
open Foundation

/-- A `String`, by its characters. -/
abbrev Text : Type := List Char

def bosToken : Text := "<｜hy_begin_of_sentence:opensource｜>".toList
def eosToken : Text := "<｜hy_eos:opensource｜>".toList
def userToken : Text := "<｜hy_User:opensource｜>".toList
def assistantToken : Text := "<｜hy_Assistant:opensource｜>".toList
def thinkBeginToken : Text := "<think:opensource>".toList
def thinkEndToken : Text := "</think:opensource>".toList
def toolCallsBeginToken : Text := "<tool_calls:opensource>".toList
def toolCallsEndToken : Text := "</tool_calls:opensource>".toList
def toolCallBeginToken : Text := "<tool_call:opensource>".toList
def toolCallEndToken : Text := "</tool_call:opensource>".toList
def toolSeparatorToken : Text := "<tool_sep:opensource>".toList
def argumentKeyBeginToken : Text := "<arg_key:opensource>".toList
def argumentKeyEndToken : Text := "</arg_key:opensource>".toList
def argumentValueBeginToken : Text := "<arg_value:opensource>".toList
def argumentValueEndToken : Text := "</arg_value:opensource>".toList
def toolResponsesBeginToken : Text := "<tool_responses:opensource>".toList
def toolResponsesEndToken : Text := "</tool_responses:opensource>".toList
def toolResponseBeginToken : Text := "<tool_response:opensource>".toList
def toolResponseEndToken : Text := "</tool_response:opensource>".toList
def reasoningModeToken : Text := "<｜reasoning_mode:opensource｜>".toList

/-- `serde_json` over its values. -/
structure Serde (V : Type) where
  isObject : V → Bool
  string : Text → V
  asString : V → Option Text
  asString_eq : ∀ value text, asString value = some text ↔ value = string text
  toText : V → Except Text Text
  fromText : Text → Option V

inductive ReasoningEffort where
  | high
  | low
  | noThink
  deriving DecidableEq, Repr

def ReasoningEffort.asStr : ReasoningEffort → Text
  | high => "high".toList
  | low => "low".toList
  | noThink => "no_think".toList

structure ToolCall (V : Type) where
  name : Text
  arguments : SortedMap Text V

inductive ChatMessage (V : Type) where
  | system (content : Text)
  | user (content : Text)
  | assistant (content : Text) (reasoning : Option Text) (toolCalls : List (ToolCall V))
  | tool (content : Text)

structure ChatTemplateOptions (V : Type) where
  addGenerationPrompt : Bool
  reasoningEffort : ReasoningEffort
  preservedThinking : Option Bool
  isTraining : Bool
  rawLastAssistant : Bool
  tools : List V

inductive ChatError where
  | emptyToolName (callIndex : Nat)
  | invalidToolDefinition (toolIndex : Nat)
  | toolArgumentSerialization (key message : Text)
  | toolDefinitionSerialization (toolIndex : Nat) (message : Text)
  deriving DecidableEq, Repr

section Format
variable {V : Type} (serde : Serde V)

/-! ### Tools -/

def checkTools (tools : List V) : Except ChatError Unit :=
  match tools.findIdx? fun tool => !serde.isObject tool with
  | some toolIndex => .error (.invalidToolDefinition toolIndex)
  | none => .ok ()

/-- The tool definitions, one in a line. -/
def encodeTools : Nat → List V → Except ChatError Text
  | _, [] => .ok []
  | toolIndex, tool :: tools => do
      let encoded ← wrap (.toolDefinitionSerialization toolIndex) (serde.toText tool)
      let rest ← encodeTools (toolIndex + 1) tools
      pure ((if 0 < toolIndex then "\n".toList else []) ++ encoded ++ rest)

def appendToolInstructions (output systemPrompt : Text) (options : ChatTemplateOptions V) :
    Except ChatError Text := do
  let heading :=
    "# Tools\n\nYou may call one or more functions to assist with the user query.".toList
  let output := output ++ (if systemPrompt = [] then [] else "\n\n".toList) ++ heading
  let output :=
    output ++
      "\n\nYou are provided with function signatures within <tools></tools> XML tags:".toList ++
    "\n<tools>\n".toList
  let encoded ← encodeTools serde 0 options.tools
  pure (output ++ encoded ++ "\n</tools>\n\n".toList ++
    "For function call returns, you should first print ".toList ++ toolCallsBeginToken ++
    "\nFor each function call, you should return object like:\n".toList ++
    toolCallBeginToken ++ "\x7bfunction-name\x7d".toList ++ toolSeparatorToken ++ "\n".toList ++
    argumentKeyBeginToken ++ "\x7barg-key-1\x7d".toList ++ argumentKeyEndToken ++ "\n".toList ++
    argumentValueBeginToken ++ "\x7barg-value-1\x7d".toList ++ argumentValueEndToken ++
    "\n".toList ++
    argumentKeyBeginToken ++ "\x7barg-key-2\x7d".toList ++ argumentKeyEndToken ++ "\n".toList ++
    argumentValueBeginToken ++ "\x7barg-value-2\x7d".toList ++ argumentValueEndToken ++
    "\n...\n".toList ++
    toolCallEndToken ++ "\nAt the end of function call returns, you should print ".toList ++
    toolCallsEndToken ++
    reasoningModeToken ++ "reasoning_effort:".toList ++ options.reasoningEffort.asStr)

def encodeArgument (argument : Text × V) : Except ChatError Text := do
  let value ← match serde.asString argument.2 with
    | some text => .ok text
    | none => wrap (.toolArgumentSerialization argument.1) (serde.toText argument.2)
  pure (argumentKeyBeginToken ++ argument.1 ++ argumentKeyEndToken ++ "\n".toList ++
    argumentValueBeginToken ++ value ++
    argumentValueEndToken ++ "\n".toList)

def encodeToolCall (call : ToolCall V) (callIndex : Nat) : Except ChatError Text := do
  ensure (call.name ≠ []) (.emptyToolName callIndex)
  let arguments ← call.arguments.entries.mapM (encodeArgument serde)
  pure (toolCallBeginToken ++ call.name ++ toolSeparatorToken ++ "\n".toList ++ arguments.flatten ++
    toolCallEndToken ++
    "\n".toList)

def appendToolCalls (output : Text) (toolCalls : List (ToolCall V)) : Except ChatError Text := do
  let calls ← toolCalls.zipIdx.mapM fun (call, callIndex) => encodeToolCall serde call callIndex
  pure (output ++ toolCallsBeginToken ++ "\n".toList ++ calls.flatten ++ toolCallsEndToken)

/-! ### Messages -/

/-- The variables of the loop over the messages. -/
structure FormatState where
  output : Text
  previousWasTool : Bool
  isFirstToolResponse : Bool
  lastIsAssistant : Bool
  deriving DecidableEq, Repr

def closeToolResponsesIfNeeded (state : FormatState) : FormatState :=
  if state.previousWasTool then
    { state with output := state.output ++ toolResponsesEndToken, previousWasTool := false }
  else state

def formatTool (content : Text) (state : FormatState) : FormatState where
  output :=
    state.output ++
      (if state.isFirstToolResponse then toolResponsesBeginToken ++ "\n".toList else []) ++
    toolResponseBeginToken ++ "\n".toList ++ content ++ "\n".toList ++
      toolResponseEndToken ++ "\n".toList
  previousWasTool := true
  isFirstToolResponse := false
  lastIsAssistant := false

def formatAssistant (options : ChatTemplateOptions V) (isLast includeReasoning : Bool)
    (content : Text)
    (reasoning : Option Text) (toolCalls : List (ToolCall V)) (state : FormatState) :
    Except ChatError FormatState := do
  let state := closeToolResponsesIfNeeded state
  let output := state.output ++ assistantToken
  let assistantContent := thinkBeginToken ++ (if includeReasoning then reasoning.getD [] else []) ++
    thinkEndToken ++
    content
  let output ←
    if toolCalls = [] then
      if isLast && options.rawLastAssistant then pure (output ++ content)
      else pure (output ++ assistantContent ++
        (if !isLast || options.isTraining then eosToken else []))
    else do
      let output ← appendToolCalls serde (output ++ assistantContent) toolCalls
      pure (output ++ eosToken)
  pure { state with output, previousWasTool := false, lastIsAssistant := isLast }

/-- The body of the loop over the messages. -/
def formatMessage (options : ChatTemplateOptions V) (count : Nat) (lastUserIndex : Option Nat)
    (preserveThinking : Bool) (index : Nat) : ChatMessage V → FormatState →
      Except ChatError FormatState
  | .system _, state => .ok state
  | .user content, state =>
      let state := closeToolResponsesIfNeeded state
      .ok { state with output := state.output ++ userToken ++ content, lastIsAssistant := false }
  | .assistant content reasoning toolCalls, state =>
      let includeReasoning := options.isTraining || preserveThinking ||
        lastUserIndex.any fun lastUser => decide (lastUser < index)
      formatAssistant serde options (index + 1 == count) includeReasoning content reasoning
        toolCalls state
  | .tool content, state => .ok (formatTool content state)

def formatMessages (options : ChatTemplateOptions V) (count : Nat) (lastUserIndex : Option Nat)
    (preserveThinking : Bool) :
    Nat → List (ChatMessage V) → FormatState → Except ChatError FormatState
  | _, [], state => .ok state
  | index, message :: messages, state => do
      let state ← formatMessage serde options count lastUserIndex preserveThinking index
        message state
      formatMessages options count lastUserIndex preserveThinking (index + 1) messages state

def isUser : ChatMessage V → Bool
  | .user _ => true
  | _ => false

def systemContent : ChatMessage V → Text
  | .system content => content
  | _ => []

/-- `rposition` of the last user message. -/
def lastUserIndex (messages : List (ChatMessage V)) : Option Nat :=
  (messages.reverse.findIdx? isUser).map fun fromEnd => messages.length - 1 - fromEnd

/-- The markers after which the model writes. -/
def generationPrompt (effort : ReasoningEffort) : Text :=
  assistantToken ++ match effort with
    | .high | .low => thinkBeginToken
    | .noThink => thinkBeginToken ++ thinkEndToken

def formatChat (messages : List (ChatMessage V)) (options : ChatTemplateOptions V) :
    Except ChatError Text := do
  checkTools serde options.tools
  let systemPrompt := messages.flatMap systemContent
  let systemPrompt :=
    if options.tools.isEmpty then
      systemPrompt ++ reasoningModeToken ++ "reasoning_effort:".toList ++
        options.reasoningEffort.asStr
    else systemPrompt
  let output := bosToken ++ systemPrompt
  let output ←
    if options.tools.isEmpty then pure output
      else appendToolInstructions serde output systemPrompt options
  let preserveThinking := options.preservedThinking.getD (!options.tools.isEmpty)
  let state ← formatMessages serde options messages.length
    (lastUserIndex messages) preserveThinking 0 messages
    { output, previousWasTool := false, isFirstToolResponse := true, lastIsAssistant := false }
  let state := closeToolResponsesIfNeeded state
  pure (if options.addGenerationPrompt && !state.lastIsAssistant then
    state.output ++ generationPrompt options.reasoningEffort else state.output)

end Format
end LightBridge.Tokenizer
