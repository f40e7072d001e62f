import LightBridge.Foundation.Search
import LightBridge.Tokenizer.Chat

/-! The tokenizer as the chat engine uses it, and what a generated reply is parsed into. -/
namespace LightBridge.Tokenizer
open Foundation

structure AssistantOutput (V : Type) where
  content : Text
  reasoning : Option Text
  toolCalls : List (ToolCall V)

def AssistantOutput.plain {V : Type} (content : Text) : AssistantOutput V :=
  { content, reasoning := none, toolCalls := [] }

inductive AssistantParseError where
  | missingMarker (marker : Text)
  | emptyToolName (callIndex : Nat)
  | emptyArgumentKey (callIndex : Nat)
  | duplicateArgumentKey (callIndex : Nat) (key : Text)
  | trailingToolText
  deriving DecidableEq, Repr

def isNewline (c : Char) : Bool := c == '\r' || c == '\n'

/-- `trim_start_matches` of the newline characters. -/
def trimNewlines (input : Text) : Text := input.dropWhile isNewline

section Parse
variable {V : Type} (serde : Serde V)

/-- The text behind a marker that must come next. -/
def expect (marker input : Text) : Except AssistantParseError Text :=
  okOr (stripPrefix marker input) (.missingMarker marker)

/-- The texts around a marker that must follow. -/
def expectOnce (marker input : Text) : Except AssistantParseError (Text × Text) :=
  okOr (splitOnce marker input) (.missingMarker marker)

/-- `from_str`, or the text itself. -/
def parseValue (value : Text) : V := (serde.fromText value).getD (serde.string value)

/-- One argument and the text behind it. -/
def parseArgument (callIndex : Nat) (input : Text) :
    Except AssistantParseError ((Text × V) × Text) := do
  let input ← expect argumentKeyBeginToken input
  let (key, remainder) ← expectOnce argumentKeyEndToken input
  ensure (key ≠ []) (.emptyArgumentKey callIndex)
  let input ← expect argumentValueBeginToken (trimNewlines remainder)
  let (value, remainder) ← expectOnce argumentValueEndToken input
  pure ((key, parseValue serde value), remainder)

theorem length_trimNewlines (input : Text) : (trimNewlines input).length ≤ input.length :=
  (List.dropWhile_sublist _).length_le

theorem expect_eq_ok {marker input rest : Text} : expect marker input = .ok rest ↔
      input = marker ++ rest :=
  okOr_eq_ok.trans stripPrefix_eq_some_iff

theorem expectOnce_eq_ok {marker input before after : Text}
    (h : expectOnce marker input = .ok (before, after)) :
    input = before ++ marker ++ after := (splitOnce_eq_some (okOr_eq_ok.mp h)).1

theorem length_parseArgument {callIndex : Nat} {input rest : Text} {argument : Text × V}
    (h : parseArgument serde callIndex input = .ok (argument, rest)) :
    rest.length < input.length := by
  unfold parseArgument at h
  obtain ⟨afterBegin, hbegin, h⟩ := except_bind_ok_iff.mp h
  obtain ⟨⟨key, remainder⟩, hkey, h⟩ := except_bind_ok_iff.mp h
  obtain ⟨_, -, h⟩ := except_bind_ok_iff.mp h
  obtain ⟨afterValue, hvalue, h⟩ := except_bind_ok_iff.mp h
  obtain ⟨⟨value, last⟩, hend, h⟩ := except_bind_ok_iff.mp h
  cases h
  have hmarker : 0 < argumentKeyBeginToken.length := by decide
  have hbegin := congrArg List.length (expect_eq_ok.mp hbegin)
  have hkey := congrArg List.length (expectOnce_eq_ok hkey)
  have hvalue := congrArg List.length (expect_eq_ok.mp hvalue)
  have hend := congrArg List.length (expectOnce_eq_ok hend)
  have htrim := length_trimNewlines remainder
  simp only [List.length_append] at hbegin hkey hvalue hend
  omega

/-- The loop of `parse_arguments` from trimmed input on. -/
def parseArguments (callIndex : Nat) (arguments : SortedMap Text V) (input : Text) :
    Except AssistantParseError (SortedMap Text V) :=
  if input = [] then .ok arguments
  else
    match h : parseArgument serde callIndex input with
    | .error error => .error error
    | .ok ((key, value), remainder) =>
        if arguments.contains key then .error (.duplicateArgumentKey callIndex key)
        else
          have : (trimNewlines remainder).length < input.length :=
            (length_trimNewlines remainder).trans_lt (length_parseArgument serde h)
          parseArguments callIndex (arguments.insert key value) (trimNewlines remainder)
termination_by input.length

/-- One tool call and the text behind it. -/
def parseToolCall (callIndex : Nat) (input : Text) :
    Except AssistantParseError (ToolCall V × Text) := do
  let input ← expect toolCallBeginToken input
  let (name, remainder) ← expectOnce toolSeparatorToken input
  ensure (name ≠ []) (.emptyToolName callIndex)
  let (arguments, remainder) ← expectOnce toolCallEndToken remainder
  let arguments ← parseArguments serde callIndex .empty (trimNewlines arguments)
  pure ({ name, arguments }, remainder)

theorem length_parseToolCall {callIndex : Nat} {input rest : Text} {call : ToolCall V}
    (h : parseToolCall serde callIndex input = .ok (call, rest)) : rest.length < input.length := by
  unfold parseToolCall at h
  obtain ⟨afterBegin, hbegin, h⟩ := except_bind_ok_iff.mp h
  obtain ⟨⟨name, remainder⟩, hname, h⟩ := except_bind_ok_iff.mp h
  obtain ⟨_, -, h⟩ := except_bind_ok_iff.mp h
  obtain ⟨⟨arguments, last⟩, hend, h⟩ := except_bind_ok_iff.mp h
  obtain ⟨_, -, h⟩ := except_bind_ok_iff.mp h
  cases h
  have hmarker : 0 < toolCallBeginToken.length := by decide
  have hbegin := congrArg List.length (expect_eq_ok.mp hbegin)
  have hname := congrArg List.length (expectOnce_eq_ok hname)
  have hend := congrArg List.length (expectOnce_eq_ok hend)
  simp only [List.length_append] at hbegin hname hend
  omega

/-- The loop of `parse_tool_calls` from trimmed input on. -/
def parseToolCalls (calls : List (ToolCall V)) (input : Text) :
    Except AssistantParseError (List (ToolCall V)) :=
  if input = [] then .ok calls
  else
    match h : parseToolCall serde calls.length input with
    | .error error => .error error
    | .ok (call, remainder) =>
        have : (trimNewlines remainder).length < input.length :=
          (length_trimNewlines remainder).trans_lt (length_parseToolCall serde h)
        parseToolCalls (calls ++ [call]) (trimNewlines remainder)
termination_by input.length

def splitReasoning (raw : Text) (effort : ReasoningEffort) : Option Text × Text :=
  if effort ≠ .noThink then
    let raw := (stripPrefix thinkBeginToken raw).getD raw
    match splitOnce thinkEndToken raw with
    | some (reasoning, body) => (some reasoning, body)
    | none => (some raw, [])
  else
    match (stripPrefix thinkBeginToken raw).bind (splitOnce thinkEndToken) with
    | some (reasoning, body) => (some reasoning, body)
    | none => (none, raw)

def parseAssistantOutput (raw : Text) (effort : ReasoningEffort) :
    Except AssistantParseError (AssistantOutput V) :=
  let (reasoning, body) := splitReasoning raw effort
  match splitOnce toolCallsBeginToken body with
  | none => .ok { content := body, reasoning, toolCalls := [] }
  | some (content, callsAndTail) => do
      let (calls, tail) ← expectOnce toolCallsEndToken callsAndTail
      -- a tail of newline characters only is trimmed to nothing
      ensure (tail.all isNewline = true) .trailingToolText
      let toolCalls ← parseToolCalls serde [] (trimNewlines calls)
      pure { content, reasoning, toolCalls }

end Parse

/-! ### The tokenizer -/

inductive TokenizerError where
  | encode (message : Text)
  | decode (message : Text)
  | chat (error : ChatError)
  deriving DecidableEq, Repr

/-- What `step_decode_stream` keeps between two tokens. -/
structure DecodeState where
  ids : List Nat
  prefixText : Text
  prefixIndex : Nat
  deriving DecidableEq, Repr

/-- A `tokenizers::Tokenizer`. -/
structure Tokenizers where
  encode : Text → Except Text (List Nat)
  decode : List Nat → Bool → Except Text Text
  stepDecodeStream : List Nat → Bool → DecodeState → Except Text (Option Text) × DecodeState

structure Hy3Tokenizer (V : Type) where
  inner : Tokenizers
  serde : Serde V
  eos : Nat

structure IncrementalDecoder where
  skipSpecialTokens : Bool
  state : DecodeState
  deriving DecidableEq, Repr

namespace Hy3Tokenizer
variable {V : Type} (tokenizer : Hy3Tokenizer V)

def encode (text : Text) : Except TokenizerError (List Nat) :=
  wrap .encode (tokenizer.inner.encode text)

def decode (ids : List Nat) (skipSpecialTokens : Bool) : Except TokenizerError Text :=
  wrap .decode (tokenizer.inner.decode ids skipSpecialTokens)

def formatAndEncode (messages : List (ChatMessage V)) (options : ChatTemplateOptions V) :
    Except TokenizerError (List Nat) := do
  let prompt ← wrap .chat (formatChat tokenizer.serde messages options)
  tokenizer.encode prompt

def incrementalDecoder (skipSpecialTokens : Bool) : IncrementalDecoder :=
  { skipSpecialTokens, state := { ids := [], prefixText := [], prefixIndex := 0 } }

/-- `IncrementalDecoder::push`. -/
def push (id : Nat) : Command IncrementalDecoder TokenizerError (Option Text) := fun decoder =>
  let (result, state) :=
    tokenizer.inner.stepDecodeStream [id] decoder.skipSpecialTokens decoder.state
  (wrap .decode result, { decoder with state })

end Hy3Tokenizer
end LightBridge.Tokenizer
