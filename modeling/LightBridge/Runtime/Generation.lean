import LightBridge.Foundation.Ends
import LightBridge.Runtime.Sampling

/-! Generation over a causal model: the prompt is absorbed token by token, then tokens are
sampled, evaluated and handed to the caller one at a time. -/
namespace LightBridge.Runtime
open Foundation

/-- `CausalModel`. An evaluation also depends on what it meets in its environment `Ω`. -/
structure CausalModel (Ω S E : Type) where
  vocabularySize : Nat
  contextLength : Nat
  contextLength_le : contextLength ≤ usizeMax
  newSession : Ω → Except E S
  resetSession : S → S
  position : S → Nat
  evaluateToken : Ω → Nat → Command (S × List F32) E Unit

structure GenerationSession (S : Type) where
  model : S
  history : List Nat
  logits : List F32
  hasLogits : Bool
  healthy : Bool
  deriving DecidableEq, Repr

structure GeneratedToken where
  tokenId : Nat
  index : Nat
  deriving DecidableEq, Repr

inductive StopReason where
  | stopToken (tokenId : Nat)
  | stopSequence
  | maxTokens
  | contextLength
  | cancelled
  | callback
  deriving DecidableEq, Repr

/-- `GenerationOutcome` and its `GenerationStats`, less the durations. -/
structure GenerationOutcome where
  tokenIds : List Nat
  stopReason : StopReason
  promptTokens : Nat
  generatedTokens : Nat
  deriving DecidableEq, Repr

inductive GenerationError (E : Type) where
  | model (error : E)
  | sampling (error : SamplingError)
  | sessionPoisoned
  | tokenOutOfRange (tokenId vocabularySize : Nat)
  | promptExceedsContext (position promptTokens contextLength : Nat)
  | emptyPrompt
  | arithmeticOverflow
  | allocationFailed
  deriving DecidableEq, Repr

def outcome (tokenIds : List Nat) (stopReason : StopReason) (promptTokens : Nat) :
    GenerationOutcome :=
  { tokenIds, stopReason, promptTokens, generatedTokens := tokenIds.length }

/-- What one call meets: the allocator, the environment of each of its evaluations, and what
its cancellation token answers each time it is asked. -/
structure CallEnvironment (Ω : Type) where
  alloc : GenerationSite → Bool
  world : Nat → Ω
  cancelled : Nat → Bool

/-- The callback of `generate_stream` on its own state; `true` is `Break`. -/
abbrev Callback (τ : Type) : Type := GeneratedToken → τ → Bool × τ

namespace Generator
variable {Ω S E R W τ : Type}

/-- `Generator::new_session`. -/
def newSession (model : CausalModel Ω S E) (alloc : GenerationSite → Bool) (env : Ω) :
    Except (GenerationError E) (GenerationSession S) := do
  let session ← wrap .model (model.newSession env)
  ensure (tryReserve (alloc .sessionLogits) 4 model.vocabularySize) .allocationFailed
  pure { model := session, history := [], logits := List.replicate model.vocabularySize .zero,
         hasLogits := false
         healthy := true }

def reset (model : CausalModel Ω S E) (session : GenerationSession S) : GenerationSession S where
  model := model.resetSession session.model
  history := []
  logits := session.logits.map fun _ => .zero
  hasLogits := false
  healthy := true

/-- `Generator::evaluate`. -/
def evaluate (model : CausalModel Ω S E) (env : Ω) (tokenId : Nat) :
    Command (GenerationSession S) (GenerationError E) Unit := fun session =>
  match model.evaluateToken env tokenId (session.model, session.logits) with
  | (.ok (), (state, logits)) =>
      (.ok (),
        { session with
          model := state, logits, history := session.history ++ [tokenId], hasLogits := true })
  | (.error error, (state, logits)) =>
      (.error (.model error),
        { session with model := state, logits, healthy := false, hasLogits := false })

/-- The checks of `generate_stream`; answers the generation limit. -/
def prepare (model : CausalModel Ω S E) (alloc : GenerationSite → Bool) (config : SamplingConfig)
    (promptTokens : List Nat)
    (session : GenerationSession S) : Except (GenerationError E) Nat := do
  wrap .sampling (config.validate model.vocabularySize)
  ensure (session.healthy = true) .sessionPoisoned
  match promptTokens.find? fun tokenId => decide (model.vocabularySize ≤ tokenId) with
  | some tokenId => .error (.tokenOutOfRange tokenId model.vocabularySize)
  | none => do
      let position := model.position session.model
      ensure (position ≤ model.contextLength ∧ promptTokens.length ≤ model.contextLength - position)
        (.promptExceedsContext position promptTokens.length model.contextLength)
      ensure (promptTokens ≠ [] ∨ session.hasLogits = true) .emptyPrompt
      let generationLimit :=
        min config.maxNewTokens (model.contextLength - position - promptTokens.length)
      let requestedHistory ← okOr (checkedAdd promptTokens.length generationLimit)
        .arithmeticOverflow
      ensure (tryReserve (alloc .history) 4 (session.history.length + requestedHistory))
        .allocationFailed
      ensure (tryReserve (alloc .generated) 4 generationLimit) .allocationFailed
      pure generationLimit

/-- The prompt loop, from its evaluation number `index` on; `false` when it was cancelled. -/
def prefill (model : CausalModel Ω S E) (env : CallEnvironment Ω) :
    Nat → List Nat → Command (GenerationSession S) (GenerationError E) Bool
  | _, [] => pure true
  | index, tokenId :: rest =>
      if env.cancelled (1 + index) then pure false
      else do
        evaluate model (env.world index) tokenId
        prefill model env (index + 1) rest

/-- What follows the evaluation of a sampled token: the tokens generated so far, and the
reason to stop if there is one. -/
def emitToken (config : SamplingConfig) (emit : Callback τ) (token : GeneratedToken)
    (generated : List Nat) :
    Command τ (GenerationError E) (List Nat × Option StopReason) := fun state =>
  let isStop := config.stopTokens.contains token.tokenId
  if !isStop || config.emitStopToken then
    let answer := emit token state
    (.ok (generated ++ [token.tokenId],
      if answer.1 then some .callback else if isStop then some (.stopToken token.tokenId)
        else none), answer.2)
  else (.ok (generated, some (.stopToken token.tokenId)), state)

/-- The decoding loop for `remaining` more tokens. -/
def decode (model : CausalModel Ω S E) (host : SamplerHost R W) (env : CallEnvironment Ω)
    (config : SamplingConfig) (emit : Callback τ) (promptLength : Nat) (exhausted : StopReason) :
    Nat → Nat → Sampler R → List Nat → Command (GenerationSession S × τ) (GenerationError E)
    (List Nat × StopReason)
  | 0, _, _, generated => pure (generated, exhausted)
  | remaining + 1, index, sampler, generated =>
      if env.cancelled (1 + promptLength + index) then pure (generated, .cancelled)
      else do
        let (session, _) ← Command.read
        let drawn := sampler.sample host session.logits session.history sampler.rng
        let tokenId ← Command.lift (wrap .sampling drawn.1)
        (evaluate model (env.world (promptLength + index)) tokenId).zoom Prod.fst
          fun session state => (session, state.2)
        let (generated, reason) ← (emitToken config emit ⟨tokenId, index⟩ generated).zoom Prod.snd
          fun caller state => (state.1, caller)
        match reason with
        | some reason => pure (generated, reason)
        | none =>
            decode model host env config emit promptLength exhausted remaining (index + 1)
              { sampler with rng := drawn.2 } generated

def generateStream (model : CausalModel Ω S E) (host : SamplerHost R W) (env : CallEnvironment Ω)
    (config : SamplingConfig) (promptTokens : List Nat) (emit : Callback τ) :
    Command (GenerationSession S × τ) (GenerationError E) GenerationOutcome := do
  let (session, _) ← Command.read
  let generationLimit ← Command.lift (prepare model env.alloc config promptTokens session)
  if env.cancelled 0 then pure (outcome [] .cancelled promptTokens.length)
  else do
    let absorbed ← (prefill model env 0 promptTokens).zoom Prod.fst fun session state =>
      (session, state.2)
    if absorbed then do
      let sampler ← Command.lift
        (wrap .sampling (Sampler.new host env.alloc config model.vocabularySize))
      let exhausted := if generationLimit < config.maxNewTokens then .contextLength else .maxTokens
      let (generated, reason) ← decode model host env config emit promptTokens.length exhausted
        generationLimit 0
        sampler []
      pure (outcome generated reason promptTokens.length)
    else do
      let (session, _) ← Command.read
      pure (outcome [] .cancelled session.history.length)

/-- `Generator::generate`. -/
def generate (model : CausalModel Ω S E) (host : SamplerHost R W) (env : CallEnvironment Ω)
    (config : SamplingConfig)
    (promptTokens : List Nat) :
    Command (GenerationSession S) (GenerationError E) GenerationOutcome := fun session =>
  let (answer, session, _) :=
    generateStream model host env config promptTokens (fun _ state => (false, state)) (session, ())
  (answer, session)

end Generator
end LightBridge.Runtime
