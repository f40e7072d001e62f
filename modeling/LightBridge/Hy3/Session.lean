import LightBridge.ExpertCache.Supply
import LightBridge.Hy3.Options
import LightBridge.Kernels.Layer
import LightBridge.Kv.SnapshotRoundTrip

/-! `Hy3ScalarModel` and its sessions: the evaluation of one token through every layer, its
rollback, and the other ways a session changes. -/
namespace LightBridge.Hy3
open Foundation Kernels ExpertCache

structure OwnedMatrix where
  ty : GgmlType
  inputWidth : Nat
  outputWidth : Nat
  bytes : List UInt8
  deriving DecidableEq, Repr

structure OwnedAttention where
  inputNorm : List F32
  query : OwnedMatrix
  queryNorm : List F32
  key : OwnedMatrix
  keyNorm : List F32
  value : OwnedMatrix
  output : OwnedMatrix
  deriving DecidableEq, Repr

structure OwnedExpert where
  gate : OwnedMatrix
  up : OwnedMatrix
  down : OwnedMatrix
  deriving DecidableEq, Repr

structure OwnedMoe where
  router : OwnedMatrix
  selectionBias : List F32
  shared : OwnedExpert
  expertLayout : ExpertPayloadLayout
  deriving DecidableEq, Repr

inductive FeedForwardWeights where
  | dense (expert : OwnedExpert)
  | moe (moe : OwnedMoe)
  deriving DecidableEq, Repr

structure LayerWeights where
  attention : OwnedAttention
  ffnNorm : List F32
  feedForward : FeedForwardWeights
  deriving DecidableEq, Repr

/-- `Hy3ScalarModel`; `load_validated` pushes one layer for every block. The expert source
and the contents of the expert cache belong to the environment of an evaluation. -/
structure Hy3ScalarModel where
  config : Hy3Config
  contextCapacity : Nat
  executionMode : ReferenceExecutionMode
  kvPageTokens : Nat
  modelFingerprint : Bytes32
  embeddings : OwnedMatrix
  layers : List LayerWeights
  outputNorm : List F32
  output : OwnedMatrix
  rope : Hy3RopeParams
  expertSource : Bool
  expertCache : CacheConfig
  blocks : layers.length = config.blockCount

structure Hy3ScalarSession where
  cache : Kv.PagedKvCache
  denseScratch : Hy3BlockScratch
  moeScratch : Option Hy3BlockScratch
  hidden : List F32
  finalNormalized : List F32
  decodedBlock : Nat
  q8 : Nat
  expertLeases : List (Lease ExpertKey)
  position : Nat
  deriving DecidableEq

section Views
variable {ε : Type}

def OwnedMatrix.view (matrix : OwnedMatrix) : Except (Hy3ScalarError ε) PackedMatrix :=
  wrap .kernel
    (PackedMatrix.fromParts matrix.ty .little matrix.inputWidth matrix.outputWidth matrix.bytes)

def OwnedAttention.view (attention : OwnedAttention) (config : Hy3Config) :
    Except (Hy3ScalarError ε) Hy3AttentionWeights := do
  let query ← attention.query.view
  let key ← attention.key.view
  let value ← attention.value.view
  let output ← attention.output.view
  pure {
    inputNorm := attention.inputNorm, query, queryNorm := attention.queryNorm, key,
    keyNorm := attention.keyNorm
    value, output, queryHeadCount := config.attentionHeadCount,
    kvHeadCount := config.attentionKvHeadCount
    keyDimension := config.keyLength, valueDimension := config.valueLength }

def OwnedExpert.view (expert : OwnedExpert) : Except (Hy3ScalarError ε) SwiGluExpert := do
  let gate ← expert.gate.view
  let up ← expert.up.view
  let down ← expert.down.view
  wrap .kernel (SwiGluExpert.new gate up down)

def OwnedMoe.streamingWeights (moe : OwnedMoe) (attention : OwnedAttention) (ffnNorm : List F32)
    (config : Hy3Config) : Except (Hy3ScalarError ε) Hy3StreamingMoeWeights := do
  let attention ← attention.view config
  let router ← moe.router.view
  let sharedExpert ← moe.shared.view
  pure {
    attention, ffnNorm, router, selectionBias := moe.selectionBias, sharedExpert,
    expertCount := config.expertCount
    expertUsedCount := config.expertUsedCount, weightScale := config.expertWeightsScale }

def MatrixLayout.view (layout : MatrixLayout) (bytes : List UInt8) :
    Except (Hy3ScalarError ε) PackedMatrix :=
  wrap .kernel (PackedMatrix.fromParts layout.ty .little layout.inputWidth layout.outputWidth bytes)

def ExpertPayloadLayout.view (layout : ExpertPayloadLayout) (bytes : List UInt8) :
    Except (Hy3ScalarError ε) SwiGluExpert := do
  let total ← layout.totalBytes
  ensure (bytes.length = total) (.expertPayloadLength total bytes.length)
  let gateEnd := layout.gate.bytes
  let upEnd ← okOr (checkedAdd gateEnd layout.up.bytes) .arithmeticOverflow
  let gate ← layout.gate.view (bytes.take gateEnd)
  let up ← layout.up.view ((bytes.take upEnd).drop gateEnd)
  let down ← layout.down.view (bytes.drop upEnd)
  wrap .kernel (SwiGluExpert.new gate up down)

end Views

/-- What the host and the expert cache answer during one evaluation: the allocator, by
layer, and the leases that the calls for the experts of a layer bring back. -/
structure Environment (ε : Type) where
  kv : Nat → Kv.Allocator
  leases : Nat → Bool
  views : Nat → Bool
  acquire : List ExpertKey → Nat → Except (LoadError ε) (List (Lease ExpertKey))

namespace Hy3ScalarSession

def setCache (session : Hy3ScalarSession) (cache : Kv.PagedKvCache) : Hy3ScalarSession :=
  { session with cache }

def setHidden (session : Hy3ScalarSession) (hidden : List F32) : Hy3ScalarSession :=
  { session with hidden }

def setFinal (session : Hy3ScalarSession) (finalNormalized : List F32) : Hy3ScalarSession :=
  { session with finalNormalized }

def setLeases (session : Hy3ScalarSession) (expertLeases : List (Lease ExpertKey)) :
    Hy3ScalarSession :=
  { session with expertLeases }

def setPosition (session : Hy3ScalarSession) (position : Nat) : Hy3ScalarSession :=
  { session with position }

/-- What a dense block works on. -/
def denseBlock (session : Hy3ScalarSession) : BlockState :=
  { cache := session.cache, hidden := session.hidden, scratch := session.denseScratch }

def setDenseBlock (block : BlockState) (session : Hy3ScalarSession) : Hy3ScalarSession :=
  { session with cache := block.cache, hidden := block.hidden, denseScratch := block.scratch }

/-- What a streamed block works on, where the session has `scratch` for it. -/
def moeBlock (scratch : Hy3BlockScratch) (session : Hy3ScalarSession) : BlockState :=
  { cache := session.cache, hidden := session.hidden, scratch := session.moeScratch.getD scratch }

def setMoeBlock (block : BlockState) (session : Hy3ScalarSession) : Hy3ScalarSession :=
  { session with cache := block.cache, hidden := block.hidden, moeScratch := some block.scratch }

/-- What `rollback_to` and `reset_session` do besides the cache. The buffers they fill with
zeros and the calls fill before use are known by their lengths alone. -/
def cleared (session : Hy3ScalarSession) (position : Nat) : Hy3ScalarSession :=
  { session with
    denseScratch := session.denseScratch.reset
    moeScratch := session.moeScratch.map Hy3BlockScratch.reset
    expertLeases := []
    hidden := List.replicate session.hidden.length .zero
    finalNormalized := List.replicate session.finalNormalized.length .zero
    position }

variable {ε : Type}

def rollbackTo (committedPosition : Nat) : Command Hy3ScalarSession (Hy3ScalarError ε) Unit := do
  ((Kv.PagedKvCache.rewindAll committedPosition).mapError .kv).zoom cache fun cache session =>
    session.setCache cache
  Command.update (·.cleared committedPosition)

end Hy3ScalarSession

/-- The allocator's answers to `new_session`. -/
structure SessionAllocator where
  kv : Kv.Allocator
  dense : String → Bool
  moe : String → Bool
  buffers : String → Bool

def SessionAllocator.granting : SessionAllocator :=
  ⟨fun _ => true, fun _ => true, fun _ => true, fun _ => true⟩

/-- `fallible_zeroed`: the length of the buffer. -/
def fallibleZeroed {ε : Type} (granted : String → Bool) (size length : Nat) (context : String) :
    Except (Hy3ScalarError ε) Nat := do
  ensure (tryReserve (granted context) size length) (.allocationFailed context length)
  pure length

namespace Hy3ScalarModel
variable {ε : Type}

def kvConfig (model : Hy3ScalarModel) : Kv.KvConfig :=
  { layerCount := model.config.blockCount, kvHeadCount := model.config.attentionKvHeadCount
    keyDimension := model.config.keyLength, valueDimension := model.config.valueLength
    pageTokens := model.kvPageTokens, tokenCapacity := model.contextCapacity }

/-! ### Sessions -/

/-- The streaming weights of the first MoE layer. -/
def firstStreaming (model : Hy3ScalarModel) :
    List LayerWeights → Except (Hy3ScalarError ε) (Option Hy3StreamingMoeWeights)
  | [] => .ok none
  | layer :: layers =>
      match layer.feedForward with
      | .moe moe => some <$> moe.streamingWeights layer.attention layer.ffnNorm model.config
      | .dense _ => firstStreaming model layers

/-- The scratch for MoE layers, where there are any. -/
def newMoeScratch (model : Hy3ScalarModel) (granted : String → Bool) :
    Except (Hy3ScalarError ε) (Option Hy3BlockScratch) := do
  match ← model.firstStreaming model.layers with
  | none => pure none
  | some weights =>
      some <$> wrap .kernel (Hy3BlockScratch.newStreamingMoe granted weights model.contextCapacity)

/-- The dense weights of the first layer. -/
def denseWeights (model : Hy3ScalarModel) : Except (Hy3ScalarError ε) Hy3BlockWeights := do
  let dense ← okOr model.layers.head? .missingDenseLayer
  match dense.feedForward with
  | .moe _ => .error .missingDenseLayer
  | .dense expert => do
      let attention ← dense.attention.view model.config
      let expert ← expert.view
      pure { attention, ffnNorm := dense.ffnNorm, feedForward := .dense expert }

def newSession (alloc : SessionAllocator) (model : Hy3ScalarModel) :
    Except (Hy3ScalarError ε) Hy3ScalarSession := do
  let weights ← model.denseWeights
  let moeScratch ← model.newMoeScratch alloc.moe
  let cache ← wrap .kv (Kv.PagedKvCache.newLazy alloc.kv model.kvConfig)
  let denseScratch ← wrap .kernel (Hy3BlockScratch.new alloc.dense weights model.contextCapacity)
  let hidden ← fallibleZeroed alloc.buffers 4 model.config.embeddingLength "hidden state"
  let finalNormalized ← fallibleZeroed alloc.buffers 4 model.config.embeddingLength
    "final normalized state"
  let decodedBlock ← fallibleZeroed alloc.buffers 4 256 "output decoded block"
  let q8Bytes ← wrap .kernel (requiredQ8KBytes model.config.embeddingLength)
  let q8 ← fallibleZeroed alloc.buffers 1 q8Bytes "output Q8_K row"
  pure {
    cache, denseScratch, moeScratch, hidden := List.replicate hidden .zero
    finalNormalized := List.replicate finalNormalized .zero, decodedBlock, q8, expertLeases := [],
    position := 0 }

def resetSession (session : Hy3ScalarSession) : Hy3ScalarSession :=
  (session.setCache (Kv.PagedKvCache.reset session.cache).2).cleared 0

/-- The check of `export_kv_snapshot` on one layer after the other. -/
def checkLengths (session : Hy3ScalarSession) : List Nat → Except (Hy3ScalarError ε) Unit
  | [] => .ok ()
  | layer :: layers => do
      let actual ← wrap .kv (session.cache.storedTokens layer)
      ensure (actual = session.position) (.inconsistentKvLength layer session.position actual)
      checkLengths session layers

def exportKvSnapshot (sha : Sha256) (alloc : Kv.Allocator) (model : Hy3ScalarModel)
    (session : Hy3ScalarSession)
    (maximumBytes : Nat) : Except (Hy3ScalarError ε) (List UInt8) := do
  checkLengths session (List.range model.config.blockCount)
  wrap .kv (session.cache.exportSnapshot sha alloc model.modelFingerprint maximumBytes)

def restoreKvSnapshot (sha : Sha256) (alloc : Kv.Allocator) (model : Hy3ScalarModel)
    (bytes : List UInt8)
    (maximumBytes : Nat) : Command Hy3ScalarSession (Hy3ScalarError ε) Unit := do
  ((Kv.PagedKvCache.restoreUniformSnapshot sha alloc model.modelFingerprint bytes
    maximumBytes).mapError .kv).zoom
    Hy3ScalarSession.cache fun cache session => session.setCache cache
  let session ← Command.read
  let position ← Command.lift (wrap .kv (session.cache.storedTokens 0))
  Hy3ScalarSession.rollbackTo position

/-! ### Evaluation -/

/-- The leases on the routed experts. What `load_route` checks before it turns to the cache
is the same for every route of a layer, and there is at least one. -/
def loadRoutes (env : Environment ε) (model : Hy3ScalarModel) (layer : Nat) (moe : OwnedMoe)
    (routes : List RoutedExpert) : Except (Hy3ScalarError ε) (List (Lease ExpertKey)) := do
  if model.executionMode ≠ .cpuParallelQ8K then
    ensure (env.leases layer) (.allocationFailed "selected expert leases" routes.length)
  let expected ← moe.expertLayout.totalBytes
  ensure model.expertSource .missingExpertSource
  wrap .expertCache (env.acquire (routes.map fun route => ⟨layer, route.expertId⟩) expected)

/-- The view of one leased expert. -/
def selectExpert (moe : OwnedMoe) (leased : RoutedExpert × Lease ExpertKey) :
    Except (Hy3ScalarError ε) SelectedExpert := do
  let expert ← moe.expertLayout.view leased.2.bytes
  pure { expertId := leased.1.expertId, coefficient := leased.1.coefficient, expert }

def execution (model : Hy3ScalarModel) (layer position : Nat) : Hy3BlockExecution :=
  { mode := model.executionMode, layer, position, rope := model.rope,
    rmsEpsilon := model.config.rmsEpsilon }

def evaluateDense (N : Numerics) (env : Environment ε) (model : Hy3ScalarModel) (index : Nat)
    (layer : LayerWeights)
    (expert : OwnedExpert) : Command Hy3ScalarSession (Hy3ScalarError ε) Unit := do
  let session ← Command.read
  let attention ← Command.lift (layer.attention.view model.config)
  let expert ← Command.lift expert.view
  ((hy3BlockForwardToken N (env.kv index) (model.execution index session.position)
    { attention, ffnNorm := layer.ffnNorm, feedForward := .dense expert }).mapError .kernel).zoom
      Hy3ScalarSession.denseBlock Hy3ScalarSession.setDenseBlock

/-- The second half of a MoE layer: the experts are leased, used and given back. -/
def finishMoe (N : Numerics) (env : Environment ε) (model : Hy3ScalarModel) (index : Nat)
    (moe : OwnedMoe)
    (scratch : Hy3BlockScratch) : Command Hy3ScalarSession (Hy3ScalarError ε) Unit := do
  let session ← Command.read
  let routes := (session.moeBlock scratch).scratch.selectedRoutes
  Command.update (·.setLeases [])
  let leases ← Command.lift (loadRoutes env model index moe routes)
  Command.update (·.setLeases leases)
  Command.lift (ensure (env.views index) (.allocationFailed "selected expert views" routes.length))
  let selected ← Command.lift ((routes.zip leases).mapM (selectExpert moe))
  let shared ← Command.lift moe.shared.view
  ((hy3MoeFinishToken N model.executionMode selected shared).mapError .kernel).zoom
    (Hy3ScalarSession.moeBlock scratch) Hy3ScalarSession.setMoeBlock
  Command.update (·.setLeases [])

def evaluateMoe (N : Numerics) (env : Environment ε) (model : Hy3ScalarModel) (index : Nat)
    (layer : LayerWeights)
    (moe : OwnedMoe) : Command Hy3ScalarSession (Hy3ScalarError ε) Unit := do
  let session ← Command.read
  let streaming ← Command.lift (moe.streamingWeights layer.attention layer.ffnNorm model.config)
  let scratch ← Command.lift (okOr session.moeScratch .missingMoeScratch)
  ((hy3MoeRouteToken N (env.kv index) (model.execution index session.position) streaming).mapError
    .kernel).zoom
    (Hy3ScalarSession.moeBlock scratch) Hy3ScalarSession.setMoeBlock
  finishMoe N env model index moe scratch

def evaluateLayer (N : Numerics) (env : Environment ε) (model : Hy3ScalarModel) (index : Nat)
    (layer : LayerWeights) :
    Command Hy3ScalarSession (Hy3ScalarError ε) Unit := do
  Command.lift (ensure (index ≤ u32Max) .arithmeticOverflow)
  match layer.feedForward with
  | .dense expert => evaluateDense N env model index layer expert
  | .moe moe => evaluateMoe N env model index layer moe

def evaluateLayers (N : Numerics) (env : Environment ε) (model : Hy3ScalarModel) :
    Nat → List LayerWeights → Command Hy3ScalarSession (Hy3ScalarError ε) Unit
  | _, [] => pure ()
  | index, layer :: layers => do
      evaluateLayer N env model index layer
      evaluateLayers N env model (index + 1) layers

/-- The checks of `evaluate_inner` before it touches the session. -/
def validateToken (model : Hy3ScalarModel) (position tokenId logitLength : Nat) :
    Except (Hy3ScalarError ε) Unit := do
  ensure (logitLength = model.config.vocabularySize)
    (.logitLength model.config.vocabularySize logitLength)
  ensure (tokenId < model.config.vocabularySize)
    (.tokenOutOfRange tokenId model.config.vocabularySize)
  ensure (position < model.contextCapacity) (.contextExhausted position model.contextCapacity)

def embedToken (N : Numerics) (model : Hy3ScalarModel) (tokenId : Nat) :
    Command Hy3ScalarSession (Hy3ScalarError ε) Unit := do
  let session ← Command.read
  let embeddings ← Command.lift model.embeddings.view
  let hidden ← Command.lift (wrap .quant (decodeRow N model.embeddings.ty (embeddings.row tokenId)
    model.embeddings.inputWidth session.hidden.length))
  Command.update (·.setHidden hidden)

def normalizeHidden (N : Numerics) (model : Hy3ScalarModel) :
    Command Hy3ScalarSession (Hy3ScalarError ε) Unit := do
  let session ← Command.read
  let normalized ← Command.lift (wrap .kernel (weightedRmsNorm N session.hidden model.outputNorm
    model.config.rmsEpsilon session.finalNormalized.length))
  Command.update (·.setFinal normalized)

/-- The end of `evaluate_inner`: the logits of a token, and its commitment. -/
def finishToken (N : Numerics) (model : Hy3ScalarModel) :
    Command (Hy3ScalarSession × List F32) (Hy3ScalarError ε) Unit := do
  let (session, _) ← Command.read
  let output ← Command.lift model.output.view
  ((gemvInto N model.executionMode output session.finalNormalized session.decodedBlock
    session.q8).mapError .kernel).zoom Prod.snd fun logits state => (state.1, logits)
  Command.update fun state => (state.1.setPosition (state.1.position + 1), state.2)

/-- `evaluate_inner`, on the session and the caller's logits. -/
def evaluateInner (N : Numerics) (env : Environment ε) (model : Hy3ScalarModel) (tokenId : Nat) :
    Command (Hy3ScalarSession × List F32) (Hy3ScalarError ε) Unit := do
  let (session, logits) ← Command.read
  Command.lift (model.validateToken session.position tokenId logits.length)
  (do embedToken N model tokenId
      evaluateLayers N env model 0 model.layers
      normalizeHidden N model).zoom Prod.fst fun session state => (session, state.2)
  finishToken N model

/-- `evaluate`, which is `evaluate_token`. -/
def evaluate (N : Numerics) (env : Environment ε) (model : Hy3ScalarModel) (tokenId : Nat) :
    Command (Hy3ScalarSession × List F32) (Hy3ScalarError ε) Unit := fun state =>
  match evaluateInner N env model tokenId state with
  | (.ok (), state') => (.ok (), state')
  | (.error error, (session, logits)) =>
      match Hy3ScalarSession.rollbackTo state.1.position session with
      | (.ok (), session) => (.error error, (session, logits))
      | (.error rollback, session) => (.error (.sessionRollback error rollback), (session, logits))

/-- Sessions a program can hold: opened, used, reset or restored. -/
inductive Reachable (ε : Type) (N : Numerics) (sha : Sha256) (model : Hy3ScalarModel) :
    Hy3ScalarSession → Prop where
  | opened (alloc : SessionAllocator) {session : Hy3ScalarSession}
      (h : newSession (ε := ε) alloc model = .ok session) : Reachable ε N sha model session
  | evaluated {session : Hy3ScalarSession} (h : Reachable ε N sha model session)
      (env : Environment ε) (tokenId : Nat) (logits : List F32) :
      Reachable ε N sha model (evaluate N env model tokenId (session, logits)).2.1
  | reset {session : Hy3ScalarSession} (h : Reachable ε N sha model session) :
      Reachable ε N sha model (resetSession session)
  | restored {session : Hy3ScalarSession} (h : Reachable ε N sha model session)
      (alloc : Kv.Allocator) (bytes : List UInt8) (maximumBytes : Nat)
      (limit : maximumBytes ≤ usizeMax) :
      Reachable ε N sha model
        (restoreKvSnapshot (ε := ε) sha alloc model bytes maximumBytes session).2

end Hy3ScalarModel
end LightBridge.Hy3
