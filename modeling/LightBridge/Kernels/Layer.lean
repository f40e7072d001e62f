import LightBridge.Kernels.Attention
import LightBridge.Kernels.Moe
import LightBridge.Kernels.Norm

/-! One Hy3 block for one token: attention, then a dense or routed feed-forward. A streamed
block stops after routing and is finished once its experts are there. -/
namespace LightBridge.Kernels
open Foundation Kv

structure Hy3AttentionWeights where
  inputNorm : List F32
  query : PackedMatrix
  queryNorm : List F32
  key : PackedMatrix
  keyNorm : List F32
  value : PackedMatrix
  output : PackedMatrix
  queryHeadCount : Nat
  kvHeadCount : Nat
  keyDimension : Nat
  valueDimension : Nat
  deriving DecidableEq, Repr

structure Hy3MoeWeights where
  router : PackedMatrix
  selectionBias : List F32
  routedExperts : List SwiGluExpert
  sharedExpert : SwiGluExpert
  expertUsedCount : Nat
  weightScale : F32
  deriving DecidableEq, Repr

structure Hy3StreamingMoeWeights where
  attention : Hy3AttentionWeights
  ffnNorm : List F32
  router : PackedMatrix
  selectionBias : List F32
  sharedExpert : SwiGluExpert
  expertCount : Nat
  expertUsedCount : Nat
  weightScale : F32
  deriving DecidableEq, Repr

inductive Hy3FeedForwardWeights where
  | dense (expert : SwiGluExpert)
  | moe (moe : Hy3MoeWeights)
  deriving DecidableEq, Repr

structure Hy3BlockWeights where
  attention : Hy3AttentionWeights
  ffnNorm : List F32
  feedForward : Hy3FeedForwardWeights
  deriving DecidableEq, Repr

structure Hy3BlockExecution where
  mode : ReferenceExecutionMode
  layer : Nat
  position : Nat
  rope : Hy3RopeParams
  rmsEpsilon : F32
  deriving DecidableEq, Repr

/-- The lengths of the buffers of `Hy3BlockScratch` that a call fills before it reads them. -/
structure Hy3BlockBuffers where
  attentionNormalized : Nat
  queries : Nat
  keys : Nat
  values : Nat
  attentionContext : Nat
  attentionStaging : Nat
  attentionDelta : Nat
  ffnDelta : Nat
  preflightOutput : Nat
  swigluActivation : Nat
  decodedBlock : Nat
  q8 : Nat
  scores : Nat
  routerLogits : Nat
  routeCandidates : Nat
  deriving DecidableEq, Repr

/-- `Hy3BlockScratch`: its buffers, and what outlives a call. -/
structure Hy3BlockScratch where
  buffers : Hy3BlockBuffers
  ffnNormalized : List F32
  routed : List RoutedExpert
  routedLen : Nat
  streamingMoePending : Bool
  deriving DecidableEq, Repr

/-! ### Validation -/

/-- The checks of attention weights and norms that both block validations begin with. -/
def validateAttentionWeights (attention : Hy3AttentionWeights) (ffnNorm : List F32) :
    Except KernelError Unit := do
  let hidden := attention.query.inputWidth
  requireEqual "attention norm weight" hidden attention.inputNorm.length
  requireEqual "attention key input" hidden attention.key.inputWidth
  requireEqual "attention value input" hidden attention.value.inputWidth
  ensure (attention.queryHeadCount ≠ 0 ∧ attention.kvHeadCount ≠ 0 ∧
      attention.queryHeadCount % attention.kvHeadCount = 0 ∧ attention.keyDimension ≠ 0 ∧
        attention.valueDimension ≠ 0)
    (.invalidParameter "Hy3 attention dimensions"
      "head counts and dimensions must be positive and query heads must group over KV heads")
  let queries ← checkedProduct attention.queryHeadCount attention.keyDimension
    "query projection output"
  requireEqual "query projection output" queries attention.query.outputWidth
  let keys ← checkedProduct attention.kvHeadCount attention.keyDimension "key projection output"
  requireEqual "key projection output" keys attention.key.outputWidth
  let values ← checkedProduct attention.kvHeadCount attention.valueDimension
    "value projection output"
  requireEqual "value projection output" values attention.value.outputWidth
  let context ← checkedProduct attention.queryHeadCount attention.valueDimension
    "attention output projection input"
  requireEqual "attention output projection input" context attention.output.inputWidth
  requireEqual "attention output width" hidden attention.output.outputWidth
  requireEqual "query norm weight" attention.keyDimension attention.queryNorm.length
  requireEqual "key norm weight" attention.keyDimension attention.keyNorm.length
  requireEqual "FFN norm weight" hidden ffnNorm.length

def validateExpertDimensions (hidden : Nat) (expert : SwiGluExpert) : Except KernelError Unit := do
  requireEqual "expert input width" hidden expert.inputWidth
  requireEqual "expert output width" hidden expert.outputWidth

/-- The checks of a router that both block validations share. -/
def validateRouter (hidden expertCount expertUsedCount : Nat) (router : PackedMatrix)
    (selectionBias : List F32)
    (weightScale : F32) : Except KernelError Unit := do
  requireEqual "router input" hidden router.inputWidth
  requireEqual "router output" expertCount router.outputWidth
  requireEqual "router selection bias" expertCount selectionBias.length
  ensure (expertUsedCount ≠ 0 ∧ expertUsedCount ≤ expertCount)
    (.invalidParameter "MoE selected expert count"
      "must be within the available routed expert count")
  ensure weightScale.isFinite (.nonFiniteValue "MoE weight scale" 0 weightScale.toBits)

def validateRoutedExperts (hidden : Nat) (shared : SwiGluExpert) :
    List SwiGluExpert → Except KernelError Unit
  | [] => .ok ()
  | expert :: experts => do
      validateExpertDimensions hidden expert
      requireEqual "routed/shared expert hidden width" shared.hiddenWidth expert.hiddenWidth
      validateRoutedExperts hidden shared experts

def validateBlock (block : Hy3BlockWeights) : Except KernelError Unit := do
  validateAttentionWeights block.attention block.ffnNorm
  let hidden := block.attention.query.inputWidth
  match block.feedForward with
  | .dense expert => validateExpertDimensions hidden expert
  | .moe moe => do
      validateRouter hidden moe.routedExperts.length moe.expertUsedCount moe.router
        moe.selectionBias moe.weightScale
      validateExpertDimensions hidden moe.sharedExpert
      validateRoutedExperts hidden moe.sharedExpert moe.routedExperts

def validateStreamingMoe (block : Hy3StreamingMoeWeights) : Except KernelError Unit := do
  validateAttentionWeights block.attention block.ffnNorm
  let hidden := block.attention.query.inputWidth
  validateRouter hidden block.expertCount block.expertUsedCount block.router block.selectionBias
    block.weightScale
  validateExpertDimensions hidden block.sharedExpert

/-- What a call checks of the cache and the hidden state, with the tokens stored in its layer. -/
def validateCall (attention : Hy3AttentionWeights) (config : KvConfig) (stored : Except KvError Nat)
    (position : Nat)
    (hidden : List F32) (scratch : Hy3BlockScratch) : Except KernelError Unit := do
  requireEqual "block hidden state" attention.query.inputWidth hidden.length
  requireEqual "KV query heads" attention.kvHeadCount config.kvHeadCount
  requireEqual "KV key dimension" attention.keyDimension config.keyDimension
  requireEqual "KV value dimension" attention.valueDimension config.valueDimension
  let storedTokens ← wrap .kv stored
  requireEqual "KV position" storedTokens position
  requireEqual "block scratch hidden width" hidden.length scratch.buffers.attentionNormalized

/-- `validate_runtime`. -/
def validateRuntime (block : Hy3BlockWeights) (config : KvConfig) (stored : Except KvError Nat)
    (position : Nat)
    (hidden : List F32) (scratch : Hy3BlockScratch) : Except KernelError Unit := do
  validateBlock block
  validateCall block.attention config stored position hidden scratch

def validateStreamingRuntime (block : Hy3StreamingMoeWeights) (config : KvConfig)
    (stored : Except KvError Nat)
    (position : Nat) (hidden : List F32) (scratch : Hy3BlockScratch) : Except KernelError Unit := do
  validateStreamingMoe block
  validateCall block.attention config stored position hidden scratch
  requireEqual "block scratch expert count" block.expertCount scratch.buffers.routerLogits
  requireEqual "block scratch selected expert count" block.expertUsedCount scratch.routed.length

/-! ### Scratch -/

namespace Hy3BlockScratch

/-- `zeroed_f32` and `zeroed_u8`: the length of the buffer. -/
def zeroed (granted : String → Bool) (size length : Nat) (context : String) :
    Except KernelError Nat := do
  ensure (tryReserve (granted context) size length) (.allocationFailed context length)
  pure length

/-- The allocations of `new` and `new_streaming_moe`, after their validation. -/
def allocate (granted : String → Bool) (attention : Hy3AttentionWeights)
    (ffnHidden expertCount expertUsedCount routerInput contextCapacity : Nat) :
    Except KernelError Hy3BlockScratch := do
  ensure (contextCapacity ≠ 0)
    (.invalidParameter "block scratch context capacity" "must be greater than zero")
  let hidden := attention.query.inputWidth
  let queryValues ← checkedProduct attention.queryHeadCount attention.keyDimension
    "query scratch length"
  let keyValues ← checkedProduct attention.kvHeadCount attention.keyDimension "key scratch length"
  let valueValues ← checkedProduct attention.kvHeadCount attention.valueDimension
    "value scratch length"
  let attentionValues ← checkedProduct attention.queryHeadCount attention.valueDimension
    "attention scratch length"
  let activationValues ← okOr (checkedMul ffnHidden 2)
    (.arithmeticOverflow "SwiGLU activation scratch")
  let maximumInput := max (max hidden attentionValues) (max ffnHidden routerInput)
  let q8Bytes ← if 256 ≤ maximumInput then requiredQ8KBytes maximumInput else pure 0
  let attentionNormalized ← zeroed granted 4 hidden "attention normalized"
  let queries ← zeroed granted 4 queryValues "queries"
  let keys ← zeroed granted 4 keyValues "keys"
  let values ← zeroed granted 4 valueValues "values"
  let attentionContext ← zeroed granted 4 attentionValues "attention context"
  let attentionStaging ← zeroed granted 4 attentionValues "attention staging"
  let attentionDelta ← zeroed granted 4 hidden "attention delta"
  let _ ← zeroed granted 4 hidden "attention residual"
  let ffnNormalized ← zeroed granted 4 hidden "FFN normalized"
  let ffnDelta ← zeroed granted 4 hidden "FFN delta"
  let preflightOutput ← zeroed granted 4 hidden "MoE preflight output"
  let swigluActivation ← zeroed granted 4 activationValues "SwiGLU activation"
  let decodedBlock ← zeroed granted 4 256 "decoded quant block"
  let q8 ← zeroed granted 1 q8Bytes "Q8_K activation"
  let scores ← zeroed granted 4 contextCapacity "attention scores"
  let routerLogits ← zeroed granted 4 expertCount "router logits"
  let routeCandidates ← zeroed granted 12 expertCount "route candidates"
  let routed ← zeroed granted 8 expertUsedCount "routed experts"
  pure {
    buffers := { attentionNormalized, queries, keys, values, attentionContext, attentionStaging,
                 attentionDelta,
                 ffnDelta, preflightOutput, swigluActivation, decodedBlock, q8, scores,
                 routerLogits, routeCandidates }
    ffnNormalized := List.replicate ffnNormalized .zero
    routed := List.replicate routed ⟨0, .zero⟩
    routedLen := 0
    streamingMoePending := false }

def new (granted : String → Bool) (block : Hy3BlockWeights) (contextCapacity : Nat) :
    Except KernelError Hy3BlockScratch := do
  validateBlock block
  match block.feedForward with
  | .dense expert =>
      allocate granted block.attention expert.hiddenWidth 0 0 expert.inputWidth contextCapacity
  | .moe moe =>
      allocate granted block.attention moe.sharedExpert.hiddenWidth moe.routedExperts.length
        moe.expertUsedCount
        moe.router.inputWidth contextCapacity

def newStreamingMoe (granted : String → Bool) (block : Hy3StreamingMoeWeights)
    (contextCapacity : Nat) :
    Except KernelError Hy3BlockScratch := do
  validateStreamingMoe block
  allocate granted block.attention block.sharedExpert.hiddenWidth block.expertCount
    block.expertUsedCount
    block.router.inputWidth contextCapacity

/-- `routed()`. -/
def selectedRoutes (scratch : Hy3BlockScratch) : List RoutedExpert :=
  scratch.routed.take scratch.routedLen

def reset (scratch : Hy3BlockScratch) : Hy3BlockScratch :=
  { scratch with routedLen := 0, streamingMoePending := false }

def swiglu (scratch : Hy3BlockScratch) : SwiGluScratch :=
  { activation := scratch.buffers.swigluActivation, decodedBlock := scratch.buffers.decodedBlock,
    q8 := scratch.buffers.q8 }

/-- The sizes that depend on the weights of a block. -/
structure Sizes where
  queries : Nat
  keys : Nat
  values : Nat
  context : Nat
  activation : Nat
  q8 : Nat

/-- The bytes of a quantised activation row of the widest input. -/
def activationBytes (maximumInput : Nat) : Except KernelError Nat :=
  if 256 ≤ maximumInput then requiredQ8KBytes maximumInput else pure 0

def sizes (attention : Hy3AttentionWeights) (ffnHidden routerInput : Nat) :
    Except KernelError Sizes := do
  let queries ← checkedProduct attention.queryHeadCount attention.keyDimension
    "query scratch length"
  let keys ← checkedProduct attention.kvHeadCount attention.keyDimension "key scratch length"
  let values ← checkedProduct attention.kvHeadCount attention.valueDimension "value scratch length"
  let context ← checkedProduct attention.queryHeadCount attention.valueDimension
    "attention scratch length"
  let activation ← okOr (checkedMul ffnHidden 2) (.arithmeticOverflow "SwiGLU activation scratch")
  let q8 ← activationBytes
    (max (max attention.query.inputWidth context) (max ffnHidden routerInput))
  pure { queries, keys, values, context, activation, q8 }

/-- A scratch of these sizes, before anything has run. -/
def cleared (hidden : Nat) (sizes : Sizes) (expertCount expertUsedCount capacity : Nat) :
    Hy3BlockScratch where
  buffers :=
    { attentionNormalized := hidden, queries := sizes.queries, keys := sizes.keys,
      values := sizes.values, attentionContext := sizes.context,
      attentionStaging := sizes.context, attentionDelta := hidden, ffnDelta := hidden,
      preflightOutput := hidden, swigluActivation := sizes.activation, decodedBlock := 256,
      q8 := sizes.q8, scores := capacity, routerLogits := expertCount,
      routeCandidates := expertCount }
  ffnNormalized := List.replicate hidden .zero
  routed := List.replicate expertUsedCount ⟨0, .zero⟩
  routedLen := 0
  streamingMoePending := false

/-- What follows an allocation goes on with its length. -/
theorem zeroed_bind {granted : String → Bool} {size length : Nat} {context : String} {α : Type}
    {k : Nat → Except KernelError α} {a : α}
    (h : (zeroed granted size length context >>= k) = .ok a) :
    k length = .ok a := by
  obtain ⟨_, hmade, h⟩ := except_bind_ok_iff.mp h
  obtain ⟨_, -, hlength⟩ := except_bind_ok_iff.mp hmade
  cases hlength
  exact h

theorem allocate_cleared {granted : String → Bool} {attention : Hy3AttentionWeights}
    {ffnHidden expertCount expertUsedCount routerInput capacity : Nat} {scratch : Hy3BlockScratch}
    (h : allocate granted attention ffnHidden expertCount expertUsedCount routerInput capacity =
      .ok scratch) :
    ∃ given, sizes attention ffnHidden routerInput = .ok given ∧
      scratch = cleared attention.query.inputWidth given expertCount expertUsedCount capacity := by
  unfold allocate at h
  obtain ⟨_, -, h⟩ := except_bind_ok_iff.mp h
  obtain ⟨queries, hqueries, h⟩ := except_bind_ok_iff.mp h
  obtain ⟨keys, hkeys, h⟩ := except_bind_ok_iff.mp h
  obtain ⟨values, hvalues, h⟩ := except_bind_ok_iff.mp h
  obtain ⟨context, hcontext, h⟩ := except_bind_ok_iff.mp h
  obtain ⟨activation, hactivation, h⟩ := except_bind_ok_iff.mp h
  extract_lets maximumInput build at h
  have hbuild : ∀ q8, build q8 = .ok scratch → scratch = cleared attention.query.inputWidth
      ⟨queries, keys, values, context, activation, q8⟩ expertCount expertUsedCount capacity := by
    intro q8 hbuilt
    change (zeroed _ _ _ _ >>= _) = _ at hbuilt
    iterate 18 replace hbuilt := zeroed_bind hbuilt
    cases hbuilt
    rfl
  have hsizes : ∀ q8, activationBytes maximumInput = .ok q8 →
      sizes attention ffnHidden routerInput =
        .ok ⟨queries, keys, values, context, activation, q8⟩ := by
    intro q8 hq8
    unfold sizes
    rw [hqueries, except_ok_bind, hkeys, except_ok_bind, hvalues, except_ok_bind, hcontext,
      except_ok_bind, hactivation, except_ok_bind]
    change (activationBytes maximumInput >>= _) = _
    rw [hq8]
    rfl
  split at h
  · rename_i hlarge
    obtain ⟨q8, hq8, hrest⟩ := except_bind_ok_iff.mp h
    exact ⟨_, hsizes q8 (by rw [activationBytes, if_pos hlarge]; exact hq8), hbuild q8 hrest⟩
  · rename_i hsmall
    obtain ⟨q8, hq8, hrest⟩ := except_bind_ok_iff.mp h
    exact ⟨_, hsizes q8 (by rw [activationBytes, if_neg hsmall]; exact hq8), hbuild q8 hrest⟩

end Hy3BlockScratch

/-! ### One token -/

/-- What a block call works on. -/
structure BlockState where
  cache : PagedKvCache
  hidden : List F32
  scratch : Hy3BlockScratch
  deriving DecidableEq, Repr

namespace BlockState

def setCache (state : BlockState) (cache : PagedKvCache) : BlockState := { state with cache }
def setHidden (state : BlockState) (hidden : List F32) : BlockState := { state with hidden }
def setScratch (state : BlockState) (scratch : Hy3BlockScratch) : BlockState :=
  { state with scratch }

end BlockState

/-- `gemv_into` with the scratch of a block. -/
def project (N : Numerics) (mode : ReferenceExecutionMode) (buffers : Hy3BlockBuffers)
    (matrix : PackedMatrix)
    (input : List F32) (outputLength : Nat) : Except KernelError (List F32) :=
  gemv N mode matrix input outputLength buffers.decodedBlock buffers.q8

/-- The queries, keys and values of the token, normalized and rotated. -/
def projectToken (N : Numerics) (execution : Hy3BlockExecution) (attention : Hy3AttentionWeights)
    (buffers : Hy3BlockBuffers) (hidden : List F32) : Except KernelError AttentionInput := do
  let normalized ← weightedRmsNorm N hidden attention.inputNorm execution.rmsEpsilon
    buffers.attentionNormalized
  let queries ← project N execution.mode buffers attention.query normalized buffers.queries
  let keys ← project N execution.mode buffers attention.key normalized buffers.keys
  let values ← project N execution.mode buffers attention.value normalized buffers.values
  let queries ← weightedHeadRmsNorm N queries attention.queryNorm attention.keyDimension
    execution.rmsEpsilon
  let keys ← weightedHeadRmsNorm N keys attention.keyNorm attention.keyDimension
    execution.rmsEpsilon
  let queries ← applyNeoxYarnRope N queries attention.queryHeadCount execution.position
    execution.rope
  let keys ← applyNeoxYarnRope N keys attention.kvHeadCount execution.position execution.rope
  pure { tokenCount := 1, queryHeadCount := attention.queryHeadCount, queries, keys, values }

/-- `residual_add_in_place` on the hidden state. -/
def addResidual (N : Numerics) (delta : List F32) : Command BlockState KernelError Unit := do
  let state ← Command.read
  let hidden ← Command.lift (residualAdd N state.hidden delta)
  Command.update (·.setHidden hidden)

/-- The half of a block up to its normalized feed-forward input, the same in
`hy3_block_forward_token` and `hy3_moe_route_token`. -/
def attendToken (N : Numerics) (alloc : Allocator) (execution : Hy3BlockExecution)
    (attention : Hy3AttentionWeights)
    (ffnNorm : List F32) : Command BlockState KernelError (List F32) := do
  let state ← Command.read
  let buffers := state.scratch.buffers
  let input ← Command.lift (projectToken N execution attention buffers state.hidden)
  let context ← (causalGqaAttention N alloc execution.layer input buffers.attentionContext
    { scores := buffers.scores, output := buffers.attentionStaging }).zoom BlockState.cache
      fun cache state =>
      state.setCache cache
  let delta ← Command.lift
    (project N execution.mode buffers attention.output context buffers.attentionDelta)
  addResidual N delta
  let state ← Command.read
  let normalized ← Command.lift
    (weightedRmsNorm N state.hidden ffnNorm execution.rmsEpsilon state.scratch.ffnNormalized.length)
  Command.update fun state => state.setScratch { state.scratch with ffnNormalized := normalized }
  pure normalized

/-- The router's logits and its choice. -/
def routeToken (N : Numerics) (mode : ReferenceExecutionMode) (scratch : Hy3BlockScratch)
    (router : PackedMatrix) (selectionBias : List F32) (expertUsedCount : Nat) (weightScale : F32)
    (normalized : List F32) :
    Except KernelError (List RoutedExpert) := do
  let logits ← project N mode scratch.buffers router normalized scratch.buffers.routerLogits
  wrap (fun error => .routing error.message)
    (routeExperts N logits selectionBias expertUsedCount weightScale scratch.buffers.routeCandidates
      scratch.routed.length)

/-- The feed-forward of `hy3_block_forward_token`. -/
def feedForward (N : Numerics) (mode : ReferenceExecutionMode) (normalized : List F32) :
    Hy3FeedForwardWeights → Command BlockState KernelError (List F32)
  | .dense expert => do
      let state ← Command.read
      Command.lift
        (swigluProject N mode expert normalized state.scratch.buffers.ffnDelta state.scratch.swiglu)
  | .moe moe => do
      let state ← Command.read
      let routed ← Command.lift
        (routeToken N mode state.scratch moe.router moe.selectionBias moe.expertUsedCount
          moe.weightScale normalized)
      Command.update fun state =>
        state.setScratch { state.scratch with routed, routedLen := moe.expertUsedCount }
      Command.lift
        (moeRoutedById N mode (routed.take moe.expertUsedCount) moe.routedExperts
          moe.sharedExpert normalized
        state.scratch.buffers.ffnDelta state.scratch.buffers.preflightOutput state.scratch.swiglu)

def hy3BlockForwardToken (N : Numerics) (alloc : Allocator) (execution : Hy3BlockExecution)
    (block : Hy3BlockWeights) :
    Command BlockState KernelError Unit := do
  let state ← Command.read
  Command.lift
    (validateRuntime block state.cache.toKvConfig (state.cache.storedTokens execution.layer)
    execution.position state.hidden state.scratch)
  Command.update fun state => state.setScratch state.scratch.reset
  let normalized ← attendToken N alloc execution block.attention block.ffnNorm
  let delta ← feedForward N execution.mode normalized block.feedForward
  addResidual N delta

def hy3MoeRouteToken (N : Numerics) (alloc : Allocator) (execution : Hy3BlockExecution)
    (block : Hy3StreamingMoeWeights) : Command BlockState KernelError Unit := do
  let state ← Command.read
  Command.lift
    (validateStreamingRuntime block state.cache.toKvConfig
      (state.cache.storedTokens execution.layer)
    execution.position state.hidden state.scratch)
  Command.lift
    (ensure (state.scratch.streamingMoePending = false) (.invalidParameter "streaming MoE phase"
    "the previous routed phase must be completed before routing again"))
  Command.update fun state => state.setScratch { state.scratch with routedLen := 0 }
  let normalized ← attendToken N alloc execution block.attention block.ffnNorm
  let state ← Command.read
  let routed ← Command.lift
    (routeToken N execution.mode state.scratch block.router block.selectionBias
    block.expertUsedCount block.weightScale normalized)
  Command.update fun state => state.setScratch
    { state.scratch with routed, routedLen := block.expertUsedCount, streamingMoePending := true }

/-- The comparison of the supplied experts with the routing result. -/
def validateIdentity : List (RoutedExpert × SelectedExpert) → Except KernelError Unit
  | [] => .ok ()
  | (expected, actual) :: rest => do
      ensure (expected.expertId = actual.expertId ∧ expected.coefficient = actual.coefficient)
        (.invalidParameter "streaming selected expert identity"
          "IDs and coefficients must match authoritative routing exactly")
      validateIdentity rest

def hy3MoeFinishToken (N : Numerics) (mode : ReferenceExecutionMode)
    (selected : List SelectedExpert)
    (shared : SwiGluExpert) : Command BlockState KernelError Unit := do
  let state ← Command.read
  let scratch := state.scratch
  Command.lift (ensure (scratch.streamingMoePending = true)
    (.invalidParameter "streaming MoE phase" "routing must run exactly once before completion"))
  Command.lift
    (requireEqual "streaming selected expert count" scratch.selectedRoutes.length selected.length)
  Command.lift (validateIdentity (scratch.selectedRoutes.zip selected))
  let delta ← Command.lift
    (moeSelected N mode selected shared scratch.ffnNormalized scratch.buffers.ffnDelta
    scratch.buffers.preflightOutput scratch.swiglu)
  addResidual N delta
  Command.update fun state => state.setScratch { state.scratch with streamingMoePending := false }

/-! ### What a block does to the cache -/

/-- One token was appended to the layer. -/
def Advanced (layer : Nat) (cache cache' : PagedKvCache) : Prop :=
  ∃ keys values, cache.Appended cache' layer 1 keys values

/-- A failed block left the cache as it was, or had appended its token. -/
def Attempted (layer : Nat) (cache cache' : PagedKvCache) : Prop :=
  cache' = cache ∨ Advanced layer cache cache'

theorem addResidual_ends (N : Numerics) (delta : List F32) (state : BlockState) :
    Command.Ends (fun _ state' => state'.cache = state.cache ∧ state'.scratch = state.scratch)
      (fun _ state' => state'.cache = state.cache) (addResidual N delta state) := by
  unfold addResidual
  rw [Command.bind_of_ok (Command.read_run state)]
  exact .lift_bind (fun _ _ => rfl) fun hidden _ => .answered () _ ⟨rfl, rfl⟩

theorem attendToken_ends (N : Numerics) (alloc : Allocator) (execution : Hy3BlockExecution)
    (attention : Hy3AttentionWeights) (ffnNorm : List F32) {state : BlockState}
    (h : state.cache.WellFormed) :
    Command.Ends (fun normalized state' => Advanced execution.layer state.cache state'.cache ∧
        state'.scratch = { state.scratch with ffnNormalized := normalized })
      (fun _ state' => Attempted execution.layer state.cache state'.cache)
      (attendToken N alloc execution attention ffnNorm state) := by
  unfold attendToken
  rw [Command.bind_of_ok (Command.read_run state)]
  refine .lift_bind (fun _ _ => Or.inl rfl) fun input hinput => ?_
  have hsingle : input.tokenCount = 1 := by
    unfold projectToken at hinput
    simp only [except_bind_ok_iff] at hinput
    obtain ⟨_, -, _, -, _, -, _, -, _, -, _, -, _, -, _, -, heq⟩ := hinput
    cases heq
    rfl
  refine .bind (Q := fun _ state' => Advanced execution.layer state.cache state'.cache ∧
    state'.scratch = state.scratch) ?_ fun context middle happ => ?_
  · refine .zoom
      ((causalGqaAttention_ends N alloc execution.layer input _ _ h).mono (fun _ cache' happ => ?_)
        fun _ _ he => ?_)
    · rw [hsingle] at happ
      exact ⟨⟨input.keys, input.values, happ⟩, rfl⟩
    · exact Or.inl he
  refine .lift_bind (fun _ _ => Or.inr happ.1) fun delta _ => ?_
  have hadded : Command.Ends (fun _ state' => Advanced execution.layer state.cache state'.cache ∧
      state'.scratch = state.scratch)
        (fun _ state' => Attempted execution.layer state.cache state'.cache)
      (addResidual N delta middle) := by
    refine (addResidual_ends N delta middle).mono (fun _ state' hsame => ?_)
      fun _ state' hsame => ?_
    · rw [hsame.1, hsame.2]
      exact happ
    · rw [hsame]
      exact Or.inr happ.1
  refine .bind hadded fun _ last happ' => ?_
  rw [Command.bind_of_ok (Command.read_run last)]
  refine .lift_bind (fun _ _ => Or.inr happ'.1) fun normalized _ =>
    .answered normalized _ ⟨happ'.1, ?_⟩
  show { last.scratch with ffnNormalized := normalized } = _
  rw [happ'.2]

theorem feedForward_ends (N : Numerics) (mode : ReferenceExecutionMode) (normalized : List F32)
    (weights : Hy3FeedForwardWeights) (state : BlockState) :
    Command.Ends
      (fun _ state' => state'.cache = state.cache ∧
        state'.scratch.streamingMoePending = state.scratch.streamingMoePending)
      (fun _ state' => state'.cache = state.cache)
      (feedForward N mode normalized weights state) := by
  cases weights with
  | dense expert =>
      rw [feedForward, Command.bind_of_ok (Command.read_run state)]
      exact .lift (fun _ _ => ⟨rfl, rfl⟩) fun _ _ => rfl
  | moe moe =>
      rw [feedForward, Command.bind_of_ok (Command.read_run state)]
      refine .lift_bind (fun _ _ => rfl) fun routed _ => ?_
      rw [Command.bind_of_ok (Command.update_run _ state)]
      exact .lift (fun _ _ => ⟨rfl, rfl⟩) fun _ _ => rfl

/-- A block that answers has appended one token to its layer. -/
theorem hy3BlockForwardToken_ends (N : Numerics) (alloc : Allocator) (execution : Hy3BlockExecution)
    (block : Hy3BlockWeights) {state : BlockState} (h : state.cache.WellFormed) :
    Command.Ends (fun _ state' => Advanced execution.layer state.cache state'.cache ∧
        state'.scratch.streamingMoePending = false)
      (fun _ state' => Attempted execution.layer state.cache state'.cache)
      (hy3BlockForwardToken N alloc execution block state) := by
  unfold hy3BlockForwardToken
  rw [Command.bind_of_ok (Command.read_run state)]
  refine .lift_bind (fun _ _ => Or.inl rfl) fun _ _ => ?_
  rw [Command.bind_of_ok (Command.update_run _ state)]
  have hreset : (state.setScratch state.scratch.reset).cache.WellFormed := h
  refine .bind (attendToken_ends N alloc execution block.attention block.ffnNorm hreset)
    fun normalized middle happ => ?_
  have hfed : Command.Ends (fun _ state' => Advanced execution.layer state.cache state'.cache ∧
      state'.scratch.streamingMoePending = false)
      (fun _ state' => Attempted execution.layer state.cache state'.cache)
      (feedForward N execution.mode normalized block.feedForward middle) := by
    refine (feedForward_ends N execution.mode normalized block.feedForward middle).mono
      (fun _ state' hsame => ?_)
      fun _ state' hsame => ?_
    · rw [hsame.1, hsame.2, happ.2]
      exact ⟨happ.1, rfl⟩
    · rw [hsame]
      exact Or.inr happ.1
  refine .bind hfed fun delta last happ' => ?_
  refine (addResidual_ends N delta last).mono (fun _ state' hsame => ?_) fun _ state' hsame => ?_
  · rw [hsame.1, hsame.2]
    exact happ'
  · rw [hsame]
    exact Or.inr happ'.1

theorem routeToken_routing {N : Numerics} {mode : ReferenceExecutionMode}
    {scratch : Hy3BlockScratch} {router : PackedMatrix} {selectionBias : List F32}
    {expertUsedCount : Nat} {weightScale : F32} {normalized : List F32} {routed : List RoutedExpert}
    (h : routeToken N mode scratch router selectionBias expertUsedCount weightScale normalized =
      .ok routed) :
    Routing scratch.buffers.routerLogits expertUsedCount (routed.map RoutedExpert.expertId) ∧
      0 < expertUsedCount ∧ scratch.routed.length = expertUsedCount := by
  obtain ⟨logits, hlogits, hroute⟩ := except_bind_ok_iff.mp h
  rw [← gemv_length hlogits]
  have hchosen := wrap_eq_ok.mp hroute
  exact ⟨routeExperts_routing hchosen, routeExperts_counts hchosen⟩

/-- A block that has been routed has appended its token and chosen its experts. -/
theorem hy3MoeRouteToken_ends (N : Numerics) (alloc : Allocator) (execution : Hy3BlockExecution)
    (block : Hy3StreamingMoeWeights) {state : BlockState} (h : state.cache.WellFormed) :
    Command.Ends (fun _ state' => Advanced execution.layer state.cache state'.cache ∧
        Routing block.expertCount block.expertUsedCount
          (state'.scratch.selectedRoutes.map RoutedExpert.expertId) ∧
        0 < block.expertUsedCount)
      (fun _ state' => Attempted execution.layer state.cache state'.cache)
      (hy3MoeRouteToken N alloc execution block state) := by
  unfold hy3MoeRouteToken
  rw [Command.bind_of_ok (Command.read_run state)]
  refine .lift_bind (fun _ _ => Or.inl rfl) fun _ hvalid => .lift_bind (fun _ _ => Or.inl rfl)
    fun _ _ => ?_
  rw [Command.bind_of_ok (Command.update_run _ state)]
  have hcount : block.expertCount = state.scratch.buffers.routerLogits := by
    unfold validateStreamingRuntime at hvalid
    simp only [except_bind_ok_iff] at hvalid
    obtain ⟨_, -, _, -, _, hcount, -⟩ := hvalid
    exact ensure_eq_ok.mp hcount
  have hcleared : (state.setScratch { state.scratch with routedLen := 0 }).cache.WellFormed := h
  refine .bind (attendToken_ends N alloc execution block.attention block.ffnNorm hcleared)
    fun normalized middle happ => ?_
  rw [Command.bind_of_ok (Command.read_run middle)]
  refine .lift_bind (fun _ _ => Or.inr happ.1) fun routed hrouted => .answered () _ ⟨happ.1, ?_⟩
  obtain ⟨hrouting, hpositive, -⟩ := routeToken_routing hrouted
  have hall : routed.take block.expertUsedCount = routed := by
    rw [← hrouting.count, List.length_map, List.take_length]
  show Routing _ _ ((routed.take block.expertUsedCount).map RoutedExpert.expertId) ∧ _
  rw [hall, hcount]
  rw [happ.2] at hrouting
  exact ⟨hrouting, hpositive⟩

/-- The end of a streamed block leaves the cache alone and clears the phase. -/
theorem hy3MoeFinishToken_ends (N : Numerics) (mode : ReferenceExecutionMode)
    (selected : List SelectedExpert) (shared : SwiGluExpert) (state : BlockState) :
    Command.Ends
      (fun _ state' => state'.cache = state.cache ∧ state'.scratch.streamingMoePending = false)
      (fun _ state' => state'.cache = state.cache)
      (hy3MoeFinishToken N mode selected shared state) := by
  unfold hy3MoeFinishToken
  rw [Command.bind_of_ok (Command.read_run state)]
  refine .lift_bind (fun _ _ => rfl) fun _ _ => .lift_bind (fun _ _ => rfl) fun _ _ => ?_
  refine .lift_bind (fun _ _ => rfl) fun _ _ => .lift_bind (fun _ _ => rfl) fun delta _ => ?_
  refine .bind (addResidual_ends N delta state) fun _ middle hsame => ?_
  exact .answered () _ ⟨hsame.1, rfl⟩

/-! ### The sizes of the buffers -/

def Hy3BlockScratch.shape (scratch : Hy3BlockScratch) : Hy3BlockBuffers × Nat × Nat :=
  (scratch.buffers, scratch.ffnNormalized.length, scratch.routed.length)

def BlockState.shape (state : BlockState) : Nat × Hy3BlockBuffers × Nat × Nat :=
  (state.hidden.length, state.scratch.shape)

/-- A call changes the size of no buffer, whether it answers or fails. -/
def BlockState.Reshapes (state : BlockState) {α : Type} :
    Except KernelError α × BlockState → Prop :=
  Command.Ends (fun _ state' => state'.shape = state.shape)
    (fun _ state' => state'.shape = state.shape)

theorem addResidual_shape (N : Numerics) (delta : List F32) (state : BlockState) :
    state.Reshapes (addResidual N delta state) := by
  unfold addResidual
  rw [Command.bind_of_ok (Command.read_run state)]
  refine .lift_bind (fun _ _ => rfl) fun hidden hadded => .answered () _ ?_
  show (hidden.length, state.scratch.shape) = state.shape
  rw [residualAdd_length hadded]
  rfl

theorem attendToken_shape (N : Numerics) (alloc : Allocator) (execution : Hy3BlockExecution)
    (attention : Hy3AttentionWeights) (ffnNorm : List F32) (state : BlockState) :
    state.Reshapes (attendToken N alloc execution attention ffnNorm state) := by
  unfold attendToken
  rw [Command.bind_of_ok (Command.read_run state)]
  refine .lift_bind (fun _ _ => rfl) fun input _ => ?_
  refine .bind (Q := fun _ state' => state'.shape = state.shape) ?_ fun context middle hmiddle => ?_
  · unfold Command.zoom
    rcases causalGqaAttention N alloc execution.layer input _ _ state.cache with ⟨r, cache⟩
    cases r with
    | ok context => exact .answered context _ rfl
    | error e => exact .failed e _ rfl
  refine .lift_bind (fun _ _ => hmiddle) fun delta _ => ?_
  have hadded := addResidual_shape N delta middle
  unfold BlockState.Reshapes at hadded
  rw [hmiddle] at hadded
  refine hadded.bind fun _ last hlast => ?_
  rw [Command.bind_of_ok (Command.read_run last)]
  refine .lift_bind (fun _ _ => hlast) fun normalized hnormalized => .answered normalized _ ?_
  rw [← hlast]
  show (last.hidden.length, last.scratch.buffers, normalized.length, last.scratch.routed.length) =
    last.shape
  rw [weightedRmsNorm_length hnormalized]
  rfl

theorem routeToken_length {N : Numerics} {mode : ReferenceExecutionMode} {scratch : Hy3BlockScratch}
    {router : PackedMatrix} {selectionBias : List F32} {expertUsedCount : Nat} {weightScale : F32}
    {normalized : List F32} {routed : List RoutedExpert}
    (h : routeToken N mode scratch router selectionBias expertUsedCount weightScale normalized =
      .ok routed) :
    routed.length = scratch.routed.length := by
  obtain ⟨hrouting, -, hlength⟩ := routeToken_routing h
  rw [hlength, ← hrouting.count, List.length_map]

theorem feedForward_shape (N : Numerics) (mode : ReferenceExecutionMode) (normalized : List F32)
    (weights : Hy3FeedForwardWeights) (state : BlockState) :
    state.Reshapes (feedForward N mode normalized weights state) := by
  cases weights with
  | dense expert =>
      rw [feedForward, Command.bind_of_ok (Command.read_run state)]
      exact .lift (fun _ _ => rfl) fun _ _ => rfl
  | moe moe =>
      rw [feedForward, Command.bind_of_ok (Command.read_run state)]
      refine .lift_bind (fun _ _ => rfl) fun routed hrouted => ?_
      rw [Command.bind_of_ok (Command.update_run _ state)]
      have hsame : (state.setScratch
          { state.scratch with routed, routedLen := moe.expertUsedCount }).shape = state.shape := by
        show (state.hidden.length, state.scratch.buffers, state.scratch.ffnNormalized.length,
          routed.length) = _
        rw [routeToken_length hrouted]
        rfl
      exact .lift (fun _ _ => hsame) fun _ _ => hsame

theorem hy3BlockForwardToken_shape (N : Numerics) (alloc : Allocator)
    (execution : Hy3BlockExecution) (block : Hy3BlockWeights) (state : BlockState) :
    state.Reshapes (hy3BlockForwardToken N alloc execution block state) := by
  unfold hy3BlockForwardToken
  rw [Command.bind_of_ok (Command.read_run state)]
  refine .lift_bind (fun _ _ => rfl) fun _ _ => ?_
  rw [Command.bind_of_ok (Command.update_run _ state)]
  refine .bind (attendToken_shape N alloc execution block.attention block.ffnNorm
    (state.setScratch state.scratch.reset)) fun normalized middle hmiddle => ?_
  have hfed := feedForward_shape N execution.mode normalized block.feedForward middle
  unfold BlockState.Reshapes at hfed
  rw [hmiddle] at hfed
  refine hfed.bind fun delta last hlast => ?_
  have hadded := addResidual_shape N delta last
  unfold BlockState.Reshapes at hadded
  rwa [hlast] at hadded

theorem hy3MoeRouteToken_shape (N : Numerics) (alloc : Allocator) (execution : Hy3BlockExecution)
    (block : Hy3StreamingMoeWeights) (state : BlockState) :
    state.Reshapes (hy3MoeRouteToken N alloc execution block state) := by
  unfold hy3MoeRouteToken
  rw [Command.bind_of_ok (Command.read_run state)]
  refine .lift_bind (fun _ _ => rfl) fun _ _ => .lift_bind (fun _ _ => rfl) fun _ _ => ?_
  rw [Command.bind_of_ok (Command.update_run _ state)]
  refine .bind (attendToken_shape N alloc execution block.attention block.ffnNorm
    (state.setScratch { state.scratch with routedLen := 0 })) fun normalized middle hmiddle => ?_
  rw [Command.bind_of_ok (Command.read_run middle)]
  refine .lift_bind (fun _ _ => hmiddle) fun routed hrouted => .answered () _ ?_
  refine Eq.trans ?_ hmiddle
  show (middle.hidden.length, middle.scratch.buffers, middle.scratch.ffnNormalized.length,
    routed.length) = _
  rw [routeToken_length hrouted]
  rfl

theorem hy3MoeFinishToken_shape (N : Numerics) (mode : ReferenceExecutionMode)
    (selected : List SelectedExpert) (shared : SwiGluExpert) (state : BlockState) :
    state.Reshapes (hy3MoeFinishToken N mode selected shared state) := by
  unfold hy3MoeFinishToken
  rw [Command.bind_of_ok (Command.read_run state)]
  refine .lift_bind (fun _ _ => rfl) fun _ _ => .lift_bind (fun _ _ => rfl) fun _ _ => ?_
  refine .lift_bind (fun _ _ => rfl) fun _ _ => .lift_bind (fun _ _ => rfl) fun delta _ => ?_
  exact .bind (addResidual_shape N delta state) fun _ middle hmiddle => .answered () _ hmiddle

/-! ### Blocks with the same tokens and buffers -/

/-- Scratch that a new phase cannot tell apart. -/
structure Hy3BlockScratch.Similar (s t : Hy3BlockScratch) : Prop where
  buffers : t.buffers = s.buffers
  ffnNormalized : t.ffnNormalized.length = s.ffnNormalized.length
  routed : t.routed.length = s.routed.length
  pending : t.streamingMoePending = s.streamingMoePending

theorem Hy3BlockScratch.Similar.refl (s : Hy3BlockScratch) : Similar s s := ⟨rfl, rfl, rfl, rfl⟩

structure BlockState.Similar (s t : BlockState) : Prop where
  cache : s.cache.Alike t.cache
  hidden : t.hidden = s.hidden
  scratch : s.scratch.Similar t.scratch

theorem addResidual_paired (N : Numerics) (delta : List F32) {s t : BlockState}
    (cache : s.cache.Alike t.cache) (hidden : t.hidden = s.hidden) :
    Command.Paired
      (fun _ s' t' => s'.cache.Alike t'.cache ∧
        t'.hidden = s'.hidden ∧
        s'.scratch = s.scratch ∧
        t'.scratch = t.scratch) (fun _ _ => True) (addResidual N delta s)
      (addResidual N delta t) := by
  unfold addResidual
  rw [Command.bind_of_ok (Command.read_run s), Command.bind_of_ok (Command.read_run t), hidden]
  exact .lift_bind rfl trivial fun value _ => .answered () _ _ ⟨cache, rfl, rfl, rfl⟩

theorem attendToken_paired (N : Numerics) (execution : Hy3BlockExecution)
    (attention : Hy3AttentionWeights) (ffnNorm : List F32) {s t : BlockState} (h : s.Similar t) :
    Command.Paired (fun normalized s' t' => s'.Similar t' ∧
      s'.scratch = { s.scratch with ffnNormalized := normalized } ∧
      t'.scratch = { t.scratch with ffnNormalized := normalized }) (fun _ _ => True)
      (attendToken N (fun _ => true) execution attention ffnNorm s)
      (attendToken N (fun _ => true) execution attention ffnNorm t) := by
  unfold attendToken
  rw [Command.bind_of_ok (Command.read_run s), Command.bind_of_ok (Command.read_run t), h.hidden,
    h.scratch.buffers]
  refine .lift_bind rfl trivial fun input hinput => ?_
  have hsingle : input.tokenCount = 1 := by
    unfold projectToken at hinput
    simp only [except_bind_ok_iff] at hinput
    obtain ⟨_, -, _, -, _, -, _, -, _, -, _, -, _, -, _, -, heq⟩ := hinput
    cases heq
    rfl
  refine .bind (Q := fun _ s' t' => s'.cache.Alike t'.cache ∧ t'.hidden = s'.hidden ∧
    s'.scratch = s.scratch ∧
      t'.scratch = t.scratch) ?_ fun context s₁ t₁ hfirst => ?_
  · refine .zoom ((causalGqaAttention_paired N execution.layer hsingle _ _ h.cache).mono
      (fun _ cache cache' halike => ?_) fun _ _ _ => trivial)
    exact ⟨halike, h.hidden, rfl, rfl⟩
  obtain ⟨hcache₁, hhidden₁, hs₁, ht₁⟩ := hfirst
  refine .lift_bind rfl trivial fun delta _ => ?_
  refine .bind (addResidual_paired N delta hcache₁ hhidden₁) fun _ s₂ t₂ hsecond => ?_
  obtain ⟨hcache₂, hhidden₂, hs₂, ht₂⟩ := hsecond
  rw [hs₁] at hs₂
  rw [ht₁] at ht₂
  rw [Command.bind_of_ok (Command.read_run s₂), Command.bind_of_ok (Command.read_run t₂),
    hhidden₂, hs₂, ht₂, h.scratch.ffnNormalized]
  refine .lift_bind rfl trivial fun normalized _ =>
    .answered normalized _ _ ⟨⟨hcache₂, hhidden₂, ?_⟩, ?_, ?_⟩
  · refine ⟨?_, rfl, ?_, ?_⟩
    · show t₂.scratch.buffers = s₂.scratch.buffers
      rw [hs₂, ht₂, h.scratch.buffers]
    · show t₂.scratch.routed.length = s₂.scratch.routed.length
      rw [hs₂, ht₂, h.scratch.routed]
    · show t₂.scratch.streamingMoePending = s₂.scratch.streamingMoePending
      rw [hs₂, ht₂, h.scratch.pending]
  · show { s₂.scratch with ffnNormalized := normalized } = _
    rw [hs₂]
  · show { t₂.scratch with ffnNormalized := normalized } = _
    rw [ht₂]

theorem routeToken_similar {s t : Hy3BlockScratch} (h : s.Similar t) (N : Numerics)
    (mode : ReferenceExecutionMode) (router : PackedMatrix) (selectionBias : List F32)
    (expertUsedCount : Nat) (weightScale : F32) (normalized : List F32) :
    routeToken N mode t router selectionBias expertUsedCount weightScale normalized =
      routeToken N mode s router selectionBias expertUsedCount weightScale normalized := by
  rw [routeToken, routeToken, h.buffers, h.routed]

theorem feedForward_paired (N : Numerics) (mode : ReferenceExecutionMode) (normalized : List F32)
    (weights : Hy3FeedForwardWeights) {s t : BlockState} (h : s.Similar t) :
    Command.Paired (fun _ => BlockState.Similar) (fun _ _ => True)
      (feedForward N mode normalized weights s) (feedForward N mode normalized weights t) := by
  have hswiglu : t.scratch.swiglu = s.scratch.swiglu := by
    rw [Hy3BlockScratch.swiglu, Hy3BlockScratch.swiglu, h.scratch.buffers]
  cases weights with
  | dense expert =>
      rw [feedForward, Command.bind_of_ok (Command.read_run s),
        Command.bind_of_ok (Command.read_run t), hswiglu, h.scratch.buffers]
      exact .lift rfl trivial fun _ _ => h
  | moe moe =>
      rw [feedForward, Command.bind_of_ok (Command.read_run s),
        Command.bind_of_ok (Command.read_run t), hswiglu, h.scratch.buffers,
        routeToken_similar h.scratch]
      refine .lift_bind rfl trivial fun routed _ => ?_
      rw [Command.bind_of_ok (Command.update_run _ s), Command.bind_of_ok (Command.update_run _ t)]
      refine .lift rfl trivial fun _ _ => ⟨h.cache, h.hidden, ?_⟩
      exact ⟨h.scratch.buffers, h.scratch.ffnNormalized, rfl, h.scratch.pending⟩

theorem hy3BlockForwardToken_paired (N : Numerics) (execution : Hy3BlockExecution)
    (block : Hy3BlockWeights) {s t : BlockState} (h : s.Similar t) :
    Command.Paired (fun _ => BlockState.Similar) (fun _ _ => True)
      (hy3BlockForwardToken N (fun _ => true) execution block s)
      (hy3BlockForwardToken N (fun _ => true) execution block t) := by
  unfold hy3BlockForwardToken
  rw [Command.bind_of_ok (Command.read_run s), Command.bind_of_ok (Command.read_run t)]
  refine .lift_bind ?_ trivial fun _ _ => ?_
  · simp only [validateRuntime, validateCall, h.cache.config, h.cache.storedTokens, h.hidden,
      h.scratch.buffers]
  rw [Command.bind_of_ok (Command.update_run _ s), Command.bind_of_ok (Command.update_run _ t)]
  have hreset : (s.setScratch s.scratch.reset).Similar (t.setScratch t.scratch.reset) :=
    ⟨h.cache, h.hidden, h.scratch.buffers, h.scratch.ffnNormalized, h.scratch.routed, rfl⟩
  refine .bind (attendToken_paired N execution block.attention block.ffnNorm hreset)
    fun normalized s₁ t₁ hfirst => ?_
  refine .bind (feedForward_paired N execution.mode normalized block.feedForward hfirst.1)
    fun delta s₂ t₂ hsecond => ?_
  refine (addResidual_paired N delta hsecond.cache hsecond.hidden).mono (fun _ s' t' hlast => ?_)
    fun _ _ _ => trivial
  obtain ⟨hcache, hhidden, hs, ht⟩ := hlast
  exact ⟨hcache, hhidden, by rw [hs, ht]; exact hsecond.scratch⟩

/-- After routing, the two scratches agree on everything the end of the block reads. -/
theorem hy3MoeRouteToken_paired (N : Numerics) (execution : Hy3BlockExecution)
    (block : Hy3StreamingMoeWeights) {s t : BlockState} (h : s.Similar t) :
    Command.Paired (fun _ s' t' => s'.cache.Alike t'.cache ∧ t'.hidden = s'.hidden ∧
      t'.scratch = s'.scratch)
      (fun _ _ => True) (hy3MoeRouteToken N (fun _ => true) execution block s)
      (hy3MoeRouteToken N (fun _ => true) execution block t) := by
  unfold hy3MoeRouteToken
  rw [Command.bind_of_ok (Command.read_run s), Command.bind_of_ok (Command.read_run t)]
  refine .lift_bind ?_ trivial fun _ _ => .lift_bind (by rw [h.scratch.pending]) trivial
    fun _ _ => ?_
  · simp only [validateStreamingRuntime, validateCall, h.cache.config,
      h.cache.storedTokens, h.hidden, h.scratch.buffers, h.scratch.routed]
  rw [Command.bind_of_ok (Command.update_run _ s), Command.bind_of_ok (Command.update_run _ t)]
  have hcleared : (s.setScratch { s.scratch with routedLen := 0 }).Similar
      (t.setScratch { t.scratch with routedLen := 0 }) :=
    ⟨h.cache, h.hidden, h.scratch.buffers, h.scratch.ffnNormalized, h.scratch.routed,
      h.scratch.pending⟩
  refine .bind (attendToken_paired N execution block.attention block.ffnNorm hcleared)
    fun normalized s₁ t₁ hfirst => ?_
  obtain ⟨hsimilar, hs, ht⟩ := hfirst
  rw [Command.bind_of_ok (Command.read_run s₁), Command.bind_of_ok (Command.read_run t₁),
    routeToken_similar hsimilar.scratch]
  refine .lift_bind rfl trivial fun routed _ =>
    .answered () _ _ ⟨hsimilar.cache, hsimilar.hidden, ?_⟩
  show { t₁.scratch with routed, routedLen := block.expertUsedCount, streamingMoePending := true } =
    { s₁.scratch with routed, routedLen := block.expertUsedCount, streamingMoePending := true }
  rw [hs, ht]
  simp only [BlockState.setScratch, h.scratch.buffers]

theorem hy3MoeFinishToken_paired (N : Numerics) (mode : ReferenceExecutionMode)
    (selected : List SelectedExpert) (shared : SwiGluExpert) {s t : BlockState}
    (cache : s.cache.Alike t.cache) (hidden : t.hidden = s.hidden)
    (scratch : t.scratch = s.scratch) :
    Command.Paired (fun _ => BlockState.Similar) (fun _ _ => True)
      (hy3MoeFinishToken N mode selected shared s)
      (hy3MoeFinishToken N mode selected shared t) := by
  unfold hy3MoeFinishToken
  rw [Command.bind_of_ok (Command.read_run s), Command.bind_of_ok (Command.read_run t), scratch]
  refine .lift_bind rfl trivial fun _ _ => .lift_bind rfl trivial fun _ _ => ?_
  refine .lift_bind rfl trivial fun _ _ => .lift_bind rfl trivial fun delta _ => ?_
  refine .bind (addResidual_paired N delta cache hidden) fun _ s₁ t₁ hadded => ?_
  obtain ⟨hcache, hhidden, hs, ht⟩ := hadded
  have hsame : t₁.scratch = s₁.scratch := by rw [hs, ht, scratch]
  refine .answered () _ _ ⟨hcache, hhidden, ?_⟩
  show Hy3BlockScratch.Similar { s₁.scratch with streamingMoePending := false }
    { t₁.scratch with streamingMoePending := false }
  rw [hsame]
  exact .refl _

end LightBridge.Kernels
