import LightBridge.Kernels.Gemv
import LightBridge.Kv.Alike

/-! Causal grouped-query attention over the committed rows and the rows of the call, which
are appended once every output has been computed. -/
namespace LightBridge.Kernels
open Foundation Kv

structure AttentionInput where
  tokenCount : Nat
  queryHeadCount : Nat
  queries : List F32
  keys : List F32
  values : List F32
  deriving DecidableEq, Repr

/-- The lengths of the buffers of `AttentionScratch`. -/
structure AttentionScratch where
  scores : Nat
  output : Nat
  deriving DecidableEq, Repr

/-- `checked_product` of `attention.rs`. -/
def checkedVolume (left middle right : Nat) (operation : String) : Except KernelError Nat :=
  okOr ((checkedMul left middle).bind (checkedMul · right)) (.arithmeticOverflow operation)

/-- The lengths that `validate_call` requires of its slices. -/
def validateAttentionLengths (config : KvConfig) (input : AttentionInput) (outputLength : Nat) :
    Except KernelError Nat := do
  let queries ← checkedVolume input.tokenCount input.queryHeadCount config.keyDimension
    "attention query length"
  let keys ← checkedVolume input.tokenCount config.kvHeadCount config.keyDimension
    "attention key length"
  let values ← checkedVolume input.tokenCount config.kvHeadCount config.valueDimension
    "attention value length"
  let output ← checkedVolume input.tokenCount input.queryHeadCount config.valueDimension
    "attention output length"
  requireEqual "attention queries" queries input.queries.length
  requireEqual "attention keys" keys input.keys.length
  requireEqual "attention values" values input.values.length
  requireEqual "attention output" output outputLength
  pure output

/-- `validate_call`, with the tokens stored in the layer. -/
def validateAttention (config : KvConfig) (layer : Nat) (input : AttentionInput)
    (outputLength : Nat)
    (scratch : AttentionScratch) (stored : Except KvError Nat) : Except KernelError Nat := do
  let baseToken ← wrap .kv stored
  ensure (input.tokenCount ≠ 0)
    (.invalidParameter "attention token_count" "must be greater than zero")
  ensure (input.queryHeadCount ≠ 0 ∧ input.queryHeadCount % config.kvHeadCount = 0)
    (.invalidParameter "attention query heads" "must be a positive multiple of KV heads")
  let expectedOutput ← validateAttentionLengths config input outputLength
  validateFiniteSlice "attention queries" input.queries
  validateFiniteSlice "attention keys" input.keys
  validateFiniteSlice "attention values" input.values
  let totalTokens ← okOr (checkedAdd baseToken input.tokenCount)
    (.arithmeticOverflow "attention total token count")
  ensure (totalTokens ≤ config.tokenCapacity)
    (.kv (.capacityExhausted layer baseToken input.tokenCount config.tokenCapacity))
  ensure (totalTokens ≤ scratch.scores)
    (.scratchTooSmall "attention scores" totalTokens scratch.scores)
  ensure (expectedOutput ≤ scratch.output)
    (.scratchTooSmall "attention output" expectedOutput scratch.output)
  pure baseToken

/-- `f32::NEG_INFINITY`. -/
def negInfinity : F32 := .fromBits 0xff800000

/-- How a committed row of the layer is read. -/
abbrev RowReader : Type := Lane → Nat → Nat → Except KvError (List F32)

/-- `source_key` and `source_value`: a committed row, or a row of the call. -/
def sourceLane (config : KvConfig) (read : RowReader) (input : AttentionInput) (baseToken : Nat)
    (side : Lane)
    (sourceToken kvHead : Nat) : Except KernelError (List F32) :=
  if sourceToken < baseToken then wrap .kv (read side sourceToken kvHead)
  else .ok (PagedKvCache.sourceRow config baseToken input.keys input.values side sourceToken kvHead)

def attentionScore (N : Numerics) (config : KvConfig) (read : RowReader) (input : AttentionInput)
    (baseToken kvHead : Nat)
    (query : List F32) (sourceToken : Nat) : Except KernelError F32 := do
  let key ← sourceLane config read input baseToken .key sourceToken kvHead
  let score := N.mul (dotLanes N .zero query key) (N.div one (N.sqrt (N.ofNat config.keyDimension)))
  validateFiniteValue "attention score" sourceToken score
  pure score

/-- One lane of one head's output, from the exponentials of its scores. -/
def attendLane (N : Numerics) (config : KvConfig) (read : RowReader) (input : AttentionInput)
    (baseToken kvHead : Nat)
    (exponentials : List F32) (denominator : F32) (destination lane : Nat) :
    Except KernelError F32 := do
  let attended ← exponentials.zipIdx.foldlM (fun attended (unnormalized, sourceToken) => do
    let value ← sourceLane config read input baseToken .value sourceToken kvHead
    pure (N.add attended (N.mul (N.div unnormalized denominator) (value.getD lane .zero)))) F32.zero
  validateFiniteValue "attention output" (destination + lane) attended
  pure attended

/-- One head of one token. -/
def attendHead (N : Numerics) (config : KvConfig) (read : RowReader) (input : AttentionInput)
    (baseToken token : Nat)
    (queryHead : Nat) : Except KernelError (List F32) := do
  let kvHead := queryHead / (input.queryHeadCount / config.kvHeadCount)
  let row := token * input.queryHeadCount + queryHead
  let query := slice input.queries (row * config.keyDimension) config.keyDimension
  let scores ← (List.range (baseToken + token + 1)).mapM
    (attentionScore N config read input baseToken kvHead query)
  let maximum := scores.foldl N.max negInfinity
  let exponentials := scores.map fun score => N.exp (N.sub score maximum)
  let denominator := exponentials.foldl N.add .zero
  validateFiniteValue "attention softmax denominator" 0 denominator
  (List.range config.valueDimension).mapM
    (attendLane N config read input baseToken kvHead exponentials denominator
      (row * config.valueDimension))

/-- The whole output of the call, by token and head. -/
def attend (N : Numerics) (config : KvConfig) (read : RowReader) (input : AttentionInput)
    (baseToken : Nat) :
    Except KernelError (List F32) := do
  let tokens ← (List.range input.tokenCount).mapM fun token => do
    let heads ← (List.range input.queryHeadCount).mapM
      (attendHead N config read input baseToken token)
    pure heads.flatten
  pure tokens.flatten

/-- `causal_gqa_attention_into`, answering what it copies into its output of `outputLength` values.
-/
def causalGqaAttention (N : Numerics) (alloc : Allocator) (layer : Nat) (input : AttentionInput)
    (outputLength : Nat)
    (scratch : AttentionScratch) : Command PagedKvCache KernelError (List F32) := do
  let cache ← Command.read
  let baseToken ← Command.lift
    (validateAttention cache.toKvConfig layer input outputLength scratch (cache.storedTokens layer))
  let output ← Command.lift
    (attend N cache.toKvConfig (fun side => cache.readRow side layer) input baseToken)
  (PagedKvCache.appendTokens alloc layer input.tokenCount input.keys input.values).mapError .kv
  pure output

/-- Attention appends the rows of its call or leaves the cache exactly as it was. -/
theorem causalGqaAttention_ends (N : Numerics) (alloc : Allocator) (layer : Nat)
    (input : AttentionInput) (outputLength : Nat) (scratch : AttentionScratch)
    {cache : PagedKvCache} (h : cache.WellFormed) :
    Command.Ends
      (fun _ cache' => cache.Appended cache' layer input.tokenCount input.keys input.values)
      (fun _ cache' => cache' = cache)
      (causalGqaAttention N alloc layer input outputLength scratch cache) := by
  unfold causalGqaAttention
  rw [Command.bind_of_ok (Command.read_run cache)]
  refine .lift_bind (fun _ _ => rfl) fun baseToken _ =>
    .lift_bind (fun _ _ => rfl) fun output _ => ?_
  refine .bind (Q := fun _ cache' =>
    cache.Appended cache' layer input.tokenCount input.keys input.values) ?_
    fun _ cache' happ => .answered output cache' happ
  refine .mapError ?_
  rcases h.appendTokens alloc layer input.tokenCount input.keys input.values with ⟨c', hrun, happ⟩
    | ⟨e, hrun, -, -⟩
  · rw [hrun]
    exact .answered () c' happ
  · rw [hrun]
    exact .failed e cache rfl

/-- The attention of one token cannot tell two caches with the same tokens apart. -/
theorem causalGqaAttention_paired (N : Numerics) (layer : Nat) {input : AttentionInput}
    (single : input.tokenCount = 1) (outputLength : Nat) (scratch : AttentionScratch)
    {cache cache' : PagedKvCache} (h : cache.Alike cache') :
    Command.Paired (fun _ => PagedKvCache.Alike) PagedKvCache.Alike
      (causalGqaAttention N (fun _ => true) layer input outputLength scratch cache)
      (causalGqaAttention N (fun _ => true) layer input outputLength scratch cache') := by
  unfold causalGqaAttention
  rw [Command.bind_of_ok (Command.read_run cache), Command.bind_of_ok (Command.read_run cache'),
    h.config, h.storedTokens]
  have hread : (fun side => cache'.readRow side layer) = fun side => cache.readRow side layer := by
    funext side token head
    exact h.readRow side layer token head
  rw [hread]
  refine .lift_bind rfl h fun baseToken _ => .lift_bind rfl h fun output _ => ?_
  refine .bind (Q := fun _ => PagedKvCache.Alike) ?_ fun _ c d hcd => .answered output c d hcd
  refine .mapError ?_
  rw [single]
  exact h.appendToken layer input.keys input.values

end LightBridge.Kernels
