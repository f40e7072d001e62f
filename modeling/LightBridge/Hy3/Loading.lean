import LightBridge.Hy3.Profile
import LightBridge.Hy3.Session

/-! `load_validated`: the tensors of a validated model are read into a `Hy3ScalarModel`, behind a
check of the memory it will take. -/
namespace LightBridge.Hy3
open Foundation Kernels ExpertCache Io

/-- What the host answers while a model is loaded: the physical memory that is available, the
answers of parts that are loaded elsewhere, the files and the allocator. -/
structure LoadingHost (ε : Type) where
  available : Nat
  cpuBackend : Except (Hy3ScalarError ε) Unit
  fingerprint : Except (Hy3ScalarError ε) Bytes32
  expertSource : Except (Hy3ScalarError ε) Unit
  rope : Except KernelError Hy3RopeParams
  opening : Nat → Option ReadError
  fault : Nat → Nat → Nat → Option ReadError
  readGranted : Nat → Nat → Bool
  granted : String → Bool

/-! ### The layout of an expert -/

namespace ValidatedModel
variable {ε : Type}

def requiredTensor (model : ValidatedModel) (role : Hy3TensorRole) :
    Except (Hy3ScalarError ε) Hy3Tensor :=
  okOr (model.tensorForRole role) (.missingTensorRole role)

/-- `checked_expert_slab`: the range of an expert in the payload. -/
def checkedExpertSlab (name : String) (shape : List Nat) (payloadBytes expertCount expert : Nat) :
    Except Hy3Error (Nat × Nat) := do
  ensure (shape.length = 3) (.tensorRank name 3 shape.length)
  ensure (shape.getD 2 0 = expertCount) (.expertDimension name expertCount (shape.getD 2 0))
  ensure (expert < expertCount) (.expertIndexOutOfRange name expert expertCount)
  ensure (expertCount ≠ 0 ∧ payloadBytes % expertCount = 0)
    (.expertPayloadNotDivisible name payloadBytes expertCount)
  let slabBytes := payloadBytes / expertCount
  let start ← okOr (checkedMul expert slabBytes) (.arithmetic name "expert index times slab bytes")
  let stop ← okOr (checkedAdd start slabBytes) (.arithmetic name "expert slab end")
  ensure (stop ≤ payloadBytes) (.arithmetic name "expert slab within payload")
  pure (start, stop)

def matrixLayout (tensor : Hy3Tensor) (expertCount : Nat) :
    Except (Hy3ScalarError ε) MatrixLayout := do
  let descriptor := tensor.location.descriptor
  ensure (descriptor.shape.length = 3) (.tensorRank tensor.role 3 descriptor.shape.length)
  let (start, stop) ← wrap .model
    (checkedExpertSlab descriptor.name descriptor.shape tensor.byteLength expertCount 0)
  pure { ty := descriptor.ty, inputWidth := descriptor.shape.getD 0 0,
         outputWidth := descriptor.shape.getD 1 0
         bytes := stop - start }

/-- `ExpertPayloadLayout::from_model`. -/
def expertLayout (model : ValidatedModel) (layer : Nat) :
    Except (Hy3ScalarError ε) ExpertPayloadLayout := do
  let gate ← model.requiredTensor (.routedGate layer)
  let gate ← matrixLayout gate model.config.expertCount
  let up ← model.requiredTensor (.routedUp layer)
  let up ← matrixLayout up model.config.expertCount
  let down ← model.requiredTensor (.routedDown layer)
  let down ← matrixLayout down model.config.expertCount
  pure { gate, up, down }

/-- What `validate_options` reads of the model. -/
def toValidated (ε : Type) (model : ValidatedModel) : ValidatedHy3Model ε where
  config := model.config.toHy3Config
  expertLayout := model.expertLayout
  topK := model.topK

end ValidatedModel

/-! ### The memory budget -/

structure Hy3MemoryBudget where
  residentWeightBytes : Nat
  expertCacheBytes : Nat
  firstKvPageBytes : Nat
  headroomBytes : Nat
  requiredAvailableBytes : Nat
  deriving DecidableEq, Repr

namespace Hy3MemoryBudget
variable {ε : Type}

/-- `try_fold(0, |total, bytes| total.checked_add(bytes))`. -/
def checkedSum (total : Nat) : List Nat → Option Nat
  | [] => some total
  | bytes :: rest => (checkedAdd total bytes).bind fun total => checkedSum total rest

/-- The tensors that stay in memory. -/
def residentTensors (model : ValidatedModel) : List Hy3Tensor :=
  model.tensors.filter fun tensor => !tensor.role.isRoutedExpert

def forValidated (model : ValidatedModel) (options : Hy3ScalarOptions) (memoryHeadroomBytes : Nat) :
    Except (Hy3ScalarError ε) Hy3MemoryBudget := do
  let residentWeightBytes ← okOr (checkedSum 0 ((residentTensors model).map Hy3Tensor.byteLength))
    .arithmeticOverflow
  let pageTokens := min options.kvPageTokens options.contextCapacity
  let config := model.config
  let firstKvPageBytes ← okOr
    ((((checkedMul config.blockCount config.attentionKvHeadCount).bind
      (checkedMul · (config.keyLength + config.valueLength))).bind (checkedMul · 4)).bind
        (checkedMul · pageTokens))
    .arithmeticOverflow
  let requiredAvailableBytes ← okOr
    (((checkedAdd residentWeightBytes options.expertCacheBytes).bind
      (checkedAdd · firstKvPageBytes)).bind
      (checkedAdd · memoryHeadroomBytes)) .arithmeticOverflow
  pure { residentWeightBytes, expertCacheBytes := options.expertCacheBytes, firstKvPageBytes
         headroomBytes := memoryHeadroomBytes, requiredAvailableBytes }

def ensureAvailable (budget : Hy3MemoryBudget) (available : Nat) : Except (Hy3ScalarError ε) Unit :=
  ensure (available = 0 ∨ budget.requiredAvailableBytes ≤ available)
    (.insufficientPhysicalMemory budget.requiredAvailableBytes available budget.residentWeightBytes
      budget.expertCacheBytes budget.firstKvPageBytes budget.headroomBytes)

end Hy3MemoryBudget

/-! ### Reading tensors -/

/-- `TensorLoader`: the shards, each opened for requests of the longest resident tensor. -/
structure TensorLoader where
  readers : List PositionedFile

namespace TensorLoader
variable {ε : Type}

/-- The reader of one shard. -/
def openReader (host : LoadingHost ε) (maximum : Nat) (shard : GgufShard × Nat) :
    Except (Hy3ScalarError ε) PositionedFile :=
  match host.opening shard.2 with
  | some error => .error (.read error)
  | none =>
      .ok { content := shard.1.content, maxRequestBytes := max maximum 1,
            fault := host.fault shard.2, granted := host.readGranted shard.2 }

/-- `TensorLoader::open`. -/
def new (host : LoadingHost ε) (set : GgufSet) (model : ValidatedModel) :
    Except (Hy3ScalarError ε) TensorLoader := do
  let maximum := (((Hy3MemoryBudget.residentTensors model).map Hy3Tensor.byteLength).max?).getD 1
  ensure (host.granted "static tensor readers")
    (.allocationFailed "static tensor readers" set.files.length)
  let readers ← set.files.zipIdx.mapM (openReader host maximum)
  pure { readers }

def read (loader : TensorLoader) (tensor : Hy3Tensor) : Except (Hy3ScalarError ε) (List UInt8) := do
  let reader ← okOr loader.readers[tensor.location.shardIndex]?
    (.shardIndexOutOfRange tensor.location.shardIndex)
  wrap .read (reader.readExactAt tensor.location.start tensor.location.stop)

def matrix (loader : TensorLoader) (model : ValidatedModel) (role : Hy3TensorRole) :
    Except (Hy3ScalarError ε) OwnedMatrix := do
  let tensor ← model.requiredTensor role
  let descriptor := tensor.location.descriptor
  ensure (descriptor.shape.length = 2) (.tensorRank role 2 descriptor.shape.length)
  let bytes ← loader.read tensor
  let matrix : OwnedMatrix :=
    { ty := descriptor.ty, inputWidth := descriptor.shape.getD 0 0,
      outputWidth := descriptor.shape.getD 1 0, bytes }
  let _ ← matrix.view
  pure matrix

/-- The values of `bytes.chunks_exact(4)`, the first of them at `index`, which have to be finite. -/
def finiteValues (role : Hy3TensorRole) : Nat → List UInt8 → Except (Hy3ScalarError ε) (List F32)
  | index, first :: second :: third :: fourth :: rest => do
      let value := F32.fromBits (ofLeBytes [first, second, third, fourth])
      ensure value.isFinite (.nonFiniteF32 role index value.toBits)
      let values ← finiteValues role (index + 1) rest
      pure (value :: values)
  | _, _ => .ok []

def f32Vector (host : LoadingHost ε) (loader : TensorLoader) (model : ValidatedModel)
    (role : Hy3TensorRole) :
    Except (Hy3ScalarError ε) (List F32) := do
  let tensor ← model.requiredTensor role
  let descriptor := tensor.location.descriptor
  ensure (descriptor.shape.length = 1) (.tensorRank role 1 descriptor.shape.length)
  ensure (descriptor.ty = .f32) (.tensorType role .f32 descriptor.ty)
  let bytes ← loader.read tensor
  let expected := descriptor.shape.getD 0 0
  let expectedBytes ← okOr (checkedMul expected 4) .arithmeticOverflow
  ensure (bytes.length = expectedBytes) (.f32PayloadLength role expectedBytes bytes.length)
  ensure (tryReserve (host.granted "F32 tensor") 4 expected)
    (.allocationFailed "F32 tensor" expected)
  finiteValues role 0 bytes

end TensorLoader

/-! ### Loading -/

section Load
variable {ε : Type}

/-- The expert of three roles. -/
def loadExpert (loader : TensorLoader) (model : ValidatedModel) (gate up down : Hy3TensorRole) :
    Except (Hy3ScalarError ε) OwnedExpert := do
  let gate ← loader.matrix model gate
  let up ← loader.matrix model up
  let down ← loader.matrix model down
  pure { gate, up, down }

def loadMoe (host : LoadingHost ε) (loader : TensorLoader) (model : ValidatedModel) (layer : Nat) :
    Except (Hy3ScalarError ε) OwnedMoe := do
  let router ← loader.matrix model (.routerInput layer)
  let selectionBias ← loader.f32Vector host model (.routerSelectionBias layer)
  let shared ← loadExpert loader model (.sharedGate layer) (.sharedUp layer) (.sharedDown layer)
  let expertLayout ← model.expertLayout layer
  pure { router, selectionBias, shared, expertLayout }

def loadAttention (host : LoadingHost ε) (loader : TensorLoader) (model : ValidatedModel)
    (layer : Nat) :
    Except (Hy3ScalarError ε) OwnedAttention := do
  let inputNorm ← loader.f32Vector host model (.attentionNorm layer)
  let query ← loader.matrix model (.attentionQ layer)
  let queryNorm ← loader.f32Vector host model (.attentionQNorm layer)
  let key ← loader.matrix model (.attentionK layer)
  let keyNorm ← loader.f32Vector host model (.attentionKNorm layer)
  let value ← loader.matrix model (.attentionV layer)
  let output ← loader.matrix model (.attentionOutput layer)
  pure { inputNorm, query, queryNorm, key, keyNorm, value, output }

/-- The first layer is dense. -/
def loadFeedForward (host : LoadingHost ε) (loader : TensorLoader) (model : ValidatedModel)
    (layer : Nat) :
    Except (Hy3ScalarError ε) FeedForwardWeights :=
  if layer = 0 then .dense <$> loadExpert loader model (.denseGate layer) (.denseUp layer)
    (.denseDown layer)
  else .moe <$> loadMoe host loader model layer

/-- The body of the layer loop. -/
def loadLayer (host : LoadingHost ε) (loader : TensorLoader) (model : ValidatedModel)
    (layer : Nat) :
    Except (Hy3ScalarError ε) LayerWeights := do
  let attention ← loadAttention host loader model layer
  let ffnNorm ← loader.f32Vector host model (.ffnNorm layer)
  let feedForward ← loadFeedForward host loader model layer
  pure { attention, ffnNorm, feedForward }

end Load

def OwnedAttention.residentBytes (attention : OwnedAttention) : Option Nat := do
  let norms ← checkedAdd attention.inputNorm.length attention.queryNorm.length
  let norms ← checkedAdd norms attention.keyNorm.length
  let total ← checkedMul norms 4
  let total ← checkedAdd total attention.query.bytes.length
  let total ← checkedAdd total attention.key.bytes.length
  let total ← checkedAdd total attention.value.bytes.length
  checkedAdd total attention.output.bytes.length

def OwnedExpert.residentBytes (expert : OwnedExpert) : Option Nat := do
  let total ← checkedAdd expert.gate.bytes.length expert.up.bytes.length
  checkedAdd total expert.down.bytes.length

def OwnedMoe.residentBytes (moe : OwnedMoe) : Option Nat := do
  let bias ← checkedMul moe.selectionBias.length 4
  let total ← checkedAdd moe.router.bytes.length bias
  let shared ← moe.shared.residentBytes
  checkedAdd total shared

def LayerWeights.residentBytes (layer : LayerWeights) : Option Nat := do
  let attention ← layer.attention.residentBytes
  let norm ← checkedMul layer.ffnNorm.length 4
  let base ← checkedAdd attention norm
  let feedForward ←
    match layer.feedForward with
    | .dense expert => expert.residentBytes
    | .moe moe => moe.residentBytes
  checkedAdd base feedForward

/-- The layers' bytes on top of `total`. -/
def residentLayers (total : Nat) : List LayerWeights → Option Nat
  | [] => some total
  | layer :: layers => do
      let bytes ← layer.residentBytes
      let total ← checkedAdd total bytes
      residentLayers total layers

/-- A `Hy3ScalarModel` with the bytes it reports. -/
structure LoadedModel extends Hy3ScalarModel where
  residentWeightBytes : Nat

section Load
variable {ε : Type}

/-- The layers of a model, one for every block. -/
def loadLayers (host : LoadingHost ε) (loader : TensorLoader) (model : ValidatedModel) :
    Except (Hy3ScalarError ε)
      { layers : List LayerWeights // layers.length = model.config.blockCount } :=
  match hlayers : (List.range model.config.blockCount).mapM (loadLayer host loader model) with
  | .error error => .error error
  | .ok layers =>
      .ok ⟨layers, by rw [← (except_mapM_ok_iff.mp hlayers).length_eq, List.length_range]⟩

/-- The check of the memory, where it is enforced. -/
def memoryPreflight (host : LoadingHost ε) (model : ValidatedModel) (options : Hy3ScalarOptions)
    (memoryHeadroomBytes : Nat)
    (enforce : Bool) : Except (Hy3ScalarError ε) Unit :=
  if enforce then do
    let budget ← Hy3MemoryBudget.forValidated model options memoryHeadroomBytes
    budget.ensureAvailable host.available
  else pure ()

/-- `load_validated`. -/
def loadValidated (host : LoadingHost ε) (set : GgufSet) (validated : ValidatedModel)
    (options : Hy3ScalarOptions)
    (memoryHeadroomBytes : Nat) (enforceMemoryPreflight : Bool) :
    Except (Hy3ScalarError ε) LoadedModel := do
  validateOptions (validated.toValidated ε) options
  memoryPreflight host validated options memoryHeadroomBytes enforceMemoryPreflight
  checkAll (fun shard : GgufShard =>
    ensure (shard.endianness = .little) (.bigEndianPayload shard.path)) set.files
  let _ ← (if options.executionMode = .cpuParallelQ8K then host.cpuBackend
    else pure () : Except (Hy3ScalarError ε) Unit)
  let modelFingerprint ← host.fingerprint
  let loader ← TensorLoader.new host set validated
  let config := validated.config
  let embeddings ← loader.matrix validated .tokenEmbedding
  let outputNorm ← loader.f32Vector host validated .outputNorm
  let output ← loader.matrix validated .output
  ensure (host.granted "Hy3 layer table") (.allocationFailed "Hy3 layer table" config.blockCount)
  let layers ← loadLayers host loader validated
  let residentWeightBytes ← okOr (do
    let total ← checkedAdd embeddings.bytes.length output.bytes.length
    let norm ← checkedMul outputNorm.length 4
    let total ← checkedAdd total norm
    residentLayers total layers.val) .arithmeticOverflow
  let _ ← (if config.blockCount > 1 then host.expertSource
    else pure () : Except (Hy3ScalarError ε) Unit)
  let rope ← wrap .kernel host.rope
  wrap .cache options.cacheConfig.validate
  pure {
    config := config.toHy3Config, contextCapacity := options.contextCapacity,
    executionMode := options.executionMode
    kvPageTokens := options.kvPageTokens, modelFingerprint, embeddings, layers := layers.val,
    outputNorm, output, rope
    expertSource := config.blockCount > 1, expertCache := options.cacheConfig,
    blocks := layers.property
    residentWeightBytes }

end Load

end LightBridge.Hy3
