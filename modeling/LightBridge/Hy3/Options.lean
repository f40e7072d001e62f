import LightBridge.ExpertCache.Residency
import LightBridge.Hy3.TensorRole
import LightBridge.Io.PositionedFile
import LightBridge.Kernels.Numeric

/-! The options of the scalar runtime, what it accepts, and the layout of an expert. -/
namespace LightBridge.Hy3
open Foundation Kernels ExpertCache

/-- `Hy3ScalarError` over the errors of the expert source. `SessionRollback` keeps the two
errors whose texts the source keeps; the errors of the CPU backend, of the fingerprint and of
opening the expert source stand for their texts. -/
inductive Hy3ScalarError (ε : Type) where
  | kernel (error : KernelError)
  | kv (error : Kv.KvError)
  | quant (error : QuantError)
  | cache (error : CacheError)
  | expertCache (error : LoadError ε)
  | allocationFailed (context : String) (requested : Nat)
  | arithmeticOverflow
  | invalidContextCapacity (maximum actual : Nat)
  | zeroKvPageTokens
  | expertCacheTooSmall (minimum actual : Nat)
  | missingDenseLayer
  | missingMoeScratch
  | missingExpertSource
  | expertPayloadLength (expected actual : Nat)
  | tokenOutOfRange (tokenId vocabularySize : Nat)
  | contextExhausted (position capacity : Nat)
  | logitLength (expected actual : Nat)
  | sessionRollback (original rollback : Hy3ScalarError ε)
  | inconsistentKvLength (layer expected actual : Nat)
  | model (error : Hy3Error)
  | read (error : Io.ReadError)
  | host (message : String)
  | bigEndianPayload (path : String)
  | missingTensorRole (role : Hy3TensorRole)
  | tensorRank (role : Hy3TensorRole) (expected actual : Nat)
  | tensorType (role : Hy3TensorRole) (expected actual : GgmlType)
  | f32PayloadLength (role : Hy3TensorRole) (expected actual : Nat)
  | nonFiniteF32 (role : Hy3TensorRole) (index : Nat) (bits : BitVec 32)
  | shardIndexOutOfRange (index : Nat)
  | insufficientPhysicalMemory
    (required available residentWeights expertCache firstKvPage headroom : Nat)
  deriving DecidableEq, Repr

structure Hy3Config where
  blockCount : Nat
  contextLength : Nat
  embeddingLength : Nat
  attentionHeadCount : Nat
  attentionKvHeadCount : Nat
  keyLength : Nat
  valueLength : Nat
  rmsEpsilon : F32
  expertCount : Nat
  expertUsedCount : Nat
  expertWeightsScale : F32
  vocabularySize : Nat
  deriving DecidableEq, Repr

structure Hy3ScalarOptions where
  contextCapacity : Nat
  kvPageTokens : Nat
  expertCacheBytes : Nat
  cacheAdmitAfterRequests : Nat
  executionMode : ReferenceExecutionMode
  deriving DecidableEq, Repr

structure ExpertKey where
  layer : Nat
  expert : Nat
  deriving DecidableEq, Repr

structure MatrixLayout where
  ty : GgmlType
  inputWidth : Nat
  outputWidth : Nat
  bytes : Nat
  deriving DecidableEq, Repr

structure ExpertPayloadLayout where
  gate : MatrixLayout
  up : MatrixLayout
  down : MatrixLayout
  deriving DecidableEq, Repr

def ExpertPayloadLayout.totalBytes {ε : Type} (layout : ExpertPayloadLayout) :
    Except (Hy3ScalarError ε) Nat :=
  okOr ((checkedAdd layout.gate.bytes layout.up.bytes).bind (checkedAdd · layout.down.bytes))
    .arithmeticOverflow

/-- `ValidatedHy3Model`: its configuration, with the bound of `validate_schema_config` on
the selected experts, and what `ExpertPayloadLayout::from_model` answers for each layer. -/
structure ValidatedHy3Model (ε : Type) where
  config : Hy3Config
  expertLayout : Nat → Except (Hy3ScalarError ε) ExpertPayloadLayout
  topK : config.expertUsedCount ≤ config.expertCount

namespace ValidatedHy3Model
variable {ε : Type}

/-- `ExpertPayloadLayout::from_model(model, layer)?.total_bytes()`. -/
def expertBytes (model : ValidatedHy3Model ε) (layer : Nat) : Except (Hy3ScalarError ε) Nat := do
  let layout ← model.expertLayout layer
  layout.totalBytes

/-- `1..block_count`. -/
def moeLayers (model : ValidatedHy3Model ε) : List Nat :=
  List.range' 1 (model.config.blockCount - 1)

end ValidatedHy3Model

def Hy3ScalarOptions.cacheConfig (options : Hy3ScalarOptions) : CacheConfig :=
  { capacityBytes := options.expertCacheBytes,
    admitAfterRequests := options.cacheAdmitAfterRequests }

/-- The fold of `validate_options` over the layers. -/
def maximumExpert {ε : Type} (model : ValidatedHy3Model ε) :
    Nat → List Nat → Except (Hy3ScalarError ε) Nat
  | maximum, [] => .ok maximum
  | maximum, layer :: layers => do
      let bytes ← model.expertBytes layer
      maximumExpert model (max maximum bytes) layers

def validateOptions {ε : Type} (model : ValidatedHy3Model ε) (options : Hy3ScalarOptions) :
    Except (Hy3ScalarError ε) Unit := do
  ensure (options.contextCapacity ≠ 0 ∧ options.contextCapacity ≤ model.config.contextLength)
    (.invalidContextCapacity model.config.contextLength options.contextCapacity)
  ensure (options.kvPageTokens ≠ 0) .zeroKvPageTokens
  wrap .cache options.cacheConfig.validate
  if model.config.blockCount > 1 then
    let maximum ← maximumExpert model 0 model.moeLayers
    ensure (maximum ≤ options.expertCacheBytes)
      (.expertCacheTooSmall maximum options.expertCacheBytes)

theorem maximumExpert_eq_ok {ε : Type} {model : ValidatedHy3Model ε} {layers : List Nat}
    {maximum total : Nat} (h : maximumExpert model maximum layers = .ok total) :
    maximum ≤ total ∧ ∀ layer ∈ layers, ∃ bytes, model.expertBytes layer = .ok bytes ∧
      bytes ≤ total := by
  induction layers generalizing maximum with
  | nil =>
      cases h
      exact ⟨Nat.le_refl _, fun layer hmem => (by cases hmem)⟩
  | cons layer layers ih =>
      obtain ⟨bytes, hbytes, hrest⟩ := except_bind_ok_iff.mp h
      obtain ⟨hle, hlayers⟩ := ih hrest
      refine ⟨(Nat.le_max_left _ _).trans hle, fun other hmem => ?_⟩
      rcases List.mem_cons.mp hmem with rfl | hmem
      · exact ⟨bytes, hbytes, (Nat.le_max_right _ _).trans hle⟩
      · exact hlayers other hmem

/-- What accepted options promise about the cache: it is well configured and holds the
largest single expert. -/
theorem validateOptions_eq_ok {ε : Type} {model : ValidatedHy3Model ε} {options : Hy3ScalarOptions}
    (h : validateOptions model options = .ok ()) :
    options.cacheConfig.validate = .ok () ∧ ∀ layer ∈ model.moeLayers,
      ∃ bytes, model.expertBytes layer = .ok bytes ∧ bytes ≤ options.expertCacheBytes := by
  unfold validateOptions at h
  obtain ⟨-, -, h⟩ := except_bind_ok_iff.mp h
  obtain ⟨-, -, h⟩ := except_bind_ok_iff.mp h
  obtain ⟨u, hcache, h⟩ := except_bind_ok_iff.mp h
  refine ⟨wrap_eq_ok.mp hcache, fun layer hmem => ?_⟩
  have hblocks : model.config.blockCount > 1 := by
    have := List.length_pos_of_mem hmem
    rw [ValidatedHy3Model.moeLayers, List.length_range'] at this
    omega
  rw [if_pos hblocks] at h
  obtain ⟨maximum, hmax, hle⟩ := except_bind_ok_iff.mp h
  obtain ⟨bytes, hbytes, hbound⟩ := (maximumExpert_eq_ok hmax).2 layer hmem
  exact ⟨bytes, hbytes, hbound.trans (ensure_eq_ok.mp hle)⟩

end LightBridge.Hy3
