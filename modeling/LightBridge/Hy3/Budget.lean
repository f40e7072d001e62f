import LightBridge.Hy3.FirstToken
import LightBridge.Hy3.ResidentWeights
import LightBridge.Hy3.Retry
import Mathlib.Tactic.Ring

/-! The memory preflight against what a loaded model and the first token of its sessions take. -/
namespace LightBridge.Hy3
open Foundation Kernels ExpertCache Io Hy3ScalarModel

namespace Hy3MemoryBudget

/-- The bytes that one token of the page takes in all layers. -/
def tokenBytes (config : Hy3ModelConfig) : Nat :=
  config.blockCount * config.attentionKvHeadCount * (config.keyLength + config.valueLength) * 4

theorem forValidated_eq_ok {ε : Type} {model : ValidatedModel} {options : Hy3ScalarOptions}
    {memoryHeadroomBytes : Nat}
    {budget : Hy3MemoryBudget}
    (h : forValidated (ε := ε) model options memoryHeadroomBytes = .ok budget) :
    budget.residentWeightBytes = ((residentTensors model).map Hy3Tensor.byteLength).sum ∧
      budget.firstKvPageBytes = tokenBytes model.config *
        min options.kvPageTokens options.contextCapacity ∧
      budget.firstKvPageBytes ≤ usizeMax := by
  obtain ⟨weights, hweights, h⟩ := except_bind_ok_iff.mp h
  obtain ⟨pages, hpages, h⟩ := except_bind_ok_iff.mp h
  obtain ⟨required, -, h⟩ := except_bind_ok_iff.mp h
  cases h
  have hsum := checkedSum_eq_some (okOr_eq_ok.mp hweights)
  simp only [okOr_eq_ok, Option.bind_eq_some_iff, checkedMul_eq_some] at hpages
  obtain ⟨_, ⟨_, ⟨_, ⟨-, rfl⟩, -, rfl⟩, -, rfl⟩, hle, rfl⟩ := hpages
  exact ⟨hsum.trans (Nat.zero_add _), rfl, hle⟩

/-- The first pages that are asked for are enough for the cache. -/
def Covers (budget : Hy3MemoryBudget) (cache : Kv.PagedKvCache) : Prop :=
  ∃ bytes, cache.allocatedBytes = .ok bytes ∧ bytes ≤ budget.firstKvPageBytes

end Hy3MemoryBudget

section Preflight
variable {ε : Type} {N : Numerics} {model : ValidatedModel} {options : Hy3ScalarOptions}
    {loaded : LoadedModel}

theorem LoadedFrom.kvConfig (h : LoadedFrom model options loaded) : loaded.kvConfig =
    { layerCount := model.config.blockCount, kvHeadCount := model.config.attentionKvHeadCount
      keyDimension := model.config.keyLength, valueDimension := model.config.valueLength
      pageTokens := options.kvPageTokens, tokenCapacity := options.contextCapacity } := by
  rw [Hy3ScalarModel.kvConfig, h.config, h.contextCapacity, h.kvPageTokens]

/-- The first token takes a page of every layer. -/
theorem LoadedFrom.first_token (h : LoadedFrom model options loaded) {session : Hy3ScalarSession}
    (unused : Unused ε N loaded.toHy3ScalarModel session) {env : Environment ε} {tokenId : Nat}
    {logits : List F32} {state : Hy3ScalarSession × List F32}
    (hrun : evaluate N env loaded.toHy3ScalarModel tokenId (session, logits) = (.ok (), state))
    {bytes : Nat} :
    0 < Hy3MemoryBudget.tokenBytes model.config ∧ (state.1.cache.allocatedBytes = .ok bytes ↔
      bytes ≤ usizeMax ∧ bytes = Hy3MemoryBudget.tokenBytes model.config *
      options.kvPageTokens) := by
  obtain ⟨hwf, hconfig, hpages⟩ := unused.first_token hrun
  rw [h.kvConfig] at hconfig
  have hblocks : loaded.config.blockCount = model.config.blockCount := by rw [h.config]
  have hsize : state.1.cache.allocatedPages.length * state.1.cache.pageBytes =
      Hy3MemoryBudget.tokenBytes model.config * options.kvPageTokens := by
    rw [hpages, hblocks, hconfig, Kv.KvConfig.pageBytes, Hy3MemoryBudget.tokenBytes]
    ring
  refine ⟨?_, ?_⟩
  · have hpositive := hwf.positive
    rw [hconfig] at hpositive
    simp only [Kv.KvConfig.parameters, List.forall_mem_cons] at hpositive
    obtain ⟨hlayers, hheads, hkeys, -⟩ := hpositive
    exact Nat.mul_pos (Nat.mul_pos (Nat.mul_pos hlayers hheads) (Nat.add_pos_left hkeys _))
      (Nat.succ_pos 3)
  · rw [hwf.shaped.allocatedBytes_eq_ok, hsize]
    exact ⟨fun hb => ⟨hb.2 ▸ hb.1, hb.2⟩, fun hb => ⟨hb.2 ▸ hb.1, hb.2⟩⟩

/-- The preflight asks for the weights that are loaded. It asks for enough memory for the first
token of a session exactly where a page is not longer than the context. -/
theorem memory_preflight {host : LoadingHost ε} {set : GgufSet} {memoryHeadroomBytes : Nat}
    {enforce : Bool} {budget : Hy3MemoryBudget}
    (hload : loadValidated host set model options memoryHeadroomBytes enforce = .ok loaded)
    (hbudget : Hy3MemoryBudget.forValidated (ε := ε) model options memoryHeadroomBytes =
      .ok budget) :
    budget.residentWeightBytes = loaded.residentWeightBytes ∧
      ∀ session, Unused ε N loaded.toHy3ScalarModel session →
      ∀ (env : Environment ε) tokenId logits state,
        evaluate N env loaded.toHy3ScalarModel tokenId (session, logits) = (.ok (), state) →
          (budget.Covers state.1.cache ↔ options.kvPageTokens ≤ options.contextCapacity) := by
  have hfrom := loadValidated_eq_ok hload
  obtain ⟨hweights, hfirst, hfits⟩ := Hy3MemoryBudget.forValidated_eq_ok hbudget
  constructor
  · obtain ⟨sizes, hholds, hsum⟩ := hfrom.weights
    rw [hweights, hsum, ValidatedModel.sum_residentTensors hholds]
  · intro session unused env tokenId logits state hrun
    constructor
    · rintro ⟨bytes, hbytes, hcovered⟩
      obtain ⟨hpositive, hiff⟩ := hfrom.first_token unused hrun
      obtain ⟨-, rfl⟩ := hiff.mp hbytes
      rw [hfirst] at hcovered
      have hle : options.kvPageTokens ≤ min options.kvPageTokens options.contextCapacity :=
        Nat.le_of_mul_le_mul_left hcovered hpositive
      exact hle.trans (Nat.min_le_right _ _)
    · intro hle
      obtain ⟨-, hiff⟩ := hfrom.first_token unused hrun
      rw [hfirst, Nat.min_eq_left hle] at hfits
      refine ⟨_, hiff.mpr ⟨hfits, rfl⟩, ?_⟩
      rw [hfirst, Nat.min_eq_left hle]

end Preflight

/-! ### A page that is longer than the context -/

/-- A block with a single head, whose dense layer is all it has. -/
def oneBlock : Hy3ModelConfig where
  blockCount := 1
  contextLength := 4
  embeddingLength := 256
  denseFfnLength := 1
  expertFfnLength := 1
  sharedExpertFfnLength := 1
  attentionHeadCount := 1
  attentionKvHeadCount := 1
  keyLength := 2
  valueLength := 2
  rmsEpsilon := .fromBits 0x3727c5ac
  expertCount := 1
  expertUsedCount := 1
  expertWeightsNorm := true
  expertGatingFunc := 2
  expertWeightsScale := one
  ropeBase := one
  ropeScalingType := "yarn"
  yarnFactor := one
  yarnOriginalContext := 4
  vocabularySize := 1

open Hy3TensorRole in
def oneBlockSchema : List TensorSpec :=
  [⟨"token_embd.weight", tokenEmbedding, [256, 1], .q4K⟩,
    ⟨"output_norm.weight", outputNorm, [256], .f32⟩,
    ⟨"output.weight", Hy3TensorRole.output, [256, 1], .q4K⟩,
    ⟨"blk.0.attn_k.weight", attentionK 0, [256, 2], .q4K⟩,
    ⟨"blk.0.attn_k_norm.weight", attentionKNorm 0, [2], .f32⟩,
    ⟨"blk.0.attn_norm.weight", attentionNorm 0, [256], .f32⟩,
    ⟨"blk.0.attn_output.weight", attentionOutput 0, [2, 256], .f32⟩,
    ⟨"blk.0.attn_q.weight", attentionQ 0, [256, 2], .q4K⟩,
    ⟨"blk.0.attn_q_norm.weight", attentionQNorm 0, [2], .f32⟩,
    ⟨"blk.0.attn_v.weight", attentionV 0, [256, 2], .q4K⟩,
    ⟨"blk.0.ffn_norm.weight", ffnNorm 0, [256], .f32⟩,
    ⟨"blk.0.ffn_down.weight", denseDown 0, [1, 256], .f32⟩,
    ⟨"blk.0.ffn_gate.weight", denseGate 0, [256, 1], .q4K⟩,
    ⟨"blk.0.ffn_up.weight", denseUp 0, [256, 1], .q4K⟩]

/-- The payloads of a schema in a file, one after the other. -/
def place (fileLength : Nat) : Nat → List TensorSpec → List TensorLocation
  | _, [] => []
  | offset, spec :: schema =>
      match TensorDesc.new spec.name spec.shape spec.ty offset with
      | .error _ => []
      | .ok descriptor =>
          match located : descriptor.checkedAbsoluteRange 0 fileLength with
          | .error _ => []
          | .ok (start, stop) =>
              ⟨0, descriptor, start, stop, ⟨0, fileLength, located⟩⟩ ::
                place fileLength ((stop + 31) / 32 * 32) schema

/-- A file of zeros with the tensors of the schema. -/
def oneBlockSet : GgufSet where
  files := [⟨"model", .little, .ok oneBlock, selectedMetadataKeys, List.replicate 7696 0⟩]
  tensors := place 7696 0 oneBlockSchema
  distinct := by decide +kernel

def oneBlockProfile : Hy3Profile :=
  ⟨oneBlock, .explicit oneBlockSchema ⟨fun _ => true, by decide +kernel⟩⟩

/-- The host of zeros, where equal values compare as such. -/
def comparingNumerics : Numerics := { zeroNumerics with le := fun x y => x == y }

def grantingLoader : LoadingHost Unit where
  available := 0
  cpuBackend := .ok ()
  fingerprint := .ok ⟨List.replicate 32 0, length_zeros⟩
  expertSource := .ok ()
  rope := .ok ⟨2, 4, 4, one, one, .zero, one, one, one⟩
  opening _ := none
  fault _ _ _ := none
  readGranted _ _ := true
  granted _ := true

/-- Pages of two tokens in a context of one. -/
def longPage : Hy3ScalarOptions where
  contextCapacity := 1
  kvPageTokens := 2
  expertCacheBytes := 1
  cacheAdmitAfterRequests := 1
  executionMode := .dequantF32

def denseHost : Environment Unit :=
  ⟨fun _ _ => true, fun _ => true, fun _ => true, fun _ _ => .ok []⟩

/-- What the preflight asks for the first pages, and what the first token takes. -/
def firstPages : Option (Nat × Except (Hy3ScalarError Unit) Unit × Except Kv.KvError Nat) :=
  (validateModelWithProfile comparingNumerics.toArithmetic
    (fun _ => true) oneBlockSet oneBlockProfile).toOption.bind
    fun model => (loadValidated grantingLoader oneBlockSet model longPage 0 true).toOption.bind
    fun loaded => (Hy3MemoryBudget.forValidated (ε := Unit) model longPage 0).toOption.bind
    fun budget =>
      (newSession (ε := Unit) .granting loaded.toHy3ScalarModel).toOption.map
    fun session =>
      let ended := evaluate comparingNumerics denseHost loaded.toHy3ScalarModel 0 (session, [.zero])
      (budget.firstKvPageBytes, ended.1, ended.2.1.cache.allocatedBytes)

/-- A model, a budget for it, and a session before and after its first token. -/
structure FirstRun (model : ValidatedModel) (loaded : LoadedModel) (budget : Hy3MemoryBudget)
    (session : Hy3ScalarSession) (state : Hy3ScalarSession × List F32) : Prop where
  validated : validateModelWithProfile comparingNumerics.toArithmetic
    (fun _ => true) oneBlockSet oneBlockProfile = .ok model
  load : loadValidated grantingLoader oneBlockSet model longPage 0 true = .ok loaded
  budgeted : Hy3MemoryBudget.forValidated (ε := Unit) model longPage 0 = .ok budget
  opened : newSession (ε := Unit) .granting loaded.toHy3ScalarModel = .ok session
  evaluated : evaluate comparingNumerics denseHost loaded.toHy3ScalarModel 0 (session, [.zero]) =
    (.ok (), state)

theorem firstRun_exists : ∃ model loaded budget session state,
      FirstRun model loaded budget session state ∧
    budget.firstKvPageBytes = 16 ∧ state.1.cache.allocatedBytes = .ok 32 := by
  have hrun : firstPages = some (16, .ok (), .ok 32) := by decide +kernel
  simp only [firstPages, Option.bind_eq_some_iff, Option.map_eq_some_iff, toOption_eq_some] at hrun
  obtain ⟨model, hmodel, loaded, hloaded, budget, hbudget, session, hsession, hended⟩ := hrun
  obtain ⟨hbytes, hrest⟩ := Prod.mk.inj hended
  obtain ⟨hok, hallocated⟩ := Prod.mk.inj hrest
  exact ⟨model, loaded, budget, session, _, ⟨hmodel, hloaded, hbudget, hsession, Prod.ext hok rfl⟩,
    hbytes, hallocated⟩

/-- The first token takes twice what the preflight asked for. -/
theorem memory_preflight_long : ∃ model loaded budget session state,
      FirstRun model loaded budget session state ∧
    budget.firstKvPageBytes = 16 ∧ state.1.cache.allocatedBytes = .ok 32 ∧
      ¬ budget.Covers state.1.cache := by
  obtain ⟨model, loaded, budget, session, state, hrun, hbudget, hallocated⟩ := firstRun_exists
  refine ⟨model, loaded, budget, session, state, hrun, hbudget, hallocated, ?_⟩
  rintro ⟨bytes, hbytes, hle⟩
  rw [hallocated] at hbytes
  cases hbytes
  rw [hbudget] at hle
  exact absurd hle (by decide)

/-- The weights of the same model are all asked for. -/
theorem memory_preflight_run : ∃ model loaded budget session state,
      FirstRun model loaded budget session state ∧
    budget.residentWeightBytes = loaded.residentWeightBytes ∧
      (budget.Covers state.1.cache ↔ longPage.kvPageTokens ≤ longPage.contextCapacity) := by
  obtain ⟨model, loaded, budget, session, state, hrun, -, -⟩ := firstRun_exists
  obtain ⟨hweights, hpages⟩ := memory_preflight (N := comparingNumerics) hrun.load hrun.budgeted
  exact ⟨model, loaded, budget, session, state, hrun, hweights,
    hpages session (.opened _ hrun.opened) denseHost 0 [.zero] state hrun.evaluated⟩

end LightBridge.Hy3
