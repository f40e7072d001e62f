import LightBridge.Hy3.Schema
import LightBridge.Kernels.Gemv

/-! Profiles: the configuration and the schema a set of GGUF files has to have, and the model that
is validated against one. -/
namespace LightBridge.Hy3
open Foundation Kernels

/-- The fields in the order of their comparisons, under their metadata keys. -/
def Hy3ModelConfig.fields (config : Hy3ModelConfig) : List (String × ConfigValue) :=
  [("hy_v3.block_count", .nat config.blockCount),
    ("hy_v3.context_length", .nat config.contextLength),
    ("hy_v3.embedding_length", .nat config.embeddingLength),
    ("hy_v3.feed_forward_length", .nat config.denseFfnLength),
    ("hy_v3.expert_feed_forward_length", .nat config.expertFfnLength),
    ("hy_v3.expert_shared_feed_forward_length", .nat config.sharedExpertFfnLength),
    ("hy_v3.attention.head_count", .nat config.attentionHeadCount),
    ("hy_v3.attention.head_count_kv", .nat config.attentionKvHeadCount),
    ("hy_v3.attention.key_length", .nat config.keyLength),
    ("hy_v3.attention.value_length", .nat config.valueLength),
    ("hy_v3.attention.layer_norm_rms_epsilon", .real config.rmsEpsilon),
    ("hy_v3.expert_count", .nat config.expertCount),
    ("hy_v3.expert_used_count", .nat config.expertUsedCount),
    ("hy_v3.expert_weights_norm", .flag config.expertWeightsNorm),
    ("hy_v3.expert_gating_func", .nat config.expertGatingFunc),
    ("hy_v3.expert_weights_scale", .real config.expertWeightsScale),
    ("hy_v3.rope.freq_base", .real config.ropeBase),
    ("hy_v3.rope.scaling.type", .text config.ropeScalingType),
    ("hy_v3.rope.scaling.factor", .real config.yarnFactor),
    ("hy_v3.rope.scaling.original_context_length", .nat config.yarnOriginalContext),
    ("tokenizer.ggml.tokens", .nat config.vocabularySize)]

/-- `f32::abs`. -/
def abs (x : F32) : F32 := ⟨x.toBits &&& 0x7fffffff⟩

/-- `f32::clamp`. -/
def clamp (N : Arithmetic) (x minimum maximum : F32) : F32 :=
  let x := if N.lt x minimum then minimum else x
  if N.lt maximum x then maximum else x

def compareFloat (N : Arithmetic) (key : String) (expected actual : F32) :
    Except Hy3Error Unit := do
  ensure actual.isFinite (.nonFiniteMetadata key expected actual)
  let tolerance := clamp N (N.mul (abs expected) (.fromBits 0x358637bd)) (.fromBits 0x2b8cbccc)
    (.fromBits 0x38d1b717)
  ensure (N.le (abs (N.sub actual expected)) tolerance)
    (.metadataValue key (.real expected) (.real actual))

/-- A comparison of `Hy3Profile::validate`. -/
def compareField (N : Arithmetic) (key : String) : ConfigValue → ConfigValue → Except Hy3Error Unit
  | .real expected, .real actual => compareFloat N key expected actual
  | expected, actual => ensure (expected = actual) (.metadataValue key expected actual)

/-- A comparison of `validate_exact_replica`. -/
def compareReplica (N : Arithmetic) (key : String) : ConfigValue → ConfigValue →
      Except Hy3Error Unit
  | .real expected, .real actual =>
      ensure (N.eq expected actual) (.metadataValue key (.real expected) (.real actual))
  | expected, actual => ensure (expected = actual) (.metadataValue key expected actual)

/-- The comparisons of two configurations, field by field. -/
def compareConfigs (compare : String → ConfigValue → ConfigValue → Except Hy3Error Unit)
    (expected actual : Hy3ModelConfig) : Except Hy3Error Unit :=
  checkAll (fun (expected, actual) => compare expected.1 expected.2 actual.2)
    (expected.fields.zip actual.fields)

def validateExactReplica (N : Arithmetic) (authoritative replica : Hy3ModelConfig) :
    Except Hy3Error Unit :=
  compareConfigs (compareReplica N) authoritative replica

/-! ### Profiles -/

/-- The configuration of the selected checkpoint. -/
def selectedIq2M : Hy3ModelConfig where
  blockCount := 80
  contextLength := 1048576
  embeddingLength := 4096
  denseFfnLength := 13312
  expertFfnLength := 1536
  sharedExpertFfnLength := 1536
  attentionHeadCount := 64
  attentionKvHeadCount := 8
  keyLength := 128
  valueLength := 128
  rmsEpsilon := .fromBits 0x3727c5ac
  expertCount := 192
  expertUsedCount := 8
  expertWeightsNorm := true
  expertGatingFunc := 2
  expertWeightsScale := .fromBits 0x4034dd2f
  ropeBase := .fromBits 0x4b2a4538
  ropeScalingType := "yarn"
  yarnFactor := .fromBits 0x40800000
  yarnOriginalContext := 262144
  vocabularySize := 120832

/-- The schema of a profile: generated for the selected checkpoint, or listed and checked. -/
inductive ProfileSchema (expected : Hy3ModelConfig) where
  | selectedIq2M (selected : expected = Hy3.selectedIq2M)
  | explicit (schema : List TensorSpec)
      (valid : ∃ granted, validateExplicitSchema granted expected schema = .ok ())

structure Hy3Profile where
  expected : Hy3ModelConfig
  schema : ProfileSchema expected

namespace Hy3Profile

/-- `Hy3Profile::selected_iq2_m`. -/
def selected : Hy3Profile := ⟨selectedIq2M, .selectedIq2M rfl⟩

def explicit (granted : String → Bool) (expected : Hy3ModelConfig) (schema : List TensorSpec) :
    Except Hy3Error Hy3Profile :=
  match valid : validateExplicitSchema granted expected schema with
  | .error error => .error error
  | .ok () => .ok ⟨expected, .explicit schema ⟨granted, valid⟩⟩

def validate (N : Arithmetic) (profile : Hy3Profile) (actual : Hy3ModelConfig) :
    Except Hy3Error Unit :=
  compareConfigs (compareField N) profile.expected actual

def tensorSchema (granted : String → Bool) (profile : Hy3Profile) :
    Except Hy3Error (List TensorSpec) :=
  match profile.schema with
  | .selectedIq2M _ => generateSchema granted profile.expected
  | .explicit schema _ => .ok schema

/-- A configuration that a profile accepts has the numbers the profile expects. -/
theorem validate_eq_ok {N : Arithmetic} {profile : Hy3Profile} {actual : Hy3ModelConfig}
    (h : profile.validate N actual = .ok ()) : actual.blockCount = profile.expected.blockCount ∧
      actual.expertCount = profile.expected.expertCount ∧
      actual.expertUsedCount = profile.expected.expertUsedCount := by
  have hfield := checkAll_eq_ok.mp h
  have hnat : ∀ key expected actual', ((key, .nat expected), (key, .nat actual')) ∈
      profile.expected.fields.zip actual.fields → actual' = expected := by
    intro key expected actual' hmem
    exact (ConfigValue.nat.inj (ensure_eq_ok.mp (hfield _ hmem))).symm
  exact ⟨hnat "hy_v3.block_count" _ _ (by simp [Hy3ModelConfig.fields]),
    hnat "hy_v3.expert_count" _ _ (by simp [Hy3ModelConfig.fields]),
    hnat "hy_v3.expert_used_count" _ _ (by simp [Hy3ModelConfig.fields])⟩

/-- The schema of a profile has no role twice, and none that its model does not have. -/
theorem tensorSchema_eq_ok {granted : String → Bool} {profile : Hy3Profile}
    {schema : List TensorSpec} (h : profile.tensorSchema granted = .ok schema) :
    validateSchemaConfig profile.expected = .ok () ∧
      (schema.map TensorSpec.role).Nodup ∧
      ∀ role ∈ schema.map TensorSpec.role,
      role ∈ Hy3TensorRole.all profile.expected.blockCount := by
  unfold tensorSchema at h
  split at h
  · obtain ⟨hconfig, hroles⟩ := generateSchema_eq_ok h
    rw [hroles]
    exact ⟨hconfig, Hy3TensorRole.nodup_all _, fun role hrole => hrole⟩
  · rename_i listed valid _
    obtain ⟨answers, hvalid⟩ := valid
    cases h
    exact validateExplicitSchema_eq_ok hvalid

end Hy3Profile

/-! ### Validated models -/

/-- A shard: what `resolve_config` answers for it, the keys of its metadata, and its bytes. -/
structure GgufShard where
  path : String
  endianness : PayloadEndian
  resolved : Except Hy3Error Hy3ModelConfig
  keys : List String
  content : List UInt8

/-- `GgufSet`, with its tensor directory in order. -/
structure GgufSet where
  files : List GgufShard
  tensors : List TensorLocation
  distinct : (tensors.map fun location => location.descriptor.name).Nodup

/-- `TensorDirectory::get`. -/
def GgufSet.get (set : GgufSet) (name : String) : Option TensorLocation :=
  set.tensors.find? fun location => location.descriptor.name = name

/-- `SELECTED_METADATA_KEYS`. -/
def selectedMetadataKeys : List String :=
  ["general.architecture", "hy_v3.block_count", "hy_v3.context_length", "hy_v3.embedding_length",
    "hy_v3.feed_forward_length", "hy_v3.expert_feed_forward_length",
    "hy_v3.expert_shared_feed_forward_length", "hy_v3.attention.head_count",
    "hy_v3.attention.head_count_kv", "hy_v3.attention.key_length", "hy_v3.attention.value_length",
    "hy_v3.attention.layer_norm_rms_epsilon", "hy_v3.expert_count", "hy_v3.expert_used_count",
    "hy_v3.expert_weights_norm", "hy_v3.expert_gating_func", "hy_v3.expert_weights_scale",
    "hy_v3.rope.freq_base", "hy_v3.rope.scaling.type", "hy_v3.rope.scaling.factor",
    "hy_v3.rope.scaling.original_context_length", "tokenizer.ggml.tokens"]

/-- A shard after the first has none of the selected metadata, or the same as the first. -/
def validateLaterShard (N : Arithmetic) (authoritative : Hy3ModelConfig) (shardIndex : Nat)
    (shard : GgufShard) :
    Except Hy3Error Unit :=
  if selectedMetadataKeys.all (· ∉ shard.keys) then .ok ()
  else
    match selectedMetadataKeys.find? (· ∉ shard.keys) with
    | some missingKey => .error (.partialShardMetadata shardIndex missingKey)
    | none => do
        let replica ← wrap (.shardMetadata shardIndex) shard.resolved
        wrap (.shardMetadata shardIndex) (validateExactReplica N authoritative replica)

def validateLaterShardMetadata (N : Arithmetic) (set : GgufSet) (authoritative : Hy3ModelConfig) :
    Except Hy3Error Unit :=
  checkAll (fun (shard, index) => validateLaterShard N authoritative index shard)
    (set.files.zipIdx.drop 1)

structure Hy3Tensor where
  role : Hy3TensorRole
  location : TensorLocation

/-- The bytes of the payload. -/
def Hy3Tensor.byteLength (tensor : Hy3Tensor) : Nat := tensor.location.stop - tensor.location.start

/-- `ValidatedHy3Model`: no two of its tensors have one role, and every role is one of its layers.
-/
structure ValidatedModel where
  config : Hy3ModelConfig
  tensors : List Hy3Tensor
  topK : config.expertUsedCount ≤ config.expertCount
  roles : (tensors.map Hy3Tensor.role).Nodup
  placed : ∀ tensor ∈ tensors, tensor.role ∈ Hy3TensorRole.all config.blockCount

def ValidatedModel.tensorForRole (model : ValidatedModel) (role : Hy3TensorRole) :
    Option Hy3Tensor :=
  model.tensors.find? (·.role = role)

/-- The tensor of one entry of the schema. -/
def assignRole (set : GgufSet) (spec : TensorSpec) : Except Hy3Error Hy3Tensor := do
  let location ← okOr (set.get spec.name) (.missingTensor spec.name spec.shape spec.ty)
  pure { role := spec.role, location }

/-- The configuration and the tensors that `validate_model_with_profile` finds. -/
def semanticTensors (N : Arithmetic) (granted : String → Bool) (set : GgufSet)
    (profile : Hy3Profile) :
    Except Hy3Error (Hy3ModelConfig × List Hy3Tensor) := do
  let metadata ← okOr set.files.head? .emptySet
  let config ← metadata.resolved
  profile.validate N config
  validateLaterShardMetadata N set config
  let schema ← profile.tensorSchema granted
  ensure (set.tensors.length = schema.length)
    (.tensorDirectoryCount schema.length set.tensors.length)
  validateDescriptorsAgainst granted config schema (set.tensors.map TensorLocation.descriptor)
  ensure (granted "validated semantic tensors")
    (.allocationFailed "validated semantic tensors" schema.length)
  let tensors ← schema.mapM (assignRole set)
  pure (config, tensors)

theorem assignRole_roles {set : GgufSet} {schema : List TensorSpec} {tensors : List Hy3Tensor}
    (h : schema.mapM (assignRole set) = .ok tensors) :
    tensors.map Hy3Tensor.role = schema.map TensorSpec.role := by
  have hall := except_mapM_ok_iff.mp h
  clear h
  induction hall with
  | nil => rfl
  | cons hone _ ih =>
      obtain ⟨_, -, hmade⟩ := except_bind_ok_iff.mp hone
      cases hmade
      rw [List.map_cons, List.map_cons, ih]

/-- Validation finds a tensor for every role of its schema. -/
theorem semanticTensors_eq_ok {N : Arithmetic} {granted : String → Bool} {set : GgufSet}
    {profile : Hy3Profile} {config : Hy3ModelConfig} {tensors : List Hy3Tensor}
    (h : semanticTensors N granted set profile = .ok (config, tensors)) :
    config.expertUsedCount ≤ config.expertCount ∧ (tensors.map Hy3Tensor.role).Nodup ∧
      ∀ tensor ∈ tensors, tensor.role ∈ Hy3TensorRole.all config.blockCount := by
  obtain ⟨metadata, -, h⟩ := except_bind_ok_iff.mp h
  obtain ⟨resolved, -, h⟩ := except_bind_ok_iff.mp h
  obtain ⟨_, hprofile, h⟩ := except_bind_ok_iff.mp h
  obtain ⟨_, -, h⟩ := except_bind_ok_iff.mp h
  obtain ⟨schema, hschema, h⟩ := except_bind_ok_iff.mp h
  iterate 3 obtain ⟨_, -, h⟩ := except_bind_ok_iff.mp h
  obtain ⟨found, hfound, h⟩ := except_bind_ok_iff.mp h
  cases h
  obtain ⟨hblocks, hexperts, hused⟩ := Hy3Profile.validate_eq_ok hprofile
  obtain ⟨hconfig, hnodup, hplaced⟩ := Hy3Profile.tensorSchema_eq_ok hschema
  have hroles := assignRole_roles hfound
  refine ⟨?_, hroles ▸ hnodup, fun tensor htensor => ?_⟩
  · rw [hexperts, hused]
    have hrange : ("expert_used_count", profile.expected.expertUsedCount,
        profile.expected.expertCount) ∈
        profile.expected.ranges := by simp [Hy3ModelConfig.ranges]
    exact (validateSchemaConfig_range hconfig hrange).2
  · rw [hblocks]
    exact hplaced tensor.role (hroles ▸ List.mem_map_of_mem htensor)

def validateModelWithProfile (N : Arithmetic) (granted : String → Bool) (set : GgufSet)
    (profile : Hy3Profile) :
    Except Hy3Error ValidatedModel :=
  match valid : semanticTensors N granted set profile with
  | .error error => .error error
  | .ok (config, tensors) => .ok
      { config, tensors, topK := (semanticTensors_eq_ok valid).1,
        roles := (semanticTensors_eq_ok valid).2.1
        placed := (semanticTensors_eq_ok valid).2.2 }

end LightBridge.Hy3
