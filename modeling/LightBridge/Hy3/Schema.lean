import LightBridge.Hy3.Options

/-! The tensor schema of a Hy3 model: the one that is generated for the selected checkpoint, the
ones a profile lists, and the check of a directory of tensors against a schema. -/
namespace LightBridge.Hy3
open Foundation Kernels

/-- `Hy3Config` with the fields that only its validation reads. -/
structure Hy3ModelConfig extends Hy3Config where
  denseFfnLength : Nat
  expertFfnLength : Nat
  sharedExpertFfnLength : Nat
  expertWeightsNorm : Bool
  expertGatingFunc : Nat
  ropeBase : F32
  ropeScalingType : String
  yarnFactor : F32
  yarnOriginalContext : Nat
  deriving DecidableEq, Repr

structure TensorSpec where
  name : String
  role : Hy3TensorRole
  shape : List Nat
  ty : GgmlType
  deriving DecidableEq, Repr

def maxBlockCount : Nat := 1024
def maxModelDimension : Nat := 16777216
def maxHeadCount : Nat := 4096
def maxHeadDimension : Nat := 65536
def maxExpertCount : Nat := 65536
def maxSchemaTensorCount : Nat := 16382

/-- `for x in xs { check(x)?; }`. -/
def checkAll {ε α : Type} (check : α → Except ε Unit) : List α → Except ε Unit
  | [] => .ok ()
  | x :: xs => do
      check x
      checkAll check xs

theorem checkAll_eq_ok {ε α : Type} {check : α → Except ε Unit} {xs : List α} {u : Unit} :
    checkAll check xs = .ok u ↔ ∀ x ∈ xs, check x = .ok () := by
  induction xs with
  | nil => simp [checkAll]
  | cons x xs ih =>
      rw [checkAll, except_bind_ok_iff, List.forall_mem_cons]
      exact ⟨fun ⟨_, hx, hxs⟩ => ⟨hx, ih.mp hxs⟩, fun ⟨hx, hxs⟩ => ⟨(), hx, ih.mpr hxs⟩⟩

/-! ### Configurations -/

def checkRange (field : String) (actual minimum maximum : Nat) : Except Hy3Error Unit :=
  ensure (minimum ≤ actual ∧ actual ≤ maximum) (.configOutOfRange field minimum maximum actual)

/-- The fields that are at least one, with what they are at most. -/
def Hy3ModelConfig.ranges (config : Hy3ModelConfig) : List (String × Nat × Nat) :=
  [("block_count", config.blockCount, maxBlockCount),
    ("embedding_length", config.embeddingLength, maxModelDimension),
    ("dense_ffn_length", config.denseFfnLength, maxModelDimension),
    ("expert_ffn_length", config.expertFfnLength, maxModelDimension),
    ("shared_expert_ffn_length", config.sharedExpertFfnLength, maxModelDimension),
    ("attention_head_count", config.attentionHeadCount, maxHeadCount),
    ("attention_kv_head_count", config.attentionKvHeadCount, maxHeadCount),
    ("key_length", config.keyLength, maxHeadDimension),
    ("value_length", config.valueLength, maxHeadDimension),
    ("expert_count", config.expertCount, maxExpertCount),
    ("expert_used_count", config.expertUsedCount, config.expertCount),
    ("vocabulary_size", config.vocabularySize, maxModelDimension)]

def validateSchemaConfig (config : Hy3ModelConfig) : Except Hy3Error Unit := do
  checkAll (fun (field, actual, maximum) => checkRange field actual 1 maximum) config.ranges
  ensure (config.attentionKvHeadCount ≤ config.attentionHeadCount)
    (.configRelation "attention_kv_head_count"
      ("at most attention_head_count " ++ toString config.attentionHeadCount)
      (toString config.attentionKvHeadCount))

/-- A field of an accepted configuration is in its range. -/
theorem validateSchemaConfig_range {config : Hy3ModelConfig}
    (h : validateSchemaConfig config = .ok ())
    {range : String × Nat × Nat} (hmem : range ∈ config.ranges) :
    1 ≤ range.2.1 ∧ range.2.1 ≤ range.2.2 := by
  obtain ⟨_, hranges, -⟩ := except_bind_ok_iff.mp h
  exact ensure_eq_ok.mp (checkAll_eq_ok.mp hranges range hmem)

/-! ### The generated schema -/

/-- `checked_mul` of a derived dimension. -/
def derivedDimension (name : String) (left right : Nat) : Except Hy3Error Nat :=
  okOr (checkedMul left right) (.arithmetic name "derived tensor dimension")

/-- The widths of the attention projections. -/
structure AttentionWidths where
  query : Nat
  key : Nat
  value : Nat
  output : Nat

open Hy3TensorRole in
/-- The entries of one layer. -/
def layerSpecs (config : Hy3ModelConfig) (widths : AttentionWidths) (layer : Nat) :
    List TensorSpec :=
  let hidden := config.embeddingLength
  let block := blockName layer
  [⟨block "attn_k.weight", attentionK layer, [hidden, widths.key], .iq2S⟩,
    ⟨block "attn_k_norm.weight", attentionKNorm layer, [config.keyLength], .f32⟩,
    ⟨block "attn_norm.weight", attentionNorm layer, [hidden], .f32⟩,
    ⟨block "attn_output.weight", attentionOutput layer, [widths.output, hidden], .iq3S⟩,
    ⟨block "attn_q.weight", attentionQ layer, [hidden, widths.query], .iq2S⟩,
    ⟨block "attn_q_norm.weight", attentionQNorm layer, [config.keyLength], .f32⟩,
    ⟨block "attn_v.weight", attentionV layer, [hidden, widths.value], .q4K⟩,
    ⟨block "ffn_norm.weight", ffnNorm layer, [hidden], .f32⟩] ++
  if layer = 0 then
    [⟨block "ffn_down.weight", denseDown layer, [config.denseFfnLength, hidden], .iq3S⟩,
      ⟨block "ffn_gate.weight", denseGate layer, [hidden, config.denseFfnLength], .iq2S⟩,
      ⟨block "ffn_up.weight", denseUp layer, [hidden, config.denseFfnLength], .iq2S⟩]
  else
    [⟨block "exp_probs_b", routerSelectionBias layer, [config.expertCount], .f32⟩,
      ⟨block "ffn_gate_inp.weight", routerInput layer, [hidden, config.expertCount], .f32⟩,
      ⟨block "ffn_gate_exps.weight", routedGate layer,
      [hidden, config.expertFfnLength, config.expertCount], .iq2S⟩,
      ⟨block "ffn_up_exps.weight", routedUp layer,
      [hidden, config.expertFfnLength, config.expertCount], .iq2S⟩,
      ⟨block "ffn_down_exps.weight", routedDown layer,
      [config.expertFfnLength, hidden, config.expertCount],
        if layer ≤ 5 then .iq3S else .iq2S⟩,
      ⟨block "ffn_gate_shexp.weight", sharedGate layer,
      [hidden, config.sharedExpertFfnLength], .iq2S⟩,
      ⟨block "ffn_up_shexp.weight", sharedUp layer, [hidden, config.sharedExpertFfnLength], .iq2S⟩,
      ⟨block "ffn_down_shexp.weight", sharedDown layer, [config.sharedExpertFfnLength, hidden],
        if layer ≤ 4 then .iq3S else .iq2S⟩]

open Hy3TensorRole in
/-- `generate_schema_for_validated_selected_iq2_m`. -/
def generateSchema (granted : String → Bool) (config : Hy3ModelConfig) :
    Except Hy3Error (List TensorSpec) := do
  validateSchemaConfig config
  let query ← derivedDimension "blk.*.attn_q.weight" config.attentionHeadCount config.keyLength
  let key ← derivedDimension "blk.*.attn_k.weight" config.attentionKvHeadCount config.keyLength
  let value ← derivedDimension "blk.*.attn_v.weight" config.attentionKvHeadCount config.valueLength
  let output ← derivedDimension "blk.*.attn_output.weight" config.attentionHeadCount
    config.valueLength
  let capacity ← okOr
    (((checkedSub config.blockCount 1).bind (checkedMul · 16)).bind (checkedAdd · 14))
    (.arithmetic "generated schema" "schema entry capacity")
  ensure (granted "generated tensor schema") (.allocationFailed "generated tensor schema" capacity)
  pure ([⟨"token_embd.weight", tokenEmbedding,
    [config.embeddingLength, config.vocabularySize], .iq3S⟩,
    ⟨"output_norm.weight", outputNorm, [config.embeddingLength], .f32⟩,
    ⟨"output.weight", Hy3TensorRole.output, [config.embeddingLength, config.vocabularySize],
    .q5K⟩] ++
    (List.range config.blockCount).flatMap (layerSpecs config { query, key, value, output }))

theorem layerSpecs_roles (config : Hy3ModelConfig) (widths : AttentionWidths) (layer : Nat) :
    (layerSpecs config widths layer).map TensorSpec.role = Hy3TensorRole.ofLayer layer := by
  unfold layerSpecs Hy3TensorRole.ofLayer
  split <;> rfl

/-- The generated schema has every role once, in order. -/
theorem generateSchema_eq_ok {granted : String → Bool} {config : Hy3ModelConfig}
    {schema : List TensorSpec} (h : generateSchema granted config = .ok schema) :
    validateSchemaConfig config = .ok () ∧
      schema.map TensorSpec.role = Hy3TensorRole.all config.blockCount := by
  obtain ⟨_, hconfig, h⟩ := except_bind_ok_iff.mp h
  iterate 6 obtain ⟨_, -, h⟩ := except_bind_ok_iff.mp h
  cases h
  refine ⟨hconfig, ?_⟩
  rw [List.map_append, List.map_flatMap, Hy3TensorRole.all]
  exact congrArg _ (List.flatMap_congr fun layer _ => layerSpecs_roles config _ layer)

/-! ### The schema of a profile -/

/-- The check of one entry of an explicit schema. -/
def validateSpec (config : Hy3ModelConfig) (spec : TensorSpec) : Except Hy3Error Unit := do
  let classified ← Hy3TensorRole.classify spec.name config.blockCount
  ensure (classified = spec.role)
    (.invalidTensorName spec.name "a tensor name matching its explicit semantic role")
  ensure (¬ (spec.shape = [] ∨ spec.shape.length > 3 ∨ 0 ∈ spec.shape))
    (.tensorShape spec.name [1] spec.shape)
  ensure (¬ (spec.role.isRoutedExpert = true ∧
    (spec.shape.length ≠ 3 ∨ spec.shape.getD 2 0 ≠ config.expertCount)))
    (.expertDimension spec.name config.expertCount (spec.shape.getD 2 0))

/-- The entries after those with the names `seen`. -/
def validateSpecs (config : Hy3ModelConfig) : List String → List TensorSpec → Except Hy3Error Unit
  | _, [] => .ok ()
  | seen, spec :: schema => do
      ensure (spec.name ∉ seen) (.duplicateTensor spec.name)
      validateSpec config spec
      validateSpecs config (spec.name :: seen) schema

def validateExplicitSchema (granted : String → Bool) (config : Hy3ModelConfig)
    (schema : List TensorSpec) :
    Except Hy3Error Unit := do
  validateSchemaConfig config
  ensure (¬ (schema = [] ∨ schema.length > maxSchemaTensorCount))
    (.tensorDirectoryCount 1 schema.length)
  ensure (granted "explicit profile schema names")
    (.allocationFailed "explicit profile schema names" schema.length)
  validateSpecs config [] schema

theorem validateSpecs_eq_ok {config : Hy3ModelConfig} {seen : List String}
    {schema : List TensorSpec} {u : Unit} (h : validateSpecs config seen schema = .ok u) :
    (schema.map TensorSpec.name).Nodup ∧ (∀ spec ∈ schema, spec.name ∉ seen) ∧
      ∀ spec ∈ schema, validateSpec config spec = .ok () := by
  induction schema generalizing seen with
  | nil => simp
  | cons spec schema ih =>
      obtain ⟨_, hnew, h⟩ := except_bind_ok_iff.mp h
      obtain ⟨_, hspec, h⟩ := except_bind_ok_iff.mp h
      obtain ⟨hnodup, hseen, hall⟩ := ih h
      refine ⟨?_, ?_, List.forall_mem_cons.mpr ⟨hspec, hall⟩⟩
      · rw [List.map_cons, List.nodup_cons, List.mem_map]
        refine ⟨?_, hnodup⟩
        rintro ⟨other, hother, hname⟩
        exact hseen other hother (hname ▸ List.mem_cons_self)
      · refine List.forall_mem_cons.mpr ⟨ensure_eq_ok.mp hnew, fun other hother hmem => ?_⟩
        exact hseen other hother (List.mem_cons_of_mem _ hmem)

theorem validateSpec_role {config : Hy3ModelConfig} {spec : TensorSpec}
    (h : validateSpec config spec = .ok ()) :
    spec.role ∈ Hy3TensorRole.all config.blockCount ∧ spec.role.name = spec.name := by
  obtain ⟨classified, hclassified, h⟩ := except_bind_ok_iff.mp h
  obtain ⟨_, hrole, -⟩ := except_bind_ok_iff.mp h
  rw [← ensure_eq_ok.mp hrole]
  exact Hy3TensorRole.classify_eq_ok hclassified

/-- An explicit schema has no role twice and no role of a layer the model does not have. -/
theorem validateExplicitSchema_eq_ok {granted : String → Bool} {config : Hy3ModelConfig}
    {schema : List TensorSpec} (h : validateExplicitSchema granted config schema = .ok ()) :
    validateSchemaConfig config = .ok () ∧ (schema.map TensorSpec.role).Nodup ∧
      ∀ role ∈ schema.map TensorSpec.role, role ∈ Hy3TensorRole.all config.blockCount := by
  obtain ⟨_, hconfig, h⟩ := except_bind_ok_iff.mp h
  obtain ⟨_, -, h⟩ := except_bind_ok_iff.mp h
  obtain ⟨_, -, h⟩ := except_bind_ok_iff.mp h
  obtain ⟨hnodup, -, hall⟩ := validateSpecs_eq_ok h
  refine ⟨hconfig, ?_, fun role hrole => ?_⟩
  · refine List.Nodup.of_map Hy3TensorRole.name ?_
    have hnames : (schema.map TensorSpec.role).map Hy3TensorRole.name =
        schema.map TensorSpec.name := by
      rw [List.map_map]
      exact List.map_congr_left fun spec hspec => (validateSpec_role (hall spec hspec)).2
    rwa [hnames]
  · obtain ⟨spec, hspec, rfl⟩ := List.mem_map.mp hrole
    exact (validateSpec_role (hall spec hspec)).1

/-! ### A directory against its schema -/

/-- `TensorLocation`: a descriptor, and where its payload lies in a shard. -/
structure TensorLocation where
  shardIndex : Nat
  descriptor : TensorDesc
  start : Nat
  stop : Nat
  located : ∃ dataOffset fileLen, descriptor.checkedAbsoluteRange dataOffset fileLen =
    .ok (start, stop)

/-- The index of the descriptors by their names. -/
def indexDescriptors : List TensorDesc → List TensorDesc → Except Hy3Error (List TensorDesc)
  | index, [] => .ok index
  | index, tensor :: tensors => do
      ensure (tensor.name ∉ index.map TensorDesc.name) (.duplicateTensor tensor.name)
      indexDescriptors (index ++ [tensor]) tensors

def validateRoutedShape (tensor : TensorDesc) (expertCount : Nat) : Except Hy3Error Unit := do
  ensure (tensor.shape.length = 3) (.tensorRank tensor.name 3 tensor.shape.length)
  ensure (tensor.shape.getD 2 0 = expertCount)
    (.expertDimension tensor.name expertCount (tensor.shape.getD 2 0))

/-- The loop over the expected entries; each takes its descriptor out of the index. -/
def matchSchema (expertCount : Nat) : List TensorSpec → List TensorDesc →
      Except Hy3Error (List TensorDesc)
  | [], index => .ok index
  | expected :: schema, index => do
      let actual ← okOr (index.find? (·.name = expected.name))
        (.missingTensor expected.name expected.shape expected.ty)
      if expected.role.isRoutedExpert then validateRoutedShape actual expertCount
      ensure (actual.shape = expected.shape)
        (.tensorShape expected.name expected.shape actual.shape)
      ensure (actual.ty = expected.ty) (.tensorType expected.name expected.ty actual.ty)
      matchSchema expertCount schema (index.filter (·.name ≠ expected.name))

/-- `validate_descriptor_iter_against`. Of several unexpected tensors, any may be the one that is
named. -/
def validateDescriptorsAgainst (granted : String → Bool) (config : Hy3ModelConfig)
    (schema : List TensorSpec)
    (tensors : List TensorDesc) : Except Hy3Error Unit := do
  ensure (tensors.length ≤ maxSchemaTensorCount)
    (.tensorDirectoryCount schema.length tensors.length)
  ensure (granted "tensor validation index")
    (.allocationFailed "tensor validation index" tensors.length)
  let index ← indexDescriptors [] tensors
  match ← matchSchema config.expertCount schema index with
  | [] => pure ()
  | unexpected :: _ => .error (.unexpectedTensor unexpected.name)

end LightBridge.Hy3
