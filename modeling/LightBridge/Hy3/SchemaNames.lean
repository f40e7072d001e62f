import LightBridge.Hy3.SchemaCheck

/-! The names of the generated schema are read back as the roles they were made for. -/
namespace LightBridge.Hy3
open Foundation
namespace Hy3TensorRole

/-! ### Names -/

theorem parseLayer_toDigits {layer : Nat} (h : layer < 2 ^ 32) :
    parseLayer (Nat.toDigits 10 layer) = some layer := by
  obtain ⟨hnonempty, hdigits, hleading⟩ := isDecimal_toDigits layer
  unfold parseLayer
  rw [if_neg, Nat.ofDigitChars_ten_toDigits, if_pos h]
  rintro (hempty | hdigit | hzero)
  · exact hnonempty hempty
  · exact hdigit (List.all_eq_true.mpr hdigits)
  · exact hleading hzero

theorem toList_blockName (layer : Nat) (suffix : String) :
    (blockName layer suffix).toList =
      "blk.".toList ++ (Nat.toDigits 10 layer ++ ['.'] ++ suffix.toList) := by
  simp [blockName, String.toList_append]

/-- The name of a block is read as its layer and its suffix. -/
theorem classifyBlock_blockName {layer blockCount : Nat} {suffix : String}
    (hlayer : layer < blockCount) (hblocks : blockCount ≤ 2 ^ 32) :
    classifyBlock (blockName layer suffix) blockCount =
      okOr (ofSuffix layer suffix) (invalidName (blockName layer suffix)) := by
  have hprefix : stripPrefix "blk.".toList (blockName layer suffix).toList =
      some (Nat.toDigits 10 layer ++ ['.'] ++ suffix.toList) :=
    stripPrefix_eq_some_iff.mpr (toList_blockName layer suffix)
  have hdot : '.' ∉ Nat.toDigits 10 layer := by
    intro hmem
    exact absurd (Nat.isDigit_of_mem_toDigits (by decide) (by decide) hmem) (by decide)
  rw [classifyBlock, hprefix]
  simp only [okOr, except_ok_bind, splitOnce_append_of_not_mem hdot,
    parseLayer_toDigits (hlayer.trans_le hblocks), ensure, if_pos hlayer, String.ofList_toList]

/-- No name of a block is one of the names outside the blocks. -/
theorem classify_blockName (layer blockCount : Nat) (suffix : String) :
    classify (blockName layer suffix) blockCount =
      classifyBlock (blockName layer suffix) blockCount := by
  have hhead : ∀ name : String, name.toList.head? ≠ some 'b' → blockName layer suffix ≠ name := by
    rintro name hname rfl
    rw [toList_blockName] at hname
    exact hname rfl
  unfold classify
  split
  · rename_i heq
    exact absurd heq (hhead _ (by decide))
  · rename_i heq
    exact absurd heq (hhead _ (by decide))
  · rename_i heq
    exact absurd heq (hhead _ (by decide))
  · rfl

/-- The role of a layer has the suffix it is read from. -/
theorem exists_suffix {layer : Nat} {role : Hy3TensorRole} (h : role ∈ ofLayer layer) :
    ∃ suffix, role.name = blockName layer suffix ∧ ofSuffix layer suffix = some role := by
  unfold ofLayer at h
  split at h
  · rename_i hdense
    subst hdense
    simp only [List.cons_append, List.nil_append, List.mem_cons, List.not_mem_nil, or_false] at h
    rcases h with rfl | rfl | rfl | rfl | rfl | rfl | rfl | rfl | rfl | rfl | rfl <;>
      exact ⟨_, rfl, rfl⟩
  · rename_i hmoe
    have hpos := Nat.pos_of_ne_zero hmoe
    simp only [List.cons_append, List.nil_append, List.mem_cons, List.not_mem_nil, or_false] at h
    rcases h with rfl | rfl | rfl | rfl | rfl | rfl | rfl | rfl | rfl | rfl | rfl | rfl | rfl | rfl
      | rfl | rfl <;>
      exact ⟨_, rfl, by simp [ofSuffix, hpos]⟩

/-- Every role of the model is read back from its name. -/
theorem classify_name {role : Hy3TensorRole} {blockCount : Nat} (h : role ∈ all blockCount)
    (hblocks : blockCount ≤ 2 ^ 32) :
    classify role.name blockCount = .ok role := by
  rcases List.mem_append.mp h with hglobal | hlayer
  · simp only [List.mem_cons, List.not_mem_nil, or_false] at hglobal
    rcases hglobal with rfl | rfl | rfl <;> rfl
  · obtain ⟨layer, hlt, hmem⟩ := List.mem_flatMap.mp hlayer
    obtain ⟨suffix, hname, hrole⟩ := exists_suffix hmem
    rw [hname, classify_blockName, classifyBlock_blockName (List.mem_range.mp hlt) hblocks, hrole]
    rfl

/-- Two names with one role are one name. -/
theorem classify_injective {name name' : String} {blockCount blockCount' : Nat}
    {role : Hy3TensorRole}
    (h : classify name blockCount = .ok role) (h' : classify name' blockCount' = .ok role) :
    name = name' :=
  (classify_eq_ok h).2.symm.trans (classify_eq_ok h').2

theorem length_ofLayer (layer : Nat) : (ofLayer layer).length = if layer = 0 then 11 else 16 := by
  unfold ofLayer
  split <;> rfl

theorem length_all (blockCount : Nat) (h : 1 ≤ blockCount) :
    (all blockCount).length = 14 + 16 * (blockCount - 1) := by
  obtain ⟨moeLayers, rfl⟩ := Nat.exists_eq_add_of_le' h
  induction moeLayers with
  | zero => rfl
  | succ moeLayers ih =>
      have hbefore := ih (by omega)
      unfold all at hbefore ⊢
      rw [List.range_succ, List.flatMap_append, List.flatMap_singleton, ← List.append_assoc,
        List.length_append, hbefore, length_ofLayer, if_neg (by omega)]
      omega

end Hy3TensorRole

/-! ### The generated schema -/

/-- What the generator makes of a configuration. -/
theorem generateSchema_eq_some {granted : String → Bool} {config : Hy3ModelConfig}
    {schema : List TensorSpec} (h : generateSchema granted config = .ok schema) :
    validateSchemaConfig config = .ok () ∧ ∃ widths : AttentionWidths,
      (widths.query = config.attentionHeadCount * config.keyLength ∧
        widths.key = config.attentionKvHeadCount * config.keyLength ∧
        widths.value = config.attentionKvHeadCount * config.valueLength ∧
        widths.output = config.attentionHeadCount * config.valueLength) ∧
      schema = [⟨"token_embd.weight", .tokenEmbedding,
        [config.embeddingLength, config.vocabularySize], .iq3S⟩,
        ⟨"output_norm.weight", .outputNorm, [config.embeddingLength], .f32⟩,
        ⟨"output.weight", .output, [config.embeddingLength, config.vocabularySize], .q5K⟩] ++
        (List.range config.blockCount).flatMap (layerSpecs config widths) := by
  simp only [generateSchema, except_bind_ok_iff, derivedDimension, okOr_eq_ok,
    checkedMul_eq_some] at h
  obtain ⟨_, hconfig, query, ⟨-, hquery⟩, key, ⟨-, hkey⟩, value, ⟨-, hvalue⟩, output, ⟨-, houtput⟩,
    _, -, _, -, hmade⟩ := h
  cases hmade
  exact ⟨hconfig, ⟨query, key, value, output⟩, ⟨hquery, hkey, hvalue, houtput⟩, rfl⟩

/-- The dimensions of an accepted configuration are positive, and small enough for their products.
-/
structure Hy3ModelConfig.Bounded (config : Hy3ModelConfig) : Prop where
  blockCount : 1 ≤ config.blockCount ∧ config.blockCount ≤ maxBlockCount
  embeddingLength : 1 ≤ config.embeddingLength
  denseFfnLength : 1 ≤ config.denseFfnLength
  expertFfnLength : 1 ≤ config.expertFfnLength
  sharedExpertFfnLength : 1 ≤ config.sharedExpertFfnLength
  attentionHeadCount : 1 ≤ config.attentionHeadCount ∧ config.attentionHeadCount ≤ maxHeadCount
  attentionKvHeadCount : 1 ≤ config.attentionKvHeadCount ∧
    config.attentionKvHeadCount ≤ maxHeadCount
  keyLength : 1 ≤ config.keyLength ∧ config.keyLength ≤ maxHeadDimension
  valueLength : 1 ≤ config.valueLength ∧ config.valueLength ≤ maxHeadDimension
  expertCount : 1 ≤ config.expertCount
  vocabularySize : 1 ≤ config.vocabularySize

theorem validateSchemaConfig_bounded {config : Hy3ModelConfig}
    (h : validateSchemaConfig config = .ok ()) : config.Bounded := by
  have hrange : ∀ field actual maximum, (field, actual, maximum) ∈ config.ranges → 1 ≤ actual ∧
      actual ≤ maximum :=
    fun field actual maximum hmem => validateSchemaConfig_range h hmem
  exact
    { blockCount := hrange "block_count" _ _ (by simp [Hy3ModelConfig.ranges])
      embeddingLength := (hrange "embedding_length" _ maxModelDimension
      (by simp [Hy3ModelConfig.ranges])).1
      denseFfnLength := (hrange "dense_ffn_length" _ maxModelDimension
      (by simp [Hy3ModelConfig.ranges])).1
      expertFfnLength := (hrange "expert_ffn_length" _ maxModelDimension
      (by simp [Hy3ModelConfig.ranges])).1
      sharedExpertFfnLength := (hrange "shared_expert_ffn_length" _ maxModelDimension
      (by simp [Hy3ModelConfig.ranges])).1
      attentionHeadCount := hrange "attention_head_count" _ _ (by simp [Hy3ModelConfig.ranges])
      attentionKvHeadCount := hrange "attention_kv_head_count" _ _ (by simp [Hy3ModelConfig.ranges])
      keyLength := hrange "key_length" _ _ (by simp [Hy3ModelConfig.ranges])
      valueLength := hrange "value_length" _ _ (by simp [Hy3ModelConfig.ranges])
      expertCount := (hrange "expert_count" _ maxExpertCount (by simp [Hy3ModelConfig.ranges])).1
      vocabularySize := (hrange "vocabulary_size" _ maxModelDimension
      (by simp [Hy3ModelConfig.ranges])).1 }

/-- An accepted configuration has a schema, when there is memory for it. -/
theorem generateSchema_exists {granted : String → Bool} {config : Hy3ModelConfig}
    (h : validateSchemaConfig config = .ok ())
    (memory : granted "generated tensor schema" = true) :
    ∃ schema, generateSchema granted config = .ok schema := by
  have hbounds := validateSchemaConfig_bounded h
  have hproduct : ∀ heads width, heads ≤ maxHeadCount → width ≤ maxHeadDimension →
      heads * width ≤ usizeMax := by
    intro heads width hheads hwidth
    exact (Nat.mul_le_mul hheads hwidth).trans (by decide)
  obtain ⟨-, hheads⟩ := hbounds.attentionHeadCount
  obtain ⟨-, hkvHeads⟩ := hbounds.attentionKvHeadCount
  obtain ⟨-, hkey⟩ := hbounds.keyLength
  obtain ⟨-, hvalue⟩ := hbounds.valueLength
  obtain ⟨hblock, hblocks⟩ := hbounds.blockCount
  have hcapacity : (((checkedSub config.blockCount 1).bind (checkedMul · 16)).bind
      (checkedAdd · 14)) = some ((config.blockCount - 1) * 16 + 14) := by
    unfold maxBlockCount at hblocks
    rw [checkedSub_of_le hblock, Option.bind_some, checkedMul_of_le (by unfold usizeMax; omega),
      Option.bind_some, checkedAdd_of_le (by unfold usizeMax; omega)]
  rw [generateSchema, h, except_ok_bind]
  simp only [derivedDimension, checkedMul_of_le (hproduct _ _ hheads hkey),
    checkedMul_of_le (hproduct _ _ hkvHeads hkey), checkedMul_of_le (hproduct _ _ hkvHeads hvalue),
    checkedMul_of_le (hproduct _ _ hheads hvalue), hcapacity, okOr, except_ok_bind, ensure,
    memory, if_true]
  exact ⟨_, rfl⟩

/-- An entry of the schema has the name of its role, and a shape that an explicit schema may have.
-/
structure TensorSpec.Fits (config : Hy3ModelConfig) (spec : TensorSpec) : Prop where
  named : spec.name = spec.role.name
  shaped : ¬ (spec.shape = [] ∨ spec.shape.length > 3 ∨ 0 ∈ spec.shape)
  routed : ¬ (spec.role.isRoutedExpert = true ∧
    (spec.shape.length ≠ 3 ∨ spec.shape.getD 2 0 ≠ config.expertCount))

theorem layerSpecs_fit {config : Hy3ModelConfig} (h : config.Bounded) {widths : AttentionWidths}
    (hquery : 1 ≤ widths.query) (hkey : 1 ≤ widths.key) (hvalue : 1 ≤ widths.value)
    (houtput : 1 ≤ widths.output) {layer : Nat} :
    ∀ spec ∈ layerSpecs config widths layer, spec.Fits config := by
  obtain ⟨-, hembedding, hdense, hexpert, hshared, -, -, ⟨hkeyLength, -⟩, -, hexperts, -⟩ := h
  intro spec hspec
  unfold layerSpecs at hspec
  dsimp only at hspec
  rcases List.mem_append.mp hspec with hcommon | hown
  · simp only [List.mem_cons, List.not_mem_nil, or_false] at hcommon
    rcases hcommon with rfl | rfl | rfl | rfl | rfl | rfl | rfl | rfl <;>
      exact ⟨rfl, by simp; omega, by simp [Hy3TensorRole.isRoutedExpert]⟩
  · split at hown
    · simp only [List.mem_cons, List.not_mem_nil, or_false] at hown
      rcases hown with rfl | rfl | rfl <;> exact ⟨rfl, by simp; omega,
        by simp [Hy3TensorRole.isRoutedExpert]⟩
    · simp only [List.mem_cons, List.not_mem_nil, or_false] at hown
      rcases hown with rfl | rfl | rfl | rfl | rfl | rfl | rfl | rfl <;>
        exact ⟨rfl, by simp; omega, by simp [Hy3TensorRole.isRoutedExpert]⟩

theorem schema_fits {granted : String → Bool} {config : Hy3ModelConfig} {schema : List TensorSpec}
    (h : generateSchema granted config = .ok schema) : ∀ spec ∈ schema, spec.Fits config := by
  obtain ⟨hconfig, widths, ⟨hquery, hkey, hvalue, houtput⟩, rfl⟩ := generateSchema_eq_some h
  have hbounds := validateSchemaConfig_bounded hconfig
  have hembedding := hbounds.embeddingLength
  have hvocabulary := hbounds.vocabularySize
  intro spec hspec
  rcases List.mem_append.mp hspec with hglobal | hlayer
  · simp only [List.mem_cons, List.not_mem_nil, or_false] at hglobal
    rcases hglobal with rfl | rfl | rfl <;> exact ⟨rfl, by simp; omega,
      by simp [Hy3TensorRole.isRoutedExpert]⟩
  · obtain ⟨layer, -, hmem⟩ := List.mem_flatMap.mp hlayer
    have hpositive : ∀ {a b : Nat}, 1 ≤ a → 1 ≤ b → 1 ≤ a * b := fun ha hb => Nat.mul_pos ha hb
    refine layerSpecs_fit hbounds ?_ ?_ ?_ ?_ spec hmem
    · exact hquery ▸ hpositive hbounds.attentionHeadCount.1 hbounds.keyLength.1
    · exact hkey ▸ hpositive hbounds.attentionKvHeadCount.1 hbounds.keyLength.1
    · exact hvalue ▸ hpositive hbounds.attentionKvHeadCount.1 hbounds.valueLength.1
    · exact houtput ▸ hpositive hbounds.attentionHeadCount.1 hbounds.valueLength.1

/-- A list of checked entries of distinct names is accepted. -/
theorem validateSpecs_of_forall {config : Hy3ModelConfig} {seen : List String}
    {schema : List TensorSpec} (distinct : (schema.map TensorSpec.name).Nodup)
    (unseen : ∀ spec ∈ schema, spec.name ∉ seen)
    (checked : ∀ spec ∈ schema, validateSpec config spec = .ok ()) :
    validateSpecs config seen schema = .ok () := by
  induction schema generalizing seen with
  | nil => rfl
  | cons spec schema ih =>
      obtain ⟨hspec, hrest⟩ := List.nodup_cons.mp distinct
      obtain ⟨hnew, hunseen⟩ := List.forall_mem_cons.mp unseen
      obtain ⟨hchecked, hall⟩ := List.forall_mem_cons.mp checked
      rw [validateSpecs, (ensure_eq_ok (u := ())).mpr hnew, except_ok_bind, hchecked,
        except_ok_bind]
      refine ih hrest (fun other hother hmem => ?_) hall
      rcases List.mem_cons.mp hmem with hsame | hmem
      · exact hspec (hsame ▸ List.mem_map_of_mem hother)
      · exact hunseen other hother hmem

/-- Names are read as at most one role each, and the schema that is generated for an accepted
configuration has every role of its layers once, under a name that is read as this role, and is
accepted as an explicit schema, for every number of layers that is admitted. -/
theorem schema_names_agree :
    (∀ name name' blockCount blockCount' role, Hy3TensorRole.classify name blockCount = .ok role →
        Hy3TensorRole.classify name' blockCount' = .ok role → name = name') ∧
      ∀ (granted : String → Bool) (config : Hy3ModelConfig), validateSchemaConfig config = .ok () →
        (granted "generated tensor schema" = true → ∃ schema,
          generateSchema granted config = .ok schema) ∧
        ∀ schema, generateSchema granted config = .ok schema →
          schema.length = 14 + 16 * (config.blockCount - 1) ∧ (schema.map TensorSpec.name).Nodup ∧
          (∀ spec ∈ schema, Hy3TensorRole.classify spec.name config.blockCount = .ok spec.role) ∧
          (granted "explicit profile schema names" = true →
            validateExplicitSchema granted config schema = .ok ()) := by
  refine ⟨fun _ _ _ _ _ h h' => Hy3TensorRole.classify_injective h h', fun granted config hconfig =>
    ⟨generateSchema_exists hconfig, fun schema hschema => ?_⟩⟩
  obtain ⟨hblock, hblocks⟩ := (validateSchemaConfig_bounded hconfig).blockCount
  have hroles := (generateSchema_eq_ok hschema).2
  have hfits := schema_fits hschema
  have hlength : schema.length = 14 + 16 * (config.blockCount - 1) := by
    rw [← Hy3TensorRole.length_all config.blockCount hblock, ← hroles, List.length_map]
  have hclassified : ∀ spec ∈ schema, Hy3TensorRole.classify spec.name config.blockCount =
      .ok spec.role := by
    intro spec hspec
    have hrole : spec.role ∈ Hy3TensorRole.all config.blockCount :=
      hroles ▸ List.mem_map_of_mem hspec
    rw [(hfits spec hspec).named]
    exact Hy3TensorRole.classify_name hrole (hblocks.trans (by decide))
  have hdistinct : (schema.map TensorSpec.name).Nodup := by
    refine List.Nodup.map_on (fun spec hspec other hother hname => ?_)
      (hroles ▸ Hy3TensorRole.nodup_all _ :
      (schema.map TensorSpec.role).Nodup).of_map
    have hrole : spec.role = other.role := by
      have hsame := hclassified other hother
      rw [← hname, hclassified spec hspec] at hsame
      exact Except.ok.inj hsame
    exact List.inj_on_of_nodup_map (hroles ▸ Hy3TensorRole.nodup_all _) hspec hother hrole
  refine ⟨hlength, hdistinct, hclassified, fun memory => ?_⟩
  have hcount : ¬ (schema = [] ∨ schema.length > maxSchemaTensorCount) := by
    unfold maxBlockCount at hblocks
    rintro (rfl | hmany)
    · rw [List.length_nil] at hlength
      omega
    · unfold maxSchemaTensorCount at hmany
      omega
  rw [validateExplicitSchema, hconfig, except_ok_bind, (ensure_eq_ok (u := ())).mpr hcount,
    except_ok_bind,
    (ensure_eq_ok (u := ())).mpr memory, except_ok_bind]
  refine validateSpecs_of_forall hdistinct (fun _ _ => List.not_mem_nil) fun spec hspec => ?_
  rw [validateSpec, hclassified spec hspec, except_ok_bind, (ensure_eq_ok (u := ())).mpr rfl,
    except_ok_bind,
    (ensure_eq_ok (u := ())).mpr (hfits spec hspec).shaped, except_ok_bind]
  exact ensure_eq_ok.mpr (hfits spec hspec).routed

/-- A configuration of the largest number of layers. -/
def largestConfig : Hy3ModelConfig := { configOf 2 with blockCount := maxBlockCount }

theorem schema_names_largest : ∃ schema, generateSchema (fun _ => true) largestConfig = .ok schema ∧
    schema.length = maxSchemaTensorCount ∧
      validateExplicitSchema (fun _ => true) largestConfig schema = .ok () := by
  obtain ⟨hgenerated, hagree⟩ := schema_names_agree.2 (fun _ => true) largestConfig rfl
  obtain ⟨schema, hschema⟩ := hgenerated rfl
  obtain ⟨hlength, -, -, hexplicit⟩ := hagree schema hschema
  exact ⟨schema, hschema, hlength, hexplicit rfl⟩

end LightBridge.Hy3
