import LightBridge.Hy3.Schema
import Mathlib.Data.List.Perm.Basic

/-! Which directories the check against a schema accepts. -/
namespace LightBridge.Hy3
open Foundation

/-- What a schema says of one tensor. -/
def TensorSpec.entry (spec : TensorSpec) : String × List Nat × GgmlType :=
  (spec.name, spec.shape, spec.ty)

/-- A descriptor, as a schema sees it. -/
def descriptorEntry (tensor : TensorDesc) : String × List Nat × GgmlType :=
  (tensor.name, tensor.shape, tensor.ty)

/-- A routed tensor has one slab for every expert. -/
def TensorSpec.Routed (expertCount : Nat) (spec : TensorSpec) : Prop :=
  spec.role.isRoutedExpert = true → spec.shape.length = 3 ∧ spec.shape.getD 2 0 = expertCount

/-- The index is the list itself, when no name is in it twice. -/
theorem indexDescriptors_eq_ok {index tensors final : List TensorDesc}
    (hindex : (index.map TensorDesc.name).Nodup) :
    indexDescriptors index tensors = .ok final ↔ final = index ++ tensors ∧
      (final.map TensorDesc.name).Nodup := by
  induction tensors generalizing index with
  | nil =>
      rw [indexDescriptors, List.append_nil]
      constructor
      · intro h
        cases h
        exact ⟨rfl, hindex⟩
      · rintro ⟨rfl, -⟩
        rfl
  | cons tensor tensors ih =>
      have happend : (index ++ [tensor]) ++ tensors = index ++ tensor :: tensors :=
        (List.append_cons index tensor tensors).symm
      rw [indexDescriptors, except_bind_ok_iff]
      simp only [ensure_eq_ok, exists_const]
      constructor
      · rintro ⟨hnew, h⟩
        have hnext : ((index ++ [tensor]).map TensorDesc.name).Nodup := by
          rw [List.map_append, List.map_singleton]
          exact List.nodup_append.mpr ⟨hindex, List.nodup_singleton _,
            fun name hname other hother heq =>
            hnew (List.mem_singleton.mp hother ▸ heq ▸ hname)⟩
        rw [← happend]
        exact (ih hnext).mp h
      · rintro ⟨rfl, hnodup⟩
        have hnext : ((index ++ [tensor]).map TensorDesc.name).Nodup := by
          rw [← happend, List.map_append] at hnodup
          exact hnodup.of_append_left
        refine ⟨?_, (ih hnext).mpr ⟨happend.symm, hnodup⟩⟩
        rw [List.map_append, List.map_singleton] at hnext
        intro hmem
        exact (List.nodup_append.mp hnext).2.2 _ hmem _ (List.mem_singleton_self _) rfl

/-- The descriptor with a name, among descriptors of distinct names. -/
theorem find?_name_eq_some {index : List TensorDesc} (hnodup : (index.map TensorDesc.name).Nodup)
    {name : String}
    {tensor : TensorDesc} : index.find? (·.name = name) = some tensor ↔ tensor ∈ index ∧
      tensor.name = name := by
  constructor
  · intro h
    have hname := List.find?_some h
    exact ⟨List.mem_of_find?_eq_some h, of_decide_eq_true hname⟩
  · rintro ⟨hmem, rfl⟩
    cases hfound : index.find? (·.name = tensor.name) with
    | none => exact absurd (decide_eq_true rfl) (List.find?_eq_none.mp hfound tensor hmem)
    | some other =>
        have hname := List.find?_some hfound
        rw [List.inj_on_of_nodup_map hnodup (List.mem_of_find?_eq_some hfound) hmem
          (of_decide_eq_true hname)]

/-- A descriptor taken out of an index of distinct names. -/
theorem perm_cons_filter {index : List TensorDesc} (hnodup : (index.map TensorDesc.name).Nodup)
    {tensor : TensorDesc}
    (hmem : tensor ∈ index) : index.Perm (tensor :: index.filter (·.name ≠ tensor.name)) := by
  induction index with
  | nil => cases hmem
  | cons first index ih =>
      obtain ⟨hfirst, hrest⟩ := List.nodup_cons.mp hnodup
      by_cases hname : first.name = tensor.name
      · have hsame : first = tensor := List.inj_on_of_nodup_map hnodup List.mem_cons_self hmem hname
        subst hsame
        have hall : index.filter (·.name ≠ first.name) = index := by
          rw [List.filter_eq_self]
          intro other hother
          exact decide_eq_true fun heq => hfirst (heq ▸ List.mem_map_of_mem hother)
        rw [List.filter_cons_of_neg (by simp), hall]
      · have hother : tensor ∈ index := (List.mem_cons.mp hmem).resolve_left fun heq =>
            hname (heq ▸ rfl)
        rw [List.filter_cons_of_pos (by simpa using hname)]
        exact ((ih hrest hother).cons first).trans (List.Perm.swap tensor first _)

theorem validateRoutedShape_eq_ok {tensor : TensorDesc} {expertCount : Nat} {u : Unit} :
    validateRoutedShape tensor expertCount = .ok u ↔ tensor.shape.length = 3 ∧
      tensor.shape.getD 2 0 = expertCount := by
  simp only [validateRoutedShape, except_bind_ok_iff, ensure_eq_ok, exists_const]

/-- The check of one entry: its descriptor, and what is left of the index. -/
theorem matchSchema_cons_eq_ok {expertCount : Nat} {expected : TensorSpec}
    {schema : List TensorSpec} {index rest : List TensorDesc}
    (hnodup : (index.map TensorDesc.name).Nodup) :
    matchSchema expertCount (expected :: schema) index = .ok rest ↔
      ∃ actual ∈ index, descriptorEntry actual = expected.entry ∧ expected.Routed expertCount ∧
        matchSchema expertCount schema (index.filter (·.name ≠ expected.name)) = .ok rest := by
  rw [matchSchema, except_bind_ok_iff]
  simp only [okOr_eq_ok, find?_name_eq_some hnodup, and_assoc]
  refine exists_congr fun actual => and_congr_right fun _ => ?_
  rw [descriptorEntry, TensorSpec.entry, Prod.mk.injEq, Prod.mk.injEq, and_assoc]
  refine and_congr_right fun _ => ?_
  unfold TensorSpec.Routed
  split
  · rename_i hrouted
    simp only [except_bind_ok_iff, ensure_eq_ok, exists_const, validateRoutedShape_eq_ok, hrouted,
      forall_const, and_assoc]
    constructor
    · rintro ⟨hrank, hcount, hshape, hty, h⟩
      rw [hshape] at hrank hcount
      exact ⟨hshape, hty, hrank, hcount, h⟩
    · rintro ⟨hshape, hty, hrank, hcount, h⟩
      rw [← hshape] at hrank hcount
      exact ⟨hrank, hcount, hshape, hty, h⟩
  · rename_i hnot
    have hfree : (expected.role.isRoutedExpert = true → expected.shape.length = 3 ∧
        expected.shape.getD 2 0 = expertCount) ↔ True := iff_true_intro fun h => absurd h hnot
    simp only [except_bind_ok_iff, ensure_eq_ok, exists_const, hfree, true_and, and_assoc]

/-- An index is used up exactly by a schema that it is a permutation of. -/
theorem matchSchema_eq_nil {expertCount : Nat} {schema : List TensorSpec} {index : List TensorDesc}
    (hschema : (schema.map TensorSpec.name).Nodup) (hindex : (index.map TensorDesc.name).Nodup) :
    matchSchema expertCount schema index = .ok [] ↔
      (index.map descriptorEntry).Perm (schema.map TensorSpec.entry) ∧ ∀ spec ∈ schema,
      spec.Routed expertCount := by
  induction schema generalizing index with
  | nil =>
      rw [matchSchema, List.map_nil, List.perm_nil, List.map_eq_nil_iff]
      exact ⟨fun h => ⟨Except.ok.inj h, by simp⟩, fun h => congrArg Except.ok h.1⟩
  | cons expected schema ih =>
      obtain ⟨hexpected, hrest⟩ := List.nodup_cons.mp hschema
      have hfilter : ((index.filter (·.name ≠ expected.name)).map TensorDesc.name).Nodup :=
        hindex.sublist (List.filter_sublist.map _)
      rw [matchSchema_cons_eq_ok hindex, ih hrest hfilter, List.map_cons, List.forall_mem_cons]
      have hsplit : ∀ actual ∈ index, descriptorEntry actual = expected.entry →
          (index.map descriptorEntry).Perm
            (expected.entry :: (index.filter (·.name ≠ expected.name)).map descriptorEntry) := by
        intro actual hmem hentry
        have hname : actual.name = expected.name := congrArg Prod.fst hentry
        have hperm := (perm_cons_filter hindex hmem).map descriptorEntry
        rwa [List.map_cons, hentry, hname] at hperm
      constructor
      · rintro ⟨actual, hmem, hentry, hrouted, hperm, hall⟩
        exact ⟨(hsplit actual hmem hentry).trans (hperm.cons _), hrouted, hall⟩
      · rintro ⟨hperm, hrouted, hall⟩
        obtain ⟨actual, hmem, hentry⟩ := List.mem_map.mp (hperm.mem_iff.mpr List.mem_cons_self)
        exact ⟨actual, hmem, hentry, hrouted,
          ((hsplit actual hmem hentry).symm.trans hperm).cons_inv, hall⟩

/-- The check accepts the permutations of the schema, within the limit of a directory, and none for
a schema in which a routed tensor does not have one slab for every expert. -/
theorem schema_accepts_permutations (granted : String → Bool) (config : Hy3ModelConfig)
    {schema : List TensorSpec} (distinct : (schema.map TensorSpec.name).Nodup)
    (tensors : List TensorDesc) :
    validateDescriptorsAgainst granted config schema tensors = .ok () ↔
      tensors.length ≤ maxSchemaTensorCount ∧ granted "tensor validation index" = true ∧
        (tensors.map descriptorEntry).Perm (schema.map TensorSpec.entry) ∧
        ∀ spec ∈ schema, spec.Routed config.expertCount := by
  have hempty : (([] : List TensorDesc).map TensorDesc.name).Nodup := List.nodup_nil
  rw [validateDescriptorsAgainst]
  simp only [except_bind_ok_iff, ensure_eq_ok, exists_const]
  refine and_congr_right fun _ => and_congr_right fun _ => ?_
  constructor
  · rintro ⟨index, hindex, rest, hmatch, hrest⟩
    obtain ⟨rfl, hnodup⟩ := (indexDescriptors_eq_ok hempty).mp hindex
    cases rest with
    | nil => exact (matchSchema_eq_nil distinct hnodup).mp hmatch
    | cons unexpected rest => cases hrest
  · rintro ⟨hperm, hrouted⟩
    have hnames : (tensors.map TensorDesc.name).Nodup := by
      have hfst := hperm.map Prod.fst
      rw [List.map_map, List.map_map] at hfst
      exact hfst.nodup_iff.mpr distinct
    refine ⟨tensors, (indexDescriptors_eq_ok hempty).mpr ⟨rfl, hnames⟩, [], ?_, rfl⟩
    exact (matchSchema_eq_nil distinct hnames).mpr ⟨hperm, hrouted⟩

/-! ### A schema that does not fit its configuration -/

/-- A schema with the gate slabs of two experts. -/
def twoSlabs : List TensorSpec := [⟨"blk.1.ffn_gate_exps.weight", .routedGate 1, [1, 1, 2], .f32⟩]

/-- Its only tensor. -/
def slabTensor : TensorDesc where
  name := "blk.1.ffn_gate_exps.weight"
  shape := [1, 1, 2]
  ty := .f32
  relativeOffset := 0
  strides := [4, 4, 4]
  computed := rfl

/-- A configuration with so many experts. -/
def configOf (expertCount : Nat) : Hy3ModelConfig where
  blockCount := 2
  contextLength := 8
  embeddingLength := 1
  attentionHeadCount := 1
  attentionKvHeadCount := 1
  keyLength := 2
  valueLength := 2
  rmsEpsilon := .fromBits 0x3727c5ac
  expertCount := expertCount
  expertUsedCount := 1
  expertWeightsScale := .fromBits 0x3f800000
  vocabularySize := 2
  denseFfnLength := 1
  expertFfnLength := 1
  sharedExpertFfnLength := 1
  expertWeightsNorm := true
  expertGatingFunc := 2
  ropeBase := .fromBits 0x4b2a4538
  ropeScalingType := "yarn"
  yarnFactor := .fromBits 0x40800000
  yarnOriginalContext := 8

/-- A schema of a norm and of the slabs of two experts. -/
def normedSlabs : List TensorSpec :=
  [⟨"output_norm.weight", .outputNorm, [256], .f32⟩,
    ⟨"blk.1.ffn_gate_exps.weight", .routedGate 1, [1, 1, 2], .f32⟩,
    ⟨"blk.1.ffn_up_exps.weight", .routedUp 1, [1, 1, 2], .f32⟩]

/-- Its tensors in another order. -/
def normedTensors : List TensorDesc :=
  [{ slabTensor with name := "blk.1.ffn_up_exps.weight", relativeOffset := 32 },
    { name := "output_norm.weight", shape := [256], ty := .f32, relativeOffset := 64,
      strides := [4], computed := rfl },
    slabTensor]

theorem schema_accepts_slabs : validateDescriptorsAgainst (fun _ => true)
    (configOf 2) normedSlabs normedTensors = .ok () := by
  have distinct : (normedSlabs.map TensorSpec.name).Nodup := by decide
  refine (schema_accepts_permutations _ (configOf 2) distinct normedTensors).mpr
    ⟨by decide, rfl, by decide, ?_⟩
  unfold TensorSpec.Routed
  decide

/-- A permutation of a schema that is made for another number of experts is refused. -/
theorem permutation_refused :
    ¬ ∀ (granted : String → Bool) (config : Hy3ModelConfig) (schema : List TensorSpec)
        (tensors : List TensorDesc),
      (schema.map TensorSpec.name).Nodup → tensors.length ≤ maxSchemaTensorCount →
      granted "tensor validation index" = true →
        (validateDescriptorsAgainst granted config schema tensors = .ok () ↔
          (tensors.map descriptorEntry).Perm (schema.map TensorSpec.entry)) := by
  intro h
  have haccepted :=
    (h (fun _ => true) (configOf 1) twoSlabs [slabTensor] (by decide) (by decide) rfl).mpr
      (List.Perm.refl _)
  have hrefused : validateDescriptorsAgainst (fun _ => true) (configOf 1) twoSlabs [slabTensor] ≠
      .ok () := by
    decide +kernel
  exact hrefused haccepted

end LightBridge.Hy3
