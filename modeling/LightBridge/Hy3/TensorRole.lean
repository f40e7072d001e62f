import LightBridge.Core.Tensor
import LightBridge.Foundation.Decimal
import LightBridge.Foundation.Search
import Mathlib.Data.List.Nodup

/-! The names of the tensors of a Hy3 model and the roles they stand for. -/
namespace LightBridge.Hy3
open Foundation

/-- A value of the metadata, as its comparisons tell values apart. -/
inductive ConfigValue where
  | nat (value : Nat)
  | flag (value : Bool)
  | real (value : F32)
  | text (value : String)
  deriving DecidableEq, Repr

/-- `Hy3Error`, without the errors of routing. A type or a metadata value stands for its text, and
the errors of `resolve_config` are known by their texts alone. -/
inductive Hy3Error where
  | unresolved (message : String)
  | metadataValue (key : String) (expected actual : ConfigValue)
  | nonFiniteMetadata (key : String) (expected actual : F32)
  | invalidTensorName (name expected : String)
  | missingTensor (name : String) (expectedShape : List Nat) (expectedType : GgmlType)
  | unexpectedTensor (name : String)
  | duplicateTensor (name : String)
  | tensorShape (name : String) (expected actual : List Nat)
  | tensorType (name : String) (expected actual : GgmlType)
  | tensorRank (name : String) (expected actual : Nat)
  | expertDimension (name : String) (expected actual : Nat)
  | expertPayloadNotDivisible (name : String) (payloadBytes expertCount : Nat)
  | expertIndexOutOfRange (name : String) (expert expertCount : Nat)
  | arithmetic (name operation : String)
  | emptySet
  | partialShardMetadata (shardIndex : Nat) (missingKey : String)
  | shardMetadata (shardIndex : Nat) (source : Hy3Error)
  | configOutOfRange (field : String) (minimum maximum actual : Nat)
  | configRelation (field expected actual : String)
  | tensorDirectoryCount (expected actual : Nat)
  | allocationFailed (context : String) (requested : Nat)
  deriving DecidableEq, Repr

inductive Hy3TensorRole where
  | tokenEmbedding
  | outputNorm
  | output
  | attentionNorm (layer : Nat)
  | attentionQ (layer : Nat)
  | attentionQNorm (layer : Nat)
  | attentionK (layer : Nat)
  | attentionKNorm (layer : Nat)
  | attentionV (layer : Nat)
  | attentionOutput (layer : Nat)
  | ffnNorm (layer : Nat)
  | denseGate (layer : Nat)
  | denseUp (layer : Nat)
  | denseDown (layer : Nat)
  | routerInput (layer : Nat)
  | routerSelectionBias (layer : Nat)
  | routedGate (layer : Nat)
  | routedUp (layer : Nat)
  | routedDown (layer : Nat)
  | sharedGate (layer : Nat)
  | sharedUp (layer : Nat)
  | sharedDown (layer : Nat)
  deriving DecidableEq, Repr

namespace Hy3TensorRole

def isRoutedExpert : Hy3TensorRole → Bool
  | routedGate _ | routedUp _ | routedDown _ => true
  | _ => false

/-- The role of a suffix in the block of a layer. Only the first layer is dense. -/
def ofSuffix (layer : Nat) (suffix : String) : Option Hy3TensorRole :=
  match suffix with
  | "attn_norm.weight" => some (attentionNorm layer)
  | "attn_q.weight" => some (attentionQ layer)
  | "attn_q_norm.weight" => some (attentionQNorm layer)
  | "attn_k.weight" => some (attentionK layer)
  | "attn_k_norm.weight" => some (attentionKNorm layer)
  | "attn_v.weight" => some (attentionV layer)
  | "attn_output.weight" => some (attentionOutput layer)
  | "ffn_norm.weight" => some (ffnNorm layer)
  | "ffn_gate.weight" => if layer = 0 then some (denseGate layer) else none
  | "ffn_up.weight" => if layer = 0 then some (denseUp layer) else none
  | "ffn_down.weight" => if layer = 0 then some (denseDown layer) else none
  | "ffn_gate_inp.weight" => if layer > 0 then some (routerInput layer) else none
  | "exp_probs_b" => if layer > 0 then some (routerSelectionBias layer) else none
  | "ffn_gate_exps.weight" => if layer > 0 then some (routedGate layer) else none
  | "ffn_up_exps.weight" => if layer > 0 then some (routedUp layer) else none
  | "ffn_down_exps.weight" => if layer > 0 then some (routedDown layer) else none
  | "ffn_gate_shexp.weight" => if layer > 0 then some (sharedGate layer) else none
  | "ffn_up_shexp.weight" => if layer > 0 then some (sharedUp layer) else none
  | "ffn_down_shexp.weight" => if layer > 0 then some (sharedDown layer) else none
  | _ => none

/-- The `parse::<u32>` of a layer that is written without a leading zero. -/
def parseLayer (text : List Char) : Option Nat :=
  if text = [] ∨ ¬ text.all Char.isDigit ∨ (text.length > 1 ∧ text.head? = some '0') then none
  else if Nat.ofDigitChars 10 text 0 < 2 ^ 32 then some (Nat.ofDigitChars 10 text 0)
  else none

def invalidName (name : String) : Hy3Error :=
  .invalidTensorName name "an exact complete Hy3 tensor name in the configured layer regime"

/-- The role of a name that begins with the prefix of a block. -/
def classifyBlock (name : String) (blockCount : Nat) : Except Hy3Error Hy3TensorRole := do
  let remainder ← okOr (stripPrefix "blk.".toList name.toList) (invalidName name)
  let (layerText, suffix) ← okOr (splitOnce ['.'] remainder) (invalidName name)
  let layer ← okOr (parseLayer layerText) (invalidName name)
  ensure (layer < blockCount) (invalidName name)
  okOr (ofSuffix layer (String.ofList suffix)) (invalidName name)

def classify (name : String) (blockCount : Nat) : Except Hy3Error Hy3TensorRole :=
  match name with
  | "token_embd.weight" => .ok tokenEmbedding
  | "output_norm.weight" => .ok outputNorm
  | "output.weight" => .ok output
  | _ => classifyBlock name blockCount

example : classify "blk.12.ffn_gate_exps.weight" 80 = .ok (routedGate 12) := by decide +kernel

/-! ### Every role -/

/-- The roles of a layer, in the order of the generated schema. -/
def ofLayer (layer : Nat) : List Hy3TensorRole :=
  [attentionK layer, attentionKNorm layer, attentionNorm layer, attentionOutput layer,
    attentionQ layer, attentionQNorm layer, attentionV layer, ffnNorm layer] ++
  if layer = 0 then [denseDown layer, denseGate layer, denseUp layer]
  else [routerSelectionBias layer, routerInput layer, routedGate layer, routedUp layer,
    routedDown layer, sharedGate layer, sharedUp layer, sharedDown layer]

/-- The roles of a model with so many layers. -/
def all (blockCount : Nat) : List Hy3TensorRole :=
  [tokenEmbedding, outputNorm, output] ++ (List.range blockCount).flatMap ofLayer

/-- `format!("blk.{layer}.{suffix}")`. -/
def blockName (layer : Nat) (suffix : String) : String := "blk." ++ toString layer ++ "." ++ suffix

/-- The name of the tensor with the role. -/
def name : Hy3TensorRole → String
  | tokenEmbedding => "token_embd.weight"
  | outputNorm => "output_norm.weight"
  | output => "output.weight"
  | attentionNorm layer => blockName layer "attn_norm.weight"
  | attentionQ layer => blockName layer "attn_q.weight"
  | attentionQNorm layer => blockName layer "attn_q_norm.weight"
  | attentionK layer => blockName layer "attn_k.weight"
  | attentionKNorm layer => blockName layer "attn_k_norm.weight"
  | attentionV layer => blockName layer "attn_v.weight"
  | attentionOutput layer => blockName layer "attn_output.weight"
  | ffnNorm layer => blockName layer "ffn_norm.weight"
  | denseGate layer => blockName layer "ffn_gate.weight"
  | denseUp layer => blockName layer "ffn_up.weight"
  | denseDown layer => blockName layer "ffn_down.weight"
  | routerInput layer => blockName layer "ffn_gate_inp.weight"
  | routerSelectionBias layer => blockName layer "exp_probs_b"
  | routedGate layer => blockName layer "ffn_gate_exps.weight"
  | routedUp layer => blockName layer "ffn_up_exps.weight"
  | routedDown layer => blockName layer "ffn_down_exps.weight"
  | sharedGate layer => blockName layer "ffn_gate_shexp.weight"
  | sharedUp layer => blockName layer "ffn_up_shexp.weight"
  | sharedDown layer => blockName layer "ffn_down_shexp.weight"

/-- The layer of the role. -/
def layer : Hy3TensorRole → Option Nat
  | tokenEmbedding | outputNorm | output => none
  | attentionNorm layer | attentionQ layer | attentionQNorm layer | attentionK layer
    | attentionKNorm layer
  | attentionV layer | attentionOutput layer | ffnNorm layer | denseGate layer | denseUp layer
    | denseDown layer
  | routerInput layer | routerSelectionBias layer | routedGate layer | routedUp layer
    | routedDown layer
  | sharedGate layer | sharedUp layer | sharedDown layer => some layer

theorem layer_of_mem {index : Nat} {role : Hy3TensorRole} (h : role ∈ ofLayer index) :
    role.layer = some index := by
  have hall : ∀ role ∈ ofLayer index, role.layer = some index := by
    unfold ofLayer
    split <;> simp [layer]
  exact hall role h

theorem nodup_ofLayer (index : Nat) : (ofLayer index).Nodup := by
  unfold ofLayer
  split <;> simp

theorem nodup_all (blockCount : Nat) : (all blockCount).Nodup := by
  refine List.nodup_append.mpr ⟨by simp,
    List.nodup_flatMap.mpr ⟨fun index _ => nodup_ofLayer index, ?_⟩, ?_⟩
  · refine List.nodup_range.imp fun hne role hrole hrole' => hne (Option.some.inj ?_)
    exact (layer_of_mem hrole).symm.trans (layer_of_mem hrole')
  · rintro role hglobal other hother rfl
    obtain ⟨index, -, hmem⟩ := List.mem_flatMap.mp hother
    have hlayer := layer_of_mem hmem
    simp only [List.mem_cons, List.not_mem_nil, or_false] at hglobal
    rcases hglobal with rfl | rfl | rfl <;> cases hlayer

theorem ofSuffix_eq_some {layer : Nat} {suffix : String} {role : Hy3TensorRole}
    (h : ofSuffix layer suffix = some role) :
    role ∈ ofLayer layer ∧ role.name = blockName layer suffix := by
  unfold ofSuffix at h
  split at h
  -- the suffixes of every layer
  iterate 8 exact ⟨by cases h; simp [ofLayer], by cases h; rfl⟩
  -- those of the dense layer
  iterate 3
    obtain ⟨hlayer, hrole⟩ := Option.ite_none_right_eq_some.mp h
    cases hrole
    exact ⟨by simp [ofLayer, hlayer], rfl⟩
  -- those of the MoE layers
  iterate 8
    obtain ⟨hlayer, hrole⟩ := Option.ite_none_right_eq_some.mp h
    cases hrole
    exact ⟨by simp [ofLayer, Nat.ne_of_gt hlayer], rfl⟩
  cases h

theorem parseLayer_eq_some {text : List Char} {layer : Nat} (h : parseLayer text = some layer) :
    text = Nat.toDigits 10 layer := by
  unfold parseLayer at h
  split at h
  · cases h
  · rename_i hvalid
    split at h
    · cases h
      simp only [not_or, not_not] at hvalid
      exact (IsDecimal.toDigits ⟨hvalid.1, List.all_eq_true.mp hvalid.2.1, hvalid.2.2⟩).symm
    · cases h

/-- A name that has a role is the name of that role. -/
theorem classifyBlock_eq_ok {name : String} {blockCount : Nat} {role : Hy3TensorRole}
    (h : classifyBlock name blockCount = .ok role) :
    ∃ layer, layer < blockCount ∧ role ∈ ofLayer layer ∧ role.name = name := by
  simp only [classifyBlock, except_bind_ok_iff, okOr_eq_ok, ensure_eq_ok, exists_const] at h
  obtain ⟨remainder, hprefix, ⟨text, suffix⟩, hsplit, layer, hlayer, hlt, hrole⟩ := h
  obtain ⟨hmem, hname⟩ := ofSuffix_eq_some hrole
  refine ⟨layer, hlt, hmem, hname.trans (String.toList_inj.mp ?_)⟩
  have htext : text = Nat.toDigits 10 layer := parseLayer_eq_some hlayer
  rw [stripPrefix_eq_some_iff.mp hprefix, (splitOnce_eq_some hsplit).1, htext]
  simp [blockName, String.toList_append]

theorem classify_eq_ok {name : String} {blockCount : Nat} {role : Hy3TensorRole}
    (h : classify name blockCount = .ok role) :
    role ∈ all blockCount ∧ role.name = name := by
  unfold classify at h
  split at h
  · cases h
    exact ⟨by simp [all], rfl⟩
  · cases h
    exact ⟨by simp [all], rfl⟩
  · cases h
    exact ⟨by simp [all], rfl⟩
  · obtain ⟨layer, hlt, hmem, hname⟩ := classifyBlock_eq_ok h
    exact ⟨List.mem_append_right _
      (List.mem_flatMap.mpr ⟨layer, List.mem_range.mpr hlt, hmem⟩), hname⟩

end Hy3TensorRole
end LightBridge.Hy3
