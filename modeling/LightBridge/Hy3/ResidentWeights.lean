import LightBridge.Hy3.Loading

/-! The weights a loaded model keeps. Every tensor that is not of a routed expert is loaded once, so
that what the model reports is the sum over these tensors. -/
namespace LightBridge.Hy3
open Foundation Kernels ExpertCache Io

/-- The model has a tensor of so many bytes for the role. -/
def ValidatedModel.Holds (model : ValidatedModel) (role : Hy3TensorRole) (bytes : Nat) : Prop :=
  (model.tensorForRole role).map Hy3Tensor.byteLength = some bytes

namespace TensorLoader
variable {ε : Type} {loader : TensorLoader} {model : ValidatedModel} {role : Hy3TensorRole}

theorem length_read {tensor : Hy3Tensor} {bytes : List UInt8}
    (h : loader.read tensor = (.ok bytes : Except (Hy3ScalarError ε) _)) :
    bytes.length = tensor.byteLength := by
  obtain ⟨reader, -, h⟩ := except_bind_ok_iff.mp h
  exact PositionedFile.length_readExactAt (wrap_eq_ok.mp h)

theorem holds_of_required {tensor : Hy3Tensor}
    (h : model.requiredTensor role = (.ok tensor : Except (Hy3ScalarError ε) _)) :
    model.Holds role tensor.byteLength :=
  congrArg (Option.map Hy3Tensor.byteLength) (okOr_eq_ok.mp h)

/-- A matrix keeps the bytes of its tensor. -/
theorem matrix_holds {matrix : OwnedMatrix}
    (h : loader.matrix model role = (.ok matrix : Except (Hy3ScalarError ε) _)) :
    model.Holds role matrix.bytes.length := by
  obtain ⟨tensor, htensor, h⟩ := except_bind_ok_iff.mp h
  obtain ⟨_, -, h⟩ := except_bind_ok_iff.mp h
  obtain ⟨bytes, hread, h⟩ := except_bind_ok_iff.mp h
  obtain ⟨_, -, h⟩ := except_bind_ok_iff.mp h
  cases h
  show model.Holds role bytes.length
  rw [length_read hread]
  exact holds_of_required htensor

theorem length_finiteValues {index : Nat} {bytes : List UInt8} {values : List F32}
    (h : finiteValues role index bytes = (.ok values : Except (Hy3ScalarError ε) _)) :
    values.length = bytes.length / 4 := by
  induction index, bytes using finiteValues.induct generalizing values with
  | case1 index first second third fourth rest ih =>
      obtain ⟨_, -, h⟩ := except_bind_ok_iff.mp h
      obtain ⟨later, hlater, h⟩ := except_bind_ok_iff.mp h
      cases h
      simp only [List.length_cons, ih hlater]
      omega
  | case2 bytes index hshort =>
      rw [finiteValues] at h
      · cases h
        have hlt : bytes.length < 4 := by
          match bytes, hshort with
          | [], _ | [_], _ | [_, _], _ | [_, _, _], _ => simp
          | first :: second :: third :: fourth :: rest, hshort =>
              exact (hshort first second third fourth rest rfl).elim
        rw [Nat.div_eq_of_lt hlt, List.length_nil]
      · exact hshort

/-- A vector keeps four bytes for every value. -/
theorem f32Vector_holds {host : LoadingHost ε} {values : List F32}
    (h : loader.f32Vector host model role = .ok values) :
    model.Holds role (values.length * 4) := by
  obtain ⟨tensor, htensor, h⟩ := except_bind_ok_iff.mp h
  obtain ⟨_, -, h⟩ := except_bind_ok_iff.mp h
  obtain ⟨_, -, h⟩ := except_bind_ok_iff.mp h
  obtain ⟨bytes, hread, h⟩ := except_bind_ok_iff.mp h
  obtain ⟨expectedBytes, hexpected, h⟩ := except_bind_ok_iff.mp h
  obtain ⟨_, hlength, h⟩ := except_bind_ok_iff.mp h
  obtain ⟨_, -, h⟩ := except_bind_ok_iff.mp h
  have hvalues := length_finiteValues h
  have hproduct : expectedBytes = tensor.location.descriptor.shape.getD 0 0 * 4 :=
    (checkedMul_eq_some.mp (okOr_eq_ok.mp hexpected)).2
  have hbytes : bytes.length = expectedBytes := ensure_eq_ok.mp hlength
  have hall : values.length * 4 = bytes.length := by omega
  rw [hall, length_read hread]
  exact holds_of_required htensor

end TensorLoader

/-! ### The weights of a layer -/

/-- The bytes of the weights of a layer, in the order of the roles of its schema. -/
def LayerWeights.sizes (layer : LayerWeights) : List Nat :=
  [layer.attention.key.bytes.length, layer.attention.keyNorm.length * 4,
    layer.attention.inputNorm.length * 4, layer.attention.output.bytes.length,
    layer.attention.query.bytes.length, layer.attention.queryNorm.length * 4,
    layer.attention.value.bytes.length, layer.ffnNorm.length * 4] ++
  match layer.feedForward with
  | .dense expert => [expert.down.bytes.length, expert.gate.bytes.length, expert.up.bytes.length]
  | .moe moe =>
      [moe.selectionBias.length * 4, moe.router.bytes.length, moe.shared.gate.bytes.length,
        moe.shared.up.bytes.length, moe.shared.down.bytes.length]

theorem OwnedAttention.residentBytes_eq_some {attention : OwnedAttention} {n : Nat}
    (h : attention.residentBytes = some n) :
    n = [attention.key.bytes.length, attention.keyNorm.length * 4, attention.inputNorm.length * 4,
      attention.output.bytes.length, attention.query.bytes.length, attention.queryNorm.length * 4,
      attention.value.bytes.length].sum := by
  simp only [residentBytes, Option.bind_eq_bind, Option.bind_eq_some_iff, checkedAdd_eq_some,
    checkedMul_eq_some] at h
  obtain ⟨_, ⟨-, rfl⟩, _, ⟨-, rfl⟩, _, ⟨-, rfl⟩, _, ⟨-, rfl⟩, _, ⟨-, rfl⟩, _, ⟨-, rfl⟩, -, rfl⟩ := h
  simp only [List.sum_cons, List.sum_nil]
  omega

theorem OwnedExpert.residentBytes_eq_some {expert : OwnedExpert} {n : Nat}
    (h : expert.residentBytes = some n) :
    n = expert.gate.bytes.length + expert.up.bytes.length + expert.down.bytes.length := by
  simp only [residentBytes, Option.bind_eq_bind, Option.bind_eq_some_iff, checkedAdd_eq_some] at h
  obtain ⟨_, ⟨-, rfl⟩, -, rfl⟩ := h
  rfl

theorem OwnedMoe.residentBytes_eq_some {moe : OwnedMoe} {n : Nat} (h : moe.residentBytes = some n) :
    n = moe.router.bytes.length + moe.selectionBias.length * 4 +
      (moe.shared.gate.bytes.length + moe.shared.up.bytes.length +
        moe.shared.down.bytes.length) := by
  simp only [residentBytes, Option.bind_eq_bind, Option.bind_eq_some_iff, checkedAdd_eq_some,
    checkedMul_eq_some] at h
  obtain ⟨_, ⟨-, rfl⟩, _, ⟨-, rfl⟩, shared, hshared, -, rfl⟩ := h
  rw [OwnedExpert.residentBytes_eq_some hshared]

/-- What a layer reports is the sum of its weights. -/
theorem LayerWeights.residentBytes_eq_some {layer : LayerWeights} {n : Nat}
    (h : layer.residentBytes = some n) :
    n = layer.sizes.sum := by
  cases hkind : layer.feedForward with
  | dense expert =>
      simp only [residentBytes, hkind, Option.bind_eq_bind, Option.bind_eq_some_iff,
        checkedAdd_eq_some, checkedMul_eq_some] at h
      obtain ⟨attention, hattention, _, ⟨-, rfl⟩, _, ⟨-, rfl⟩, feedForward,
        hfeedForward, -, rfl⟩ := h
      rw [OwnedAttention.residentBytes_eq_some hattention,
        OwnedExpert.residentBytes_eq_some hfeedForward, sizes, hkind]
      simp only [List.sum_append, List.sum_cons, List.sum_nil]
      omega
  | moe moe =>
      simp only [residentBytes, hkind, Option.bind_eq_bind, Option.bind_eq_some_iff,
        checkedAdd_eq_some, checkedMul_eq_some] at h
      obtain ⟨attention, hattention, _, ⟨-, rfl⟩, _, ⟨-, rfl⟩, feedForward,
        hfeedForward, -, rfl⟩ := h
      rw [OwnedAttention.residentBytes_eq_some hattention,
        OwnedMoe.residentBytes_eq_some hfeedForward, sizes, hkind]
      simp only [List.sum_append, List.sum_cons, List.sum_nil]
      omega

theorem residentLayers_eq_some {layers : List LayerWeights} {total n : Nat}
    (h : residentLayers total layers = some n) :
    n = total + (layers.flatMap LayerWeights.sizes).sum := by
  induction layers generalizing total with
  | nil =>
      cases h
      rfl
  | cons layer layers ih =>
      obtain ⟨bytes, hbytes, h⟩ := Option.bind_eq_some_iff.mp h
      obtain ⟨next, hnext, h⟩ := Option.bind_eq_some_iff.mp h
      have hlayer := LayerWeights.residentBytes_eq_some hbytes
      have htotal : next = total + bytes := (checkedAdd_eq_some.mp hnext).2
      rw [ih h, List.flatMap_cons, List.sum_append]
      omega

/-! ### Every weight is loaded once -/

/-- The roles of a layer whose tensors stay in memory. -/
def Hy3TensorRole.residentOfLayer (layer : Nat) : List Hy3TensorRole :=
  (Hy3TensorRole.ofLayer layer).filter fun role => !role.isRoutedExpert

theorem Hy3TensorRole.residentOfLayer_eq (layer : Nat) : residentOfLayer layer =
    [attentionK layer, attentionKNorm layer, attentionNorm layer, attentionOutput layer,
      attentionQ layer, attentionQNorm layer, attentionV layer, ffnNorm layer] ++
    if layer = 0 then [denseDown layer, denseGate layer, denseUp layer]
    else [routerSelectionBias layer, routerInput layer, sharedGate layer, sharedUp layer,
      sharedDown layer] := by
  unfold residentOfLayer ofLayer
  split <;> rfl

section Loaded
variable {ε : Type} {host : LoadingHost ε} {loader : TensorLoader} {model : ValidatedModel}

theorem loadAttention_holds {layer : Nat} {attention : OwnedAttention}
    (h : loadAttention host loader model layer = .ok attention) :
    List.Forall₂ model.Holds [.attentionK layer, .attentionKNorm layer, .attentionNorm layer,
      .attentionOutput layer, .attentionQ layer, .attentionQNorm layer, .attentionV layer]
      [attention.key.bytes.length, attention.keyNorm.length * 4, attention.inputNorm.length * 4,
        attention.output.bytes.length, attention.query.bytes.length, attention.queryNorm.length * 4,
        attention.value.bytes.length] := by
  simp only [loadAttention, except_bind_ok_iff] at h
  obtain ⟨inputNorm, hinputNorm, query, hquery, queryNorm, hqueryNorm, key, hkey, keyNorm, hkeyNorm,
    value, hvalue,
    output, houtput, hmade⟩ := h
  cases hmade
  exact .cons (TensorLoader.matrix_holds hkey) <| .cons (TensorLoader.f32Vector_holds hkeyNorm) <|
    .cons (TensorLoader.f32Vector_holds hinputNorm) <| .cons (TensorLoader.matrix_holds houtput) <|
    .cons (TensorLoader.matrix_holds hquery) <| .cons (TensorLoader.f32Vector_holds hqueryNorm) <|
    .cons (TensorLoader.matrix_holds hvalue) .nil

theorem loadExpert_holds {gate up down : Hy3TensorRole} {expert : OwnedExpert}
    (h : loadExpert loader model gate up down = (.ok expert : Except (Hy3ScalarError ε) _)) :
    model.Holds gate expert.gate.bytes.length ∧ model.Holds up expert.up.bytes.length ∧
      model.Holds down expert.down.bytes.length := by
  simp only [loadExpert, except_bind_ok_iff] at h
  obtain ⟨gate, hgate, up, hup, down, hdown, hmade⟩ := h
  cases hmade
  exact ⟨TensorLoader.matrix_holds hgate, TensorLoader.matrix_holds hup,
    TensorLoader.matrix_holds hdown⟩

/-- A layer keeps the tensors of its roles. -/
theorem loadLayer_holds {layer : Nat} {weights : LayerWeights}
    (h : loadLayer host loader model layer = .ok weights) :
    List.Forall₂ model.Holds (Hy3TensorRole.residentOfLayer layer) weights.sizes := by
  obtain ⟨attention, hattention, h⟩ := except_bind_ok_iff.mp h
  obtain ⟨ffnNorm, hffnNorm, h⟩ := except_bind_ok_iff.mp h
  obtain ⟨feedForward, hfeedForward, h⟩ := except_bind_ok_iff.mp h
  cases h
  rw [Hy3TensorRole.residentOfLayer_eq]
  refine List.rel_append
    (List.rel_append (loadAttention_holds hattention)
      (.cons (TensorLoader.f32Vector_holds hffnNorm) .nil)) ?_
  unfold loadFeedForward at hfeedForward
  split at hfeedForward
  · rename_i hdense
    obtain ⟨expert, hexpert, rfl⟩ := except_map_ok_iff.mp hfeedForward
    obtain ⟨hgate, hup, hdown⟩ := loadExpert_holds hexpert
    rw [if_pos hdense]
    exact .cons hdown <| .cons hgate <| .cons hup .nil
  · rename_i hmoe
    obtain ⟨moe, hmoe', rfl⟩ := except_map_ok_iff.mp hfeedForward
    rw [if_neg hmoe]
    simp only [loadMoe, except_bind_ok_iff] at hmoe'
    obtain ⟨router, hrouter, bias, hbias, shared, hshared, layout, -, hmade⟩ := hmoe'
    cases hmade
    obtain ⟨hgate, hup, hdown⟩ := loadExpert_holds hshared
    exact .cons (TensorLoader.f32Vector_holds hbias) <| .cons (TensorLoader.matrix_holds hrouter) <|
      .cons hgate <| .cons hup <| .cons hdown .nil

theorem loadLayers_eq_ok {layers} (h : loadLayers host loader model = .ok layers) :
    List.Forall₂ (fun layer weights => loadLayer host loader model layer = .ok weights)
      (List.range model.config.blockCount) layers.val := by
  unfold loadLayers at h
  split at h
  · cases h
  · rename_i hlayers
    cases h
    exact except_mapM_ok_iff.mp hlayers

end Loaded

/-- The roles whose tensors stay in memory, in the order they are counted. -/
def Hy3TensorRole.resident (blockCount : Nat) : List Hy3TensorRole :=
  (Hy3TensorRole.all blockCount).filter fun role => !role.isRoutedExpert

theorem Hy3TensorRole.resident_eq (blockCount : Nat) : resident blockCount =
    [tokenEmbedding, outputNorm, output] ++ (List.range blockCount).flatMap residentOfLayer := by
  rw [resident, all, List.filter_append, List.filter_flatMap]
  rfl

/-- What a loaded model has of the model and the options it was loaded with. -/
structure LoadedFrom (model : ValidatedModel) (options : Hy3ScalarOptions)
    (loaded : LoadedModel) : Prop where
  config : loaded.config = model.config.toHy3Config
  contextCapacity : loaded.contextCapacity = options.contextCapacity
  kvPageTokens : loaded.kvPageTokens = options.kvPageTokens
  weights : ∃ sizes,
    List.Forall₂ model.Holds (Hy3TensorRole.resident model.config.blockCount) sizes ∧
    loaded.residentWeightBytes = sizes.sum

theorem loadValidated_eq_ok {ε : Type} {host : LoadingHost ε} {set : GgufSet}
    {model : ValidatedModel} {options : Hy3ScalarOptions} {memoryHeadroomBytes : Nat}
    {enforce : Bool} {loaded : LoadedModel}
    (h : loadValidated host set model options memoryHeadroomBytes enforce = .ok loaded) :
    LoadedFrom model options loaded := by
  simp only [loadValidated, except_bind_ok_iff] at h
  obtain ⟨-, -, -, -, -, -, -, -, fingerprint, -, loader, -, embeddings, hembeddings, outputNorm,
    houtputNorm, output, houtput, -, -,
    layers, hlayers, residentWeightBytes, hbytes, -, -, rope, -, -, -, hmade⟩ := h
  cases hmade
  refine ⟨rfl, rfl, rfl, [embeddings.bytes.length, outputNorm.length * 4, output.bytes.length] ++
    layers.val.flatMap LayerWeights.sizes, ?_, ?_⟩
  · rw [Hy3TensorRole.resident_eq]
    refine List.rel_append (.cons (TensorLoader.matrix_holds hembeddings) <|
      .cons (TensorLoader.f32Vector_holds houtputNorm) <|
      .cons (TensorLoader.matrix_holds houtput) .nil) ?_
    exact List.rel_flatMap (loadLayers_eq_ok hlayers) fun _ _ hlayer => loadLayer_holds hlayer
  · obtain ⟨_, htotal, h⟩ := Option.bind_eq_some_iff.mp (okOr_eq_ok.mp hbytes)
    obtain ⟨_, hnorm, h⟩ := Option.bind_eq_some_iff.mp h
    obtain ⟨_, hsum, h⟩ := Option.bind_eq_some_iff.mp h
    obtain ⟨-, rfl⟩ := checkedAdd_eq_some.mp htotal
    obtain ⟨-, rfl⟩ := checkedMul_eq_some.mp hnorm
    obtain ⟨-, rfl⟩ := checkedAdd_eq_some.mp hsum
    have hall := residentLayers_eq_some h
    change residentWeightBytes = _
    rw [List.sum_append, List.sum_cons, List.sum_cons, List.sum_cons, List.sum_nil]
    omega

/-! ### The sum over the tensors -/

namespace ValidatedModel

theorem roleOf_tensorForRole {model : ValidatedModel} {role : Hy3TensorRole} {tensor : Hy3Tensor}
    (h : model.tensorForRole role = some tensor) : tensor.role = role := by
  have hfound := List.find?_some h
  exact of_decide_eq_true hfound

/-- No other tensor of the model has the role of this one. -/
theorem tensorForRole_of_mem {model : ValidatedModel} {tensor : Hy3Tensor}
    (hmem : tensor ∈ model.tensors) :
    model.tensorForRole tensor.role = some tensor := by
  cases hfound : model.tensorForRole tensor.role with
  | none => exact absurd (decide_eq_true rfl) (List.find?_eq_none.mp hfound tensor hmem)
  | some other =>
      have hrole : other.role = tensor.role := roleOf_tensorForRole hfound
      rw [List.inj_on_of_nodup_map model.roles (List.mem_of_find?_eq_some hfound) hmem hrole]

/-- The bytes of the tensor with the role. -/
def bytesOf (model : ValidatedModel) (role : Hy3TensorRole) : Nat :=
  ((model.tensorForRole role).map Hy3Tensor.byteLength).getD 0

theorem map_residentTensors {model : ValidatedModel} :
    (Hy3MemoryBudget.residentTensors model).map Hy3Tensor.byteLength =
    ((Hy3MemoryBudget.residentTensors model).map Hy3Tensor.role).map model.bytesOf := by
  rw [List.map_map]
  refine List.map_congr_left fun tensor hmem => ?_
  rw [Function.comp_apply, bytesOf, tensorForRole_of_mem (List.mem_of_mem_filter hmem)]
  rfl

/-- The tensors that stay in memory are those of the resident roles, where each of these has one. -/
theorem perm_residentTensors {model : ValidatedModel}
    (h : ∀ role ∈ Hy3TensorRole.resident model.config.blockCount, ∃ bytes, model.Holds role bytes) :
    ((Hy3MemoryBudget.residentTensors model).map Hy3Tensor.role).Perm
      (Hy3TensorRole.resident model.config.blockCount) := by
  have hmap : (Hy3MemoryBudget.residentTensors model).map Hy3Tensor.role =
      (model.tensors.map Hy3Tensor.role).filter fun role => !role.isRoutedExpert := by
    rw [List.filter_map]
    rfl
  rw [hmap]
  refine (List.perm_ext_iff_of_nodup (model.roles.filter _)
    ((Hy3TensorRole.nodup_all _).filter _)).mpr fun role => ?_
  constructor
  · intro hmem
    obtain ⟨hrole, hresident⟩ := List.mem_filter.mp hmem
    obtain ⟨tensor, htensor, rfl⟩ := List.mem_map.mp hrole
    exact List.mem_filter.mpr ⟨model.placed tensor htensor, hresident⟩
  · intro hmem
    obtain ⟨bytes, hbytes⟩ := h role hmem
    obtain ⟨tensor, hfound, -⟩ := Option.map_eq_some_iff.mp hbytes
    exact List.mem_filter.mpr
      ⟨List.mem_map.mpr ⟨tensor, List.mem_of_find?_eq_some hfound, roleOf_tensorForRole hfound⟩,
        (List.mem_filter.mp hmem).2⟩

theorem sum_residentTensors {model : ValidatedModel} {sizes : List Nat}
    (h : List.Forall₂ model.Holds (Hy3TensorRole.resident model.config.blockCount) sizes) :
    ((Hy3MemoryBudget.residentTensors model).map Hy3Tensor.byteLength).sum = sizes.sum := by
  have hsizes : (Hy3TensorRole.resident model.config.blockCount).map model.bytesOf = sizes := by
    refine List.forall₂_eq_eq_eq.le _ _
      (List.forall₂_map_left_iff.mpr (h.imp fun role bytes hbytes => ?_))
    exact congrArg (Option.getD · 0) hbytes
  have hholds : ∀ role ∈ Hy3TensorRole.resident model.config.blockCount, ∃ bytes,
      model.Holds role bytes := by
    intro role hmem
    obtain ⟨index, hindex, rfl⟩ := List.mem_iff_getElem.mp hmem
    exact ⟨_, h.get hindex (h.length_eq ▸ hindex)⟩
  rw [map_residentTensors, ((perm_residentTensors hholds).map _).sum_eq, hsizes]

end ValidatedModel

theorem Hy3MemoryBudget.checkedSum_eq_some {total n : Nat} {bytes : List Nat}
    (h : checkedSum total bytes = some n) :
    n = total + bytes.sum := by
  induction bytes generalizing total with
  | nil =>
      cases h
      rfl
  | cons first bytes ih =>
      obtain ⟨next, hnext, h⟩ := Option.bind_eq_some_iff.mp h
      obtain ⟨-, rfl⟩ := checkedAdd_eq_some.mp hnext
      rw [ih h, List.sum_cons, Nat.add_assoc]

end LightBridge.Hy3
