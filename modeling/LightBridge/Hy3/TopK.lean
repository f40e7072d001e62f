import LightBridge.Hy3.Options
import LightBridge.Kernels.Moe

/-! The leases of one token: for every MoE layer the routed experts are taken together and
held until the layer is done. -/
namespace LightBridge.Hy3
open Foundation ExpertCache
variable {ε : Type}

/-- The keys of the routed experts of a layer. -/
def routedKeys (layer : Nat) (routes : List Nat) : List ExpertKey := routes.map (ExpertKey.mk layer)

/-- What one session does to the cache while it evaluates one token, nobody else moving. -/
inductive TokenRun (model : ValidatedHy3Model ε) (σ₀ : System ExpertKey ε) :
    System ExpertKey ε → Prop where
  | begin : TokenRun model σ₀ σ₀
  | layer {σ σ' : System ExpertKey ε} (run : TokenRun model σ₀ σ) (quiet : σ.Quiet) (layer : Nat)
      (bytes : Nat) (routes : List Nat) (moe : layer ∈ model.moeLayers)
      (layout : model.expertBytes layer = .ok bytes)
      (routing : Kernels.Routing model.config.expertCount model.config.expertUsedCount routes)
      (fetch : System.Fetch (routedKeys layer routes) bytes σ σ') : TokenRun model σ₀ σ'
  | dropLease {σ : System ExpertKey ε} (run : TokenRun model σ₀ σ) (lease : Lease ExpertKey)
      (live : lease ∈ σ.leases) : TokenRun model σ₀ (σ.dropped lease)

/-- Every caller asks for the experts of a layer with the size of the layer's layout. -/
def LayerSized (model : ValidatedHy3Model ε) (σ : System ExpertKey ε) : Prop :=
  ∀ id call, σ.calls id = some call → model.expertBytes call.key.layer = .ok call.expectedBytes

/-- A call that the token made was refused because everything in the cache is pinned. -/
def Refused (σ₀ σ : System ExpertKey ε) : Prop :=
  ∃ id call requested, σ₀.calls id = none ∧ σ.calls id = some call ∧
    call.phase = .returned (.error (.cache (.capacityPinned requested)))

/-- No token of a session alone is ever refused, from any state of the cache. -/
def TopKResident (model : ValidatedHy3Model ε) (options : Hy3ScalarOptions) : Prop :=
  ∀ σ₀ σ : System ExpertKey ε, System.Reachable options.cacheConfig σ₀ → σ₀.Quiet →
    LayerSized model σ₀ →
    TokenRun model σ₀ σ → ¬ Refused σ₀ σ

theorem layer_of_mem_routedKeys {layer : Nat} {routes : List Nat} {key : ExpertKey}
    (h : key ∈ routedKeys layer routes) : key.layer = layer := by
  obtain ⟨expert, -, rfl⟩ := List.mem_map.mp h
  rfl

theorem LayerSized.sized {model : ValidatedHy3Model ε} {σ : System ExpertKey ε}
    (h : LayerSized model σ) {layer bytes : Nat} (layout : model.expertBytes layer = .ok bytes)
    (routes : List Nat) :
    σ.Sized (routedKeys layer routes) bytes := by
  intro id call called mem
  have hcall := h id call called
  rw [layer_of_mem_routedKeys mem, layout] at hcall
  exact (Except.ok.inj hcall).symm

theorem LayerSized.fetch {model : ValidatedHy3Model ε} {σ σ' : System ExpertKey ε}
    (h : LayerSized model σ) {layer bytes : Nat} {routes : List Nat}
    (layout : model.expertBytes layer = .ok bytes)
    (hc : System.Confined (routedKeys layer routes) bytes σ σ') : LayerSized model σ' := by
  intro id call called
  rcases hc.calls id call called with ⟨hold, -⟩ | ⟨-, mem, hsize⟩
  · exact h id call hold
  · rw [layer_of_mem_routedKeys mem, hsize, layout]

/-- Where every layer fits, a run keeps every layer fitting and refuses nobody. -/
theorem TokenRun.not_refused {model : ValidatedHy3Model ε} {σ₀ σ : System ExpertKey ε}
    (h : TokenRun model σ₀ σ) (hinv : σ₀.Inv) (hsized : LayerSized model σ₀)
    (hold : ∀ layer ∈ model.moeLayers, ∀ bytes, model.expertBytes layer = .ok bytes →
      System.Holdable σ₀.config.capacityBytes bytes model.config.expertUsedCount) :
    System.Steps σ₀ σ ∧ LayerSized model σ ∧ ¬ Refused σ₀ σ := by
  induction h with
  | begin =>
      refine ⟨.refl σ₀, hsized, ?_⟩
      rintro ⟨id, call, requested, new, called, -⟩
      rw [new] at called
      cases called
  | @layer σ σ' run quiet layer bytes routes moe layout routing fetch ih =>
      obtain ⟨hsteps, hlayer, hrefused⟩ := ih
      have hreached := hsteps.inv hinv
      have hconfined := fetch.confined quiet
      refine ⟨hsteps.trans fetch.steps, hlayer.fetch layout hconfined, ?_⟩
      rintro ⟨id, call, requested, new, called, hphase⟩
      rcases hconfined.calls id call called with ⟨hbefore, -⟩ | ⟨hnew, -, -⟩
      · exact hrefused ⟨id, call, requested, new, hbefore, hphase⟩
      · have hcount : (routedKeys layer routes).length = model.config.expertUsedCount := by
          rw [routedKeys, List.length_map, routing.count]
        refine fetch.not_pinned quiet hreached.1 (hlayer.sized layout routes) ?_ hnew called
          requested hphase
        rw [hcount, hreached.2]
        exact hold layer moe bytes layout
  | @dropLease σ run lease live ih =>
      obtain ⟨hsteps, hlayer, hrefused⟩ := ih
      refine ⟨.step hsteps (.dropLease lease live), fun id call called => ?_, ?_⟩
      · obtain ⟨before, hbefore, rfl⟩ := System.calls_notifyAll.mp called
        rw [before.notify_key, before.notify_expectedBytes]
        exact hlayer id before hbefore
      · rintro ⟨id, call, requested, new, called, hphase⟩
        obtain ⟨before, hbefore, rfl⟩ := System.calls_notifyAll.mp called
        refine hrefused ⟨id, before, requested, new, hbefore, ?_⟩
        unfold Call.notify at hphase
        split at hphase
        · cases hphase
        · exact hphase

/-- Where one layer does not fit, its first experts fill an empty cache and the next is refused. -/
theorem exists_refused {model : ValidatedHy3Model ε} {options : Hy3ScalarOptions}
    (accepted : validateOptions model options = .ok ())
    (limit : options.expertCacheBytes ≤ usizeMax) {layer bytes : Nat}
    (moe : layer ∈ model.moeLayers) (layout : model.expertBytes layer = .ok bytes)
    (hold : ¬ System.Holdable options.expertCacheBytes bytes model.config.expertUsedCount) :
    ∃ σ : System ExpertKey ε, TokenRun model (System.initial options.cacheConfig) σ ∧
      Refused (System.initial options.cacheConfig) σ := by
  obtain ⟨-, hlayers⟩ := validateOptions_eq_ok accepted
  obtain ⟨size, hsize, hfits⟩ := hlayers layer moe
  rw [layout] at hsize
  cases hsize
  let routes := List.range model.config.expertUsedCount
  have hrouting : Kernels.Routing model.config.expertCount model.config.expertUsedCount routes := by
    refine ⟨List.length_range, List.nodup_range, fun expert hmem => ?_⟩
    have := List.mem_range.mp hmem
    have := model.topK
    omega
  have hcount : (routedKeys layer routes).length = model.config.expertUsedCount := by
    rw [routedKeys, List.length_map, hrouting.count]
  have hdistinct : (routedKeys layer routes).Nodup :=
    hrouting.distinct.map fun a b heq => by simpa using heq
  have hpos : 0 < bytes := by
    rcases Nat.eq_zero_or_pos bytes with rfl | hpos
    · exact absurd (Or.inl (by omega)) hold
    · exact hpos
  obtain ⟨σ, id, call, fetch, called, hphase⟩ := System.exists_pinned (ε := ε)
    (show options.cacheConfig.capacityBytes ≤ usizeMax from limit) hdistinct hpos hfits
      (by rw [hcount]; exact hold)
  have hquiet : (System.initial options.cacheConfig : System ExpertKey ε).Quiet :=
    ⟨rfl, fun id call called => by cases called⟩
  exact ⟨σ, .layer .begin hquiet layer bytes routes moe layout hrouting fetch, id, call, bytes, rfl,
    called, hphase⟩

/-- Accepted options keep the routed experts of a token resident exactly when every layer
fits: its experts together, or a sum past `usize` where the cache reports an overflow instead. -/
theorem topK_resident_iff (model : ValidatedHy3Model ε) (options : Hy3ScalarOptions)
    (accepted : validateOptions model options = .ok ())
    (limit : options.expertCacheBytes ≤ usizeMax) :
    TopKResident model options ↔ ∀ layer ∈ model.moeLayers, ∀ bytes,
      model.expertBytes layer = .ok bytes →
      System.Holdable options.expertCacheBytes bytes model.config.expertUsedCount := by
  constructor
  · intro hresident layer moe bytes layout
    by_contra hold
    obtain ⟨σ, hrun, hrefused⟩ := exists_refused accepted limit moe layout hold
    exact hresident _ σ (.init (validateOptions_eq_ok accepted).1 limit)
      ⟨rfl, fun id call called => by cases called⟩
      (fun id call called => by cases called) hrun hrefused
  · intro hold σ₀ σ hreachable quiet hsized hrun
    obtain ⟨hinv, hconfig⟩ := hreachable.inv
    refine (hrun.not_refused hinv hsized ?_).2.2
    rw [hconfig]
    exact hold

/-- A model with one MoE layer of two experts of 3072 bytes, both selected for every token. -/
def smallModel : ValidatedHy3Model Unit where
  config :=
    { blockCount := 2, contextLength := 8, embeddingLength := 256, attentionHeadCount := 1,
      attentionKvHeadCount := 1, keyLength := 2, valueLength := 2, rmsEpsilon := ⟨0x3727c5ac⟩,
      expertCount := 2, expertUsedCount := 2, expertWeightsScale := ⟨0x3f800000⟩,
      vocabularySize := 2 }
  expertLayout := fun _ => .ok {
    gate := ⟨.f32, 256, 1, 1024⟩, up := ⟨.f32, 256, 1, 1024⟩, down := ⟨.f32, 1, 256, 1024⟩ }
  topK := Nat.le_refl 2

def smallOptions (expertCacheBytes : Nat) : Hy3ScalarOptions :=
  { contextCapacity := 8, kvPageTokens := 4, expertCacheBytes, cacheAdmitAfterRequests := 2,
    executionMode := .dequantF32 }

/-- Room for both experts. -/
theorem topK_resident_small : TopKResident smallModel (smallOptions 6144) := by
  refine (topK_resident_iff smallModel (smallOptions 6144) rfl (by decide)).mpr
    fun layer moe bytes layout => ?_
  have hbytes : bytes = 3072 := (Except.ok.inj layout).symm
  subst hbytes
  exact Or.inl (by decide)

theorem small_refused {expertCacheBytes : Nat}
    (accepted : validateOptions smallModel (smallOptions expertCacheBytes) = .ok ())
    (limit : expertCacheBytes ≤ usizeMax) (hold : ¬ System.Holdable expertCacheBytes 3072 2) :
    ¬ TopKResident smallModel (smallOptions expertCacheBytes) := by
  intro hresident
  have hmoe : 1 ∈ smallModel.moeLayers := by decide
  obtain ⟨σ, hrun, hrefused⟩ := exists_refused accepted limit hmoe rfl hold
  exact hresident _ σ (.init (validateOptions_eq_ok accepted).1 limit)
    ⟨rfl, fun id call called => by cases called⟩
    (fun id call called => by cases called) hrun hrefused

/-- Room for one expert is accepted, up to the last byte that is missing for the second one. -/
theorem not_topK_resident :
    (validateOptions smallModel (smallOptions 3072) = .ok () ∧
      ¬ TopKResident smallModel (smallOptions 3072)) ∧
    validateOptions smallModel (smallOptions 6143) = .ok () ∧
      ¬ TopKResident smallModel (smallOptions 6143) := by
  refine ⟨⟨rfl, small_refused rfl (by decide) ?_⟩, rfl, small_refused rfl (by decide) ?_⟩
  · unfold System.Holdable
    decide
  · unfold System.Holdable
    decide

end LightBridge.Hy3
