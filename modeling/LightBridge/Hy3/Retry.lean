import LightBridge.Hy3.Atomicity
import LightBridge.Kernels.Routing

/-! A retry after a failed call. Two sessions with the same tokens are evaluated side by side
on healthy hosts, which may hold different experts in their caches. -/
namespace LightBridge.Hy3
open Foundation Kernels ExpertCache Hy3ScalarModel
variable {ε : Type} {model : Hy3ScalarModel}

/-- What a cache of `config` answers to a client that asks for `keys` and holds the only
leases, while `source` supplies every payload. -/
structure Alone (config : CacheConfig) (source : ExpertKey → List UInt8)
    (keys : List ExpertKey) (size : Nat) (outcome : Except (LoadError ε) (List (Lease ExpertKey))) :
    Prop where
  run : ∃ σ₀ σ : System ExpertKey ε, System.Reachable config σ₀ ∧ σ₀.Quiet ∧ σ₀.Sized keys size ∧
    System.Fetch keys size σ₀ σ ∧ System.Acquired keys σ₀ σ outcome ∧ System.Sourced source σ₀ σ
  length : ∀ key ∈ keys, (source key).length = size
  counted : ∀ site, outcome ≠ .error (.cache (.arithmeticOverflow site))

theorem Alone.payloads {config : CacheConfig} {source : ExpertKey → List UInt8}
    {keys : List ExpertKey} {size : Nat} {outcome : Except (LoadError ε) (List (Lease ExpertKey))}
    (h : Alone config source keys size outcome) (nodup : keys.Nodup) (nonempty : keys ≠ []) :
    System.payloads outcome = System.supplied ε config.capacityBytes size source keys := by
  obtain ⟨σ₀, σ, hreachable, hquiet, hsized, hfetch, hacquired, hsourced⟩ := h.run
  obtain ⟨hinv, hconfig⟩ := hreachable.inv
  rw [← hconfig]
  exact hfetch.acquired hquiet hinv hsized nodup nonempty hsourced h.length hacquired h.counted

def routedKeysOf (layer : Nat) (routes : List RoutedExpert) : List ExpertKey :=
  routes.map fun route => ⟨layer, route.expertId⟩

/-- A host without faults: memory is granted, and the experts of a layer are asked of a
deterministic source by this session alone. -/
structure Environment.Healthy (model : Hy3ScalarModel) (source : ExpertKey → List UInt8)
    (env : Environment ε) :
    Prop where
  kv : ∀ layer, env.kv layer = fun _ => true
  leases : ∀ layer, env.leases layer = true
  views : ∀ layer, env.views layer = true
  experts : ∀ index layer moe size routes, model.layers[index]? = some layer →
    layer.feedForward = .moe moe →
    moe.expertLayout.totalBytes (ε := ε) = .ok size →
    Routing model.config.expertCount model.config.expertUsedCount
      (routes.map RoutedExpert.expertId) →
    Alone model.expertCache source (routedKeysOf index routes) size
      (env.acquire (routedKeysOf index routes) size)

/-! ### Experts -/

theorem routedKeysOf_nodup {layer expertCount expertUsedCount : Nat} {routes : List RoutedExpert}
    (h : Routing expertCount expertUsedCount (routes.map RoutedExpert.expertId)) :
    (routedKeysOf layer routes).Nodup := by
  have hkeys : routedKeysOf layer routes = (routes.map RoutedExpert.expertId).map fun expert =>
      ⟨layer, expert⟩ := by
    rw [routedKeysOf, List.map_map]
    rfl
  rw [hkeys]
  exact h.distinct.map fun a b heq => by simpa using heq

/-- Answers that carry the same payloads. -/
def SamePayloads (r r' : Except (Hy3ScalarError ε) (List (Lease ExpertKey))) : Prop :=
  (∃ e, r = .error e ∧ r' = .error e) ∨
    ∃ leases leases', r = .ok leases ∧ r' = .ok leases' ∧
      leases'.map Lease.bytes = leases.map Lease.bytes

theorem samePayloads_of_payloads {outcome outcome' : Except (LoadError ε) (List (Lease ExpertKey))}
    (h : System.payloads outcome = System.payloads outcome') :
    SamePayloads (wrap Hy3ScalarError.expertCache outcome)
      (wrap Hy3ScalarError.expertCache outcome') := by
  cases outcome with
  | ok leases =>
      cases outcome' with
      | ok leases' => exact Or.inr ⟨leases, leases', rfl, rfl, (Except.ok.inj h).symm⟩
      | error e' => cases h
  | error e =>
      cases outcome' with
      | ok leases' => cases h
      | error e' =>
          cases h
          exact Or.inl ⟨_, rfl, rfl⟩

theorem loadRoutes_granted {env : Environment ε} {index : Nat} (granted : env.leases index = true)
    (moe : OwnedMoe) (routes : List RoutedExpert) : loadRoutes env model index moe routes = (do
      let expected ← moe.expertLayout.totalBytes
      ensure model.expertSource .missingExpertSource
      wrap .expertCache (env.acquire (routedKeysOf index routes) expected)) := by
  unfold loadRoutes
  rw [granted]
  split <;> rfl

/-- Two healthy hosts lease the same payloads. -/
theorem loadRoutes_paired {source : ExpertKey → List UInt8} {env env' : Environment ε}
    (h : env.Healthy model source) (h' : env'.Healthy model source) {index : Nat}
    {layer : LayerWeights} {moe : OwnedMoe} {routes : List RoutedExpert}
    (hlayer : model.layers[index]? = some layer) (hmoe : layer.feedForward = .moe moe)
    (routing : Routing model.config.expertCount model.config.expertUsedCount
      (routes.map RoutedExpert.expertId)) (nonempty : routes ≠ []) :
    SamePayloads (loadRoutes env model index moe routes)
      (loadRoutes env' model index moe routes) := by
  rw [loadRoutes_granted (h.leases index), loadRoutes_granted (h'.leases index)]
  cases hsize : moe.expertLayout.totalBytes (ε := ε) with
  | error e => exact Or.inl ⟨e, rfl, rfl⟩
  | ok size =>
      rw [except_ok_bind, except_ok_bind]
      cases hsource : (ensure model.expertSource .missingExpertSource : Except
        (Hy3ScalarError ε) Unit) with
      | error e => exact Or.inl ⟨e, rfl, rfl⟩
      | ok u =>
          rw [except_ok_bind, except_ok_bind]
          have hkeys : routedKeysOf index routes ≠ [] :=
            fun hnil => nonempty (List.map_eq_nil_iff.mp hnil)
          have hnodup : (routedKeysOf index routes).Nodup := routedKeysOf_nodup routing
          refine samePayloads_of_payloads ?_
          rw [(h.experts index layer moe size routes hlayer hmoe hsize routing).payloads
            hnodup hkeys,
            (h'.experts index layer moe size routes hlayer hmoe hsize routing).payloads
            hnodup hkeys]

/-- The selected experts depend on the leased bytes alone. -/
theorem selectExperts_congr (moe : OwnedMoe) (routes : List RoutedExpert)
    {leases leases' : List (Lease ExpertKey)}
    (h : leases'.map Lease.bytes = leases.map Lease.bytes) :
    (routes.zip leases').mapM (selectExpert (ε := ε) moe) =
      (routes.zip leases).mapM (selectExpert moe) := by
  let select : RoutedExpert × List UInt8 → Except (Hy3ScalarError ε) SelectedExpert :=
    fun leased => do
    let expert ← moe.expertLayout.view leased.2
    pure { expertId := leased.1.expertId, coefficient := leased.1.coefficient, expert }
  have hselect : ∀ xs : List (Lease ExpertKey),
      (routes.zip xs).mapM (selectExpert (ε := ε) moe) =
        (routes.zip (xs.map Lease.bytes)).mapM select := by
    intro xs
    rw [List.zip_map_right, List.mapM_map]
    rfl
  rw [hselect, hselect, h]

/-! ### Layers -/

/-- Two sessions in the middle of the same call. -/
structure Twin (s t : Hy3ScalarSession) : Prop where
  cache : s.cache.Alike t.cache
  position : t.position = s.position
  shape : t.shape = s.shape
  hidden : t.hidden = s.hidden
  dense : t.denseScratch.streamingMoePending = s.denseScratch.streamingMoePending
  moe : t.moeScratch.map Hy3BlockScratch.streamingMoePending =
    s.moeScratch.map Hy3BlockScratch.streamingMoePending

theorem similar_of_shape {s t : Hy3BlockScratch} (shape : t.shape = s.shape)
    (pending : t.streamingMoePending = s.streamingMoePending) : s.Similar t := by
  simp only [Hy3BlockScratch.shape, Prod.mk.injEq] at shape
  exact ⟨shape.1, shape.2.1, shape.2.2, pending⟩

theorem Similar.shape {s t : Hy3BlockScratch} (h : s.Similar t) : t.shape = s.shape := by
  simp only [Hy3BlockScratch.shape, h.buffers, h.ffnNormalized, h.routed]

theorem Twin.denseBlock {s t : Hy3ScalarSession} (h : Twin s t) :
    s.denseBlock.Similar t.denseBlock :=
  ⟨h.cache, h.hidden, similar_of_shape (congrArg Prod.fst h.shape) h.dense⟩

theorem Twin.setDenseBlock {s t : Hy3ScalarSession} (h : Twin s t) {block block' : BlockState}
    (hb : block.Similar block') : Twin (s.setDenseBlock block) (t.setDenseBlock block') := by
  refine ⟨hb.cache, h.position, ?_, hb.hidden, hb.scratch.pending, h.moe⟩
  have hshape := h.shape
  simp only [Hy3ScalarSession.shape, Prod.mk.injEq] at hshape
  obtain ⟨-, hmoe, -, hrest⟩ := hshape
  simp only [Hy3ScalarSession.shape, Hy3ScalarSession.setDenseBlock, Similar.shape hb.scratch,
    hb.hidden, hmoe, hrest]

/-- Two sessions have streaming scratch together. -/
theorem Twin.present {s t : Hy3ScalarSession} (h : Twin s t) {own : Hy3BlockScratch}
    (hs : s.moeScratch = some own) :
    ∃ own', t.moeScratch = some own' ∧ own.Similar own' := by
  have hshape : t.moeScratch.map Hy3BlockScratch.shape = s.moeScratch.map Hy3BlockScratch.shape :=
    congrArg (fun shape => shape.2.1) h.shape
  have hpending := h.moe
  rw [hs] at hshape hpending
  cases ht : t.moeScratch with
  | none =>
      rw [ht] at hshape
      cases hshape
  | some own' =>
      rw [ht] at hshape hpending
      exact ⟨own', rfl, similar_of_shape (Option.some.inj hshape) (Option.some.inj hpending)⟩

theorem Twin.setMoeBlock {s t : Hy3ScalarSession} (h : Twin s t) {block block' : BlockState}
    (hb : block.Similar block') : Twin (s.setMoeBlock block) (t.setMoeBlock block') := by
  refine ⟨hb.cache, h.position, ?_, hb.hidden, h.dense, congrArg some hb.scratch.pending⟩
  have hshape := h.shape
  simp only [Hy3ScalarSession.shape, Prod.mk.injEq] at hshape
  obtain ⟨hdense, -, -, hrest⟩ := hshape
  simp only [Hy3ScalarSession.shape, Hy3ScalarSession.setMoeBlock, Option.map_some,
    Similar.shape hb.scratch, hb.hidden, hdense, hrest]

theorem Twin.setLeases {s t : Hy3ScalarSession} (h : Twin s t)
    (leases leases' : List (Lease ExpertKey)) :
    Twin (s.setLeases leases) (t.setLeases leases') :=
  ⟨h.cache, h.position, h.shape, h.hidden, h.dense, h.moe⟩

section Layers
variable {source : ExpertKey → List UInt8} {env env' : Environment ε} (N : Numerics)

theorem evaluateDense_paired (hkv : ∀ layer, env.kv layer = fun _ => true)
    (hkv' : ∀ layer, env'.kv layer = fun _ => true) (index : Nat) (layer : LayerWeights)
    (expert : OwnedExpert) {s t : Hy3ScalarSession} (h : Twin s t) :
    Command.Paired (fun _ => Twin) (fun _ _ => True)
      (evaluateDense N env model index layer expert s)
      (evaluateDense N env' model index layer expert t) := by
  unfold evaluateDense
  rw [Command.bind_of_ok (Command.read_run s), Command.bind_of_ok (Command.read_run t), hkv,
    hkv', h.position]
  refine .lift_bind rfl trivial fun attention _ => .lift_bind rfl trivial fun swiglu _ => ?_
  exact .zoom
    (.mapError
      ((hy3BlockForwardToken_paired N _ _ h.denseBlock).mono (fun _ _ _ hb => h.setDenseBlock hb)
    fun _ _ _ => trivial))

/-- Two sessions that were routed alike. -/
structure RoutedAlike (model : Hy3ScalarModel) (routed : Hy3BlockScratch)
    (s t : Hy3ScalarSession) : Prop where
  twin : Twin s t
  left : s.moeScratch = some routed
  right : t.moeScratch = some routed
  routing : Routing model.config.expertCount model.config.expertUsedCount
    (routed.selectedRoutes.map RoutedExpert.expertId)
  nonempty : routed.selectedRoutes ≠ []

/-- The second half of a MoE layer. -/
theorem finishMoe_paired (he : env.Healthy model source) (he' : env'.Healthy model source)
    {index : Nat} {layer : LayerWeights} {moe : OwnedMoe}
    (hlayer : model.layers[index]? = some layer) (hmoe : layer.feedForward = .moe moe)
    {own : Hy3BlockScratch} (scratch scratch' : Hy3BlockScratch) {s t : Hy3ScalarSession}
    (hrouted : RoutedAlike model own s t) :
    Command.Paired (fun _ => Twin) (fun _ _ => True) (finishMoe N env model index moe scratch s)
      (finishMoe N env' model index moe scratch' t) := by
  obtain ⟨h, hs, ht, routing, nonempty⟩ := hrouted
  unfold finishMoe
  rw [Command.bind_of_ok (Command.read_run s), Command.bind_of_ok (Command.read_run t)]
  simp only [Hy3ScalarSession.moeBlock, hs, ht, Option.getD_some]
  rw [Command.bind_of_ok (Command.update_run _ s), Command.bind_of_ok (Command.update_run _ t)]
  rcases loadRoutes_paired he he' hlayer hmoe routing nonempty with ⟨e, hl, hl'⟩ | ⟨leases, leases',
    hl, hl', hbytes⟩
  · rw [hl, hl', Command.bind_of_error (Command.lift_run _ _),
      Command.bind_of_error (Command.lift_run _ _)]
    exact .failed e _ _ trivial
  rw [hl, hl', Command.bind_of_ok (Command.lift_run _ _), Command.bind_of_ok (Command.lift_run _ _),
    Command.bind_of_ok (Command.update_run _ _), Command.bind_of_ok (Command.update_run _ _),
    selectExperts_congr moe own.selectedRoutes hbytes, he.views, he'.views]
  refine .lift_bind rfl trivial fun _ _ => .lift_bind rfl trivial fun selected _ => ?_
  refine .lift_bind rfl trivial fun shared _ => ?_
  have hleased : Twin ((s.setLeases []).setLeases leases) ((t.setLeases []).setLeases leases') :=
    (h.setLeases [] []).setLeases leases leases'
  have hscratch : (t.moeBlock scratch').scratch = (s.moeBlock scratch).scratch := by
    show t.moeScratch.getD scratch' = s.moeScratch.getD scratch
    rw [hs, ht]
    rfl
  exact .bind
    (.zoom (.mapError
      ((hy3MoeFinishToken_paired N model.executionMode selected shared h.cache h.hidden
    hscratch).mono (fun _ _ _ hb => hleased.setMoeBlock hb) fun _ _ _ => trivial)))
    fun _ s' t' hlast => .answered () _ _ (Twin.setLeases hlast [] [])

theorem evaluateMoe_paired (he : env.Healthy model source) (he' : env'.Healthy model source)
    {index : Nat} {layer : LayerWeights} {moe : OwnedMoe}
    (hlayer : model.layers[index]? = some layer) (hmoe : layer.feedForward = .moe moe)
    {s t : Hy3ScalarSession} (h : Twin s t) :
    Command.Paired (fun _ => Twin) (fun _ _ => True) (evaluateMoe N env model index layer moe s)
      (evaluateMoe N env' model index layer moe t) := by
  unfold evaluateMoe
  rw [Command.bind_of_ok (Command.read_run s), Command.bind_of_ok (Command.read_run t), he.kv,
    he'.kv, h.position]
  refine .lift_bind rfl trivial fun streaming hstreaming => ?_
  have hcounts : streaming.expertCount = model.config.expertCount ∧
      streaming.expertUsedCount = model.config.expertUsedCount := by
    unfold OwnedMoe.streamingWeights at hstreaming
    iterate 3 obtain ⟨_, -, hstreaming⟩ := except_bind_ok_iff.mp hstreaming
    cases hstreaming
    exact ⟨rfl, rfl⟩
  cases hs : s.moeScratch with
  | none =>
      have ht : t.moeScratch = none := by
        have hpending := h.moe
        rw [hs] at hpending
        exact Option.map_eq_none_iff.mp hpending
      rw [ht]
      exact .failed _ s t trivial
  | some own =>
      obtain ⟨own', ht, hsimilar⟩ := h.present hs
      rw [ht]
      dsimp only [okOr]
      rw [Command.bind_of_ok (Command.lift_run (.ok own) s),
        Command.bind_of_ok (Command.lift_run (.ok own') t)]
      have hblock : (s.moeBlock own).Similar (t.moeBlock own') := by
        refine ⟨h.cache, h.hidden, ?_⟩
        show (s.moeScratch.getD own).Similar (t.moeScratch.getD own')
        rw [hs, ht]
        exact hsimilar
      have hwf : (s.moeBlock own).cache.WellFormed := h.cache.left
      have hrouted : Command.Paired (fun _ s' t' => ∃ routed, RoutedAlike model routed s' t')
          (fun _ _ => True)
          (((hy3MoeRouteToken N (fun _ => true)
            (model.execution index s.position) streaming).mapError
            (Hy3ScalarError.kernel (ε := ε))).zoom
            (Hy3ScalarSession.moeBlock own) Hy3ScalarSession.setMoeBlock s)
          (((hy3MoeRouteToken N (fun _ => true)
            (model.execution index s.position) streaming).mapError
            (Hy3ScalarError.kernel (ε := ε))).zoom
            (Hy3ScalarSession.moeBlock own') Hy3ScalarSession.setMoeBlock t) := by
        refine .zoom (.mapError (((hy3MoeRouteToken_paired N _ streaming hblock).and_left
          (hy3MoeRouteToken_ends N _ _ streaming hwf)).mono (fun _ block block' hb => ?_)
          fun _ _ _ => trivial))
        obtain ⟨⟨hcache, hhidden, hscratch⟩, -, hrouting, hpositive⟩ := hb
        rw [hcounts.1, hcounts.2] at hrouting
        refine ⟨block.scratch, h.setMoeBlock ⟨hcache, hhidden, ?_⟩, rfl, congrArg some hscratch,
          hrouting, fun hnil => ?_⟩
        · rw [hscratch]
          exact .refl _
        · have hcount := hrouting.count
          rw [hnil, List.map_nil, List.length_nil, ← hcounts.2] at hcount
          omega
      refine hrouted.bind fun _ s' t' hmiddle => ?_
      obtain ⟨routed, halike⟩ := hmiddle
      exact finishMoe_paired N he he' hlayer hmoe own own' halike

theorem evaluateLayers_paired (he : env.Healthy model source) (he' : env'.Healthy model source)
    {index : Nat} (layers : List LayerWeights) (hlayers : model.layers.drop index = layers)
    {s t : Hy3ScalarSession} (h : Twin s t) :
    Command.Paired (fun _ => Twin) (fun _ _ => True) (evaluateLayers N env model index layers s)
      (evaluateLayers N env' model index layers t) := by
  induction layers generalizing index s t with
  | nil => exact .answered () s t h
  | cons layer layers ih =>
      have hlayer : model.layers[index]? = some layer := by
        rw [← List.head?_drop, hlayers]
        rfl
      have hrest : model.layers.drop (index + 1) = layers := by
        rw [← List.drop_drop, hlayers]
        rfl
      unfold evaluateLayers
      refine Command.Paired.bind ?_ fun _ s' t' (hnext : Twin s' t') => ih hrest hnext
      unfold evaluateLayer
      refine .lift_bind rfl trivial fun _ _ => ?_
      cases hfeed : layer.feedForward with
      | dense expert => exact evaluateDense_paired N he.kv he'.kv index layer expert h
      | moe moe => exact evaluateMoe_paired N he he' hlayer hfeed h

end Layers

/-! ### One call -/

section Call
variable {source : ExpertKey → List UInt8} {env env' : Environment ε} (N : Numerics)

theorem Resembles.symm {s t : Hy3ScalarSession} (h : Resembles s t) : Resembles t s :=
  ⟨⟨h.cache.right, h.cache.left, h.cache.config.symm, h.cache.view.symm⟩, h.position.symm,
    h.shape.symm, h.right, h.left⟩

theorem Resembles.trans {s t u : Hy3ScalarSession} (h : Resembles s t) (h' : Resembles t u) :
    Resembles s u :=
  ⟨⟨h.cache.left, h'.cache.right, h'.cache.config.trans h.cache.config,
    h'.cache.view.trans h.cache.view⟩, h'.position.trans h.position, h'.shape.trans h.shape,
    h.left, h'.right⟩

theorem embedToken_paired (tokenId : Nat) {s t : Hy3ScalarSession} (h : Resembles s t) :
    Command.Paired (fun _ => Twin) (fun _ _ => True) (embedToken (ε := ε) N model tokenId s)
      (embedToken N model tokenId t) := by
  have hshape := h.shape
  simp only [Hy3ScalarSession.shape, Prod.mk.injEq] at hshape
  obtain ⟨hdense, hmoe, hhidden, hfinal, hblock, hq8⟩ := hshape
  have hpending : t.moeScratch.map Hy3BlockScratch.streamingMoePending =
      s.moeScratch.map Hy3BlockScratch.streamingMoePending := by
    cases hs : s.moeScratch with
    | none =>
        rw [hs] at hmoe
        rw [Option.map_eq_none_iff.mp hmoe]
    | some own =>
        rw [hs] at hmoe
        obtain ⟨own', hown', -⟩ := Option.map_eq_some_iff.mp hmoe
        rw [hown', Option.map_some, Option.map_some, h.left.moe own hs, h.right.moe own' hown']
  unfold embedToken
  rw [Command.bind_of_ok (Command.read_run s), Command.bind_of_ok (Command.read_run t), hhidden]
  refine .lift_bind rfl trivial fun embeddings _ => .lift_bind rfl trivial fun hidden _ =>
    .answered () _ _ ?_
  refine ⟨h.cache, h.position, ?_, rfl, h.right.dense.trans h.left.dense.symm, hpending⟩
  simp only [Hy3ScalarSession.shape, Hy3ScalarSession.setHidden, hdense, hmoe, hfinal, hblock, hq8]

theorem normalizeHidden_paired {s t : Hy3ScalarSession} (h : Twin s t) :
    Command.Paired (fun _ s' t' => Twin s' t' ∧ t'.finalNormalized = s'.finalNormalized)
      (fun _ _ => True) (normalizeHidden (ε := ε) N model s) (normalizeHidden N model t) := by
  have hshape := h.shape
  simp only [Hy3ScalarSession.shape, Prod.mk.injEq] at hshape
  obtain ⟨hdense, hmoe, hhidden, hfinal, hblock, hq8⟩ := hshape
  unfold normalizeHidden
  rw [Command.bind_of_ok (Command.read_run s), Command.bind_of_ok (Command.read_run t),
    h.hidden, hfinal]
  refine .lift_bind rfl trivial fun normalized _ =>
    .answered () _ _ ⟨⟨h.cache, h.position, ?_, h.hidden, h.dense, h.moe⟩, rfl⟩
  simp only [Hy3ScalarSession.shape, Hy3ScalarSession.setFinal, hdense, hmoe, hhidden, hblock, hq8]

theorem finishToken_paired {x y : Hy3ScalarSession × List F32} (h : Twin x.1 y.1)
    (hfinal : y.1.finalNormalized = x.1.finalNormalized) (hlogits : y.2 = x.2) :
    Command.Paired (fun _ x y => Twin x.1 y.1 ∧ y.2 = x.2) (fun _ _ => True)
      (finishToken (ε := ε) N model x) (finishToken N model y) := by
  obtain ⟨session, logits⟩ := x
  obtain ⟨session', buffer⟩ := y
  dsimp only at h hfinal hlogits
  subst hlogits
  have hshape := h.shape
  simp only [Hy3ScalarSession.shape, Prod.mk.injEq] at hshape
  obtain ⟨-, -, -, -, hblock, hq8⟩ := hshape
  unfold finishToken
  rw [Command.bind_of_ok (Command.read_run (session, buffer)),
    Command.bind_of_ok (Command.read_run (session', buffer))]
  dsimp only
  rw [hfinal, hblock, hq8]
  refine .lift_bind rfl trivial fun output _ => ?_
  refine .bind (Q := fun _ x y => Twin x.1 y.1 ∧ y.2 = x.2) (.zoom (.mapError ?_))
    fun _ x y hxy => .answered () _ _ ⟨?_, hxy.2⟩
  · rw [gemvInto_run]
    cases gemv N model.executionMode output session.finalNormalized buffer.length
      session.decodedBlock session.q8 with
    | ok values => exact .answered () values values ⟨h, rfl⟩
    | error e => exact .failed e buffer buffer trivial
  · obtain ⟨hcache, hposition, hshape, hhidden, hdense, hmoe⟩ := hxy.1
    exact ⟨hcache, congrArg (· + 1) hposition, hshape, hhidden, hdense, hmoe⟩

theorem evaluateInner_paired (he : env.Healthy model source) (he' : env'.Healthy model source)
    (tokenId : Nat) (logits : List F32) {s t : Hy3ScalarSession} (h : Resembles s t) :
    Command.Paired (fun _ x y => Twin x.1 y.1 ∧ y.2 = x.2) (fun _ _ => True)
      (evaluateInner N env model tokenId (s, logits))
      (evaluateInner N env' model tokenId (t, logits)) := by
  unfold evaluateInner
  rw [Command.bind_of_ok (Command.read_run (s, logits)),
    Command.bind_of_ok (Command.read_run (t, logits))]
  refine .lift_bind (by rw [h.position]) trivial fun _ _ => ?_
  refine .bind (Q := fun _ x y => (Twin x.1 y.1 ∧ y.1.finalNormalized = x.1.finalNormalized) ∧
    x.2 = logits ∧
    y.2 = logits) ?_ fun _ x y hxy => ?_
  · refine .zoom (.bind (embedToken_paired N tokenId h) fun _ first first' hfirst =>
      .bind (evaluateLayers_paired N he he' model.layers rfl hfirst) fun _ last last' hlast => ?_)
    exact (normalizeHidden_paired N hlast).mono (fun _ u v huv => ⟨huv, rfl, rfl⟩)
      fun _ _ _ => trivial
  · obtain ⟨⟨htwin, hfinal⟩, hx, hy⟩ := hxy
    exact finishToken_paired N htwin hfinal (hy.trans hx.symm)

/-- Sessions with the same tokens go through a call alike on any two healthy hosts. -/
theorem evaluate_paired (he : env.Healthy model source) (he' : env'.Healthy model source)
    (tokenId : Nat) (logits : List F32) {s t : Hy3ScalarSession} (hs : Sound model s)
    (h : Resembles s t) :
    Command.Paired (fun _ x y => Resembles x.1 y.1 ∧ y.2 = x.2)
      (fun x y => Resembles x.1 y.1 ∧ y.2 = x.2) (evaluate N env model tokenId (s, logits))
      (evaluate N env' model tokenId (t, logits)) := by
  have ht := h.sound hs
  have hinner := evaluateInner_paired N he he' tokenId logits h
  have hleft := evaluateInner_ends N env tokenId logits hs
  have hright := evaluateInner_ends N env' tokenId logits ht
  unfold evaluate
  rcases hrun : evaluateInner N env model tokenId (s, logits) with ⟨r, session, buffer⟩
  rcases hrun' : evaluateInner N env' model tokenId (t, logits) with ⟨r', session', buffer'⟩
  rw [hrun] at hinner hleft
  rw [hrun'] at hinner hright
  cases hinner with
  | answered _ _ _ hanswered =>
      obtain ⟨⟨hcache, hposition, hshape, -, -, -⟩, hbuffer⟩ := hanswered
      exact .answered () _ _
        ⟨⟨hcache, hposition, hshape, (hleft.of_ok rfl).sound.idle, (hright.of_ok rfl).sound.idle⟩,
          hbuffer⟩
  | failed e _ _ _ =>
      obtain ⟨⟨-, hahead⟩, hbuffer⟩ := hleft.of_error rfl
      obtain ⟨⟨-, hahead'⟩, hbuffer'⟩ := hright.of_error rfl
      obtain ⟨rolled, hrollback, hresembles⟩ := rollbackTo_resembles (ε := ε) hs hahead
      obtain ⟨rolled', hrollback', hresembles'⟩ := rollbackTo_resembles (ε := ε) ht hahead'
      dsimp only
      rw [hrollback, hrollback']
      refine .failed e _ _ ⟨hresembles.symm.trans (h.trans hresembles'), ?_⟩
      exact hbuffer'.trans hbuffer.symm

end Call

/-! ### Atomicity -/

/-- Two sessions a caller reads alike. -/
structure SameContents (s t : Hy3ScalarSession) : Prop where
  position : t.position = s.position
  stored : ∀ layer, t.cache.storedTokens layer = s.cache.storedTokens layer
  rows : ∀ side layer token head,
    t.cache.readRow side layer token head = s.cache.readRow side layer token head

theorem Resembles.contents {s t : Hy3ScalarSession} (h : Resembles s t) : SameContents s t :=
  ⟨h.position, h.cache.storedTokens, h.cache.readRow⟩

/-- Two calls with the same answer, logits and session contents. -/
structure SameOutcome (x y : Except (Hy3ScalarError ε) Unit × Hy3ScalarSession × List F32) :
    Prop where
  answer : y.1 = x.1
  contents : SameContents x.2.1 y.2.1
  logits : y.2.2 = x.2.2

/-- What a failed call leaves: nothing of it, so that a retry on a healthy host does what
the call would have done there in the first place. -/
structure Undone (N : Numerics) (model : Hy3ScalarModel) (before : Hy3ScalarSession)
    (logits : List F32) (e : Hy3ScalarError ε) (state : Hy3ScalarSession × List F32) : Prop where
  genuine : Genuine e
  contents : SameContents before state.1
  stored : ∀ layer, layer < model.config.blockCount →
    state.1.cache.storedTokens layer = .ok before.position
  logits : state.2 = logits
  idle : state.1.Idle
  retry : ∀ (source : ExpertKey → List UInt8) (env env' : Environment ε), env.Healthy model source →
    env'.Healthy model source → ∀ tokenId buffer,
      SameOutcome (evaluate N env model tokenId (before, buffer))
        (evaluate N env' model tokenId (state.1, buffer))

/-- What a call that answers leaves: one more token in every layer. -/
structure Done (model : Hy3ScalarModel) (before session : Hy3ScalarSession) : Prop where
  position : session.position = before.position + 1
  stored : ∀ layer, layer < model.config.blockCount →
    session.cache.storedTokens layer = .ok (before.position + 1)

theorem Sound.storedTokens {session : Hy3ScalarSession} (h : Sound model session) {layer : Nat}
    (hl : layer < model.config.blockCount) :
    session.cache.storedTokens layer = .ok session.position := by
  have hlayer : layer < session.cache.layerCount := by
    rw [h.config]
    exact hl
  simp only [Kv.PagedKvCache.storedTokens, Kv.PagedKvCache.validateLayer, ensure, hlayer, if_true,
    h.stored layer hl]
  rfl

/-- Evaluation is atomic: from every session a program can hold, a call commits its token in
every layer or leaves nothing behind. -/
theorem evaluate_atomic (N : Numerics) (sha : Sha256) {session : Hy3ScalarSession}
    (reachable : Hy3ScalarModel.Reachable ε N sha model session) (env : Environment ε)
    (tokenId : Nat) (logits : List F32) :
    Command.Ends (fun _ state => Done model session state.1) (Undone N model session logits)
      (evaluate N env model tokenId (session, logits)) := by
  have hsound := reachable.sound
  refine (evaluate_ends N env tokenId logits hsound).mono (fun _ state hcommitted => ?_)
    fun e state hfailed => ?_
  · have hposition : state.1.position = session.position + 1 := by
      obtain ⟨last, -, hlast⟩ := hcommitted
      rw [hlast]
      rfl
    refine ⟨hposition, fun layer hl => ?_⟩
    rw [hcommitted.sound.storedTokens hl, hposition]
  · obtain ⟨hgenuine, hresembles, hlogits⟩ := hfailed
    refine ⟨hgenuine, hresembles.contents, fun layer hl => ?_, hlogits, hresembles.right, ?_⟩
    · rw [(hresembles.sound hsound).storedTokens hl, hresembles.position]
    · intro source env env' he he' tokenId buffer
      have hpaired := evaluate_paired N he he' tokenId buffer hsound hresembles
      generalize evaluate N env model tokenId (session, buffer) = first at hpaired ⊢
      generalize evaluate N env' model tokenId (state.1, buffer) = second at hpaired ⊢
      cases hpaired with
      | answered u x y hsame => exact ⟨rfl, hsame.1.contents, hsame.2⟩
      | failed e x y hsame => exact ⟨rfl, hsame.1.contents, hsame.2⟩

/-! ### A healthy host -/

theorem Alone.granted {config : CacheConfig} {source : ExpertKey → List UInt8}
    {keys : List ExpertKey} {size : Nat} (valid : config.validate = .ok ())
    (limit : config.capacityBytes ≤ usizeMax) (nodup : keys.Nodup)
    (length : ∀ key ∈ keys, (source key).length = size) (hsize : 0 < size)
    (room : keys.length * size ≤ config.capacityBytes) :
    Alone (ε := ε) config source keys size (.ok (System.leasesFor source keys)) := by
  obtain ⟨σ, fetch, acquired, sourced⟩ :=
    System.exists_supplied (ε := ε) limit nodup length hsize room
  have hquiet : (System.initial config : System ExpertKey ε).Quiet :=
    ⟨rfl, fun _ _ called => by cases called⟩
  have hsized : (System.initial config : System ExpertKey ε).Sized keys size := by
    intro id call called
    cases called
  exact ⟨⟨_, σ, .init valid limit, hquiet, hsized, fetch, acquired, sourced⟩, length,
    fun _ => nofun⟩

/-- A host that loads what it is asked for into an empty cache. -/
def lendingHost (source : ExpertKey → List UInt8) : Environment ε where
  kv _ _ := true
  leases _ := true
  views _ := true
  acquire keys _ := .ok (System.leasesFor source keys)

/-- Such a host is healthy when the experts of a token fit together. -/
theorem lendingHost_healthy {source : ExpertKey → List UInt8}
    (valid : model.expertCache.validate = .ok ())
    (limit : model.expertCache.capacityBytes ≤ usizeMax)
    (room : ∀ index layer moe size, model.layers[index]? = some layer →
      layer.feedForward = .moe moe → moe.expertLayout.totalBytes (ε := ε) = .ok size →
      0 < size ∧ model.config.expertUsedCount * size ≤ model.expertCache.capacityBytes ∧
      ∀ expert, expert < model.config.expertCount → (source ⟨index, expert⟩).length = size) :
    (lendingHost source : Environment ε).Healthy model source where
  kv _ := rfl
  leases _ := rfl
  views _ := rfl
  experts index layer moe size routes hlayer hmoe hsize routing := by
    obtain ⟨positive, fits, length⟩ := room index layer moe size hlayer hmoe hsize
    refine Alone.granted valid limit (routedKeysOf_nodup routing) (fun key hkey => ?_) positive ?_
    · obtain ⟨route, hroute, rfl⟩ := List.mem_map.mp hkey
      exact length _ (routing.range _ (List.mem_map_of_mem hroute))
    · rw [routedKeysOf, List.length_map, ← List.length_map (f := RoutedExpert.expertId),
        routing.count]
      exact fits

/-! ### A call that fails and its retry -/

def wideMatrix (outputWidth : Nat) : OwnedMatrix :=
  ⟨.q4K, 256, outputWidth, List.replicate (144 * outputWidth) 0⟩

def tallMatrix : OwnedMatrix := ⟨.f32, 1, 256, List.replicate 1024 0⟩

def smallAttention : OwnedAttention where
  inputNorm := List.replicate 256 .zero
  query := wideMatrix 2
  queryNorm := [.zero, .zero]
  key := wideMatrix 2
  keyNorm := [.zero, .zero]
  value := wideMatrix 1
  output := tallMatrix

def smallExpert : OwnedExpert := ⟨wideMatrix 1, wideMatrix 1, tallMatrix⟩

def smallMoe : OwnedMoe where
  router := wideMatrix 2
  selectionBias := [.zero, .zero]
  shared := smallExpert
  expertLayout := ⟨⟨.q4K, 256, 1, 144⟩, ⟨.q4K, 256, 1, 144⟩, ⟨.f32, 1, 256, 1024⟩⟩

/-- Two layers, one of them with two experts of which one is used for a token. -/
def smallHy3 : Hy3ScalarModel where
  config :=
    { blockCount := 2, contextLength := 4, embeddingLength := 256, attentionHeadCount := 1,
      attentionKvHeadCount := 1, keyLength := 2, valueLength := 1, rmsEpsilon := ⟨0x3727c5ac⟩,
      expertCount := 2, expertUsedCount := 1, expertWeightsScale := ⟨0x3f800000⟩,
      vocabularySize := 1 }
  contextCapacity := 4
  executionMode := .dequantF32
  kvPageTokens := 1
  modelFingerprint := ⟨List.replicate 32 0, length_zeros⟩
  embeddings := wideMatrix 1
  layers :=
    [⟨smallAttention, List.replicate 256 .zero, .dense smallExpert⟩,
      ⟨smallAttention, List.replicate 256 .zero, .moe smallMoe⟩]
  outputNorm := List.replicate 256 .zero
  output := wideMatrix 1
  rope := ⟨2, 4, 4, one, one, .zero, one, one, one⟩
  expertSource := true
  expertCache := { capacityBytes := 1312, admitAfterRequests := 2 }
  blocks := rfl

theorem smallHy3_layers : smallHy3.layers =
    [⟨smallAttention, List.replicate 256 .zero, .dense smallExpert⟩,
      ⟨smallAttention, List.replicate 256 .zero, .moe smallMoe⟩] := rfl

/-- A host that grants the first layer its page and refuses the second. -/
def refusingHost : Environment Unit where
  kv layer _ := layer == 0
  leases _ := true
  views _ := true
  acquire _ _ := .error (.cache .emptyEntry)

/-- Experts of zeroes. -/
def zeroExperts : ExpertKey → List UInt8 := fun _ => List.replicate 1312 0

theorem smallHy3_healthy {source : ExpertKey → List UInt8}
    (length : ∀ expert < 2, (source ⟨1, expert⟩).length = 1312) :
    (lendingHost source : Environment ε).Healthy smallHy3 source := by
  refine lendingHost_healthy rfl (by decide) fun index layer moe size hlayer hmoe hsize => ?_
  have htotal : smallMoe.expertLayout.totalBytes (ε := ε) = .ok 1312 := rfl
  rcases index with _ | _ | index
  · cases hlayer
    cases hmoe
  · cases hlayer
    cases hmoe
    cases hsize.symm.trans htotal
    exact ⟨by decide, by decide, length⟩
  · cases hlayer

/-- The second layer fails after the first has its token. -/
theorem smallHy3_refused :
    ((newSession (ε := Unit) .granting smallHy3).map fun session =>
      (evaluate zeroNumerics refusingHost smallHy3 0 (session, [.zero])).1) =
      .ok (.error (.kernel (.kv (.allocationFailed "new KV pages" 1)))) := by
  decide +kernel

/-- The token is routed to the first expert, which is loaded. -/
theorem smallHy3_answers :
    ((newSession (ε := Unit) .granting smallHy3).map fun session =>
      (evaluate (ε := Unit) zeroNumerics (lendingHost zeroExperts) smallHy3 0
        (session, [.zero])).1) = .ok (.ok ()) := by
  -- the sorts behind a routing do not compute
  simp only [evaluate, evaluateInner, smallHy3_layers, evaluateLayers, evaluateLayer, evaluateMoe,
    hy3MoeRouteToken, routeToken, routeExperts_unordered zeroNumerics_unordered]
  decide +kernel

/-- The call fails without a trace, and its retry on a healthy host succeeds. -/
theorem evaluate_atomic_refused : ∃ session e state,
    newSession (ε := Unit) .granting smallHy3 = .ok session ∧
    evaluate zeroNumerics refusingHost smallHy3 0 (session, [.zero]) = (.error e, state) ∧
    e = .kernel (.kv (.allocationFailed "new KV pages" 1)) ∧
    Undone zeroNumerics smallHy3 session [.zero] e state ∧
    (evaluate (ε := Unit) zeroNumerics (lendingHost zeroExperts) smallHy3 0
      (state.1, [.zero])).1 = .ok () := by
  obtain ⟨session, hnew, hfail⟩ := except_map_ok_iff.mp smallHy3_refused
  have hfirst := smallHy3_answers
  rw [hnew] at hfirst
  have hundone := (evaluate_atomic zeroNumerics zeroSha (.opened _ hnew) refusingHost 0
    [.zero]).of_error (Prod.ext hfail rfl)
  refine ⟨session, _, _, hnew, Prod.ext hfail rfl, rfl, hundone, ?_⟩
  have hhealthy : (lendingHost zeroExperts : Environment Unit).Healthy smallHy3 zeroExperts :=
    smallHy3_healthy fun _ _ => List.length_replicate
  have hretry := hundone.retry zeroExperts _ _ hhealthy hhealthy 0 [.zero]
  exact hretry.answer.trans (Except.ok.inj hfirst)

end LightBridge.Hy3
