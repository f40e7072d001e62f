import LightBridge.ExpertCache.Sharing
import LightBridge.Hy3.Retry
import LightBridge.Kernels.Granted

/-! A host with faults, beside one without: memory may be refused, loads may fail, and other
sessions may use the expert cache. A call that answers there answers as on the healthy host. -/
namespace LightBridge.Hy3
open Foundation Kernels ExpertCache Hy3ScalarModel
variable {ε : Type} {model : Hy3ScalarModel}

/-- What the cache of a host leases, it has from the source, whoever else asked for it. Nothing is
said of what the host refuses. -/
def Environment.Shared (model : Hy3ScalarModel) (source : ExpertKey → List UInt8)
    (env : Environment ε) : Prop :=
  ∀ index layer moe size routes leases, model.layers[index]? = some layer →
    layer.feedForward = .moe moe → moe.expertLayout.totalBytes (ε := ε) = .ok size →
    Routing model.config.expertCount model.config.expertUsedCount
      (routes.map RoutedExpert.expertId) →
    env.acquire (routedKeysOf index routes) size = .ok leases →
    System.Held ε model.expertCache source (routedKeysOf index routes) size leases

section Host
variable {source : ExpertKey → List UInt8} {env env' : Environment ε}

/-- What a client alone gets, it holds. -/
theorem Alone.held {config : CacheConfig} {keys : List ExpertKey} {size : Nat}
    {leases : List (Lease ExpertKey)} (h : Alone (ε := ε) config source keys size (.ok leases)) :
    System.Held ε config source keys size leases := by
  obtain ⟨σ₀, σ, hreachable, hquiet, hsized, hfetch, hacquired, hsourced⟩ := h.run
  cases hacquired with
  | held _ live keyed =>
      exact ⟨⟨σ, hfetch.steps.reachable hreachable, (hfetch.confined hquiet).sized hsized,
        hsourced.payload, live⟩, keyed⟩

theorem Environment.Healthy.shared (h : env.Healthy model source) : env.Shared model source := by
  intro index layer moe size routes leases hlayer hmoe hsize routing hacquired
  have halone := h.experts index layer moe size routes hlayer hmoe hsize routing
  rw [hacquired] at halone
  exact halone.held

theorem loadRoutes_eq_ok {index : Nat} {moe : OwnedMoe} {routes : List RoutedExpert}
    {leases : List (Lease ExpertKey)} (h : loadRoutes env model index moe routes = .ok leases) :
    ∃ size, moe.expertLayout.totalBytes (ε := ε) = .ok size ∧ model.expertSource = true ∧
      env.acquire (routedKeysOf index routes) size = .ok leases := by
  unfold loadRoutes at h
  have hloaded : (do
      let expected ← moe.expertLayout.totalBytes
      ensure model.expertSource .missingExpertSource
      wrap .expertCache (env.acquire (routedKeysOf index routes) expected) :
        Except (Hy3ScalarError ε) (List (Lease ExpertKey))) = .ok leases := by
    split at h
    · obtain ⟨_, -, h⟩ := except_bind_ok_iff.mp h
      exact h
    · exact h
  obtain ⟨size, hsize, hloaded⟩ := except_bind_ok_iff.mp hloaded
  obtain ⟨_, hsource, hloaded⟩ := except_bind_ok_iff.mp hloaded
  exact ⟨size, hsize, ensure_eq_ok.mp hsource, wrap_eq_ok.mp hloaded⟩

/-- What a host with other sessions leases, a healthy one does too. -/
theorem loadRoutes_shared (he : env.Shared model source) (he' : env'.Healthy model source)
    {index : Nat} {layer : LayerWeights} {moe : OwnedMoe} {routes : List RoutedExpert}
    (hlayer : model.layers[index]? = some layer) (hmoe : layer.feedForward = .moe moe)
    (routing : Routing model.config.expertCount model.config.expertUsedCount
      (routes.map RoutedExpert.expertId)) (nonempty : routes ≠ [])
    {leases : List (Lease ExpertKey)} (h : loadRoutes env model index moe routes = .ok leases) :
    ∃ leases', loadRoutes env' model index moe routes = .ok leases' ∧
      leases'.map Lease.bytes = leases.map Lease.bytes := by
  obtain ⟨size, hsize, hsource, hacquired⟩ := loadRoutes_eq_ok h
  have hkeys : routedKeysOf index routes ≠ [] :=
    fun hnil => nonempty (List.map_eq_nil_iff.mp hnil)
  have hnodup : (routedKeysOf index routes).Nodup := routedKeysOf_nodup routing
  have hheld := (he index layer moe size routes leases hlayer hmoe hsize routing hacquired).payloads
    hnodup hkeys
  have halone := (he'.experts index layer moe size routes hlayer hmoe hsize routing).payloads
    hnodup hkeys
  rw [← hheld] at halone
  cases hacquired' : env'.acquire (routedKeysOf index routes) size with
  | error e =>
      rw [hacquired'] at halone
      cases halone
  | ok leases' =>
      rw [hacquired'] at halone
      refine ⟨leases', ?_, Except.ok.inj halone⟩
      rw [loadRoutes_granted (he'.leases index), hsize, except_ok_bind, hsource, hacquired']
      rfl

/-! ### Layers -/

variable (N : Numerics)

theorem evaluateDense_falters (hkv' : ∀ layer, env'.kv layer = fun _ => true) (index : Nat)
    (layer : LayerWeights) (expert : OwnedExpert) {s t : Hy3ScalarSession} (h : Twin s t) :
    Command.Falters (fun _ => Twin) (fun _ _ => True)
      (evaluateDense N env model index layer expert s)
      (evaluateDense N env' model index layer expert t) := by
  let granting : Environment ε := { env with kv := fun _ _ => true }
  have hgranted : (evaluateDense N env model index layer expert).AnswersAs
      (evaluateDense N granting model index layer expert) := by
    unfold evaluateDense
    refine .bind (.refl _) fun session => .bind (.refl _) fun attention => ?_
    refine .bind (.refl _) fun swiglu => .zoom (.mapError ?_ _)
    exact hy3BlockForwardToken_answersAs N _ _ _
  have hkv : ∀ layer, granting.kv layer = fun _ => true := fun _ => rfl
  exact .of_answersAs hgranted (evaluateDense_paired N hkv hkv' index layer expert h)
    fun _ _ => trivial

theorem finishMoe_falters (he : env.Shared model source) (he' : env'.Healthy model source)
    {index : Nat} {layer : LayerWeights} {moe : OwnedMoe}
    (hlayer : model.layers[index]? = some layer) (hmoe : layer.feedForward = .moe moe)
    {own : Hy3BlockScratch} (scratch scratch' : Hy3BlockScratch) {s t : Hy3ScalarSession}
    (hrouted : RoutedAlike model own s t) :
    Command.Falters (fun _ => Twin) (fun _ _ => True) (finishMoe N env model index moe scratch s)
      (finishMoe N env' model index moe scratch' t) := by
  obtain ⟨h, hs, ht, routing, nonempty⟩ := hrouted
  unfold finishMoe
  rw [Command.bind_of_ok (Command.read_run s), Command.bind_of_ok (Command.read_run t)]
  simp only [Hy3ScalarSession.moeBlock, hs, ht, Option.getD_some]
  rw [Command.bind_of_ok (Command.update_run _ s), Command.bind_of_ok (Command.update_run _ t)]
  cases hl : loadRoutes env model index moe own.selectedRoutes with
  | error e =>
      rw [Command.bind_of_error (Command.lift_run _ _)]
      exact .failed e _ _ _ trivial
  | ok leases =>
      obtain ⟨leases', hl', hbytes⟩ :=
        loadRoutes_shared he he' hlayer hmoe routing nonempty hl
      rw [hl', Command.bind_of_ok (Command.lift_run _ _),
        Command.bind_of_ok (Command.lift_run _ _), Command.bind_of_ok (Command.update_run _ _),
        Command.bind_of_ok (Command.update_run _ _),
        selectExperts_congr moe own.selectedRoutes hbytes, he'.views]
      refine .lift_bind (fun _ _ => rfl) trivial (fun _ _ => ?_) fun _ _ _ => trivial
      refine .check_bind trivial fun selected _ => .check_bind trivial fun shared _ => ?_
      have hleased : Twin ((s.setLeases []).setLeases leases)
          ((t.setLeases []).setLeases leases') :=
        (h.setLeases [] []).setLeases leases leases'
      have hscratch : (t.moeBlock scratch').scratch = (s.moeBlock scratch).scratch := by
        show t.moeScratch.getD scratch' = s.moeScratch.getD scratch
        rw [hs, ht]
        rfl
      refine .bind (Q := fun _ => Twin) (.zoom (.mapError (.of_paired
        ((hy3MoeFinishToken_paired N model.executionMode selected shared h.cache h.hidden
          hscratch).mono (fun _ _ _ hb => hleased.setMoeBlock hb) fun _ _ _ => trivial)
        fun _ _ _ => trivial))) ?_ fun _ _ _ _ => trivial
      exact fun _ s' t' hlast => .answered () _ _ (Twin.setLeases hlast [] [])

/-- The first half of a MoE layer, where memory is granted. -/
theorem routed_paired {index : Nat} {layer : LayerWeights} {moe : OwnedMoe}
    {streaming : Hy3StreamingMoeWeights}
    (hstreaming : moe.streamingWeights (ε := ε) layer.attention layer.ffnNorm model.config =
      .ok streaming) {s t : Hy3ScalarSession} (h : Twin s t) {own own' : Hy3BlockScratch}
    (hs : s.moeScratch = some own) (ht : t.moeScratch = some own') (hsimilar : own.Similar own') :
    Command.Paired (fun _ s' t' => ∃ routed, RoutedAlike model routed s' t') (fun _ _ => True)
      (((hy3MoeRouteToken N (fun _ => true) (model.execution index s.position)
        streaming).mapError (Hy3ScalarError.kernel (ε := ε))).zoom
        (Hy3ScalarSession.moeBlock own) Hy3ScalarSession.setMoeBlock s)
      (((hy3MoeRouteToken N (fun _ => true) (model.execution index s.position)
        streaming).mapError (Hy3ScalarError.kernel (ε := ε))).zoom
        (Hy3ScalarSession.moeBlock own') Hy3ScalarSession.setMoeBlock t) := by
  have hcounts : streaming.expertCount = model.config.expertCount ∧
      streaming.expertUsedCount = model.config.expertUsedCount := by
    unfold OwnedMoe.streamingWeights at hstreaming
    iterate 3 obtain ⟨_, -, hstreaming⟩ := except_bind_ok_iff.mp hstreaming
    cases hstreaming
    exact ⟨rfl, rfl⟩
  have hblock : (s.moeBlock own).Similar (t.moeBlock own') := by
    refine ⟨h.cache, h.hidden, ?_⟩
    show (s.moeScratch.getD own).Similar (t.moeScratch.getD own')
    rw [hs, ht]
    exact hsimilar
  have hwf : (s.moeBlock own).cache.WellFormed := h.cache.left
  refine .zoom (.mapError (((hy3MoeRouteToken_paired N _ streaming hblock).and_left
    (hy3MoeRouteToken_ends N _ _ streaming hwf)).mono (fun _ block block' hb => ?_)
    fun _ _ _ => trivial))
  obtain ⟨⟨hcache, hhidden, hscratch⟩, -, hrouting, hpositive⟩ := hb
  rw [hcounts.1, hcounts.2] at hrouting
  refine ⟨block.scratch, h.setMoeBlock ⟨hcache, hhidden, ?_⟩, rfl, congrArg some hscratch,
    hrouting, fun hnil => ?_⟩
  · rw [hscratch]
    exact .refl _
  · have hcount := hrouting.count
    rw [hnil, List.map_nil, List.length_nil, ← hcounts.2] at hcount
    omega

theorem evaluateMoe_falters (he : env.Shared model source) (he' : env'.Healthy model source)
    {index : Nat} {layer : LayerWeights} {moe : OwnedMoe}
    (hlayer : model.layers[index]? = some layer) (hmoe : layer.feedForward = .moe moe)
    {s t : Hy3ScalarSession} (h : Twin s t) :
    Command.Falters (fun _ => Twin) (fun _ _ => True) (evaluateMoe N env model index layer moe s)
      (evaluateMoe N env' model index layer moe t) := by
  unfold evaluateMoe
  rw [Command.bind_of_ok (Command.read_run s), Command.bind_of_ok (Command.read_run t), he'.kv,
    h.position]
  refine .check_bind trivial fun streaming hstreaming => ?_
  cases hs : s.moeScratch with
  | none => exact .failed _ _ s _ trivial
  | some own =>
      obtain ⟨own', ht, hsimilar⟩ := h.present hs
      rw [ht]
      dsimp only [okOr]
      rw [Command.bind_of_ok (Command.lift_run (.ok own) s),
        Command.bind_of_ok (Command.lift_run (.ok own') t)]
      have hrouted : Command.Falters (fun _ s' t' => ∃ routed, RoutedAlike model routed s' t')
          (fun _ _ => True)
          (((hy3MoeRouteToken N (env.kv index)
            (model.execution index s.position) streaming).mapError
            (Hy3ScalarError.kernel (ε := ε))).zoom
            (Hy3ScalarSession.moeBlock own) Hy3ScalarSession.setMoeBlock s)
          (((hy3MoeRouteToken N (fun _ => true)
            (model.execution index s.position) streaming).mapError
            (Hy3ScalarError.kernel (ε := ε))).zoom
            (Hy3ScalarSession.moeBlock own') Hy3ScalarSession.setMoeBlock t) :=
        .of_answersAs (.zoom (.mapError (hy3MoeRouteToken_answersAs N _ _ streaming) _))
          (routed_paired N hstreaming h hs ht hsimilar) fun _ _ => trivial
      refine hrouted.bind (fun _ s' t' hmiddle => ?_) fun _ _ _ _ => trivial
      obtain ⟨routed, halike⟩ := hmiddle
      exact finishMoe_falters N he he' hlayer hmoe own own' halike

theorem evaluateLayers_falters (he : env.Shared model source) (he' : env'.Healthy model source)
    (layers : List LayerWeights) :
    ∀ {index : Nat}, model.layers.drop index = layers → ∀ {s t : Hy3ScalarSession}, Twin s t →
    Command.Falters (fun _ => Twin) (fun _ _ => True) (evaluateLayers N env model index layers s)
      (evaluateLayers N env' model index layers t) := by
  induction layers with
  | nil =>
      intro index _ s t h
      exact .answered () s t h
  | cons layer layers ih =>
      intro index hlayers s t h
      have hlayer : model.layers[index]? = some layer := by
        rw [← List.head?_drop, hlayers]
        rfl
      have hrest : model.layers.drop (index + 1) = layers := by
        rw [← List.drop_drop, hlayers]
        rfl
      unfold evaluateLayers
      refine .bind (Q := fun _ => Twin) ?_ (fun _ s' t' hnext => ih hrest hnext)
        fun _ _ _ _ => trivial
      unfold evaluateLayer
      refine .check_bind trivial fun _ _ => ?_
      cases hfeed : layer.feedForward with
      | dense expert => exact evaluateDense_falters N he'.kv index layer expert h
      | moe moe => exact evaluateMoe_falters N he he' hlayer hfeed h

/-! ### One call -/

theorem evaluateInner_falters (he : env.Shared model source) (he' : env'.Healthy model source)
    (tokenId : Nat) (logits : List F32) {s t : Hy3ScalarSession} (h : Resembles s t) :
    Command.Falters (fun _ x y => Twin x.1 y.1 ∧ y.2 = x.2) (fun _ _ => True)
      (evaluateInner N env model tokenId (s, logits))
      (evaluateInner N env' model tokenId (t, logits)) := by
  unfold evaluateInner
  rw [Command.bind_of_ok (Command.read_run (s, logits)),
    Command.bind_of_ok (Command.read_run (t, logits))]
  dsimp only
  rw [h.position]
  refine .check_bind trivial fun _ _ => ?_
  refine .bind (Q := fun _ x y => (Twin x.1 y.1 ∧ y.1.finalNormalized = x.1.finalNormalized) ∧
    x.2 = logits ∧ y.2 = logits) ?_ (fun _ x y hxy => ?_) fun _ _ _ _ => trivial
  · refine .zoom (.bind (.of_paired (embedToken_paired N tokenId h) fun _ _ _ => trivial)
      (fun _ first first' hfirst => ?_) fun _ _ _ _ => trivial)
    refine .bind (evaluateLayers_falters N he he' model.layers rfl hfirst)
      (fun _ last last' hlast => ?_) fun _ _ _ _ => trivial
    exact .of_paired ((normalizeHidden_paired N hlast).mono (fun _ u v huv => ⟨huv, rfl, rfl⟩)
      fun _ _ _ => trivial) fun _ _ _ => trivial
  · obtain ⟨⟨htwin, hfinal⟩, hx, hy⟩ := hxy
    exact .of_paired (finishToken_paired N htwin hfinal (hy.trans hx.symm)) fun _ _ _ => trivial

/-- A call that answers on a host with faults answers as on a healthy one, and the sessions go on
alike. -/
theorem evaluate_falters (he : env.Shared model source) (he' : env'.Healthy model source)
    (tokenId : Nat) (logits : List F32) {s t : Hy3ScalarSession} (hs : Sound model s)
    (h : Resembles s t) :
    Command.Falters (fun _ x y => Resembles x.1 y.1 ∧ y.2 = x.2) (fun _ _ => True)
      (evaluate N env model tokenId (s, logits)) (evaluate N env' model tokenId (t, logits)) := by
  have hinner := evaluateInner_falters N he he' tokenId logits h
  have hleft := evaluateInner_ends N env tokenId logits hs
  have hright := evaluateInner_ends N env' tokenId logits (h.sound hs)
  unfold evaluate
  rcases hrun : evaluateInner N env model tokenId (s, logits) with ⟨r, session, buffer⟩
  rcases hrun' : evaluateInner N env' model tokenId (t, logits) with ⟨r', session', buffer'⟩
  rw [hrun] at hinner hleft
  rw [hrun'] at hinner hright
  cases hinner with
  | answered _ _ _ hanswered =>
      obtain ⟨⟨hcache, hposition, hshape, -, -, -⟩, hbuffer⟩ := hanswered
      exact .answered () _ _
        ⟨⟨hcache, hposition, hshape, (hleft.of_ok rfl).sound.idle, (hright.of_ok rfl).sound.idle⟩,
          hbuffer⟩
  | failed e _ _ _ _ =>
      dsimp only
      split
      · exact .failed _ _ _ _ trivial
      · exact .failed _ _ _ _ trivial

end Host

end LightBridge.Hy3
