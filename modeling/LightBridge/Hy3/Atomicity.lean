import LightBridge.Hy3.Session

/-! One evaluation either commits its token in every layer or leaves the session as it was.
The invariant of a running call compares the cache with the one the call started from. -/
namespace LightBridge.Hy3
open Foundation Kernels ExpertCache Hy3ScalarModel

def Hy3ScalarSession.shape (session : Hy3ScalarSession) :
    (Hy3BlockBuffers × Nat × Nat) × Option (Hy3BlockBuffers × Nat × Nat) × Nat × Nat × Nat × Nat :=
  (session.denseScratch.shape, session.moeScratch.map Hy3BlockScratch.shape, session.hidden.length,
    session.finalNormalized.length, session.decodedBlock, session.q8)

theorem denseBlock_shape {session : Hy3ScalarSession} {block : BlockState}
    (h : block.shape = session.denseBlock.shape) :
    (session.setDenseBlock block).shape = session.shape := by
  obtain ⟨hhidden, hscratch⟩ := Prod.mk.inj h
  simp only [Hy3ScalarSession.shape, Hy3ScalarSession.setDenseBlock, hhidden, hscratch]
  rfl

theorem moeBlock_shape {session : Hy3ScalarSession} {scratch : Hy3BlockScratch} {block : BlockState}
    (present : session.moeScratch.isSome) (h : block.shape = (session.moeBlock scratch).shape) :
    (session.setMoeBlock block).shape = session.shape := by
  obtain ⟨own, hown⟩ := Option.isSome_iff_exists.mp present
  obtain ⟨hhidden, hscratch⟩ := Prod.mk.inj h
  simp only [Hy3ScalarSession.moeBlock, hown, Option.getD_some] at hhidden hscratch
  simp only [Hy3ScalarSession.shape, Hy3ScalarSession.setMoeBlock, hhidden, hscratch, hown,
    Option.map_some]

/-- No streamed phase is open and no expert is leased. -/
structure Hy3ScalarSession.Idle (session : Hy3ScalarSession) : Prop where
  leases : session.expertLeases = []
  dense : session.denseScratch.streamingMoePending = false
  moe : ∀ scratch, session.moeScratch = some scratch → scratch.streamingMoePending = false

/-- A session between two calls. -/
structure Sound (model : Hy3ScalarModel) (session : Hy3ScalarSession) : Prop where
  wellFormed : session.cache.WellFormed
  config : session.cache.toKvConfig = model.kvConfig
  stored : ∀ layer, layer < model.config.blockCount →
    session.cache.storedLength layer = session.position
  idle : session.Idle

/-- A cache that still holds every token `before` had. -/
structure Kept (model : Hy3ScalarModel) (before : Hy3ScalarSession)
    (cache : Kv.PagedKvCache) : Prop where
  wellFormed : cache.WellFormed
  config : cache.toKvConfig = model.kvConfig
  rewind : cache.view.rewind before.position = before.cache.view

/-- A session during a call that began with `before`. -/
structure Ahead (model : Hy3ScalarModel) (before session : Hy3ScalarSession) : Prop where
  kept : Kept model before session.cache
  position : session.position = before.position
  shape : session.shape = before.shape

/-- The layers below `layer` have their token. -/
structure Reached (model : Hy3ScalarModel) (before : Hy3ScalarSession) (layer : Nat)
    (session : Hy3ScalarSession) :
    Prop extends Ahead model before session where
  stored : ∀ l, l < model.config.blockCount →
    session.cache.storedLength l = if l < layer then before.position + 1 else before.position
  idle : session.Idle

/-- Not the error of a failed rollback. -/
def Genuine {ε : Type} (e : Hy3ScalarError ε) : Prop :=
  ∀ original rollback, e ≠ .sessionRollback original rollback

section Errors
variable {ε α : Type}

theorem genuine_kernel (r : Except KernelError α) :
    FailsIn (wrap (Hy3ScalarError.kernel (ε := ε)) r) Genuine := failsIn_wrap (fun _ => nofun) r

theorem genuine_matrix (matrix : OwnedMatrix) : FailsIn (matrix.view (ε := ε)) Genuine :=
  genuine_kernel _

theorem genuine_attention (attention : OwnedAttention) (config : Hy3Config) :
    FailsIn (attention.view (ε := ε) config) Genuine :=
  (genuine_matrix _).bind fun _ _ => (genuine_matrix _).bind fun _ _ =>
    (genuine_matrix _).bind fun _ _ =>
    (genuine_matrix _).bind fun _ _ => .pure _ _

theorem genuine_expert (expert : OwnedExpert) : FailsIn (expert.view (ε := ε)) Genuine :=
  (genuine_matrix _).bind fun _ _ => (genuine_matrix _).bind fun _ _ =>
    (genuine_matrix _).bind fun _ _ =>
    genuine_kernel _

theorem genuine_streamingWeights (moe : OwnedMoe) (attention : OwnedAttention) (ffnNorm : List F32)
    (config : Hy3Config) :
    FailsIn (moe.streamingWeights (ε := ε) attention ffnNorm config) Genuine :=
  (genuine_attention _ _).bind fun _ _ => (genuine_matrix _).bind fun _ _ =>
    (genuine_expert _).bind fun _ _ =>
    .pure _ _

theorem genuine_payload (layout : ExpertPayloadLayout) (bytes : List UInt8) :
    FailsIn (layout.view (ε := ε) bytes) Genuine := by
  refine FailsIn.bind (failsIn_okOr nofun) fun total _ => (failsIn_ensure nofun).bind fun _ _ => ?_
  refine (failsIn_okOr nofun).bind fun upEnd _ => (genuine_kernel _).bind fun _ _ => ?_
  exact (genuine_kernel _).bind fun _ _ => (genuine_kernel _).bind fun _ _ => genuine_kernel _

theorem genuine_loadRoutes (env : Environment ε) (model : Hy3ScalarModel) (layer : Nat)
    (moe : OwnedMoe)
    (routes : List RoutedExpert) : FailsIn (loadRoutes env model layer moe routes) Genuine := by
  have hrest : FailsIn (do
      let expected ← moe.expertLayout.totalBytes
      ensure model.expertSource .missingExpertSource
      wrap .expertCache (env.acquire (routes.map fun route => ⟨layer, route.expertId⟩) expected) :
      Except (Hy3ScalarError ε) (List (Lease ExpertKey))) Genuine :=
    FailsIn.bind (failsIn_okOr nofun) fun _ _ => (failsIn_ensure nofun).bind fun _ _ =>
      failsIn_wrap (fun _ => nofun) _
  unfold loadRoutes
  by_cases hmode : model.executionMode ≠ .cpuParallelQ8K
  · rw [if_pos hmode]
    exact (failsIn_ensure nofun).bind fun _ _ => hrest
  · rw [if_neg hmode]
    exact hrest

theorem genuine_selectExpert (moe : OwnedMoe) (leased : RoutedExpert × Lease ExpertKey) :
    FailsIn (selectExpert (ε := ε) moe leased) Genuine :=
  (genuine_payload _ _).bind fun _ _ => .pure _ _

end Errors

/-! ### One layer -/

section Layers
variable {ε : Type} {model : Hy3ScalarModel} {before session : Hy3ScalarSession}

/-- How a call that cannot go on leaves the session. -/
def Abandons (model : Hy3ScalarModel) (before : Hy3ScalarSession) (e : Hy3ScalarError ε)
    (session : Hy3ScalarSession) :
    Prop := Genuine e ∧ Ahead model before session

theorem Sound.ahead (h : Sound model before) : Ahead model before before := by
  refine ⟨⟨h.wellFormed, h.config, ?_⟩, rfl, rfl⟩
  funext layer
  rw [Kv.AbstractKv.rewind]
  refine List.take_of_length_le ?_
  rw [Kv.PagedKvCache.length_view]
  by_cases hl : layer < model.config.blockCount
  · exact (h.stored layer hl).le
  · rw [Kv.PagedKvCache.storedLength_of_le]
    · exact Nat.zero_le _
    · rw [h.wellFormed.lengths_length, h.config]
      exact Nat.le_of_not_lt hl

theorem Advanced.kept {layer : Nat} {cache cache' : Kv.PagedKvCache}
    (h : Advanced layer cache cache') (hkept : Kept model before cache)
    (stored : cache.storedLength layer = before.position) :
    Kept model before cache' ∧ ∀ l, cache'.storedLength l =
      if l = layer then before.position + 1 else cache.storedLength l := by
  obtain ⟨keys, values, happ⟩ := h
  have hview : ∀ l, cache'.view l = if l = layer then cache.view l ++ cache.rowsOf 1 keys values
      else cache.view l := by
    intro l
    rw [happ.view, Kv.AbstractKv.append, Function.update_apply]
    by_cases hl : l = layer
    · subst hl
      rw [if_pos rfl]
    · rw [if_neg hl, if_neg hl]
  refine ⟨⟨happ.wellFormed, happ.config.trans hkept.config, ?_⟩, fun l => ?_⟩
  · rw [← hkept.rewind]
    funext l
    rw [Kv.AbstractKv.rewind, Kv.AbstractKv.rewind, hview l]
    split
    · rename_i hl
      rw [List.take_append_of_le_length]
      rw [Kv.PagedKvCache.length_view, hl, stored]
    · rfl
  · rw [← Kv.PagedKvCache.length_view, hview l]
    split
    · rename_i hl
      rw [List.length_append, Kv.PagedKvCache.length_view, hl, stored]
      simp [Kv.KvConfig.rowsOf]
    · rw [Kv.PagedKvCache.length_view]

theorem Attempted.kept {layer : Nat} {cache cache' : Kv.PagedKvCache}
    (h : Attempted layer cache cache') (hkept : Kept model before cache)
    (stored : cache.storedLength layer = before.position) :
    Kept model before cache' := by
  rcases h with rfl | h
  · exact hkept
  · exact (Advanced.kept h hkept stored).1

/-- The next layer has no token yet. -/
theorem Reached.next {layer : Nat} (h : Reached model before layer session)
    (hl : layer < model.config.blockCount) :
    session.cache.storedLength layer = before.position := by
  rw [h.stored layer hl, if_neg (Nat.lt_irrefl layer)]

theorem Reached.advance {layer : Nat} (h : Reached model before layer session)
    (hl : layer < model.config.blockCount) {cache' : Kv.PagedKvCache}
    (hadv : Advanced layer session.cache cache') : Kept model before cache' ∧
      ∀ l, l < model.config.blockCount →
        cache'.storedLength l = if l < layer + 1 then before.position + 1 else before.position := by
  obtain ⟨hkept, hlengths⟩ := Advanced.kept hadv h.kept (h.next hl)
  refine ⟨hkept, fun l hlt => ?_⟩
  rw [hlengths l]
  by_cases heq : l = layer
  · subst heq
    rw [if_pos rfl, if_pos (Nat.lt_succ_self l)]
  · rw [if_neg heq, h.stored l hlt]
    by_cases hbelow : l < layer
    · rw [if_pos hbelow, if_pos (by omega)]
    · rw [if_neg hbelow, if_neg (by omega)]

theorem evaluateDense_ends (N : Numerics) (env : Environment ε) {index : Nat} (layer : LayerWeights)
    (expert : OwnedExpert) (hl : index < model.config.blockCount)
    (h : Reached model before index session) :
    Command.Ends (fun _ => Reached model before (index + 1)) (Abandons model before)
      (evaluateDense N env model index layer expert session) := by
  unfold evaluateDense
  rw [Command.bind_of_ok (Command.read_run session)]
  refine .lift_bind (fun e he => ⟨genuine_attention _ _ e he, h.toAhead⟩) fun attention _ => ?_
  refine .lift_bind (fun e he => ⟨genuine_expert _ e he, h.toAhead⟩) fun swiglu _ => ?_
  have hwf : session.denseBlock.cache.WellFormed := h.kept.wellFormed
  refine .zoom
    (.mapError
      (((hy3BlockForwardToken_ends N (env.kv index) (model.execution index session.position)
    { attention, ffnNorm := layer.ffnNorm, feedForward := .dense swiglu } hwf).and
    (hy3BlockForwardToken_shape N _ _ _ session.denseBlock)).mono (fun _ block hb => ?_)
      fun e block hb => ?_))
  · obtain ⟨hkept, hstored⟩ := h.advance hl hb.1.1
    exact { kept := hkept, position := h.position, shape := (denseBlock_shape hb.2).trans h.shape,
            stored := hstored
            idle := ⟨h.idle.leases, hb.1.2, h.idle.moe⟩ }
  · exact ⟨nofun, Attempted.kept hb.1 h.kept (h.next hl), h.position,
      (denseBlock_shape hb.2).trans h.shape⟩

/-- A session whose MoE layer `layer` has its token and its routes. -/
structure Routed (model : Hy3ScalarModel) (before : Hy3ScalarSession) (layer : Nat)
    (session : Hy3ScalarSession) :
    Prop extends Ahead model before session where
  stored : ∀ l, l < model.config.blockCount →
    session.cache.storedLength l = if l < layer + 1 then before.position + 1 else before.position
  dense : session.denseScratch.streamingMoePending = false
  present : session.moeScratch.isSome

theorem Routed.setLeases {layer : Nat} (h : Routed model before layer session)
    (leases : List (Lease ExpertKey)) :
    Routed model before layer (session.setLeases leases) :=
  ⟨⟨h.kept, h.position, h.shape⟩, h.stored, h.dense, h.present⟩

theorem finishMoe_ends (N : Numerics) (env : Environment ε) {index : Nat} (moe : OwnedMoe)
    (scratch : Hy3BlockScratch) (h : Routed model before index session) :
    Command.Ends (fun _ => Reached model before (index + 1)) (Abandons model before)
      (finishMoe N env model index moe scratch session) := by
  unfold finishMoe
  rw [Command.bind_of_ok (Command.read_run session),
    Command.bind_of_ok (Command.update_run _ session)]
  have hcleared := h.setLeases []
  refine .lift_bind (fun e he => ⟨genuine_loadRoutes _ _ _ _ _ e he, hcleared.toAhead⟩)
    fun leases _ => ?_
  rw [Command.bind_of_ok (Command.update_run _ _)]
  have hleased := hcleared.setLeases leases
  refine .lift_bind (fun e he => ⟨failsIn_ensure nofun e he, hleased.toAhead⟩) fun _ _ => ?_
  refine .lift_bind (fun e he =>
    ⟨FailsIn.mapM (fun _ _ => genuine_selectExpert _ _) e he, hleased.toAhead⟩)
    fun selected _ => ?_
  refine .lift_bind (fun e he => ⟨genuine_expert _ e he, hleased.toAhead⟩) fun shared _ => ?_
  refine .bind (Q := fun _ s => Routed model before index s ∧
      ∀ scratch, s.moeScratch = some scratch → scratch.streamingMoePending = false) ?_
        fun _ last hlast => ?_
  · refine .zoom (.mapError (((hy3MoeFinishToken_ends N model.executionMode selected shared _).and
      (hy3MoeFinishToken_shape N model.executionMode selected shared _)).mono (fun _ block hb => ?_)
        fun e block hb => ?_))
    · obtain ⟨⟨hcache, hpending⟩, hshape⟩ := hb
      refine ⟨⟨⟨?_, hleased.position, (moeBlock_shape hleased.present hshape).trans hleased.shape⟩,
        ?_, hleased.dense, rfl⟩, fun scratch hscratch => ?_⟩
      · show Kept model before block.cache
        rw [hcache]
        exact hleased.kept
      · show ∀ l, l < model.config.blockCount → block.cache.storedLength l = _
        rw [hcache]
        exact hleased.stored
      · cases hscratch
        exact hpending
    · refine ⟨nofun, ?_, hleased.position,
        (moeBlock_shape hleased.present hb.2).trans hleased.shape⟩
      show Kept model before block.cache
      rw [hb.1]
      exact hleased.kept
  · exact .answered () _
      { kept := hlast.1.kept, position := hlast.1.position, shape := hlast.1.shape
        stored := hlast.1.stored, idle := ⟨rfl, hlast.1.dense, hlast.2⟩ }

theorem evaluateMoe_ends (N : Numerics) (env : Environment ε) {index : Nat} (layer : LayerWeights)
    (moe : OwnedMoe) (hl : index < model.config.blockCount)
    (h : Reached model before index session) :
    Command.Ends (fun _ => Reached model before (index + 1)) (Abandons model before)
      (evaluateMoe N env model index layer moe session) := by
  unfold evaluateMoe
  rw [Command.bind_of_ok (Command.read_run session)]
  refine .lift_bind (fun e he => ⟨genuine_streamingWeights _ _ _ _ e he, h.toAhead⟩)
    fun streaming _ => ?_
  refine .lift_bind (fun e he => ⟨failsIn_okOr nofun e he, h.toAhead⟩) fun scratch hscratch => ?_
  have present : session.moeScratch.isSome := by
    rw [okOr_eq_ok.mp hscratch]
    rfl
  have hwf : (session.moeBlock scratch).cache.WellFormed := h.kept.wellFormed
  refine .bind
    (.zoom (.mapError
      (((hy3MoeRouteToken_ends N (env.kv index) (model.execution index session.position)
    streaming hwf).and (hy3MoeRouteToken_shape N _ _ streaming _)).mono (fun _ block hb => ?_)
      fun e block hb => ?_)))
    fun _ middle hmiddle => finishMoe_ends N env moe scratch hmiddle
  · obtain ⟨hkept, hstored⟩ := h.advance hl hb.1.1
    exact { kept := hkept, position := h.position,
            shape := (moeBlock_shape present hb.2).trans h.shape
            stored := hstored, dense := h.idle.dense, present := rfl }
  · exact ⟨nofun, Attempted.kept hb.1 h.kept (h.next hl), h.position,
      (moeBlock_shape present hb.2).trans h.shape⟩

theorem evaluateLayer_ends (N : Numerics) (env : Environment ε) {index : Nat} (layer : LayerWeights)
    (hl : index < model.config.blockCount) (h : Reached model before index session) :
    Command.Ends (fun _ => Reached model before (index + 1)) (Abandons model before)
      (evaluateLayer N env model index layer session) := by
  unfold evaluateLayer
  refine .lift_bind (fun e he => ⟨failsIn_ensure nofun e he, h.toAhead⟩) fun _ _ => ?_
  cases layer.feedForward with
  | dense expert => exact evaluateDense_ends N env layer expert hl h
  | moe moe => exact evaluateMoe_ends N env layer moe hl h

/-- The invariant moves on by one layer at a time. -/
theorem evaluateLayers_ends (N : Numerics) (env : Environment ε) {index : Nat}
    (layers : List LayerWeights) (hl : index + layers.length = model.config.blockCount)
    (h : Reached model before index session) :
    Command.Ends (fun _ => Reached model before model.config.blockCount) (Abandons model before)
      (evaluateLayers N env model index layers session) := by
  induction layers generalizing index session with
  | nil =>
      refine .answered () session ?_
      rw [List.length_nil, Nat.add_zero] at hl
      rwa [← hl]
  | cons layer layers ih =>
      rw [List.length_cons] at hl
      unfold evaluateLayers
      refine .bind (evaluateLayer_ends N env layer (by omega) h) fun _ next hnext => ?_
      exact ih (by omega) hnext

end Layers

/-! ### One call -/

section Call
variable {ε : Type} {model : Hy3ScalarModel} {before session : Hy3ScalarSession}

theorem embedToken_ends (N : Numerics) (tokenId : Nat) (h : Sound model before) :
    Command.Ends (fun _ => Reached model before 0) (Abandons (ε := ε) model before)
      (embedToken N model tokenId before) := by
  unfold embedToken
  rw [Command.bind_of_ok (Command.read_run before)]
  refine .lift_bind (fun e he => ⟨genuine_matrix _ e he, h.ahead⟩) fun embeddings _ => ?_
  refine .lift_bind (fun e he => ⟨failsIn_wrap (fun _ => nofun) _ e he, h.ahead⟩)
    fun hidden hhidden => ?_
  refine .answered () _
    { kept := h.ahead.kept, position := rfl, shape := ?_, stored := ?_
      idle := ⟨h.idle.leases, h.idle.dense, h.idle.moe⟩ }
  · simp only [Hy3ScalarSession.shape, Hy3ScalarSession.setHidden,
      decodeRow_length (wrap_eq_ok.mp hhidden)]
  · intro l hl
    rw [if_neg (Nat.not_lt_zero l)]
    exact h.stored l hl

theorem normalizeHidden_ends (N : Numerics) {layer : Nat} (h : Reached model before layer session) :
    Command.Ends (fun _ => Reached model before layer) (Abandons (ε := ε) model before)
      (normalizeHidden N model session) := by
  unfold normalizeHidden
  rw [Command.bind_of_ok (Command.read_run session)]
  refine .lift_bind (fun e he => ⟨genuine_kernel _ e he, h.toAhead⟩)
    fun normalized hnormalized => ?_
  refine .answered () _
    { kept := h.kept, position := h.position, shape := Eq.trans ?_ h.shape, stored := h.stored
      idle := ⟨h.idle.leases, h.idle.dense, h.idle.moe⟩ }
  simp only [Hy3ScalarSession.shape, Hy3ScalarSession.setFinal,
    weightedRmsNorm_length (wrap_eq_ok.mp hnormalized)]

/-- The token is in every layer, and its position is committed. -/
def Committed (model : Hy3ScalarModel) (before session : Hy3ScalarSession) : Prop :=
  ∃ last, Reached model before model.config.blockCount last ∧
    session = last.setPosition (before.position + 1)

theorem evaluateInner_ends (N : Numerics) (env : Environment ε) (tokenId : Nat) (logits : List F32)
    (h : Sound model before) :
    Command.Ends (fun _ state => Committed model before state.1)
      (fun e state => Abandons model before e state.1 ∧ state.2 = logits)
      (evaluateInner N env model tokenId (before, logits)) := by
  unfold evaluateInner
  rw [Command.bind_of_ok (Command.read_run (before, logits))]
  refine .lift_bind (fun e he => ⟨⟨?_, h.ahead⟩, rfl⟩) fun _ _ => ?_
  · exact ((failsIn_ensure nofun).bind fun _ _ => (failsIn_ensure nofun).bind fun _ _ =>
      failsIn_ensure nofun) e he
  refine .bind (Q := fun _ state => Reached model before model.config.blockCount state.1 ∧
    state.2 = logits) ?_
    fun _ state hstate => ?_
  · refine .zoom (.mono (.bind (embedToken_ends N tokenId h) fun _ first hfirst =>
      .bind (evaluateLayers_ends N env model.layers (by rw [Nat.zero_add, model.blocks]) hfirst)
        fun _ last hlast =>
        normalizeHidden_ends N hlast) (fun _ last hlast => ⟨hlast, rfl⟩) fun e last he => ⟨he, rfl⟩)
  · obtain ⟨session, buffer⟩ := state
    obtain ⟨hreached, rfl⟩ := hstate
    unfold finishToken
    rw [Command.bind_of_ok (Command.read_run (session, buffer))]
    refine .lift_bind (fun e he => ⟨⟨genuine_matrix _ e he, hreached.toAhead⟩, rfl⟩)
      fun output _ => ?_
    refine .bind (Q := fun _ state => Reached model before model.config.blockCount state.1) ?_
      fun _ last hlast => ?_
    · refine .zoom (.mapError ?_)
      rw [gemvInto_run]
      cases gemv N model.executionMode output session.finalNormalized buffer.length
        session.decodedBlock session.q8 with
      | ok values => exact .answered () values hreached
      | error e => exact .failed e buffer ⟨⟨nofun, hreached.toAhead⟩, rfl⟩
    · refine .answered () _ ⟨last.1, hlast, ?_⟩
      rw [← hlast.position]

/-- Two sessions that no later call tells apart. -/
structure Resembles (s t : Hy3ScalarSession) : Prop where
  cache : s.cache.Alike t.cache
  position : t.position = s.position
  shape : t.shape = s.shape
  left : s.Idle
  right : t.Idle

theorem cleared_shape (session : Hy3ScalarSession) (position : Nat) :
    (session.cleared position).shape = session.shape := by
  simp only [Hy3ScalarSession.shape, Hy3ScalarSession.cleared, List.length_replicate,
    Option.map_map]
  rfl

theorem cleared_idle (session : Hy3ScalarSession) (position : Nat) :
    (session.cleared position).Idle := by
  refine ⟨rfl, rfl, fun scratch hscratch => ?_⟩
  obtain ⟨own, -, rfl⟩ := Option.map_eq_some_iff.mp hscratch
  rfl

/-- A rollback to a position every layer has reached succeeds. -/
theorem rollbackTo_ok (position : Nat) (hwf : session.cache.WellFormed)
    (hlong : ∀ layer, layer < session.cache.layerCount →
      position ≤ (session.cache.view layer).length) :
    ∃ cache, Hy3ScalarSession.rollbackTo (ε := ε) position session =
        (.ok (), (session.setCache cache).cleared position) ∧
      cache.WellFormed ∧ cache.toKvConfig = session.cache.toKvConfig ∧
      cache.view = session.cache.view.rewind position := by
  rcases hwf.rewindAll position with ⟨-, cache, hrun, hwf, hconfig, hview⟩ | ⟨hshort, -⟩
  · refine ⟨cache, ?_, hwf, hconfig, hview⟩
    unfold Hy3ScalarSession.rollbackTo
    rw [Command.bind_of_ok (Command.zoom_run (Command.mapError_of_ok hrun)), Command.update_run]
  · exact absurd hlong hshort

/-- The rollback of a running call succeeds and undoes it. -/
theorem rollbackTo_resembles (h : Sound model before) (hahead : Ahead model before session) :
    ∃ session', Hy3ScalarSession.rollbackTo (ε := ε) before.position session = (.ok (), session') ∧
      Resembles before session' := by
  have hlong : ∀ layer, layer < session.cache.layerCount →
      before.position ≤ (session.cache.view layer).length := by
    intro layer hl
    have hkept := congrArg (fun m : Kv.AbstractKv => (m layer).length) hahead.kept.rewind
    simp only [Kv.AbstractKv.rewind, List.length_take, Kv.PagedKvCache.length_view] at hkept
    rw [hahead.kept.config] at hl
    rw [h.stored layer hl] at hkept
    rw [Kv.PagedKvCache.length_view]
    omega
  obtain ⟨cache, hrun, hwf, hconfig, hview⟩ :=
    rollbackTo_ok (ε := ε) before.position hahead.kept.wellFormed hlong
  refine ⟨_, hrun, ⟨h.wellFormed, hwf, ?_, ?_⟩, rfl, ?_, h.idle, cleared_idle _ _⟩
  · exact hconfig.trans (hahead.kept.config.trans h.config.symm)
  · exact hview.trans hahead.kept.rewind
  · rw [cleared_shape]
    exact hahead.shape

/-- A call commits its token or undoes everything it did. -/
theorem evaluate_ends (N : Numerics) (env : Environment ε) (tokenId : Nat) (logits : List F32)
    (h : Sound model before) :
    Command.Ends (fun _ state => Committed model before state.1)
      (fun e state => Genuine e ∧ Resembles before state.1 ∧ state.2 = logits)
      (evaluate N env model tokenId (before, logits)) := by
  have hinner := evaluateInner_ends N env tokenId logits h
  unfold evaluate
  rcases hrun : evaluateInner N env model tokenId (before, logits) with ⟨r, session, buffer⟩
  rw [hrun] at hinner
  cases hinner with
  | answered _ _ hcommitted => exact .answered () _ hcommitted
  | failed e _ hfailed =>
      obtain ⟨⟨hgenuine, hahead⟩, hbuffer⟩ := hfailed
      obtain ⟨session', hrollback, hresembles⟩ := rollbackTo_resembles (ε := ε) h hahead
      dsimp only
      rw [hrollback]
      exact .failed e _ ⟨hgenuine, hresembles, hbuffer⟩

end Call

/-! ### Every session a program can hold -/

section Reach
variable {ε : Type} {model : Hy3ScalarModel} {before session : Hy3ScalarSession}

theorem Resembles.sound (h : Resembles before session) (hbefore : Sound model before) :
    Sound model session := by
  refine ⟨h.cache.right, h.cache.config.trans hbefore.config, fun layer hl => ?_, h.right⟩
  rw [h.cache.storedLength, hbefore.stored layer hl, h.position]

theorem Committed.sound (h : Committed model before session) : Sound model session := by
  obtain ⟨last, hlast, rfl⟩ := h
  refine ⟨hlast.kept.wellFormed, hlast.kept.config, fun layer hl => ?_, hlast.idle.leases,
    hlast.idle.dense, hlast.idle.moe⟩
  show last.cache.storedLength layer = before.position + 1
  rw [hlast.stored layer hl, if_pos hl]

/-- A cache whose layers all have `position` tokens makes a sound session. -/
theorem cleared_sound {cache : Kv.PagedKvCache} {position : Nat} (hwf : cache.WellFormed)
    (hconfig : cache.toKvConfig = model.kvConfig)
    (stored : ∀ layer, layer < model.config.blockCount → cache.storedLength layer = position) :
    Sound model ((session.setCache cache).cleared position) :=
  ⟨hwf, hconfig, stored, cleared_idle _ _⟩

theorem allocate_pending {granted : String → Bool} {attention : Hy3AttentionWeights}
    {ffnHidden expertCount expertUsedCount routerInput contextCapacity : Nat}
    {scratch : Hy3BlockScratch}
    (h : Hy3BlockScratch.allocate granted attention ffnHidden expertCount expertUsedCount
      routerInput contextCapacity = .ok scratch) : scratch.streamingMoePending = false := by
  obtain ⟨_, -, rfl⟩ := Hy3BlockScratch.allocate_cleared h
  rfl

theorem newSession_sound {alloc : SessionAllocator}
    (h : newSession (ε := ε) alloc model = .ok session) :
    Sound model session := by
  unfold newSession at h
  obtain ⟨weights, hweights, h⟩ := except_bind_ok_iff.mp h
  obtain ⟨moeScratch, hmoe, h⟩ := except_bind_ok_iff.mp h
  obtain ⟨cache, hcache, h⟩ := except_bind_ok_iff.mp h
  obtain ⟨denseScratch, hdense, h⟩ := except_bind_ok_iff.mp h
  iterate 5 obtain ⟨_, -, h⟩ := except_bind_ok_iff.mp h
  cases h
  obtain ⟨hwf, hconfig, hempty⟩ :=
    Kv.PagedKvCache.newWithAllocation_wellFormed (wrap_eq_ok.mp hcache)
  refine ⟨hwf, hconfig, fun layer _ => hempty layer, rfl, ?_, fun scratch hscratch => ?_⟩
  · have hnew := wrap_eq_ok.mp hdense
    unfold Hy3BlockScratch.new at hnew
    obtain ⟨_, -, hnew⟩ := except_bind_ok_iff.mp hnew
    cases hfeed : weights.feedForward with
    | dense expert =>
        rw [hfeed] at hnew
        exact allocate_pending hnew
    | moe moe =>
        rw [hfeed] at hnew
        exact allocate_pending hnew
  · dsimp only at hscratch
    subst hscratch
    unfold newMoeScratch at hmoe
    obtain ⟨streaming, -, hmoe⟩ := except_bind_ok_iff.mp hmoe
    cases streaming with
    | none => cases hmoe
    | some streaming =>
        obtain ⟨own, hown, hsome⟩ := except_map_ok_iff.mp hmoe
        cases hsome
        obtain ⟨_, -, hallocated⟩ := except_bind_ok_iff.mp (wrap_eq_ok.mp hown)
        exact allocate_pending hallocated

theorem resetSession_sound (h : Sound model session) : Sound model (resetSession session) := by
  obtain ⟨cache, hrun, hwf, hconfig, hview⟩ := h.wellFormed.reset
  unfold resetSession
  rw [hrun]
  refine cleared_sound hwf (hconfig.trans h.config) fun layer _ => ?_
  rw [← Kv.PagedKvCache.length_view, hview]
  rfl

/-- A rewind to the length every layer has drops nothing. -/
theorem rewind_view {cache : Kv.PagedKvCache}
    (uniform : ∀ layer, layer < cache.layerCount →
      (cache.view layer).length = (cache.view 0).length) (hwf : cache.WellFormed) :
    cache.view.rewind (cache.storedLength 0) = cache.view := by
  funext layer
  apply List.take_of_length_le
  by_cases hl : layer < cache.layerCount
  · rw [uniform layer hl, Kv.PagedKvCache.length_view]
  · rw [Kv.PagedKvCache.length_view, Kv.PagedKvCache.storedLength_of_le]
    · exact Nat.zero_le _
    · rw [hwf.lengths_length]
      exact Nat.le_of_not_lt hl

/-- A restored cache whose layers are of one length becomes that of the session. -/
theorem restoreKvSnapshot_run {sha : Sha256} {alloc : Kv.Allocator} {bytes : List UInt8}
    {maximumBytes : Nat} {cache : Kv.PagedKvCache}
    (hrestore : Kv.PagedKvCache.restoreUniformSnapshot sha alloc model.modelFingerprint bytes
      maximumBytes session.cache = (.ok (), cache)) (hwf : cache.WellFormed)
    (uniform : ∀ layer, layer < cache.layerCount →
      (cache.view layer).length = (cache.view 0).length) :
    ∃ cache', restoreKvSnapshot (ε := ε) sha alloc model bytes maximumBytes session =
        (.ok (), (session.setCache cache').cleared (cache.storedLength 0)) ∧
      cache'.WellFormed ∧ cache'.toKvConfig = cache.toKvConfig ∧ cache'.view = cache.view := by
  have hlayers : 0 < cache.layerCount := by
    apply hwf.positive ("layer_count", cache.layerCount)
    simp [Kv.KvConfig.parameters]
  have hstored : wrap (Hy3ScalarError.kv (ε := ε)) ((session.setCache cache).cache.storedTokens 0) =
      .ok (cache.storedLength 0) := by
    apply wrap_eq_ok.mpr
    change cache.storedTokens 0 = _
    simp only [Kv.PagedKvCache.storedTokens, Kv.PagedKvCache.validateLayer, ensure,
      hlayers, if_true]
    rfl
  have hlong : ∀ layer, layer < (session.setCache cache).cache.layerCount →
      cache.storedLength 0 ≤ ((session.setCache cache).cache.view layer).length := by
    intro layer hl
    change _ ≤ (cache.view layer).length
    rw [uniform layer hl, Kv.PagedKvCache.length_view]
  obtain ⟨cache', hrun, hwf', hconfig', hview⟩ := rollbackTo_ok (ε := ε) (cache.storedLength 0)
    hwf hlong
  refine ⟨cache', ?_, hwf', hconfig', hview.trans (rewind_view uniform hwf)⟩
  unfold restoreKvSnapshot
  rw [Command.bind_of_ok (Command.zoom_run (Command.mapError_of_ok hrestore)),
    Command.bind_of_ok (Command.read_run _), hstored,
    Command.bind_of_ok (Command.lift_run _ _), hrun]
  rfl

theorem restoreKvSnapshot_sound {sha : Sha256} {alloc : Kv.Allocator} {bytes : List UInt8}
    {maximumBytes : Nat} (limit : maximumBytes ≤ usizeMax) (h : Sound model session) :
    Sound model (restoreKvSnapshot (ε := ε) sha alloc model bytes maximumBytes session).2 := by
  rcases hrestore : Kv.PagedKvCache.restoreUniformSnapshot sha alloc model.modelFingerprint
    bytes maximumBytes
    session.cache with ⟨r, cache⟩
  cases r with
  | error e =>
      unfold restoreKvSnapshot
      rw [Command.bind_of_error (Command.zoom_run (Command.mapError_of_error hrestore))]
      obtain ⟨rfl, -⟩ := Kv.PagedKvCache.restoreSnapshotInternal_error hrestore
      exact h
  | ok u =>
      obtain ⟨-, -, -, hr⟩ :=
        Kv.PagedKvCache.restoredCache_ok limit
          (Kv.PagedKvCache.restoreSnapshotInternal_ok.mp hrestore)
      have hconfig : cache.toKvConfig = model.kvConfig := hr.config_eq.trans h.config
      have huniform := hr.uniform rfl
      rw [← hr.config_eq] at huniform
      obtain ⟨cache', hrun, hwf', hconfig', hview⟩ :=
        restoreKvSnapshot_run (ε := ε) hrestore hr.wellFormed huniform
      rw [hrun]
      apply cleared_sound hwf' (hconfig'.trans hconfig)
      intro layer hl
      have hlt : layer < cache.layerCount := by
        rw [hconfig]
        exact hl
      rw [← Kv.PagedKvCache.length_view, hview, huniform layer hlt, Kv.PagedKvCache.length_view]

/-- Every session a program can hold is sound. -/
theorem Hy3ScalarModel.Reachable.sound {N : Numerics} {sha : Sha256}
    (h : Hy3ScalarModel.Reachable ε N sha model session) : Sound model session := by
  induction h with
  | opened alloc hnew => exact newSession_sound hnew
  | @evaluated session _ env tokenId logits ih =>
      have hends := evaluate_ends N env tokenId logits ih
      rcases hrun : evaluate N env model tokenId (session, logits) with ⟨r, state⟩
      rw [hrun] at hends
      cases hends with
      | answered _ _ hcommitted => exact hcommitted.sound
      | failed e _ hfailed => exact hfailed.2.1.sound ih
  | reset _ ih => exact resetSession_sound ih
  | restored _ alloc bytes maximumBytes limit ih => exact restoreKvSnapshot_sound limit ih

end Reach
end LightBridge.Hy3
