import LightBridge.Hy3.Atomicity
import LightBridge.Kv.Footprint

/-! The first token of a session takes the first page of every layer, however many attempts at it
failed before. -/
namespace LightBridge.Hy3
open Foundation Kernels ExpertCache Hy3ScalarModel
open Kv (PagedKvCache)
open Kv.PagedKvCache (Touched)

/-! ### One block -/

/-- However the run ends, the cache is as it was or has had one append to the layer. -/
def Touches (layer : Nat) (state : BlockState) {α : Type} :
    Except KernelError α × BlockState → Prop :=
  Command.Ends (fun _ state' => Touched layer state.cache state'.cache) fun _ state' =>
    Touched layer state.cache state'.cache

section Block
variable {N : Numerics} {alloc : Kv.Allocator} {execution : Hy3BlockExecution} {state : BlockState}

theorem causalGqaAttention_touched {layer outputLength : Nat} {input : AttentionInput}
    (single : input.tokenCount = 1) {scratch : AttentionScratch} {cache : PagedKvCache} :
    Command.Ends (fun _ cache' => Touched layer cache cache')
      (fun _ cache' => Touched layer cache cache')
      (causalGqaAttention N alloc layer input outputLength scratch cache) := by
  unfold causalGqaAttention
  rw [Command.bind_of_ok (Command.read_run cache)]
  refine .lift_bind (fun _ _ => Or.inl rfl) fun baseToken _ => .lift_bind (fun _ _ => Or.inl rfl)
    fun output _ => ?_
  have happended : Touched layer cache
      (PagedKvCache.appendTokens alloc layer input.tokenCount input.keys input.values cache).2 :=
    Or.inr ⟨alloc, input.keys, input.values, by rw [single]⟩
  refine .bind (Q := fun _ cache' => Touched layer cache cache') (.mapError ?_) fun _ cache' h =>
    .answered output cache' h
  rcases hrun : PagedKvCache.appendTokens alloc layer input.tokenCount input.keys input.values
    cache with ⟨r, cache'⟩
  rw [hrun] at happended
  cases r with
  | ok _ => exact .answered () cache' happended
  | error e => exact .failed e cache' happended

theorem projectToken_single {attention : Hy3AttentionWeights} {buffers : Hy3BlockBuffers}
    {hidden : List F32}
    {input : AttentionInput} (h : projectToken N execution attention buffers hidden = .ok input) :
    input.tokenCount = 1 := by
  unfold projectToken at h
  simp only [except_bind_ok_iff] at h
  obtain ⟨_, -, _, -, _, -, _, -, _, -, _, -, _, -, _, -, hmade⟩ := h
  cases hmade
  rfl

theorem addResidual_touches {layer : Nat} {cache : PagedKvCache} {delta : List F32}
    (h : Touched layer cache state.cache) :
    Command.Ends (fun _ state' => Touched layer cache state'.cache)
      (fun _ state' => Touched layer cache state'.cache) (addResidual N delta state) := by
  refine (addResidual_ends N delta state).mono (fun _ last hsame => ?_) fun _ last hsame => ?_
  · rw [hsame.1]
    exact h
  · rw [hsame]
    exact h

theorem attendToken_touches {attention : Hy3AttentionWeights} {ffnNorm : List F32} :
    Touches execution.layer state (attendToken N alloc execution attention ffnNorm state) := by
  unfold attendToken
  rw [Command.bind_of_ok (Command.read_run state)]
  refine .lift_bind (fun _ _ => Or.inl rfl) fun input hinput => ?_
  refine .bind (Q := fun _ middle => Touched execution.layer state.cache middle.cache)
    (.zoom (causalGqaAttention_touched (projectToken_single hinput)))
      fun context middle hmiddle => ?_
  refine .lift_bind (fun _ _ => hmiddle) fun delta _ => (addResidual_touches hmiddle).bind
    fun _ last hlast => ?_
  rw [Command.bind_of_ok (Command.read_run last)]
  exact .lift_bind (fun _ _ => hlast) fun normalized _ => .answered normalized _ hlast

theorem hy3BlockForwardToken_touches {block : Hy3BlockWeights} :
    Touches execution.layer state (hy3BlockForwardToken N alloc execution block state) := by
  unfold hy3BlockForwardToken
  rw [Command.bind_of_ok (Command.read_run state)]
  refine .lift_bind (fun _ _ => Or.inl rfl) fun _ _ => ?_
  rw [Command.bind_of_ok (Command.update_run _ state)]
  have hattended : Touches execution.layer (state.setScratch state.scratch.reset)
      (attendToken N alloc execution block.attention block.ffnNorm
        (state.setScratch state.scratch.reset)) :=
    attendToken_touches
  refine .bind hattended fun normalized middle hmiddle => ?_
  have hfed : Command.Ends (fun _ last => Touched execution.layer state.cache last.cache)
      (fun _ last => Touched execution.layer state.cache last.cache)
      (feedForward N execution.mode normalized block.feedForward middle) := by
    refine (feedForward_ends N execution.mode normalized block.feedForward middle).mono
      (fun _ last hsame => ?_)
      fun _ last hsame => ?_
    · rw [hsame.1]
      exact hmiddle
    · rw [hsame]
      exact hmiddle
  exact hfed.bind fun delta last hlast => addResidual_touches hlast

theorem hy3MoeRouteToken_touches {block : Hy3StreamingMoeWeights} :
    Touches execution.layer state (hy3MoeRouteToken N alloc execution block state) := by
  unfold hy3MoeRouteToken
  rw [Command.bind_of_ok (Command.read_run state)]
  refine .lift_bind (fun _ _ => Or.inl rfl) fun _ _ => .lift_bind (fun _ _ => Or.inl rfl)
    fun _ _ => ?_
  rw [Command.bind_of_ok (Command.update_run _ state)]
  have hattended : Touches execution.layer (state.setScratch { state.scratch with routedLen := 0 })
      (attendToken N alloc execution block.attention block.ffnNorm
        (state.setScratch { state.scratch with routedLen := 0 })) := attendToken_touches
  refine .bind hattended fun normalized middle hmiddle => ?_
  rw [Command.bind_of_ok (Command.read_run middle)]
  exact .lift_bind (fun _ _ => hmiddle) fun routed _ => .answered () _ hmiddle

end Block

/-! ### One call -/

/-- However the run ends, the cache has first pages alone. -/
def FirstOnly {ε α : Type} : Except (Hy3ScalarError ε) α × Hy3ScalarSession → Prop :=
  Command.Ends (fun _ session => session.cache.FirstPages) fun _ session => session.cache.FirstPages

section Call
variable {ε : Type} {N : Numerics} {env : Environment ε} {model : Hy3ScalarModel}
    {before session : Hy3ScalarSession}

theorem evaluateDense_firstOnly {index : Nat} {layer : LayerWeights} {expert : OwnedExpert}
    (hwf : session.cache.WellFormed) (hempty : session.cache.storedLength index = 0)
    (first : session.cache.FirstPages) :
    FirstOnly (evaluateDense N env model index layer expert session) := by
  unfold evaluateDense
  rw [Command.bind_of_ok (Command.read_run session)]
  refine .lift_bind (fun _ _ => first) fun attention _ =>
    .lift_bind (fun _ _ => first) fun swiglu _ => ?_
  have hblock : Touches (model.execution index session.position).layer session.denseBlock
      (hy3BlockForwardToken N (env.kv index) (model.execution index session.position)
        { attention, ffnNorm := layer.ffnNorm, feedForward := .dense swiglu } session.denseBlock) :=
    hy3BlockForwardToken_touches
  exact .zoom
    (.mapError (hblock.mono (fun _ _ h => first.touched hwf hempty h) fun _ _ h =>
      first.touched hwf hempty h))

theorem finishMoe_firstOnly {index : Nat} {moe : OwnedMoe} {scratch : Hy3BlockScratch}
    (first : session.cache.FirstPages) :
    FirstOnly (finishMoe N env model index moe scratch session) := by
  unfold finishMoe
  rw [Command.bind_of_ok (Command.read_run session),
    Command.bind_of_ok (Command.update_run _ session)]
  refine .lift_bind (fun _ _ => first) fun leases _ => ?_
  rw [Command.bind_of_ok (Command.update_run _ _)]
  refine .lift_bind (fun _ _ => first) fun _ _ => .lift_bind (fun _ _ => first) fun selected _ =>
    .lift_bind (fun _ _ => first) fun shared _ => ?_
  refine .bind (Q := fun _ last => last.cache.FirstPages) ?_ fun _ last hlast =>
    .answered () _ hlast
  refine .zoom
    (.mapError
      ((hy3MoeFinishToken_ends N model.executionMode selected shared _).mono
      (fun _ block hsame => ?_)
    fun _ block hsame => ?_))
  · show block.cache.FirstPages
    rw [hsame.1]
    exact first
  · show block.cache.FirstPages
    rw [hsame]
    exact first

theorem evaluateMoe_firstOnly {index : Nat} {layer : LayerWeights} {moe : OwnedMoe}
    (hwf : session.cache.WellFormed) (hempty : session.cache.storedLength index = 0)
    (first : session.cache.FirstPages) :
    FirstOnly (evaluateMoe N env model index layer moe session) := by
  unfold evaluateMoe
  rw [Command.bind_of_ok (Command.read_run session)]
  refine .lift_bind (fun _ _ => first) fun streaming _ =>
    .lift_bind (fun _ _ => first) fun scratch _ => ?_
  have hblock : Touches (model.execution index session.position).layer (session.moeBlock scratch)
      (hy3MoeRouteToken N (env.kv index) (model.execution index session.position) streaming
        (session.moeBlock scratch)) :=
    hy3MoeRouteToken_touches
  exact .bind (.zoom (.mapError (hblock.mono (fun _ _ h => first.touched hwf hempty h)
    fun _ _ h => first.touched hwf hempty h))) fun _ middle hmiddle => finishMoe_firstOnly hmiddle

theorem evaluateLayer_firstOnly {index : Nat} {layer : LayerWeights}
    (hwf : session.cache.WellFormed) (hempty : session.cache.storedLength index = 0)
    (first : session.cache.FirstPages) :
    FirstOnly (evaluateLayer N env model index layer session) := by
  unfold evaluateLayer
  refine .lift_bind (fun _ _ => first) fun _ _ => ?_
  cases layer.feedForward with
  | dense expert => exact evaluateDense_firstOnly hwf hempty first
  | moe moe => exact evaluateMoe_firstOnly hwf hempty first

/-- A layer is empty until its own turn comes. -/
theorem evaluateLayers_firstOnly {index : Nat} {layers : List LayerWeights}
    (hl : index + layers.length = model.config.blockCount) (hstart : before.position = 0)
    (h : Reached model before index session) (first : session.cache.FirstPages) :
    FirstOnly (evaluateLayers N env model index layers session) := by
  induction layers generalizing index session with
  | nil => exact .answered () session first
  | cons layer layers ih =>
      rw [List.length_cons] at hl
      have hlt : index < model.config.blockCount := by omega
      unfold evaluateLayers
      have hlayer : FirstOnly (evaluateLayer N env model index layer session) :=
        evaluateLayer_firstOnly h.kept.wellFormed ((h.next hlt).trans hstart) first
      refine .bind
        ((hlayer.and (evaluateLayer_ends N env layer hlt h)).mono (fun _ _ hnext => hnext)
          fun _ _ he => he.1)
        fun _ next hnext => ih (by omega) hnext.2 hnext.1

theorem evaluateInner_firstOnly {tokenId : Nat} {logits : List F32} (h : Sound model before)
    (hstart : before.position = 0)
    (first : before.cache.FirstPages) :
    Command.Ends (fun _ state => state.1.cache.FirstPages) (fun _ state => state.1.cache.FirstPages)
      (evaluateInner N env model tokenId (before, logits)) := by
  unfold evaluateInner
  rw [Command.bind_of_ok (Command.read_run (before, logits))]
  refine .lift_bind (fun _ _ => first) fun _ _ => ?_
  refine .bind (Q := fun _ state => state.1.cache.FirstPages) (.zoom ?_) fun _ state hstate => ?_
  · have hembedded : Command.Ends (fun _ s => Reached model before 0 s ∧ s.cache.FirstPages)
        (fun _ s => s.cache.FirstPages)
        (embedToken (ε := ε) N model tokenId before) := by
      refine ((embedToken_ends N tokenId h).and ?_).mono (fun _ _ hs => hs) fun _ _ hs => hs.2
      unfold embedToken
      rw [Command.bind_of_ok (Command.read_run before)]
      exact .lift_bind (fun _ _ => first) fun _ _ => .lift_bind (fun _ _ => first) fun _ _ =>
        .answered () _ first
    refine hembedded.bind fun _ start hs => ?_
    refine (evaluateLayers_firstOnly (by rw [Nat.zero_add, model.blocks]) hstart hs.1 hs.2).bind
      fun _ last hlast => ?_
    unfold normalizeHidden
    rw [Command.bind_of_ok (Command.read_run last)]
    exact .lift_bind (fun _ _ => hlast) fun _ _ => .answered () _ hlast
  · unfold finishToken
    rw [Command.bind_of_ok (Command.read_run state)]
    refine .lift_bind (fun _ _ => hstate) fun output _ => ?_
    refine .bind (Q := fun _ state => state.1.cache.FirstPages) (.zoom ?_) fun _ last hlast =>
      .answered () _ hlast
    exact .of_forall (fun _ _ => hstate) (fun _ _ => hstate) _

theorem rollbackTo_cache {position : Nat} :
    (Hy3ScalarSession.rollbackTo (ε := ε) position session).2.cache =
    (PagedKvCache.rewindAll position session.cache).2 := by
  unfold Hy3ScalarSession.rollbackTo
  rcases hrewind : PagedKvCache.rewindAll position session.cache with ⟨r, cache⟩
  cases r with
  | ok _ =>
      rw [Command.bind_of_ok (Command.zoom_run (Command.mapError_of_ok hrewind)),
        Command.update_run]
      rfl
  | error e =>
      rw [Command.bind_of_error (Command.zoom_run (Command.mapError_of_error hrewind))]
      rfl

/-- Neither a call nor the rollback of one that failed adds a page beyond the first. -/
theorem evaluate_firstOnly {tokenId : Nat} {logits : List F32} (h : Sound model before)
    (hstart : before.position = 0)
    (first : before.cache.FirstPages) {r : Except (Hy3ScalarError ε) Unit}
    {state : Hy3ScalarSession × List F32}
    (hrun : evaluate N env model tokenId (before, logits) = (r, state)) :
    state.1.cache.FirstPages := by
  have hstate : state = (evaluate N env model tokenId (before, logits)).2 :=
    (congrArg Prod.snd hrun).symm
  rw [hstate]
  have hinner : Command.Ends (fun _ state => state.1.cache.FirstPages)
      (fun _ state => state.1.cache.FirstPages)
      (evaluateInner N env model tokenId (before, logits)) := evaluateInner_firstOnly h hstart first
  unfold evaluate
  rcases hended : evaluateInner N env model tokenId (before, logits) with ⟨r, session, buffer⟩
  rw [hended] at hinner
  cases hinner with
  | answered _ _ hfirst => exact hfirst
  | failed e _ hfirst =>
      have hrolled : (Hy3ScalarSession.rollbackTo
          (ε := ε) before.position session).2.cache.FirstPages := by
        rw [rollbackTo_cache]
        exact PagedKvCache.FirstPages.rewindAll hfirst before.position
      dsimp only
      rcases hrollback : Hy3ScalarSession.rollbackTo
        (ε := ε) before.position session with ⟨r, session'⟩
      rw [hrollback] at hrolled
      cases r with
      | ok _ => exact hrolled
      | error _ => exact hrolled

/-! ### Sessions without a token -/

/-- A session that is open and has no token yet: no evaluation has succeeded, but some may have
failed. -/
inductive Unused (ε : Type) (N : Numerics) (model : Hy3ScalarModel) : Hy3ScalarSession → Prop where
  | opened (alloc : SessionAllocator) {session : Hy3ScalarSession}
      (h : newSession (ε := ε) alloc model = .ok session) : Unused ε N model session
  | failed {session : Hy3ScalarSession} (h : Unused ε N model session) (env : Environment ε)
      (tokenId : Nat) (logits : List F32) (e : Hy3ScalarError ε)
      (state : Hy3ScalarSession × List F32)
      (hrun : evaluate N env model tokenId (session, logits) = (.error e, state)) :
      Unused ε N model state.1
  | reset {session : Hy3ScalarSession} (h : Unused ε N model session) :
      Unused ε N model (resetSession session)

/-- What an unused session is. -/
structure Blank (model : Hy3ScalarModel) (session : Hy3ScalarSession) :
    Prop extends Sound model session where
  start : session.position = 0
  first : session.cache.FirstPages

theorem newSession_blank {alloc : SessionAllocator}
    (h : newSession (ε := ε) alloc model = .ok session) :
    Blank model session := by
  refine { newSession_sound h with start := ?_, first := ?_ }
  all_goals
    unfold newSession at h
    obtain ⟨weights, -, h⟩ := except_bind_ok_iff.mp h
    obtain ⟨moeScratch, -, h⟩ := except_bind_ok_iff.mp h
    obtain ⟨cache, hcache, h⟩ := except_bind_ok_iff.mp h
    iterate 6 obtain ⟨_, -, h⟩ := except_bind_ok_iff.mp h
    cases h
  · rfl
  · exact PagedKvCache.newLazy_firstPages (wrap_eq_ok.mp hcache)

theorem Unused.blank (h : Unused ε N model session) : Blank model session := by
  induction h with
  | opened alloc hnew => exact newSession_blank hnew
  | failed _ env tokenId logits e state hrun ih =>
      obtain ⟨-, hresembles, -⟩ := (evaluate_ends N env tokenId logits ih.toSound).of_error hrun
      exact { hresembles.sound ih.toSound with
        start := hresembles.position.trans ih.start,
        first := evaluate_firstOnly ih.toSound ih.start ih.first hrun }
  | reset _ ih => exact { resetSession_sound ih.toSound with start := rfl, first := ih.first }

/-- The first token leaves one page in every layer. -/
theorem Unused.first_token (h : Unused ε N model session) {tokenId : Nat} {logits : List F32}
    {state : Hy3ScalarSession × List F32}
    (hrun : evaluate N env model tokenId (session, logits) = (.ok (), state)) :
    state.1.cache.WellFormed ∧ state.1.cache.toKvConfig = model.kvConfig ∧
      state.1.cache.allocatedPages.length = model.config.blockCount := by
  have hblank := h.blank
  have hcommitted := (evaluate_ends N env tokenId logits hblank.toSound).of_ok hrun
  have hsound : Sound model state.1 := hcommitted.sound
  have hfirst := evaluate_firstOnly hblank.toSound hblank.start hblank.first hrun
  refine ⟨hsound.wellFormed, hsound.config, ?_⟩
  have hposition : state.1.position = 1 := by
    obtain ⟨last, -, hlast⟩ := hcommitted
    rw [hlast, Hy3ScalarSession.setPosition, hblank.start]
  have hlayers : state.1.cache.layerCount = model.config.blockCount :=
    congrArg Kv.KvConfig.layerCount hsound.config
  rw [← hlayers]
  refine PagedKvCache.FirstPages.length_allocatedPages hfirst hsound.wellFormed
    fun layer hlayer => ?_
  rw [hsound.stored layer (hlayers ▸ hlayer), hposition]
  exact Nat.one_pos

end Call
end LightBridge.Hy3
