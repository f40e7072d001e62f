import LightBridge.Hy3.Retry
import LightBridge.Kernels.ScratchBounds

/-! The scratch of a session against the layers that use it. The scratch for MoE layers is made for
the shared expert of the first one; the routed experts of a layer have a width of their own. -/
namespace LightBridge.Hy3
open Foundation Kernels ExpertCache Hy3ScalarModel

variable {ε : Type}

/-- Any error but that of a short buffer, also where it is the one a rollback could not undo. -/
def Hy3ScalarError.Ample : Hy3ScalarError ε → Prop
  | .kernel error => error.Ample
  | .sessionRollback original _ => original.Ample
  | _ => True

/-! ### Shapes -/

def OwnedMatrix.shape (matrix : OwnedMatrix) : Nat × Nat := (matrix.inputWidth, matrix.outputWidth)

def MatrixLayout.shape (layout : MatrixLayout) : Nat × Nat :=
  (layout.inputWidth, layout.outputWidth)

/-- The tensor shapes of one layer, without those of the feed-forward. -/
def LayerWeights.attentionShapes (layer : LayerWeights) : List (Nat × Nat) × List Nat :=
  ([layer.attention.query.shape, layer.attention.key.shape, layer.attention.value.shape,
    layer.attention.output.shape],
    [layer.attention.inputNorm.length, layer.attention.queryNorm.length,
    layer.attention.keyNorm.length, layer.ffnNorm.length])

/-- The shapes of a shared expert. -/
def OwnedExpert.shapes (expert : OwnedExpert) : List (Nat × Nat) :=
  [expert.gate.shape, expert.up.shape, expert.down.shape]

/-- The shapes of the feed-forward of an MoE layer. -/
def OwnedMoe.shapes (moe : OwnedMoe) : List (Nat × Nat) × List (Nat × Nat) × (Nat × Nat) × Nat :=
  (moe.shared.shapes,
    [moe.expertLayout.gate.shape, moe.expertLayout.up.shape, moe.expertLayout.down.shape],
    moe.router.shape, moe.selectionBias.length)

/-- A model as `load_validated` builds it, a dense layer before the MoE layers, in which the MoE
layers have the same tensor shapes. -/
structure Uniform (model : Hy3ScalarModel) : Prop where
  dense : ∃ first rest expert, model.layers = first :: rest ∧ first.feedForward = .dense expert ∧
    ∀ layer ∈ rest, ∃ moe, layer.feedForward = .moe moe
  same : ∀ layer ∈ model.layers, ∀ layer' ∈ model.layers, ∀ moe moe', layer.feedForward = .moe moe →
    layer'.feedForward = .moe moe' → layer.attentionShapes = layer'.attentionShapes ∧
      moe.shapes = moe'.shapes

/-- No routed expert is wider than the shared expert of its layer. -/
def Narrow (model : Hy3ScalarModel) : Prop :=
  ∀ layer ∈ model.layers, ∀ moe, layer.feedForward = .moe moe →
    moe.expertLayout.gate.outputWidth ≤ moe.shared.gate.outputWidth

theorem Uniform.sharedWidth {model : Hy3ScalarModel} (h : Uniform model)
    {layer layer' : LayerWeights} {moe moe' : OwnedMoe} (hlayer : layer ∈ model.layers)
    (hlayer' : layer' ∈ model.layers) (hmoe : layer.feedForward = .moe moe)
    (hmoe' : layer'.feedForward = .moe moe') :
    moe.shared.gate.outputWidth = moe'.shared.gate.outputWidth := by
  have hshared := congrArg Prod.fst (h.same layer hlayer layer' hlayer' moe moe' hmoe hmoe').2
  have hgate := (List.cons.inj hshared).1
  exact congrArg Prod.snd hgate

/-! ### Views -/

section Views

theorem ample_kernel {α : Type} {r : Except KernelError α} (h : FailsIn r KernelError.Ample) :
    FailsIn (wrap (Hy3ScalarError.kernel (ε := ε)) r) Hy3ScalarError.Ample := by
  intro e he
  obtain ⟨error, herror, rfl⟩ := wrap_eq_error.mp he
  exact h error herror

theorem ample_matrix (matrix : OwnedMatrix) : FailsIn (matrix.view (ε := ε)) Hy3ScalarError.Ample :=
  ample_kernel (ample_fromParts _ _ _ _ _)

theorem ample_swigluExpert (gate up down : PackedMatrix) :
    FailsIn (SwiGluExpert.new gate up down) KernelError.Ample :=
  (ample_requireEqual _ _ _).bind fun _ _ => (ample_requireEqual _ _ _).bind fun _ _ =>
    (ample_requireEqual _ _ _).bind fun _ _ => .pure _ _

theorem ample_expert (expert : OwnedExpert) : FailsIn (expert.view (ε := ε)) Hy3ScalarError.Ample :=
  (ample_matrix _).bind fun _ _ => (ample_matrix _).bind fun _ _ => (ample_matrix _).bind fun _ _ =>
    ample_kernel (ample_swigluExpert _ _ _)

theorem ample_attention (attention : OwnedAttention) (config : Hy3Config) :
    FailsIn (attention.view (ε := ε) config) Hy3ScalarError.Ample :=
  (ample_matrix _).bind fun _ _ => (ample_matrix _).bind fun _ _ => (ample_matrix _).bind fun _ _ =>
    (ample_matrix _).bind fun _ _ => .pure _ _

theorem ample_streamingWeights (moe : OwnedMoe) (attention : OwnedAttention) (ffnNorm : List F32)
    (config : Hy3Config) :
    FailsIn (moe.streamingWeights (ε := ε) attention ffnNorm config) Hy3ScalarError.Ample :=
  (ample_attention _ _).bind fun _ _ => (ample_matrix _).bind fun _ _ =>
    (ample_expert _).bind fun _ _ => .pure _ _

theorem ample_payload (layout : ExpertPayloadLayout) (bytes : List UInt8) :
    FailsIn (layout.view (ε := ε) bytes) Hy3ScalarError.Ample := by
  refine FailsIn.bind (failsIn_okOr trivial) fun total _ => (failsIn_ensure trivial).bind
    fun _ _ => ?_
  refine (failsIn_okOr trivial).bind fun upEnd _ => (ample_kernel (ample_fromParts _ _ _ _ _)).bind
    fun _ _ => ?_
  exact (ample_kernel (ample_fromParts _ _ _ _ _)).bind fun _ _ =>
    (ample_kernel (ample_fromParts _ _ _ _ _)).bind
    fun _ _ => ample_kernel (ample_swigluExpert _ _ _)

theorem swigluExpert_hiddenWidth {gate up down : PackedMatrix} {expert : SwiGluExpert}
    (h : SwiGluExpert.new gate up down = .ok expert) : expert.hiddenWidth = gate.outputWidth := by
  obtain ⟨_, -, h⟩ := except_bind_ok_iff.mp h
  obtain ⟨_, -, h⟩ := except_bind_ok_iff.mp h
  obtain ⟨_, -, h⟩ := except_bind_ok_iff.mp h
  cases h
  rfl

theorem view_hiddenWidth {expert : OwnedExpert} {view : SwiGluExpert}
    (h : expert.view (ε := ε) = .ok view) :
    view.hiddenWidth = expert.gate.outputWidth := by
  obtain ⟨gate, hgate, h⟩ := except_bind_ok_iff.mp h
  obtain ⟨_, -, h⟩ := except_bind_ok_iff.mp h
  obtain ⟨_, -, h⟩ := except_bind_ok_iff.mp h
  rw [swigluExpert_hiddenWidth (wrap_eq_ok.mp h), (fromParts_widths (wrap_eq_ok.mp hgate)).2]

theorem payload_hiddenWidth {layout : ExpertPayloadLayout} {bytes : List UInt8}
    {view : SwiGluExpert}
    (h : layout.view (ε := ε) bytes = .ok view) : view.hiddenWidth = layout.gate.outputWidth := by
  obtain ⟨_, -, h⟩ := except_bind_ok_iff.mp h
  obtain ⟨_, -, h⟩ := except_bind_ok_iff.mp h
  obtain ⟨_, -, h⟩ := except_bind_ok_iff.mp h
  obtain ⟨gate, hgate, h⟩ := except_bind_ok_iff.mp h
  obtain ⟨_, -, h⟩ := except_bind_ok_iff.mp h
  obtain ⟨_, -, h⟩ := except_bind_ok_iff.mp h
  rw [swigluExpert_hiddenWidth (wrap_eq_ok.mp h), (fromParts_widths (wrap_eq_ok.mp hgate)).2]

theorem attentionView_config {attention : OwnedAttention} {config : Hy3Config}
    {view : Hy3AttentionWeights}
    (h : attention.view (ε := ε) config = .ok view) :
    view.queryHeadCount = config.attentionHeadCount ∧ view.valueDimension = config.valueLength := by
  obtain ⟨_, -, h⟩ := except_bind_ok_iff.mp h
  obtain ⟨_, -, h⟩ := except_bind_ok_iff.mp h
  obtain ⟨_, -, h⟩ := except_bind_ok_iff.mp h
  obtain ⟨_, -, h⟩ := except_bind_ok_iff.mp h
  cases h
  exact ⟨rfl, rfl⟩

/-- What the streaming weights take from the configuration and the shared expert. -/
theorem streamingWeights_eq_ok {moe : OwnedMoe} {attention : OwnedAttention} {ffnNorm : List F32}
    {config : Hy3Config}
    {weights : Hy3StreamingMoeWeights}
    (h : moe.streamingWeights (ε := ε) attention ffnNorm config = .ok weights) :
    weights.attention.queryHeadCount = config.attentionHeadCount ∧
      weights.attention.valueDimension = config.valueLength ∧
      weights.sharedExpert.hiddenWidth = moe.shared.gate.outputWidth := by
  obtain ⟨view, hview, h⟩ := except_bind_ok_iff.mp h
  obtain ⟨_, -, h⟩ := except_bind_ok_iff.mp h
  obtain ⟨shared, hshared, h⟩ := except_bind_ok_iff.mp h
  cases h
  exact ⟨(attentionView_config hview).1, (attentionView_config hview).2, view_hiddenWidth hshared⟩

end Views

/-! ### The scratch of a session -/

/-- The width of the attention output of every layer. -/
def Hy3ScalarModel.contextWidth (model : Hy3ScalarModel) : Nat :=
  model.config.attentionHeadCount * model.config.valueLength

/-- The scratch of a session is made for the dense layer and for the shared expert of an MoE layer.
-/
structure Furnished (model : Hy3ScalarModel) (session : Hy3ScalarSession) : Prop where
  dense : ∀ first expert, model.layers.head? = some first → first.feedForward = .dense expert →
    Provisioned model.contextCapacity model.contextWidth expert.gate.outputWidth
      session.denseScratch
  moe : ∀ scratch, session.moeScratch = some scratch → ∃ layer ∈ model.layers, ∃ moe,
    layer.feedForward = .moe moe ∧
    Provisioned model.contextCapacity model.contextWidth moe.shared.gate.outputWidth scratch
  decoded : 256 ≤ session.decodedBlock
  q8 : Q8Fits session.q8 session.finalNormalized.length

theorem Furnished.of_shape {model : Hy3ScalarModel} {session session' : Hy3ScalarSession}
    (h : Furnished model session)
    (hshape : session'.shape = session.shape) : Furnished model session' := by
  obtain ⟨hdense, hshape⟩ := Prod.mk.inj hshape
  obtain ⟨hmoe, hshape⟩ := Prod.mk.inj hshape
  obtain ⟨-, hshape⟩ := Prod.mk.inj hshape
  obtain ⟨hfinal, hshape⟩ := Prod.mk.inj hshape
  obtain ⟨hdecoded, hq8⟩ := Prod.mk.inj hshape
  refine ⟨fun first expert hfirst hexpert => (h.dense first expert hfirst hexpert).of_shape hdense,
    fun scratch hscratch => ?_, ?_, ?_⟩
  · rw [hscratch, Option.map_some] at hmoe
    obtain ⟨own, hown, hsame⟩ := Option.map_eq_some_iff.mp hmoe.symm
    obtain ⟨layer, hlayer, moe, hfeed, hprovisioned⟩ := h.moe own hown
    exact ⟨layer, hlayer, moe, hfeed, hprovisioned.of_shape hsame.symm⟩
  · rw [hdecoded]
    exact h.decoded
  · rw [hq8, hfinal]
    exact h.q8

theorem firstStreaming_eq_some {model : Hy3ScalarModel} {layers : List LayerWeights}
    {weights : Hy3StreamingMoeWeights}
    (h : model.firstStreaming (ε := ε) layers = .ok (some weights)) :
    ∃ layer ∈ layers, ∃ moe, layer.feedForward = .moe moe ∧
      moe.streamingWeights (ε := ε) layer.attention layer.ffnNorm model.config = .ok weights := by
  induction layers with
  | nil => cases h
  | cons layer layers ih =>
      unfold firstStreaming at h
      cases hfeed : layer.feedForward with
      | moe moe =>
          rw [hfeed] at h
          obtain ⟨made, hmade, hsome⟩ := except_map_ok_iff.mp h
          cases hsome
          exact ⟨layer, List.mem_cons_self, moe, hfeed, hmade⟩
      | dense expert =>
          rw [hfeed] at h
          obtain ⟨found, hmem, hfound⟩ := ih h
          exact ⟨found, List.mem_cons_of_mem layer hmem, hfound⟩

theorem newMoeScratch_provisioned {model : Hy3ScalarModel} {granted : String → Bool}
    {scratch : Hy3BlockScratch}
    (h : model.newMoeScratch (ε := ε) granted = .ok (some scratch)) : ∃ layer ∈ model.layers, ∃ moe,
      layer.feedForward = .moe moe ∧
      Provisioned model.contextCapacity model.contextWidth moe.shared.gate.outputWidth scratch := by
  obtain ⟨first, hfirst, h⟩ := except_bind_ok_iff.mp h
  cases first with
  | none => cases h
  | some weights =>
      obtain ⟨layer, hlayer, moe, hfeed, hweights⟩ := firstStreaming_eq_some hfirst
      obtain ⟨own, hown, hsome⟩ := except_map_ok_iff.mp h
      cases hsome
      obtain ⟨_, -, hallocated⟩ := except_bind_ok_iff.mp (wrap_eq_ok.mp hown)
      obtain ⟨hheads, hvalues, hwidth⟩ := streamingWeights_eq_ok hweights
      have hprovisioned := allocate_provisioned hallocated
      rw [hheads, hvalues, hwidth] at hprovisioned
      exact ⟨layer, hlayer, moe, hfeed, hprovisioned⟩

theorem denseScratch_provisioned {model : Hy3ScalarModel} {granted : String → Bool}
    {weights : Hy3BlockWeights}
    {scratch : Hy3BlockScratch} (hweights : model.denseWeights (ε := ε) = .ok weights)
    (h : Hy3BlockScratch.new granted weights model.contextCapacity = .ok scratch)
      {first : LayerWeights} {expert : OwnedExpert}
    (hfirst : model.layers.head? = some first) (hexpert : first.feedForward = .dense expert) :
    Provisioned model.contextCapacity model.contextWidth expert.gate.outputWidth scratch := by
  unfold denseWeights at hweights
  rw [hfirst, okOr, except_ok_bind, hexpert] at hweights
  obtain ⟨attention, hattention, hweights⟩ := except_bind_ok_iff.mp hweights
  obtain ⟨view, hview, hweights⟩ := except_bind_ok_iff.mp hweights
  cases hweights
  obtain ⟨_, -, hallocated⟩ := except_bind_ok_iff.mp h
  obtain ⟨hheads, hvalues⟩ := attentionView_config hattention
  have hprovisioned := allocate_provisioned hallocated
  rwa [hheads, hvalues, view_hiddenWidth hview] at hprovisioned

theorem fallibleZeroed_eq_ok {granted : String → Bool} {size length made : Nat} {context : String}
    (h : fallibleZeroed (ε := ε) granted size length context = .ok made) : made = length := by
  obtain ⟨_, -, h⟩ := except_bind_ok_iff.mp h
  cases h
  rfl

theorem newSession_furnished {model : Hy3ScalarModel} {alloc : SessionAllocator}
    {session : Hy3ScalarSession}
    (h : newSession (ε := ε) alloc model = .ok session) : Furnished model session := by
  unfold newSession at h
  obtain ⟨weights, hweights, h⟩ := except_bind_ok_iff.mp h
  obtain ⟨moeScratch, hmoe, h⟩ := except_bind_ok_iff.mp h
  obtain ⟨cache, -, h⟩ := except_bind_ok_iff.mp h
  obtain ⟨denseScratch, hdense, h⟩ := except_bind_ok_iff.mp h
  obtain ⟨hidden, -, h⟩ := except_bind_ok_iff.mp h
  obtain ⟨final, hfinal, h⟩ := except_bind_ok_iff.mp h
  obtain ⟨decoded, hdecoded, h⟩ := except_bind_ok_iff.mp h
  obtain ⟨q8Bytes, hq8Bytes, h⟩ := except_bind_ok_iff.mp h
  obtain ⟨q8, hq8, h⟩ := except_bind_ok_iff.mp h
  cases h
  refine ⟨fun first expert hfirst hexpert =>
    denseScratch_provisioned hweights (wrap_eq_ok.mp hdense) hfirst hexpert, fun scratch hscratch =>
    ?_, (fallibleZeroed_eq_ok hdecoded).ge, ?_⟩
  · cases hscratch
    exact newMoeScratch_provisioned hmoe
  · dsimp only
    rw [List.length_replicate, fallibleZeroed_eq_ok hq8, fallibleZeroed_eq_ok hfinal]
    exact .mono (wrap_eq_ok.mp hq8Bytes) (Nat.le_refl _)

theorem rollbackTo_shape (position : Nat) (session : Hy3ScalarSession) :
    Command.Ends (fun _ session' => session'.shape = session.shape)
      (fun _ session' => session'.shape = session.shape)
      (Hy3ScalarSession.rollbackTo (ε := ε) position session) := by
  unfold Hy3ScalarSession.rollbackTo
  refine .bind (Q := fun _ middle => middle.shape = session.shape)
    (.zoom (.of_forall (fun _ _ => rfl) (fun _ _ => rfl) _))
    fun _ middle hmiddle => ?_
  exact .answered () _ ((cleared_shape middle position).trans hmiddle)

theorem restoreKvSnapshot_shape (sha : Sha256) (alloc : Kv.Allocator) (model : Hy3ScalarModel)
    (bytes : List UInt8) (maximumBytes : Nat) (session : Hy3ScalarSession) :
    (restoreKvSnapshot (ε := ε) sha alloc model bytes maximumBytes session).2.shape =
      session.shape := by
  unfold restoreKvSnapshot
  refine Command.Ends.last (I := fun last : Hy3ScalarSession => last.shape = session.shape) ?_
  refine .bind (Q := fun _ middle => middle.shape = session.shape)
    (.zoom (.of_forall (fun _ _ => rfl) (fun _ _ => rfl) _))
    fun _ middle hmiddle => .read_bind (.lift_bind (fun _ _ => hmiddle) fun position _ => ?_)
  exact (rollbackTo_shape position middle).mono (fun _ _ h => h.trans hmiddle) fun _ _ h =>
    h.trans hmiddle

/-- Every session a program can hold still has the buffers it has been opened with. -/
theorem Hy3ScalarModel.Reachable.furnished {N : Numerics} {sha : Sha256} {model : Hy3ScalarModel}
    {session : Hy3ScalarSession}
    (h : Hy3ScalarModel.Reachable ε N sha model session) : Furnished model session := by
  induction h with
  | opened alloc hnew => exact newSession_furnished hnew
  | @evaluated session hreachable env tokenId logits ih =>
      have hends := evaluate_ends N env tokenId logits hreachable.sound
      rcases hrun : evaluate N env model tokenId (session, logits) with ⟨r, state⟩
      rw [hrun] at hends
      cases hends with
      | answered _ _ hcommitted =>
          obtain ⟨last, hlast, hsession⟩ := hcommitted
          rw [hsession]
          exact ih.of_shape hlast.shape
      | failed e _ hfailed => exact ih.of_shape hfailed.2.1.shape
  | @reset session _ ih => exact ih.of_shape (cleared_shape _ _)
  | @restored session _ alloc bytes maximumBytes _ ih =>
      exact ih.of_shape (restoreKvSnapshot_shape sha alloc model bytes maximumBytes session)

/-! ### One evaluation -/

section Evaluation
variable {model : Hy3ScalarModel} {before session : Hy3ScalarSession} {N : Numerics}
    {env : Environment ε}

theorem Ahead.capacity (h : Ahead model before session) :
    session.cache.tokenCapacity = model.contextCapacity := by
  rw [h.kept.config]
  rfl

theorem ample_evaluateDense {index : Nat} {layer : LayerWeights} {expert : OwnedExpert}
    (h : Ahead model before session)
    (hprovisioned : Provisioned model.contextCapacity model.contextWidth expert.gate.outputWidth
      session.denseScratch) :
    Command.Ends (fun _ _ => True) (fun e _ => e.Ample)
      (evaluateDense N env model index layer expert session) := by
  unfold evaluateDense
  refine .read_bind (.lift_bind (fun e he => ample_attention _ _ e he)
    fun attention hattention => ?_)
  refine .lift_bind (fun e he => ample_expert _ e he) fun swiglu hswiglu => .zoom (.mapError ?_)
  obtain ⟨hheads, hvalues⟩ := attentionView_config hattention
  have hroomy : Roomy session.denseBlock.cache.tokenCapacity
      (attention.queryHeadCount * attention.valueDimension)
      session.denseBlock.scratch := by
    change Roomy session.cache.tokenCapacity _ session.denseScratch
    rw [h.capacity, hheads, hvalues]
    exact hprovisioned.toRoomy
  exact ample_hy3BlockForwardToken hroomy (hprovisioned.houses swiglu (view_hiddenWidth hswiglu).le)

theorem ample_loadRoutes (index : Nat) (moe : OwnedMoe) (routes : List RoutedExpert) :
    FailsIn (loadRoutes env model index moe routes) Hy3ScalarError.Ample := by
  have hrest : FailsIn (do
      let expected ← moe.expertLayout.totalBytes
      ensure model.expertSource .missingExpertSource
      wrap .expertCache (env.acquire (routes.map fun route => ⟨index, route.expertId⟩) expected) :
      Except (Hy3ScalarError ε) (List (Lease ExpertKey))) Hy3ScalarError.Ample :=
    FailsIn.bind (failsIn_okOr trivial) fun _ _ => (failsIn_ensure trivial).bind fun _ _ =>
      failsIn_wrap (fun _ => trivial) _
  unfold loadRoutes
  by_cases hmode : model.executionMode ≠ .cpuParallelQ8K
  · rw [if_pos hmode]
    exact (failsIn_ensure trivial).bind fun _ _ => hrest
  · rw [if_neg hmode]
    exact hrest

theorem selected_width {moe : OwnedMoe} {leased : List (RoutedExpert × Lease ExpertKey)}
    {selected : List SelectedExpert}
    (h : leased.mapM (selectExpert (ε := ε) moe) = .ok selected) :
    ∀ expert ∈ selected, expert.expert.hiddenWidth = moe.expertLayout.gate.outputWidth := by
  intro expert hmem
  obtain ⟨i, hi, rfl⟩ := List.mem_iff_getElem.mp hmem
  have hall := except_mapM_ok_iff.mp h
  have hone := hall.get (by rw [hall.length_eq]; exact hi) hi
  obtain ⟨view, hview, hmade⟩ := except_bind_ok_iff.mp hone
  change (selected.get ⟨i, hi⟩).expert.hiddenWidth = moe.expertLayout.gate.outputWidth
  rw [← Except.ok.inj hmade]
  exact payload_hiddenWidth hview

/-- The experts of a layer that are no wider than its shared one find room. -/
theorem ample_finishMoe {index : Nat} {moe : OwnedMoe} {scratch : Hy3BlockScratch}
    (hprovisioned : Provisioned model.contextCapacity model.contextWidth moe.shared.gate.outputWidth
      (session.moeBlock scratch).scratch)
    (hnarrow : moe.expertLayout.gate.outputWidth ≤ moe.shared.gate.outputWidth) :
    Command.Ends (fun _ _ => True) (fun e _ => e.Ample)
      (finishMoe N env model index moe scratch session) := by
  unfold finishMoe
  rw [Command.bind_of_ok (Command.read_run session),
    Command.bind_of_ok (Command.update_run _ session)]
  refine .lift_bind (fun e he => ample_loadRoutes _ _ _ e he) fun leases _ => ?_
  rw [Command.bind_of_ok (Command.update_run _ _)]
  refine .lift_bind (fun e he => failsIn_ensure trivial e he) fun _ _ => ?_
  refine .lift_bind (fun e he =>
    FailsIn.mapM (fun _ _ => (ample_payload _ _).bind fun _ _ => .pure _ _) e he)
    fun selected hselected => ?_
  refine .lift_bind (fun e he => ample_expert _ e he) fun shared hshared => ?_
  refine .bind (Q := fun _ _ => True) (.zoom (.mapError ?_)) fun _ last _ => .answered () _ trivial
  refine ample_hy3MoeFinishToken hprovisioned.preflight (fun expert hmem => ?_) ?_
  · exact hprovisioned.houses _ ((selected_width hselected expert hmem).le.trans hnarrow)
  · exact hprovisioned.houses _ (view_hiddenWidth hshared).le

theorem ample_evaluateMoe {index : Nat} {layer : LayerWeights} {moe : OwnedMoe}
    (h : Ahead model before session) (hprovisioned : ∀ scratch, session.moeScratch = some scratch →
      Provisioned model.contextCapacity model.contextWidth moe.shared.gate.outputWidth scratch)
    (hnarrow : moe.expertLayout.gate.outputWidth ≤ moe.shared.gate.outputWidth) :
    Command.Ends (fun _ _ => True) (fun e _ => e.Ample)
      (evaluateMoe N env model index layer moe session) := by
  unfold evaluateMoe
  refine .read_bind (.lift_bind (fun e he => ample_streamingWeights _ _ _ _ e he)
    fun streaming hstreaming => ?_)
  refine .lift_bind (fun e he => failsIn_okOr trivial e he) fun scratch hscratch => ?_
  have hown := hprovisioned scratch (okOr_eq_ok.mp hscratch)
  have hblock : (session.moeBlock scratch).scratch = scratch := by
    rw [Hy3ScalarSession.moeBlock, okOr_eq_ok.mp hscratch]
    rfl
  obtain ⟨hheads, hvalues, -⟩ := streamingWeights_eq_ok hstreaming
  have hroomy : Roomy (session.moeBlock scratch).cache.tokenCapacity
      (streaming.attention.queryHeadCount * streaming.attention.valueDimension)
        (session.moeBlock scratch).scratch := by
    change Roomy session.cache.tokenCapacity _ _
    rw [h.capacity, hheads, hvalues, hblock]
    exact hown.toRoomy
  refine .bind (Q := fun _ middle => (middle.moeBlock scratch).scratch.shape = scratch.shape)
    (.zoom (.mapError ?_))
    fun _ middle hmiddle => ample_finishMoe (hown.of_shape hmiddle) hnarrow
  refine ((ample_hy3MoeRouteToken hroomy).and (hy3MoeRouteToken_shape N _ _ streaming _)).mono
    (fun _ block hb => ?_)
    fun _ _ he => he.1
  exact (Prod.mk.inj hb.2).2.trans (congrArg Hy3BlockScratch.shape hblock)

/-- The layers of a uniform model find the buffers of the session long enough. -/
theorem ample_evaluateLayers (uniform : Uniform model) (narrow : Narrow model)
    (hfurnished : Furnished model before)
    {index : Nat} {done layers : List LayerWeights} (hlayers : done ++ layers = model.layers)
    (hindex : done.length = index) (h : Reached model before index session) :
    Command.Ends (fun _ _ => True) (fun e _ => e.Ample)
      (evaluateLayers N env model index layers session) := by
  induction layers generalizing index done session with
  | nil => exact .answered () session trivial
  | cons layer layers ih =>
      have hmem : layer ∈ model.layers := hlayers ▸ List.mem_append_right done List.mem_cons_self
      have hcount : index < model.config.blockCount := by
        rw [← model.blocks, ← hlayers, List.length_append, List.length_cons]
        omega
      have hown : Furnished model session := hfurnished.of_shape h.shape
      have hnext : (done ++ [layer]) ++ layers = model.layers := by
        rw [List.append_assoc]; exact hlayers
      have hstep : Command.Ends (fun _ _ => True) (fun e _ => e.Ample)
          (evaluateLayer N env model index layer session) := by
        unfold evaluateLayer
        refine .lift_bind (fun e he => failsIn_ensure trivial e he) fun _ _ => ?_
        cases hfeed : layer.feedForward with
        | dense expert =>
            -- only the first layer is dense
            have hhead : model.layers.head? = some layer := by
              obtain ⟨first, rest, _, hmodel, -, hrest⟩ := uniform.dense
              rw [hmodel] at hlayers ⊢
              cases done with
              | nil => rw [← hlayers]; rfl
              | cons other done =>
                  have hlater : layer ∈ rest := by
                    rw [← (List.cons.inj hlayers).2]
                    exact List.mem_append_right done List.mem_cons_self
                  obtain ⟨moe, hmoe⟩ := hrest layer hlater
                  rw [hfeed] at hmoe
                  cases hmoe
            exact ample_evaluateDense h.toAhead (hown.dense layer expert hhead hfeed)
        | moe moe =>
            refine ample_evaluateMoe h.toAhead (fun scratch hscratch => ?_)
              (narrow layer hmem moe hfeed)
            obtain ⟨first, hfirst, firstMoe, hfirstMoe, hprovisioned⟩ := hown.moe scratch hscratch
            rwa [uniform.sharedWidth hmem hfirst hfeed hfirstMoe]
      unfold evaluateLayers
      refine (hstep.and (evaluateLayer_ends N env layer hcount h)).mono (fun _ _ h => h)
        (fun _ _ h => h.1) |>.bind ?_
      intro _ next hreached
      exact ih hnext (by rw [List.length_append, hindex]; rfl) hreached.2

theorem ample_validateToken (position tokenId logitLength : Nat) :
    FailsIn (model.validateToken (ε := ε) position tokenId logitLength) Hy3ScalarError.Ample :=
  FailsIn.bind (failsIn_ensure trivial) fun _ _ => (failsIn_ensure trivial).bind fun _ _ =>
    failsIn_ensure trivial

theorem ample_evaluateInner (uniform : Uniform model) (narrow : Narrow model)
    (hfurnished : Furnished model before) (hsound : Sound model before) (tokenId : Nat)
    (logits : List F32) :
    Command.Ends (fun _ _ => True) (fun e _ => e.Ample)
      (evaluateInner N env model tokenId (before, logits)) := by
  unfold evaluateInner
  refine .read_bind (.lift_bind (fun e he => ample_validateToken _ _ _ e he) fun _ _ => ?_)
  refine .bind (Q := fun _ state => state.1.shape = before.shape) (.zoom ?_) fun _ state hstate =>
    ?_
  · have hembedded : Command.Ends (fun _ => Reached model before 0) (fun e _ => e.Ample)
        (embedToken (ε := ε) N model tokenId before) := by
      have hends : Command.Ends (fun _ _ => True) (fun e _ => e.Ample)
          (embedToken (ε := ε) N model tokenId before) := by
        unfold embedToken
        refine .read_bind (.lift_bind (fun e he => ample_matrix _ e he) fun _ _ => ?_)
        exact .lift_bind (fun e he => failsIn_wrap (fun _ => trivial) _ e he) fun _ _ =>
          .answered () _ trivial
      exact (hends.and (embedToken_ends N tokenId hsound)).mono (fun _ _ h => h.2) fun _ _ h => h.1
    have hmodel : [] ++ model.layers = model.layers := List.nil_append _
    refine .bind hembedded fun _ first hfirst =>
      .bind (Q := fun _ => Reached model before model.config.blockCount) ?_
      fun _ last hlast => ?_
    · refine ((ample_evaluateLayers uniform narrow hfurnished hmodel rfl hfirst).and
        (evaluateLayers_ends N env model.layers
        (by rw [List.length_nil, Nat.zero_add, model.blocks]) hfirst)).mono (fun _ _ h => h.2)
        fun _ _ h => h.1
    · have hends : Command.Ends (fun _ _ => True) (fun e _ => e.Ample)
          (normalizeHidden (ε := ε) N model last) := by
        unfold normalizeHidden
        refine .read_bind
          (.lift_bind (fun e he => ample_kernel (ample_weightedRmsNorm _ _ _ _) e he) fun _ _ => ?_)
        exact .answered () _ trivial
      exact (hends.and (normalizeHidden_ends N hlast)).mono (fun _ _ h => h.2.shape)
        fun _ _ h => h.1
  · have hown : Furnished model state.1 := hfurnished.of_shape hstate
    unfold finishToken
    refine .read_bind (.lift_bind (fun e he => ample_matrix _ e he) fun output _ => ?_)
    refine .bind (Q := fun _ _ => True) (.zoom (.mapError ?_)) fun _ last _ =>
      .answered () _ trivial
    rw [gemvInto_run]
    cases hgemv : gemv N model.executionMode output state.1.finalNormalized state.2.length
      state.1.decodedBlock
      state.1.q8 with
    | ok values => exact .answered () values trivial
    | error e =>
        exact .failed e _ (ample_gemv hown.decoded (fun hlength => hlength ▸ hown.q8) _ e hgemv)

/-- An evaluation that fails has not failed for lack of scratch. -/
theorem ample_evaluate (uniform : Uniform model) (narrow : Narrow model)
    (hfurnished : Furnished model before) (hsound : Sound model before) (tokenId : Nat)
    (logits : List F32) :
    Command.Ends (fun _ _ => True) (fun e _ => e.Ample)
      (evaluate N env model tokenId (before, logits)) := by
  have hinner : Command.Ends (fun _ _ => True) (fun e _ => e.Ample)
      (evaluateInner N env model tokenId (before, logits)) :=
    ample_evaluateInner uniform narrow hfurnished hsound tokenId logits
  unfold evaluate
  rcases hrun : evaluateInner N env model tokenId (before, logits) with ⟨r, session, buffer⟩
  rw [hrun] at hinner
  cases hinner with
  | answered _ _ _ => exact .answered () _ trivial
  | failed e _ he =>
      dsimp only
      rcases Hy3ScalarSession.rollbackTo before.position session with ⟨r, session'⟩
      cases r with
      | ok _ => exact .failed e _ he
      | error rollback => exact .failed _ _ he

/-! ### Wider experts -/

/-- A MoE layer that is finished has experts no wider than its activation scratch. -/
theorem finishMoe_width {index : Nat} {moe : OwnedMoe} {scratch : Hy3BlockScratch} {width : Nat}
    (hactivation : (session.moeBlock scratch).scratch.buffers.swigluActivation = width * 2) :
    Command.Ends (fun _ _ => moe.expertLayout.gate.outputWidth ≤ width) (fun _ _ => True)
      (finishMoe N env model index moe scratch session) := by
  unfold finishMoe
  rw [Command.bind_of_ok (Command.read_run session),
    Command.bind_of_ok (Command.update_run _ session)]
  refine .lift_bind (fun _ _ => trivial) fun leases _ => ?_
  rw [Command.bind_of_ok (Command.update_run _ _)]
  refine .lift_bind (fun _ _ => trivial) fun _ _ => .lift_bind (fun _ _ => trivial)
    fun selected hselected => ?_
  refine .lift_bind (fun _ _ => trivial) fun shared _ => ?_
  refine .bind (Q := fun _ _ => moe.expertLayout.gate.outputWidth ≤ width) (.zoom (.mapError ?_))
    fun _ last hlast => .answered () _ hlast
  refine (hy3MoeFinishToken_widths selected shared _).mono (fun _ _ h => ?_) fun _ _ h => h
  obtain ⟨hnonempty, hwidths⟩ := h
  obtain ⟨expert, hmem⟩ := List.exists_mem_of_ne_nil selected hnonempty
  have hfits := hwidths expert hmem
  change _ ≤ (session.moeBlock scratch).scratch.buffers.swigluActivation at hfits
  rw [selected_width hselected expert hmem, hactivation] at hfits
  omega

theorem evaluateMoe_width {index : Nat} {layer : LayerWeights} {moe : OwnedMoe} {width : Nat}
    (hactivation : ∀ scratch, session.moeScratch = some scratch →
      scratch.buffers.swigluActivation = width * 2) :
    Command.Ends (fun _ _ => moe.expertLayout.gate.outputWidth ≤ width) (fun _ _ => True)
      (evaluateMoe N env model index layer moe session) := by
  unfold evaluateMoe
  refine .read_bind (.lift_bind (fun _ _ => trivial) fun streaming _ =>
    .lift_bind (fun _ _ => trivial) fun scratch hscratch => ?_)
  have hblock : (session.moeBlock scratch).scratch = scratch := by
    rw [Hy3ScalarSession.moeBlock, okOr_eq_ok.mp hscratch]
    rfl
  refine .bind (Q := fun _ middle => (middle.moeBlock scratch).scratch.shape = scratch.shape)
    (.zoom (.mapError ?_))
    fun _ middle hmiddle => finishMoe_width ?_
  · refine (hy3MoeRouteToken_shape N _ _ streaming _).mono (fun _ block hb => ?_)
      fun _ _ _ => trivial
    exact (Prod.mk.inj hb).2.trans (congrArg Hy3BlockScratch.shape hblock)
  · rw [(Prod.mk.inj hmiddle).1]
    exact hactivation scratch (okOr_eq_ok.mp hscratch)

/-- A token that has passed every layer has met no expert wider than the shared one. -/
theorem evaluateLayers_width (uniform : Uniform model) (hfurnished : Furnished model before)
    {index : Nat}
    {done layers : List LayerWeights} (hlayers : done ++ layers = model.layers)
    (hindex : done.length = index) (h : Reached model before index session) :
    Command.Ends (fun _ _ => ∀ layer ∈ layers, ∀ moe, layer.feedForward = .moe moe →
        moe.expertLayout.gate.outputWidth ≤ moe.shared.gate.outputWidth) (fun _ _ => True)
      (evaluateLayers N env model index layers session) := by
  induction layers generalizing index done session with
  | nil => exact .answered () session (by simp)
  | cons layer layers ih =>
      have hmem : layer ∈ model.layers := hlayers ▸ List.mem_append_right done List.mem_cons_self
      have hcount : index < model.config.blockCount := by
        rw [← model.blocks, ← hlayers, List.length_append, List.length_cons]
        omega
      have hown : Furnished model session := hfurnished.of_shape h.shape
      have hnext : (done ++ [layer]) ++ layers = model.layers := by
        rw [List.append_assoc]
        exact hlayers
      have hstep : Command.Ends (fun _ _ => ∀ moe, layer.feedForward = .moe moe →
          moe.expertLayout.gate.outputWidth ≤ moe.shared.gate.outputWidth) (fun _ _ => True)
          (evaluateLayer N env model index layer session) := by
        unfold evaluateLayer
        refine .lift_bind (fun _ _ => trivial) fun _ _ => ?_
        cases hfeed : layer.feedForward with
        | dense expert => exact .of_forall (fun _ _ _ hmoe => nomatch hmoe) (fun _ _ => trivial) _
        | moe moe =>
            have hactivation : ∀ scratch, session.moeScratch = some scratch →
                scratch.buffers.swigluActivation = moe.shared.gate.outputWidth * 2 := by
              intro scratch hscratch
              obtain ⟨first, hfirst, firstMoe, hfirstMoe, hprovisioned⟩ := hown.moe scratch hscratch
              rw [uniform.sharedWidth hmem hfirst hfeed hfirstMoe]
              exact hprovisioned.activation
            refine (evaluateMoe_width hactivation).mono (fun _ _ hwidth own hmoe => ?_)
              fun _ _ h => h
            cases hmoe
            exact hwidth
      unfold evaluateLayers
      refine ((hstep.and (evaluateLayer_ends N env layer hcount h)).mono (fun _ _ h => h)
        fun _ _ _ => trivial).bind ?_
      rintro _ next ⟨hwidth, hreached⟩
      refine (ih hnext (by rw [List.length_append, hindex]; rfl) hreached).mono
        (fun _ _ hrest => ?_) fun _ _ h => h
      exact List.forall_mem_cons.mpr ⟨hwidth, hrest⟩

theorem evaluate_width (uniform : Uniform model) (hfurnished : Furnished model before)
    (hsound : Sound model before) (tokenId : Nat) (logits : List F32) :
    Command.Ends (fun _ _ => Narrow model) (fun _ _ => True)
      (evaluate N env model tokenId (before, logits)) := by
  have hinner : Command.Ends (fun _ _ => Narrow model) (fun _ _ => True)
      (evaluateInner N env model tokenId (before, logits)) := by
    unfold evaluateInner
    refine .read_bind (.lift_bind (fun _ _ => trivial) fun _ _ => ?_)
    refine .bind (Q := fun _ _ => Narrow model) (.zoom ?_) fun _ state hstate => ?_
    · refine ((embedToken_ends N tokenId hsound).mono (fun _ _ h => h) fun _ _ _ => trivial).bind
        fun _ first hfirst => ?_
      refine (evaluateLayers_width uniform hfurnished (List.nil_append _) rfl hfirst).bind
        fun _ last hlast => ?_
      exact .of_forall (fun _ _ => hlast) (fun _ _ => trivial) _
    · exact .of_forall (fun _ _ => hstate) (fun _ _ => trivial) _
  unfold evaluate
  rcases hrun : evaluateInner N env model tokenId (before, logits) with ⟨r, session, buffer⟩
  rw [hrun] at hinner
  cases hinner with
  | answered _ _ hnarrow => exact .answered () _ hnarrow
  | failed e _ _ =>
      dsimp only
      rcases Hy3ScalarSession.rollbackTo before.position session with ⟨r, session'⟩
      cases r with
      | ok _ => exact .failed e _ trivial
      | error rollback => exact .failed _ _ trivial

end Evaluation

/-- The scratch of a session is long enough for every layer of a uniform model whose routed experts
are no wider than the shared ones; no token of any other model is ever evaluated. -/
theorem streaming_scratch (N : Numerics) (sha : Sha256) {model : Hy3ScalarModel}
    (uniform : Uniform model) {session : Hy3ScalarSession}
    (reachable : Hy3ScalarModel.Reachable ε N sha model session) (env : Environment ε)
    (tokenId : Nat) (logits : List F32) :
    (Narrow model → ∀ e state, evaluate N env model tokenId (session, logits) = (.error e, state) →
      e.Ample) ∧
    (¬ Narrow model → ∀ state, evaluate N env model tokenId (session, logits) ≠
      (.ok (), state)) := by
  constructor
  · intro narrow e state hrun
    exact (ample_evaluate uniform narrow reachable.furnished reachable.sound tokenId
      logits).of_error hrun
  · intro hwide state hrun
    exact hwide
      ((evaluate_width uniform reachable.furnished reachable.sound tokenId logits).of_ok hrun)

/-- One MoE layer has the same shapes as itself. -/
theorem Uniform.of_pair {model : Hy3ScalarModel} {first last : LayerWeights} {expert : OwnedExpert}
    {moe : OwnedMoe} (hlayers : model.layers = [first, last])
    (hfirst : first.feedForward = .dense expert)
    (hlast : last.feedForward = .moe moe) : Uniform model := by
  have honly : ∀ layer ∈ model.layers, ∀ own, layer.feedForward = .moe own → layer = last ∧
      own = moe := by
    intro layer hmem own hown
    rw [hlayers] at hmem
    cases hmem with
    | head => cases hfirst.symm.trans hown
    | tail _ hmem =>
        cases List.mem_singleton.mp hmem
        exact ⟨rfl, FeedForwardWeights.moe.inj (hown.symm.trans hlast)⟩
  constructor
  · refine ⟨first, [last], expert, hlayers, hfirst, fun layer hmem => ⟨moe, ?_⟩⟩
    rw [List.mem_singleton.mp hmem, hlast]
  · intro layer hlayer layer' hlayer' own own' hown hown'
    obtain ⟨rfl, rfl⟩ := honly layer hlayer own hown
    obtain ⟨rfl, rfl⟩ := honly layer' hlayer' own' hown'
    exact ⟨rfl, rfl⟩

/-- A call that the host stops has not run out of scratch. -/
theorem streaming_scratch_refused : ∃ session e state,
    newSession (ε := Unit) .granting smallHy3 = .ok session ∧
      evaluate zeroNumerics refusingHost smallHy3 0 (session, [.zero]) = (.error e, state) ∧
      e.Ample := by
  obtain ⟨session, hnew, hrun⟩ := except_map_ok_iff.mp smallHy3_refused
  have hnarrow : Narrow smallHy3 := by
    simp only [Narrow, smallHy3, List.mem_cons, List.not_mem_nil, or_false]
    rintro layer (rfl | rfl) moe hmoe <;> cases hmoe
    exact Nat.le_refl 1
  exact ⟨session, _, _, hnew, Prod.ext hrun rfl,
    (streaming_scratch zeroNumerics zeroSha (.of_pair rfl rfl rfl) (.opened _ hnew) refusingHost 0
      [.zero]).1 hnarrow _ _ (Prod.ext hrun rfl)⟩

/-- A `f32` matrix of 256 rows of two values. -/
def pairedMatrix : OwnedMatrix := ⟨.f32, 2, 256, List.replicate 2048 0⟩

def pairedAttention : OwnedAttention :=
  { smallAttention with value := wideMatrix 2, output := pairedMatrix }

/-- A model with one routed expert of two hidden values, beside a shared expert of one. -/
def wideHy3 : Hy3ScalarModel where
  config := { smallHy3.config with expertCount := 1, valueLength := 2 }
  contextCapacity := 4
  executionMode := .dequantF32
  kvPageTokens := 1
  modelFingerprint := smallHy3.modelFingerprint
  embeddings := wideMatrix 1
  layers :=
    [⟨pairedAttention, List.replicate 256 .zero, .dense smallExpert⟩,
      ⟨pairedAttention, List.replicate 256 .zero, .moe
        { router := wideMatrix 1, selectionBias := [.zero], shared := smallExpert
          expertLayout := ⟨⟨.q4K, 256, 2, 288⟩, ⟨.q4K, 256, 2, 288⟩, ⟨.f32, 2, 256, 2048⟩⟩ }⟩]
  outputNorm := List.replicate 256 .zero
  output := wideMatrix 1
  rope := smallHy3.rope
  expertSource := true
  expertCache := { capacityBytes := 2624, admitAfterRequests := 2 }
  blocks := rfl

/-- A host that grants all memory, with experts of zero bytes. -/
def grantingHost : Environment Unit where
  kv _ _ := true
  leases _ := true
  views _ := true
  acquire keys size := .ok (keys.map fun key => ⟨0, key, List.replicate size 0, 0⟩)

/-- The first token of a new session finds scratch for one hidden value and an expert with two. -/
theorem streaming_scratch_wide : Uniform wideHy3 ∧ ∃ session state,
    newSession (ε := Unit) .granting wideHy3 = .ok session ∧
      evaluate zeroNumerics grantingHost wideHy3 0 (session, [.zero]) =
        (.error (.kernel (.scratchTooSmall "SwiGLU gate/up" 4 2)), state) := by
  refine ⟨.of_pair rfl rfl rfl, ?_⟩
  have hfail :
      ((newSession (ε := Unit) ⟨fun _ => true, fun _ => true, fun _ => true, fun _ =>
        true⟩ wideHy3).map
      fun session => (evaluate zeroNumerics grantingHost wideHy3 0 (session, [.zero])).1) =
        .ok (.error (.kernel (.scratchTooSmall "SwiGLU gate/up" 4 2))) := by decide +kernel
  obtain ⟨session, hnew, hrun⟩ := except_map_ok_iff.mp hfail
  exact ⟨session, _, hnew, Prod.ext hrun rfl⟩

end LightBridge.Hy3
