import LightBridge.Foundation.Refusal
import LightBridge.Hy3.Retry
import LightBridge.Kernels.Granted

/-! What a session keeps of the one it was opened as, and the snapshots of its rows. Only a
refused request for memory makes one opening differ from another. -/
namespace LightBridge.Hy3
open Foundation Kernels Hy3ScalarModel
variable {ε ε' α : Type} {model : Hy3ScalarModel}

theorem regranted_wrap {wrapper : ε → ε'} {Q : ε → Prop} {Q' : ε' → Prop} {r r' : Except ε α}
    (h : Regranted Q r r') (hwrap : ∀ e, Q e → Q' (wrapper e)) :
    Regranted Q' (wrap wrapper r) (wrap wrapper r') := by
  intro a ha
  rcases h a (wrap_eq_ok.mp ha) with hr' | ⟨e, hr', he⟩
  · exact Or.inl (wrap_eq_ok.mpr hr')
  · exact Or.inr ⟨_, wrap_eq_error.mpr ⟨e, hr', rfl⟩, hwrap e he⟩

/-- A check of the allocator's answer. -/
theorem regranted_ensure {Refused : ε → Prop} {granted granted' : Prop} [Decidable granted]
    [Decidable granted']
    {error : ε} (h : Refused error) :
    Regranted Refused (ensure granted error) (ensure granted' error) :=
  .of_failsIn _ (failsIn_ensure h)

theorem regranted_if {Refused : ε → Prop} {granted granted' : Prop} [Decidable granted]
    [Decidable granted'] {error : ε} {r r' : Except ε α} (h : Refused error)
    (hr : Regranted Refused r r') :
    Regranted Refused (if granted then r else .error error)
      (if granted' then r' else .error error) := by
  intro a ha
  split at ha
  · split
    · exact hr a ha
    · exact Or.inr ⟨error, rfl, h⟩
  · cases ha

/-! ### Opening a session -/

/-- The errors of a refused request for memory. -/
inductive OutOfMemory : Hy3ScalarError ε → Prop where
  | buffer (context : String) (requested : Nat) : OutOfMemory (.allocationFailed context requested)
  | kernel (context : String) (requested : Nat) :
      OutOfMemory (.kernel (.allocationFailed context requested))
  | kv (field : String) (elements : Nat) : OutOfMemory (.kv (.allocationFailed field elements))

def KernelOutOfMemory (error : KernelError) : Prop :=
  ∃ context requested, error = .allocationFailed context requested

theorem zeroed_regranted (granted granted' : String → Bool) (size length : Nat) (context : String) :
    Regranted KernelOutOfMemory (Hy3BlockScratch.zeroed granted size length context)
      (Hy3BlockScratch.zeroed granted' size length context) := by
  unfold Hy3BlockScratch.zeroed
  apply (regranted_ensure ⟨context, length, rfl⟩).bind
  intro _ _
  exact .refl _

theorem allocate_regranted (granted granted' : String → Bool) (attention : Hy3AttentionWeights)
    (ffnHidden expertCount expertUsedCount routerInput contextCapacity : Nat) :
    Regranted KernelOutOfMemory
      (Hy3BlockScratch.allocate granted attention ffnHidden expertCount expertUsedCount routerInput
        contextCapacity)
      (Hy3BlockScratch.allocate granted' attention ffnHidden expertCount expertUsedCount routerInput
        contextCapacity) := by
  unfold Hy3BlockScratch.allocate
  iterate 6
    apply (Regranted.refl _).bind
    intro _ _
  dsimp only
  split
  all_goals
    apply (Regranted.refl _).bind
    intro _ _
    iterate 18
      apply (zeroed_regranted granted granted' _ _ _).bind
      intro _ _
    exact .refl _

theorem newMoeScratch_regranted (granted granted' : String → Bool) :
    Regranted OutOfMemory (model.newMoeScratch (ε := ε) granted)
      (model.newMoeScratch granted') := by
  unfold newMoeScratch
  apply (Regranted.refl _).bind
  intro streaming _
  cases streaming with
  | none => exact .refl _
  | some weights =>
      apply Regranted.map
      apply regranted_wrap (Q := KernelOutOfMemory)
      · unfold Hy3BlockScratch.newStreamingMoe
        apply (Regranted.refl _).bind
        intro _ _
        exact allocate_regranted granted granted' _ _ _ _ _ _
      · rintro _ ⟨context, requested, rfl⟩
        exact .kernel context requested

theorem newLayerPages_regranted (alloc alloc' : Kv.Allocator) (config : Kv.KvConfig)
    (pageCount layer : Nat) :
    Regranted Kv.PagedKvCache.OfAllocator
      (Kv.PagedKvCache.newLayerPages alloc config pageCount false layer)
      (Kv.PagedKvCache.newLayerPages alloc' config pageCount false layer) := by
  unfold Kv.PagedKvCache.newLayerPages
  apply regranted_if ⟨_, _, rfl⟩
  exact .refl _

theorem newLazy_regranted (alloc alloc' : Kv.Allocator) (config : Kv.KvConfig) :
    Regranted Kv.PagedKvCache.OfAllocator (Kv.PagedKvCache.newLazy alloc config)
      (Kv.PagedKvCache.newLazy alloc' config) := by
  unfold Kv.PagedKvCache.newLazy Kv.PagedKvCache.newWithAllocation
  split
  · exact .refl _
  · apply (Regranted.refl _).bind
    intro rounded _
    apply regranted_if ⟨_, _, rfl⟩
    apply (Regranted.mapM (newLayerPages_regranted alloc alloc' config _) _).bind
    intro pages _
    apply Regranted.bind
    · unfold Kv.zeroedVec
      apply regranted_if ⟨_, _, rfl⟩
      exact .refl _
    · intro lengths _
      exact .refl _

theorem fallibleZeroed_regranted (granted granted' : String → Bool) (size length : Nat)
    (context : String) :
    Regranted OutOfMemory (fallibleZeroed (ε := ε) granted size length context)
      (fallibleZeroed granted' size length context) := by
  unfold fallibleZeroed
  apply (regranted_ensure (.buffer context length)).bind
  intro _ _
  exact .refl _

/-- Sessions of a model are opened alike, unless memory is refused. -/
theorem newSession_regranted (alloc alloc' : SessionAllocator) :
    Regranted OutOfMemory (newSession (ε := ε) alloc model) (newSession alloc' model) := by
  unfold newSession
  apply (Regranted.refl _).bind
  intro weights _
  apply (newMoeScratch_regranted alloc.moe alloc'.moe).bind
  intro moeScratch _
  apply Regranted.bind
  · apply regranted_wrap (newLazy_regranted alloc.kv alloc'.kv _)
    rintro _ ⟨field, elements, rfl⟩
    exact .kv field elements
  · intro cache _
    apply Regranted.bind
    · apply regranted_wrap (Q := KernelOutOfMemory)
      · unfold Hy3BlockScratch.new
        apply (Regranted.refl _).bind
        intro _ _
        split
        · exact allocate_regranted alloc.dense alloc'.dense _ _ _ _ _ _
        · exact allocate_regranted alloc.dense alloc'.dense _ _ _ _ _ _
      · rintro _ ⟨context, requested, rfl⟩
        exact .kernel context requested
    · intro denseScratch _
      iterate 3
        apply (fallibleZeroed_regranted alloc.buffers alloc'.buffers _ _ _).bind
        intro _ _
      apply (Regranted.refl _).bind
      intro _ _
      apply (fallibleZeroed_regranted alloc.buffers alloc'.buffers _ _ _).bind
      intro _ _
      exact .refl _

theorem fallibleZeroed_granted (granted : String → Bool) (size length : Nat) (context : String) :
    AnswersAs (fallibleZeroed (ε := ε) granted size length context)
      (fallibleZeroed (fun _ => true) size length context) :=
  .bind (fun _ h => ensure_eq_ok.mpr (tryReserve_mono (ensure_eq_ok.mp h))) fun _ _ => .refl _

theorem newMoeScratch_granted (granted : String → Bool) :
    AnswersAs (newMoeScratch (ε := ε) model granted) (newMoeScratch model fun _ => true) := by
  unfold newMoeScratch
  refine .bind (.refl _) fun streaming _ => ?_
  cases streaming with
  | none => exact .refl _
  | some weights => exact .map (wrap_answersAs (Hy3BlockScratch.newStreamingMoe_answersAs _ _ _)) _

/-- A session is opened as where all memory is granted, or not at all. -/
theorem newSession_granted (alloc : SessionAllocator) :
    AnswersAs (newSession (ε := ε) alloc model) (newSession .granting model) := by
  unfold newSession
  refine .bind (.refl _) fun weights _ => .bind (newMoeScratch_granted _) fun moeScratch _ => ?_
  refine .bind (wrap_answersAs (Kv.PagedKvCache.newWithAllocation_answersAs _ _ _))
    fun cache _ => ?_
  refine .bind (wrap_answersAs (Hy3BlockScratch.new_answersAs _ _ _)) fun denseScratch _ => ?_
  refine .bind (fallibleZeroed_granted _ _ _ _) fun hidden _ => ?_
  refine .bind (fallibleZeroed_granted _ _ _ _) fun finalNormalized _ => ?_
  refine .bind (fallibleZeroed_granted _ _ _ _) fun decodedBlock _ => ?_
  refine .bind (.refl _) fun q8Bytes _ => ?_
  exact .bind (fallibleZeroed_granted _ _ _ _) fun q8 _ => .refl _

/-! ### What a session keeps -/

section Intact
variable {session : Hy3ScalarSession}

/-- A session between two calls, with its buffers as they were opened. -/
structure Intact (ε : Type) (model : Hy3ScalarModel) (session : Hy3ScalarSession) :
    Prop extends Sound model session where
  opened : ∃ alloc first, newSession (ε := ε) alloc model = .ok first ∧ session.shape = first.shape

theorem newSession_intact {alloc : SessionAllocator}
    (h : newSession (ε := ε) alloc model = .ok session) :
    Intact ε model session := ⟨newSession_sound h, alloc, session, h, rfl⟩

theorem Intact.of_shape {session' : Hy3ScalarSession} (h : Intact ε model session)
    (sound : Sound model session')
    (shape : session'.shape = session.shape) : Intact ε model session' := by
  obtain ⟨alloc, first, hopened, hshape⟩ := h.opened
  exact ⟨sound, alloc, first, hopened, shape.trans hshape⟩

theorem resetSession_intact (h : Intact ε model session) : Intact ε model (resetSession session) :=
  h.of_shape (resetSession_sound h.toSound) (cleared_shape _ _)

theorem zeroed_fits {granted : String → Bool} {size length made : Nat} {context : String}
    (h : Hy3BlockScratch.zeroed granted size length context = .ok made) :
    size * length ≤ isizeMax := by
  obtain ⟨_, hreserve, -⟩ := except_bind_ok_iff.mp h
  exact (tryReserve_eq_true.mp (ensure_eq_ok.mp hreserve)).2

theorem allocate_rows {granted : String → Bool} {attention : Hy3AttentionWeights}
    {ffnHidden expertCount expertUsedCount routerInput contextCapacity : Nat}
    {scratch : Hy3BlockScratch} (h : Hy3BlockScratch.allocate granted attention ffnHidden
      expertCount expertUsedCount routerInput contextCapacity = .ok scratch) :
    4 * (attention.kvHeadCount * attention.keyDimension) ≤ isizeMax ∧
      4 * (attention.kvHeadCount * attention.valueDimension) ≤ isizeMax := by
  unfold Hy3BlockScratch.allocate at h
  obtain ⟨_, -, h⟩ := except_bind_ok_iff.mp h
  obtain ⟨_, -, h⟩ := except_bind_ok_iff.mp h
  obtain ⟨keyValues, hkeys, h⟩ := except_bind_ok_iff.mp h
  obtain ⟨valueValues, hvalues, h⟩ := except_bind_ok_iff.mp h
  iterate 2 obtain ⟨_, -, h⟩ := except_bind_ok_iff.mp h
  obtain ⟨-, rfl⟩ := checkedMul_eq_some.mp (okOr_eq_ok.mp hkeys)
  obtain ⟨-, rfl⟩ := checkedMul_eq_some.mp (okOr_eq_ok.mp hvalues)
  dsimp only at h
  split at h
  all_goals
    obtain ⟨_, -, h⟩ := except_bind_ok_iff.mp h
    iterate 2 obtain ⟨_, -, h⟩ := except_bind_ok_iff.mp h
    obtain ⟨_, hkeysMade, h⟩ := except_bind_ok_iff.mp h
    obtain ⟨_, hvaluesMade, -⟩ := except_bind_ok_iff.mp h
    exact ⟨zeroed_fits hkeysMade, zeroed_fits hvaluesMade⟩

/-- The attention of the dense layer is of the dimensions of the model. -/
theorem denseWeights_dimensions {weights : Hy3BlockWeights}
    (h : denseWeights (ε := ε) model = .ok weights) :
    weights.attention.kvHeadCount = model.config.attentionKvHeadCount ∧
      weights.attention.keyDimension = model.config.keyLength ∧
      weights.attention.valueDimension = model.config.valueLength := by
  unfold denseWeights at h
  obtain ⟨layer, -, h⟩ := except_bind_ok_iff.mp h
  cases hfeed : layer.feedForward with
  | moe moe =>
      rw [hfeed] at h
      cases h
  | dense expert =>
      rw [hfeed] at h
      obtain ⟨attention, hview, h⟩ := except_bind_ok_iff.mp h
      obtain ⟨_, -, h⟩ := except_bind_ok_iff.mp h
      cases h
      unfold OwnedAttention.view at hview
      iterate 4 obtain ⟨_, -, hview⟩ := except_bind_ok_iff.mp hview
      cases hview
      exact ⟨rfl, rfl, rfl⟩

/-- The rows of a token are as long as buffers that were allocated with the session. -/
theorem newSession_rows {alloc : SessionAllocator}
    (h : newSession (ε := ε) alloc model = .ok session) (side : Kv.Lane) :
    4 * (model.kvConfig.kvHeadCount * model.kvConfig.width side) ≤ isizeMax := by
  unfold newSession at h
  obtain ⟨weights, hweights, h⟩ := except_bind_ok_iff.mp h
  iterate 2 obtain ⟨_, -, h⟩ := except_bind_ok_iff.mp h
  obtain ⟨scratch, hscratch, -⟩ := except_bind_ok_iff.mp h
  have hrows : 4 * (weights.attention.kvHeadCount * weights.attention.keyDimension) ≤ isizeMax ∧
      4 * (weights.attention.kvHeadCount * weights.attention.valueDimension) ≤ isizeMax := by
    have hnew := wrap_eq_ok.mp hscratch
    unfold Hy3BlockScratch.new at hnew
    obtain ⟨_, -, hnew⟩ := except_bind_ok_iff.mp hnew
    split at hnew
    · exact allocate_rows hnew
    · exact allocate_rows hnew
  obtain ⟨hheads, hkeys, hvalues⟩ := denseWeights_dimensions hweights
  rw [hheads, hkeys, hvalues] at hrows
  cases side with
  | key => exact hrows.1
  | value => exact hrows.2

/-- The rows of a session can be stored in another one, where everything is granted. -/
theorem Intact.ample (h : Intact ε model session) :
    Kv.PagedKvCache.Ample (fun _ => true) session.cache.toKvConfig session.cache.view := by
  obtain ⟨alloc, first, hopened, -⟩ := h.opened
  have hrows := newSession_rows hopened
  have hgranted := newSession_granted alloc first hopened
  unfold newSession at hgranted
  iterate 2 obtain ⟨_, -, hgranted⟩ := except_bind_ok_iff.mp hgranted
  obtain ⟨cache, hcache, -⟩ := except_bind_ok_iff.mp hgranted
  apply h.wellFormed.ample
  · rw [h.config]
    exact ⟨cache, wrap_eq_ok.mp hcache⟩
  · rw [h.config]
    exact hrows

/-- A call keeps the buffers of its session, whether it answers or fails. -/
theorem evaluate_intact (N : Numerics) (env : Environment ε) (tokenId : Nat) (logits : List F32)
    (h : Intact ε model session) :
    Command.Ends (fun _ state => Intact ε model state.1) (fun _ state => Intact ε model state.1)
      (evaluate N env model tokenId (session, logits)) := by
  apply (evaluate_ends N env tokenId logits h.toSound).mono
  · intro _ state hcommitted
    apply h.of_shape hcommitted.sound
    obtain ⟨last, hlast, hstate⟩ := hcommitted
    rw [hstate]
    exact hlast.shape
  · rintro _ state ⟨-, hresembles, -⟩
    exact h.of_shape (hresembles.sound h.toSound) hresembles.shape

end Intact

/-! ### Snapshots of the rows -/

section Rows
variable {session opened : Hy3ScalarSession} {sha : Sha256}

theorem checkLengths_sound (h : Sound model session) (layers : List Nat)
    (hlayers : ∀ layer ∈ layers, layer < model.config.blockCount) :
    checkLengths (ε := ε) session layers = .ok () := by
  induction layers with
  | nil => rfl
  | cons layer layers ih =>
      unfold checkLengths
      rw [h.storedTokens (hlayers layer List.mem_cons_self)]
      change (do ensure (session.position = session.position) _; checkLengths session layers) = _
      rw [ensure, if_pos rfl]
      exact ih fun l hl => hlayers l (List.mem_cons_of_mem _ hl)

/-- A sound session stores the rows of its cache. -/
theorem exportKvSnapshot_eq_ok (h : Sound model session) {alloc : Kv.Allocator} {maximumBytes : Nat}
    {bytes : List UInt8} :
    exportKvSnapshot (ε := ε) sha alloc model session maximumBytes = .ok bytes ↔
      session.cache.exportSnapshot sha alloc model.modelFingerprint maximumBytes = .ok bytes := by
  unfold exportKvSnapshot
  rw [checkLengths_sound h _ fun layer hl => List.mem_range.mp hl, except_ok_bind, wrap_eq_ok]

/-- The rows of one session go into another, unless memory is refused. -/
theorem restoreKvSnapshot_exported (h : Sound model session) (hopened : Sound model opened)
    {alloc : Kv.Allocator} (alloc' : Kv.Allocator) {maximumBytes : Nat}
    (limit : maximumBytes ≤ usizeMax) {bytes : List UInt8}
    (hexport : exportKvSnapshot (ε := ε) sha alloc model session maximumBytes = .ok bytes)
    (shape : opened.shape = session.shape) :
    Command.Ends (fun _ last => Resembles session last)
      (fun e _ => OutOfMemory e ∧
        ¬ Kv.PagedKvCache.Ample alloc' session.cache.toKvConfig session.cache.view)
      (restoreKvSnapshot (ε := ε) sha alloc' model bytes maximumBytes opened) := by
  obtain ⟨rfl, hzero, hle, -, hparams, hvalues, -⟩ :=
    h.wellFormed.exportSnapshot_eq_ok.mp ((exportKvSnapshot_eq_ok h).mp hexport)
  have hlayers : 0 < session.cache.layerCount := by
    apply h.wellFormed.positive ("layer_count", session.cache.layerCount)
    simp [Kv.KvConfig.parameters]
  have hcount : session.cache.layerCount = model.config.blockCount := by
    rw [h.config]
    rfl
  have hlength : ∀ layer, layer < session.cache.layerCount →
      (session.cache.view layer).length = session.position := by
    intro layer hl
    rw [hcount] at hl
    rw [Kv.PagedKvCache.length_view, h.stored layer hl]
  have huniform : ∀ layer, layer < session.cache.layerCount →
      (session.cache.view layer).length = (session.cache.view 0).length := by
    intro layer hl
    rw [hlength layer hl, hlength 0 hlayers]
  have hbuilt := Kv.PagedKvCache.restoredCache_answers sha alloc' model.modelFingerprint
    (h.wellFormed.encodable true hparams hvalues fun _ => huniform) hzero hle limit
  have hconfig : opened.cache.toKvConfig = session.cache.toKvConfig :=
    hopened.config.trans h.config.symm
  rw [← hconfig] at hbuilt hle
  cases hr : Kv.PagedKvCache.restoredCache sha alloc' opened.cache.toKvConfig model.modelFingerprint
      (opened.cache.encodeSnapshot sha model.modelFingerprint session.cache.view)
        maximumBytes true with
  | error e =>
      rw [hr] at hbuilt
      cases hbuilt with
      | refused _ hrefused hscarce =>
          obtain ⟨field, elements, rfl⟩ := hrefused
          have hrun : Kv.PagedKvCache.restoreUniformSnapshot sha alloc' model.modelFingerprint
              (opened.cache.encodeSnapshot sha model.modelFingerprint session.cache.view)
                maximumBytes opened.cache =
              (.error (.allocationFailed field elements), opened.cache) := by
            unfold Kv.PagedKvCache.restoreUniformSnapshot Kv.PagedKvCache.restoreSnapshotInternal
            rw [Command.bind_of_ok (Command.read_run _), hr,
              Command.bind_of_error (Command.lift_run _ _)]
          rw [← hconfig]
          unfold restoreKvSnapshot
          rw [Command.bind_of_error (Command.zoom_run (Command.mapError_of_error hrun))]
          exact .failed _ _ ⟨.kv field elements, hconfig ▸ hscarce⟩
  | ok cache =>
      rw [hr] at hbuilt
      cases hbuilt with
      | built _ hwf hcacheConfig hview =>
          have hcacheConfig := hcacheConfig.trans hconfig
          rw [← hview, ← hcacheConfig] at huniform
          obtain ⟨cache', hrun, hwf', hconfig', hview'⟩ := restoreKvSnapshot_run (ε := ε)
            (Kv.PagedKvCache.restoreSnapshotInternal_ok.mpr hr) hwf huniform
          rw [← hconfig, hrun]
          refine .answered () _
            ⟨⟨h.wellFormed, hwf', hconfig'.trans hcacheConfig, hview'.trans hview⟩, ?_, ?_, h.idle,
              cleared_idle _ _⟩
          · change cache.storedLength 0 = session.position
            rw [← Kv.PagedKvCache.length_view, hview, hlength 0 hlayers]
          · exact (cleared_shape _ _).trans shape

/-- Accepted rows make a sound session, which stores them again as the same bytes. -/
theorem restoreKvSnapshot_accepted (h : Sound model opened) {alloc : Kv.Allocator}
    {maximumBytes : Nat} (limit : maximumBytes ≤ usizeMax) {bytes : List UInt8}
    {last : Hy3ScalarSession}
    (hrun : restoreKvSnapshot (ε := ε) sha alloc model bytes maximumBytes opened = (.ok (), last)) :
    Sound model last ∧ last.shape = opened.shape ∧ (bytes.length ≤ isizeMax →
      exportKvSnapshot (ε := ε) sha (fun _ => true) model last maximumBytes = .ok bytes) := by
  have hsound : Sound model
      (restoreKvSnapshot (ε := ε) sha alloc model bytes maximumBytes opened).2 :=
    restoreKvSnapshot_sound limit h
  rw [hrun] at hsound
  rcases hrestore : Kv.PagedKvCache.restoreUniformSnapshot sha alloc model.modelFingerprint
    bytes maximumBytes
    opened.cache with ⟨r, cache⟩
  cases r with
  | error e =>
      unfold restoreKvSnapshot at hrun
      rw [Command.bind_of_error (Command.zoom_run (Command.mapError_of_error hrestore))] at hrun
      cases hrun
  | ok u =>
      obtain ⟨hzero, hle, hbytes, hr⟩ :=
        Kv.PagedKvCache.restoredCache_ok limit
          (Kv.PagedKvCache.restoreSnapshotInternal_ok.mp hrestore)
      have huniform := hr.uniform rfl
      rw [← hr.config_eq] at huniform
      obtain ⟨cache', hrun', hwf', hconfig', hview⟩ :=
        restoreKvSnapshot_run (ε := ε) hrestore hr.wellFormed huniform
      rw [hrun'] at hrun
      cases hrun
      refine ⟨hsound, cleared_shape _ _, ?_⟩
      intro hslice
      apply (exportKvSnapshot_eq_ok hsound).mpr
      exact hr.exportSnapshot ⟨hr.wellFormed, hwf', hconfig', hview⟩ hzero hle hslice hbytes

end Rows

end LightBridge.Hy3
