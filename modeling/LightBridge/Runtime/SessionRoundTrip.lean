import LightBridge.Runtime.Completions
import LightBridge.Runtime.Invariant

/-! Chat sessions of the scalar model and their stored form: what was exported is restored
with every token, logit and row, and what was accepted is exported as the same bytes. -/
namespace LightBridge.Runtime
open Foundation Command Tokenizer Hy3

variable {ε T : Type} {N : Kernels.Numerics} {sha : Sha256} {model : Hy3ScalarModel}
  {capacity : model.contextCapacity ≤ usizeMax}

/-! ### Every session a program can hold -/

/-- What holds of a session over the scalar model between two calls. -/
structure Whole (ε : Type) (N : Kernels.Numerics) (sha : Sha256) (model : Hy3ScalarModel)
    (capacity : model.contextCapacity ≤ usizeMax) (session : GenerationSession Hy3ScalarSession) :
    Prop where
  sane : session.Sane (model.causal (ε := ε) N sha capacity).toCausalModel
  intact : Intact ε model session.model

theorem whole_preserved : Generator.Preserved (model.causal (ε := ε) N sha capacity).toCausalModel
      (fun _ => True)
    (Whole ε N sha model capacity) (Whole ε N sha model capacity) where
  position _ h := h.sane.position
  failed _ h := h
  evaluated world tokenId session _ h room known := by
    have hsane :=
      Generator.evaluate_sane (Hy3ScalarModel.counts N sha model capacity) world h.sane room known
    have hintact : Ends (fun _ state => Intact ε model state.1)
        (fun _ state => Intact ε model state.1)
        ((model.causal N sha capacity).evaluateToken world tokenId
          (session.model, session.logits)) :=
      evaluate_intact N world.evaluation tokenId session.logits h.intact
    unfold Generator.evaluate at hsane ⊢
    rcases hrun : (model.causal N sha capacity).evaluateToken world tokenId
      (session.model, session.logits)
      with ⟨r, state, logits⟩
    rw [hrun] at hintact hsane
    cases hintact with
    | answered _ _ hstate =>
        obtain ⟨hsane, hhistory⟩ := hsane.of_ok rfl
        exact .answered () _ ⟨⟨hsane, hstate⟩, hhistory⟩
    | failed error _ hstate => exact .failed _ _ ⟨hsane.of_error rfl, hstate⟩

/-- What a restored session is made of. -/
theorem restoreSession_ok {env : SnapshotEnvironment (World ε)} {bytes : List UInt8}
    {maximumBytes : Nat} {session : GenerationSession Hy3ScalarSession}
    (h : Hy3ChatEngine.restoreSession (T := T) sha env
      (model.causal N sha capacity) bytes maximumBytes = .ok session) :
    ∃ record opened, Hy3ChatEngine.decodeRecord (T := T) sha env.alloc
      (model.causal (ε := ε) N sha capacity) bytes maximumBytes = .ok record ∧
      Hy3ScalarModel.newSession (ε := ε) env.world.opening model = .ok opened ∧
      Hy3ScalarModel.restoreKvSnapshot (ε := ε) sha env.world.rows model record.kv maximumBytes
        opened = (.ok (), session.model) ∧
      session =
        { model := session.model, history := record.history, logits := record.logits
          hasLogits := record.hasLogits, healthy := true } := by
  unfold Hy3ChatEngine.restoreSession at h
  obtain ⟨record, hrecord, h⟩ := except_bind_ok_iff.mp h
  obtain ⟨first, hfirst, h⟩ := except_bind_ok_iff.mp h
  obtain ⟨state, hstate, h⟩ := except_bind_ok_iff.mp h
  obtain ⟨_, -, h⟩ := except_bind_ok_iff.mp h
  cases h
  have hfirst := wrap_eq_ok.mp hfirst
  unfold Generator.newSession at hfirst
  obtain ⟨opened, hopened, hfirst⟩ := except_bind_ok_iff.mp hfirst
  obtain ⟨_, -, hfirst⟩ := except_bind_ok_iff.mp hfirst
  cases hfirst
  obtain ⟨_, hrun⟩ := Command.exec_eq_ok.mp (wrap_eq_ok.mp hstate)
  exact ⟨record, opened, hrecord, wrap_eq_ok.mp hopened, hrun, rfl⟩

theorem reachable_whole {session : GenerationSession Hy3ScalarSession}
    (reachable : GenerationSession.Reachable T sha (model.causal (ε := ε) N sha capacity) session) :
    Whole ε N sha model capacity session := by
  induction reachable with
  | opened alloc env h =>
      refine ⟨Generator.newSession_sane (Hy3ScalarModel.counts N sha model capacity) h, ?_⟩
      unfold Generator.newSession at h
      obtain ⟨state, hopened, h⟩ := except_bind_ok_iff.mp h
      obtain ⟨_, -, h⟩ := except_bind_ok_iff.mp h
      cases h
      exact newSession_intact (wrap_eq_ok.mp hopened)
  | streamed h host env config promptTokens emit caller ih =>
      exact (whole_preserved.generateStream host env (fun _ => trivial) config promptTokens emit
        (_, caller) ih).last
  | reset h ih =>
      exact ⟨Generator.reset_sane (Hy3ScalarModel.counts N sha model capacity) _,
        resetSession_intact ih.intact⟩
  | restored env bytes maximumBytes limit h =>
      refine ⟨Hy3ChatEngine.restoreSession_sane limit h, ?_⟩
      obtain ⟨record, opened, -, hopened, hrun, -⟩ := restoreSession_ok h
      have hintact := newSession_intact hopened
      obtain ⟨hsound, hshape, -⟩ := restoreKvSnapshot_accepted hintact.toSound limit hrun
      exact hintact.of_shape hsound hshape

/-! ### Export and restore -/

/-- A session opens with the buffers that another of its model has, unless memory is refused. -/
theorem newSession_opens (N : Kernels.Numerics) (sha : Sha256)
    (capacity : model.contextCapacity ≤ usizeMax) {session : Hy3ScalarSession}
    (h : Intact ε model session) (fits : 4 * model.config.vocabularySize ≤ isizeMax)
    (alloc : GenerationSite → Bool) (world : World ε) :
    (∃ first, Sound model first ∧ first.shape = session.shape ∧
      Generator.newSession (model.causal (ε := ε) N sha capacity).toCausalModel alloc world =
        .ok ⟨first, [], List.replicate model.config.vocabularySize .zero, false, true⟩) ∨
    ∃ error, Generator.newSession (model.causal (ε := ε) N sha capacity).toCausalModel alloc world =
      .error error ∧
      (error = .allocationFailed ∨ ∃ inner, error = .model inner ∧ OutOfMemory inner) ∧
      ¬ (alloc = (fun _ => true) ∧ world.opening = .granting) := by
  obtain ⟨granting, first, hopened, hshape⟩ := h.opened
  unfold Generator.newSession
  rcases newSession_regranted granting world.opening first hopened with hfirst
    | ⟨inner, hfirst, hinner⟩
  · have hmodel : (model.causal (ε := ε) N sha capacity).newSession world = .ok first := hfirst
    rw [hmodel, wrap, except_ok_bind]
    by_cases hreserve : tryReserve (alloc .sessionLogits) 4
      (model.causal (ε := ε) N sha capacity).vocabularySize = true
    · rw [ensure, if_pos hreserve, except_ok_bind]
      exact Or.inl ⟨first, newSession_sound hfirst, hshape.symm, rfl⟩
    · rw [ensure, if_neg hreserve, except_error_bind]
      refine Or.inr ⟨_, rfl, Or.inl rfl, ?_⟩
      rintro ⟨rfl, -⟩
      exact hreserve (tryReserve_eq_true.mpr ⟨rfl, fits⟩)
  · have hmodel : (model.causal (ε := ε) N sha capacity).newSession world = .error inner := hfirst
    rw [hmodel, wrap, except_error_bind]
    refine Or.inr ⟨_, rfl, Or.inr ⟨inner, rfl, hinner⟩, ?_⟩
    rintro ⟨-, hgranting⟩
    rw [hgranting, newSession_granted granting first hopened] at hfirst
    cases hfirst

/-- A session is opened as on a host that grants all memory, or not at all. -/
theorem newSession_answersAs (alloc : GenerationSite → Bool) {opening opening' : World ε}
    (granting : opening'.opening = .granting) :
    AnswersAs (Generator.newSession (model.causal N sha capacity).toCausalModel alloc opening)
      (Generator.newSession (model.causal N sha capacity).toCausalModel (fun _ => true)
        opening') := by
  have hopened : AnswersAs (Hy3ScalarModel.newSession (ε := ε) opening.opening model)
      (Hy3ScalarModel.newSession opening'.opening model) := by
    rw [granting]
    exact newSession_granted opening.opening
  unfold Generator.newSession
  refine .bind (wrap_answersAs hopened) fun session _ => .bind ?_ fun _ _ => .refl _
  exact fun _ h => ensure_eq_ok.mpr (tryReserve_mono (ensure_eq_ok.mp h))

/-- The errors of `restore_session` that tell of refused memory. -/
inductive RestoreRefused : ChatEngineError (Hy3ScalarError ε) T → Prop where
  | record (requested : Nat) : RestoreRefused (.sessionAllocationFailed requested)
  | logits : RestoreRefused (.generation .allocationFailed)
  | opening {error : Hy3ScalarError ε} (h : OutOfMemory error) :
      RestoreRefused (.generation (.model error))
  | rows {error : Hy3ScalarError ε} (h : OutOfMemory error) : RestoreRefused (.model error)

/-- Every request that a restored session makes for memory is granted. -/
structure SnapshotEnvironment.Granting (env : SnapshotEnvironment (World ε)) : Prop where
  record : env.alloc = fun _ => true
  session : env.session = fun _ => true
  opening : env.world.opening = .granting
  rows : env.world.rows = fun _ => true

/-- The session is back, or memory was refused. -/
inductive Restores (model : Hy3ScalarModel) (env : SnapshotEnvironment (World ε))
    (session : GenerationSession Hy3ScalarSession) :
    Except (ChatEngineError (Hy3ScalarError ε) T) (GenerationSession Hy3ScalarSession) → Prop where
  | restored (last : GenerationSession Hy3ScalarSession)
      (similar : Similar (Matched model) session last) : Restores model env session (.ok last)
  | refused (error : ChatEngineError (Hy3ScalarError ε) T) (h : RestoreRefused error)
      (scarce : ¬ env.Granting) : Restores model env session (.error error)

/-- An exported session is storable in every field. -/
theorem Whole.storable {session : GenerationSession Hy3ScalarSession}
    (h : Whole ε N sha model capacity session) (vocabulary : model.config.vocabularySize < 2 ^ 32)
    (healthy : session.healthy = true) {kv : List UInt8}
    (count : session.logits.length = model.config.vocabularySize)
    (finite : ∀ value ∈ session.logits, value.isFinite = true) (kv_lt : kv.length < 2 ^ 64) :
    Storable (model.causal (ε := ε) N sha capacity) (.of session kv) where
  history_le := h.sane.bounded
  tokens token hmem := by
    have hknown : token < model.config.vocabularySize := h.sane.tokens token hmem
    exact ⟨hknown.trans vocabulary, hknown⟩
  logits_length := count
  logits_finite := finite
  logits_lt := by
    change session.logits.length < 2 ^ 64
    rw [count]
    omega
  kv_lt := kv_lt
  hasLogits := by
    change session.hasLogits = decide (0 < session.history.length)
    rw [Bool.eq_iff_iff, h.sane.hasLogits healthy, decide_eq_true_eq, List.length_pos_iff]

/-- The record of an exported session is read back, wherever its memory is granted. -/
theorem decodeRecord_exported {session : GenerationSession Hy3ScalarSession}
    (h : Whole ε N sha model capacity session) (vocabulary : model.config.vocabularySize < 2 ^ 32)
    {env : SnapshotEnvironment (World ε)} {maximumBytes : Nat} (limit : maximumBytes ≤ usizeMax)
    {bytes : List UInt8} (hexport : Hy3ChatEngine.exportSession (T := T) sha env
      (model.causal N sha capacity) session maximumBytes = .ok bytes) :
    ∃ kv, (model.causal (ε := ε) N sha capacity).exportKvSnapshot env.world session.model
        maximumBytes = .ok kv ∧
      session.healthy = true ∧ 4 * model.config.vocabularySize ≤ isizeMax ∧
      Hy3ChatEngine.decodeRecord (T := T) sha (fun _ => true)
        (model.causal (ε := ε) N sha capacity) bytes maximumBytes = .ok (.of session kv) := by
  obtain ⟨hzero, hhealthy, -, hcount, hfinite, kv, hkv, rfl, hlimit, htotal, hreserve⟩ :=
    Hy3ChatEngine.exportSession_eq_ok.mp hexport
  have hlength := Hy3ChatEngine.length_encodeSession sha (model.causal (ε := ε) N sha capacity)
      (.of session kv)
  have hreserved := (tryReserve_eq_true.mp hreserve).2
  rw [hlength, Nat.one_mul] at hreserved
  rw [hlength] at htotal
  have hstorable : Storable (model.causal (ε := ε) N sha capacity) (.of session kv) := by
    apply h.storable vocabulary hhealthy hcount hfinite
    change 104 + _ + _ + kv.length ≤ usizeMax at htotal
    unfold usizeMax at htotal
    omega
  have hgranted : Hy3ChatEngine.Granted (fun _ => true) (.of session kv) := by
    refine ⟨tryReserve_eq_true.mpr ⟨rfl, ?_⟩, tryReserve_eq_true.mpr ⟨rfl, ?_⟩⟩ <;> omega
  have hfits : 4 * model.config.vocabularySize ≤ isizeMax := by
    have hlogits : session.logits.length = model.config.vocabularySize := hcount
    rw [← hlogits]
    change 4 * (Hy3ChatEngine.SessionRecord.of session kv).logits.length ≤ isizeMax
    omega
  exact ⟨kv, hkv, hhealthy, hfits, (Hy3ChatEngine.decodeRecord_eq_ok (T := T) limit).mpr
    ⟨hzero, hlimit, ⟨hstorable, hgranted⟩, rfl⟩⟩

/-- What was exported is restored, unless memory is refused. -/
theorem restoreSession_exported {session : GenerationSession Hy3ScalarSession}
    (h : Whole ε N sha model capacity session) (vocabulary : model.config.vocabularySize < 2 ^ 32)
    {env : SnapshotEnvironment (World ε)} (env' : SnapshotEnvironment (World ε))
    {maximumBytes : Nat} (limit : maximumBytes ≤ usizeMax) {bytes : List UInt8}
    (hexport : Hy3ChatEngine.exportSession (T := T) sha env
      (model.causal N sha capacity) session maximumBytes = .ok bytes) :
    Restores (T := T) model env' session
      (Hy3ChatEngine.restoreSession sha env' (model.causal (ε := ε) N sha capacity) bytes
        maximumBytes) := by
  obtain ⟨kv, hkv, hhealthy, hfits, hdecoded⟩ := decodeRecord_exported h vocabulary limit hexport
  unfold Hy3ChatEngine.restoreSession
  rcases Hy3ChatEngine.decodeRecord_regranted sha (fun _ => true) env'.alloc _ _ maximumBytes _
    hdecoded with
    hrecord | ⟨error, hrecord, requested, rfl⟩
  · rw [hrecord, except_ok_bind]
    rcases newSession_opens N sha capacity h.intact hfits env'.session env'.world with
      ⟨first, hsound, hshape, hopened⟩ | ⟨error, hopened, hrefused, hscarce⟩
    · rw [hopened, wrap, except_ok_bind]
      dsimp only
      have hrows :=
        restoreKvSnapshot_exported (ε := ε) h.intact.toSound hsound env'.world.rows limit hkv hshape
      rcases hrun : Hy3ScalarModel.restoreKvSnapshot
        (ε := ε) sha env'.world.rows model kv maximumBytes first with ⟨r, last⟩
      rw [hrun] at hrows
      cases hrows with
      | answered _ _ hresembles =>
          have hexec : ((model.causal (ε := ε) N sha capacity).restoreKvSnapshot env'.world
              (Hy3ChatEngine.SessionRecord.of session kv).kv maximumBytes).exec first = .ok last :=
            Command.exec_eq_ok.mpr ⟨(), hrun⟩
          have hposition : (model.causal (ε := ε) N sha capacity).position last =
              (Hy3ChatEngine.SessionRecord.of session kv).history.length :=
            hresembles.position.trans h.sane.position
          rw [hexec, wrap, except_ok_bind, ensure, if_pos hposition, except_ok_bind]
          exact .restored _ ⟨⟨h.intact.toSound, hresembles, rfl⟩, rfl, rfl, hhealthy.symm⟩
      | failed error _ herror =>
          have hexec : ((model.causal (ε := ε) N sha capacity).restoreKvSnapshot env'.world
              (Hy3ChatEngine.SessionRecord.of session kv).kv maximumBytes).exec first =
                .error error :=
            Command.exec_eq_error.mpr ⟨last, hrun⟩
          rw [hexec]
          refine .refused _ (.rows herror.1) fun hgranting => herror.2 ?_
          rw [hgranting.rows]
          exact h.intact.ample
    · rw [hopened]
      refine .refused _ ?_ fun hgranting => hscarce ⟨hgranting.session, hgranting.opening⟩
      rcases hrefused with rfl | ⟨inner, rfl, hinner⟩
      · exact .logits
      · exact .opening hinner
  · refine hrecord ▸ .refused _ (.record requested) fun hgranting => ?_
    rw [hgranting.record, hdecoded] at hrecord
    cases hrecord

/-- What was accepted is exported again as the same bytes. -/
theorem exportSession_restored {session : GenerationSession Hy3ScalarSession}
    {env env' : SnapshotEnvironment (World ε)} {maximumBytes : Nat}
    (limit : maximumBytes ≤ usizeMax) {bytes : List UInt8} (slice : bytes.length ≤ isizeMax)
    (h : Hy3ChatEngine.restoreSession (T := T) sha env
      (model.causal N sha capacity) bytes maximumBytes = .ok session)
    (output : env'.alloc .output = true) (rows : env'.world.rows = fun _ => true) :
    Hy3ChatEngine.exportSession (T := T) sha env'
      (model.causal N sha capacity) session maximumBytes = .ok bytes := by
  have hsane := Hy3ChatEngine.restoreSession_sane limit h
  obtain ⟨record, opened, hdecoded, hopened, hrun, hsession⟩ := restoreSession_ok h
  obtain ⟨hzero, hlimit, ⟨hstorable, -⟩, hbytes⟩ :=
    (Hy3ChatEngine.decodeRecord_eq_ok limit).mp hdecoded
  obtain ⟨hsound, -, hrows⟩ :=
    restoreKvSnapshot_accepted (newSession_intact hopened).toSound limit hrun
  have hlength :=
    Hy3ChatEngine.length_encodeSession sha (model.causal (ε := ε) N sha capacity) record
  rw [← hbytes] at hlength
  have hkv := hrows (by omega)
  rw [hsession] at hsane ⊢
  refine Hy3ChatEngine.exportSession_eq_ok.mpr
    ⟨hzero, rfl, hsane.position.symm, hstorable.logits_length, hstorable.logits_finite, record.kv,
      ?_, hbytes, hlimit, hlimit.trans limit, ?_⟩
  · change Hy3ScalarModel.exportKvSnapshot (ε := ε) sha env'.world.rows model session.model
      maximumBytes = .ok record.kv
    rw [rows]
    exact hkv
  · apply tryReserve_eq_true.mpr
    rw [Nat.one_mul]
    exact ⟨output, slice⟩

/-- Two sessions a caller reads alike, and talks to alike ever after. -/
structure SameSession (ε : Type) (N : Kernels.Numerics) (sha : Sha256) (model : Hy3ScalarModel)
    (capacity : model.contextCapacity ≤ usizeMax)
    (session restored : GenerationSession Hy3ScalarSession) : Prop where
  history : restored.history = session.history
  hasLogits : restored.hasLogits = session.hasLogits
  logits : restored.logits = session.logits
  contents : SameContents session.model restored.model
  later : ∀ {R W V υ : Type} (host : SamplerHost R W) (tokenizer : Hy3Tokenizer V)
    (eos_lt : tokenizer.eos < model.config.vocabularySize) (source : ExpertKey → List UInt8)
    (emit : TextCallback υ) (caller : υ) (calls calls' : Hy3ChatEngine.Calls (World ε) V),
    List.Forall₂ (Hy3ChatEngine.SameCall fun world => world.evaluation.Healthy model source)
      calls calls' →
      (Hy3ChatEngine.completions ⟨model.causal N sha capacity, host, tokenizer, eos_lt⟩ emit calls'
        (restored, caller)).1 =
        (Hy3ChatEngine.completions ⟨model.causal N sha capacity, host, tokenizer, eos_lt⟩ emit calls
          (session, caller)).1

theorem SameSession.of_similar {session restored : GenerationSession Hy3ScalarSession}
    (h : Similar (Matched model) session restored) :
    SameSession ε N sha model capacity session restored where
  history := h.history
  hasLogits := h.hasLogits
  logits := h.related.2.2
  contents := h.related.2.1.contents
  later host tokenizer eos_lt source emit caller calls calls' hcalls := by
    have hlock := Hy3ScalarModel.lockstep (ε := ε) N sha source capacity
    exact (Hy3ChatEngine.completions_paired
      ⟨model.causal N sha capacity, host, tokenizer, eos_lt⟩ hlock emit
      hcalls caller h).1

/-- The stored form of chat sessions: exported bytes restore the session, wherever the memory for it
is granted, and accepted bytes are exported again. -/
theorem session_round_trip (N : Kernels.Numerics) (sha : Sha256) (model : Hy3ScalarModel)
    (capacity : model.contextCapacity ≤ usizeMax)
    (vocabulary : model.config.vocabularySize < 2 ^ 32) (maximumBytes : Nat)
    (limit : maximumBytes ≤ usizeMax) :
    (∀ session, GenerationSession.Reachable T sha (model.causal (ε := ε) N sha capacity) session →
      ∀ env bytes,
      Hy3ChatEngine.exportSession (T := T) sha env (model.causal (ε := ε) N sha capacity) session
        maximumBytes = .ok bytes →
        ∀ env',
          (∃ restored, Hy3ChatEngine.restoreSession (T := T) sha env'
            (model.causal (ε := ε) N sha capacity) bytes
              maximumBytes = .ok restored ∧ SameSession ε N sha model capacity session restored) ∨
          (¬ env'.Granting ∧ ∃ error, Hy3ChatEngine.restoreSession (T := T) sha env'
            (model.causal (ε := ε) N sha capacity) bytes
              maximumBytes = .error error ∧ RestoreRefused error)) ∧
    ∀ env bytes session, bytes.length ≤ isizeMax →
      Hy3ChatEngine.restoreSession (T := T) sha env (model.causal (ε := ε) N sha capacity) bytes
        maximumBytes = .ok session →
        ∀ env' : SnapshotEnvironment (World ε), env'.alloc .output = true →
        env'.world.rows = (fun _ => true) →
          Hy3ChatEngine.exportSession (T := T) sha env'
            (model.causal N sha capacity) session maximumBytes = .ok bytes := by
  constructor
  · intro session hreachable env bytes hexport env'
    have hrestores :=
      restoreSession_exported (reachable_whole hreachable) vocabulary env' limit hexport
    generalize Hy3ChatEngine.restoreSession (T := T) sha env'
      (model.causal (ε := ε) N sha capacity) bytes maximumBytes =
      outcome at hrestores ⊢
    cases hrestores with
    | restored last similar => exact Or.inl ⟨last, rfl, .of_similar similar⟩
    | refused error h scarce => exact Or.inr ⟨scarce, error, rfl, h⟩
  · intro env bytes session hslice hrestore env' houtput hrows
    exact exportSession_restored limit hslice hrestore houtput hrows

/-- The dense layer of `smallHy3` alone. -/
def denseHy3 : Hy3ScalarModel :=
  { smallHy3 with
    config := { smallHy3.config with blockCount := 1 }
    layers := smallHy3.layers.take 1
    blocks := rfl }

def denseCausal : SnapshotModel (World Unit) Hy3ScalarSession (Hy3ScalarError Unit) :=
  denseHy3.causal Kernels.zeroNumerics zeroSha (by decide)

def grantedWorld : World Unit where
  opening := .granting
  evaluation := ⟨fun _ _ => true, fun _ => true, fun _ => true, fun _ _ => .ok []⟩
  rows := fun _ => true

def grantedSnapshot : SnapshotEnvironment (World Unit) :=
  ⟨fun _ => true, fun _ => true, grantedWorld⟩

/-- The session that a prompt of two tokens and one sampled token leave. -/
def spokenTo (session : GenerationSession Hy3ScalarSession) : GenerationSession Hy3ScalarSession :=
  (Generator.generateStream denseCausal.toCausalModel GenerationSession.greedyHost
    ⟨fun _ => true, fun _ => grantedWorld, fun _ => false⟩
    { SamplingConfig.default with temperature := .zero, maxNewTokens := 1 } [0, 0]
    (fun _ state => (false, state)) (session, ())).2.1

/-- Three evaluated tokens travel through the stored form. -/
theorem session_round_trip_three : ∃ session bytes restored, session.history = [0, 0, 0] ∧
    Hy3ChatEngine.exportSession (T := Unit) zeroSha grantedSnapshot denseCausal session 4096 =
      .ok bytes ∧
    Hy3ChatEngine.restoreSession (T := Unit) zeroSha grantedSnapshot denseCausal bytes 4096 =
      .ok restored ∧
    SameSession Unit Kernels.zeroNumerics zeroSha denseHy3 (by decide) session restored := by
  have hrun : ((Generator.newSession denseCausal.toCausalModel (fun _ => true) grantedWorld).map
      fun session => ((spokenTo session).history,
        (Hy3ChatEngine.exportSession (T := Unit) zeroSha grantedSnapshot denseCausal
          (spokenTo session) 4096).isOk)) = .ok ([0, 0, 0], true) := by decide +kernel
  obtain ⟨session, hopened, hpair⟩ := except_map_ok_iff.mp hrun
  obtain ⟨hhistory, hok⟩ := Prod.mk.inj hpair
  cases hexport : Hy3ChatEngine.exportSession (T := Unit) zeroSha grantedSnapshot denseCausal
    (spokenTo session) 4096 with
  | error error =>
      rw [hexport] at hok
      cases hok
  | ok bytes =>
      have hreachable : GenerationSession.Reachable Unit zeroSha denseCausal (spokenTo session) :=
        .streamed (.opened _ _ hopened) _ _ _ _ _ ()
      rcases (session_round_trip (T := Unit) Kernels.zeroNumerics zeroSha denseHy3 (by decide)
        (by decide) 4096 (by decide)).1 _ hreachable _ _ hexport grantedSnapshot with
        ⟨restored, hrestored, hsame⟩ | ⟨scarce, -⟩
      · exact ⟨spokenTo session, bytes, restored, hhistory, hexport, hrestored, hsame⟩
      · exact absurd ⟨rfl, rfl, rfl, rfl⟩ scarce

end LightBridge.Runtime
