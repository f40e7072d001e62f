import LightBridge.Hy3.SourceOpening
import LightBridge.Runtime.SessionRoundTrip
import LightBridge.Runtime.StreamedText

/-! A chat does not depend on where its experts are stored: it says over a prepared sidecar what it
says over the shards. -/
namespace LightBridge.Hy3
open Foundation Prepare

/-! ### Sources that agree -/

/-- The two sources find the same parts, or both fail, whatever the key. -/
def ExpertSource.Agree (source source' : ExpertSource) : Prop :=
  ∀ key, (source'.readParts key).toOption = (source.readParts key).toOption

/-- What the loader of `load_route` reads for an expert, and nothing where there is none. -/
def Hy3ScalarModel.payload (model : Hy3ScalarModel) (source : ExpertSource) (key : ExpertKey) :
    List UInt8 :=
  match model.layers[key.layer]?.map LayerWeights.feedForward with
  | some (.moe moe) =>
      ((source.readTight (fun _ => true) key moe.expertLayout).toOption).getD []
  | _ => []

theorem ExpertSource.Agree.readTight_toOption {source source' : ExpertSource}
    (h : source.Agree source') (reserved : Nat → Bool) (key : ExpertKey)
    (layout : ExpertPayloadLayout) :
    (source'.readTight reserved key layout).toOption =
      (source.readTight reserved key layout).toOption := by
  unfold ExpertSource.readTight
  simp only [toOption_bind, h key]

theorem Hy3ScalarModel.payload_congr (model : Hy3ScalarModel) {source source' : ExpertSource}
    (h : source.Agree source') : model.payload source' = model.payload source := by
  funext key
  unfold Hy3ScalarModel.payload
  split
  · rw [h.readTight_toOption]
  · rfl

end LightBridge.Hy3

namespace LightBridge.Runtime
open Foundation Tokenizer ExpertCache Hy3 Format Prepare Kernels
variable {ε R W V υ : Type}

/-- The same request on two hosts without faults, which load the experts from two sources. -/
structure OverSources (model : Hy3ScalarModel) (source source' : ExpertSource)
    (call call' : CallEnvironment (World ε) × ChatRequest V) : Prop where
  request : call'.2 = call.2
  alloc : call'.1.alloc = call.1.alloc
  cancelled : call'.1.cancelled = call.1.cancelled
  healthy : ∀ n, (call.1.world n).evaluation.Healthy model (model.payload source)
  healthy' : ∀ n, (call'.1.world n).evaluation.Healthy model (model.payload source')

/-- No later call tells a session from itself. -/
theorem Whole.matched {N : Numerics} {sha : Sha256} {model : Hy3ScalarModel}
    {capacity : model.contextCapacity ≤ usizeMax} {session : GenerationSession Hy3ScalarSession}
    (whole : Whole ε N sha model capacity session) : Similar (Matched model) session session := by
  have hsound := whole.intact.toSound
  exact ⟨⟨hsound, ⟨.refl hsound.wellFormed, rfl, rfl, hsound.idle, hsound.idle⟩, rfl⟩, rfl, rfl,
    rfl⟩

/-- Sources that agree let a session answer alike, whatever it is asked. -/
theorem completions_over_sources {N : Numerics} {sha : Sha256} {model : Hy3ScalarModel}
    (capacity : model.contextCapacity ≤ usizeMax) {session : GenerationSession Hy3ScalarSession}
    (whole : Whole ε N sha model capacity session) (host : SamplerHost R W)
    (tokenizer : Hy3Tokenizer V) (eos_lt : tokenizer.eos < model.config.vocabularySize)
    {source source' : ExpertSource} (agree : source.Agree source') (emit : TextCallback υ)
    (caller : υ) {calls calls' : Hy3ChatEngine.Calls (World ε) V}
    (hcalls : List.Forall₂ (OverSources model source source') calls calls') :
    let engine : Hy3ChatEngine (World ε) Hy3ScalarSession (Hy3ScalarError ε) R W V :=
      ⟨model.causal N sha capacity, host, tokenizer, eos_lt⟩
    (Hy3ChatEngine.completions engine emit calls' (session, caller)).1 =
        (Hy3ChatEngine.completions engine emit calls (session, caller)).1 ∧
      (Hy3ChatEngine.completions engine emit calls' (session, caller)).2.2 =
        (Hy3ChatEngine.completions engine emit calls (session, caller)).2.2 := by
  intro engine
  have hsame : List.Forall₂ (Hy3ChatEngine.SameCall fun world =>
      world.evaluation.Healthy model (model.payload source)) calls calls' := by
    refine hcalls.imp fun call call' h => ?_
    refine ⟨h.request, h.alloc, h.cancelled, h.healthy, fun n => ?_⟩
    rw [← model.payload_congr agree]
    exact h.healthy' n
  have hlock := Hy3ScalarModel.lockstep (ε := ε) N sha (model.payload source) capacity
  obtain ⟨hanswers, -, hcaller⟩ :=
    Hy3ChatEngine.completions_paired engine hlock emit hsame caller whole.matched
  exact ⟨hanswers, hcaller⟩

/-- A chat over a sidecar that `prepare_sidecar` has reported is the chat over the shards. The
runtime takes the sidecar, whichever checks are asked for, and from every session the same requests
get the same answers and the same streamed texts, on hosts without faults that keep what experts
they like. -/
theorem chat_over_sidecar {system : PrepareSystem} {set : GgufSet} {validated : ValidatedModel}
    {dataPath manifestPath : Path} {options : PrepareOptions} {nonce : Nat}
    (hnonce : system.nonce = some nonce) (names : Names dataPath manifestPath nonce)
    {before after : Files (List UInt8)}
    (fresh : before.files names.backupData = none ∧ before.files names.backupManifest = none)
    {report : PrepareReport}
    (h : prepareSidecar system set validated dataPath manifestPath options before =
      (.ok report, after))
    (json : system.json.RoundTrips) (size : report.sidecarBytes ≤ isizeMax)
    {opening : SourceOpening} (calm : opening.Calm set dataPath manifestPath)
    (sameJson : opening.json = system.json) (sameSha : opening.sha256 = system.sha256)
    (N : Numerics) (sha : Sha256) (model : Hy3ScalarModel)
    (capacity : model.contextCapacity ≤ usizeMax) {T : Type}
    {session : GenerationSession Hy3ScalarSession}
    (reachable : GenerationSession.Reachable T sha (model.causal (ε := ε) N sha capacity) session)
    (host : SamplerHost R W) (tokenizer : Hy3Tokenizer V)
    (eos_lt : tokenizer.eos < model.config.vocabularySize) (emit : TextCallback υ) (caller : υ) :
    ∃ shards sidecar, ExpertSource.open opening after.files set validated .direct = .ok shards ∧
      (∀ verifyDataHash verifyBindings, ExpertSource.open opening after.files set validated
        (.sidecar dataPath manifestPath verifyDataHash verifyBindings) = .ok sidecar) ∧
      ∀ calls calls' : Hy3ChatEngine.Calls (World ε) V,
        List.Forall₂ (OverSources model shards sidecar) calls calls' →
        (Hy3ChatEngine.completions ⟨model.causal N sha capacity, host, tokenizer, eos_lt⟩ emit
          calls' (session, caller)).1 =
          (Hy3ChatEngine.completions ⟨model.causal N sha capacity, host, tokenizer, eos_lt⟩ emit
            calls (session, caller)).1 ∧
        (Hy3ChatEngine.completions ⟨model.causal N sha capacity, host, tokenizer, eos_lt⟩ emit
          calls' (session, caller)).2.2 =
          (Hy3ChatEngine.completions ⟨model.causal N sha capacity, host, tokenizer, eos_lt⟩ emit
            calls (session, caller)).2.2 := by
  obtain ⟨direct, sidecar, hshards, hopen, hcopies⟩ :=
    ExpertSource.open_prepared hnonce names fresh h json size calm sameJson sameSha
  refine ⟨.direct direct, .sidecar sidecar, hshards, hopen, fun calls calls' hcalls => ?_⟩
  refine completions_over_sources capacity (reachable_whole reachable) host tokenizer eos_lt
    (fun key => ?_) emit caller hcalls
  by_cases hkey : key ∈ expertKeys validated.config.blockCount validated.config.expertCount
  · obtain ⟨parts, hdirect, hsidecar⟩ := hcopies.found key hkey
    rw [hdirect, hsidecar]
  · obtain ⟨hdirect, hsidecar⟩ := hcopies.missing key hkey
    rw [hdirect, hsidecar]
    rfl

/-! ### A chat over two experts -/

/-- A slab of two experts, in a file of 2624 bytes. -/
def wideLocation (tensor : TensorDesc)
    (inside : tensor.relativeOffset + tensor.payloadBytes ≤ 2624) : TensorLocation where
  shardIndex := 0
  descriptor := tensor
  start := tensor.relativeOffset
  stop := tensor.relativeOffset + tensor.payloadBytes
  located := ⟨0, 2624, (tensor.checkedAbsoluteRange_eq_ok (by decide)).mpr
    (by rw [Nat.zero_add]; exact ⟨inside, rfl⟩)⟩

/-- The configuration of `smallHy3`, as a file resolves to it. -/
def wideConfig : Hy3ModelConfig :=
  { configOf 2 with
    contextLength := 4, embeddingLength := 256, valueLength := 1, vocabularySize := 1 }

/-- The slabs of the experts of `smallHy3`. -/
def wideExpertsSchema : List TensorSpec :=
  [⟨"blk.1.ffn_gate_exps.weight", .routedGate 1, [256, 1, 2], .q4K⟩,
    ⟨"blk.1.ffn_up_exps.weight", .routedUp 1, [256, 1, 2], .q4K⟩,
    ⟨"blk.1.ffn_down_exps.weight", .routedDown 1, [1, 256, 2], .f32⟩]

def wideExpertsSet : GgufSet where
  files := [⟨"model.gguf", .little, .ok wideConfig, selectedMetadataKeys,
    (List.range 2624).map fun n => UInt8.ofNat (n % 64)⟩]
  tensors :=
    [wideLocation ⟨"blk.1.ffn_gate_exps.weight", [256, 1, 2], .q4K, 0, [144, 144, 144], rfl⟩
        (by decide),
      wideLocation ⟨"blk.1.ffn_up_exps.weight", [256, 1, 2], .q4K, 288, [144, 144, 144], rfl⟩
        (by decide),
      wideLocation ⟨"blk.1.ffn_down_exps.weight", [1, 256, 2], .f32, 576, [4, 4, 1024], rfl⟩
        (by decide)]
  distinct := by decide

def validatedWide : Except Hy3Error ValidatedModel :=
  validateModelWithProfile comparingNumerics.toArithmetic (fun _ => true) wideExpertsSet
    ⟨wideConfig, .explicit wideExpertsSchema ⟨fun _ => true, by decide +kernel⟩⟩

def manifestWide : SidecarManifest :=
  ((validatedWide.toOption.bind fun model =>
    (draftSidecar quietPrepareHost wideExpertsSet model ⟨"", some "experts.bin"⟩
      ⟨"", some "experts.json"⟩ (fusedTo 32)).toOption).map Prepared.manifest).getD tinyManifest

/-- The experts of `smallHy3` are prepared and verified. -/
def prepareWide (model : ValidatedModel) :
    Command (Files (List UInt8)) PrepareFailure PrepareReport :=
  prepareSidecar (systemOf manifestWide) wideExpertsSet model ⟨"", some "experts.bin"⟩
    ⟨"", some "experts.json"⟩ { fusedTo 32 with verifyAfterWrite := true }

/-- The source of the experts, once they are prepared. -/
def openWide (model : ValidatedModel) (options : ExpertSourceOptions) :
    Except SourceError ExpertSource :=
  ExpertSource.open (openingOf manifestWide) (prepareWide model emptyDisk).2.files wideExpertsSet
    model options

def sidecarWide : ExpertSourceOptions :=
  .sidecar ⟨"", some "experts.bin"⟩ ⟨"", some "experts.json"⟩ true true

/-- Memory is granted, and experts are loaded from the source. -/
def lendingCall (source : ExpertKey → List UInt8) : CallEnvironment (World Unit) where
  alloc _ := true
  world _ := { grantedWorld with evaluation := lendingHost source }
  cancelled _ := false

/-- A session of `smallHy3`, as it is opened. -/
def smallSession :
    Except (GenerationError (Hy3ScalarError Unit)) (GenerationSession Hy3ScalarSession) :=
  Generator.newSession GenerationSession.smallCausal.toCausalModel (fun _ => true) grantedWorld

/-- A tokenizer of one token, which is the end of sequence. -/
def lastTokenizer : Hy3Tokenizer Text := { Hy3ChatEngine.speakingTokenizer false with eos := 0 }

/-- What a session of `smallHy3` says to one request. -/
def answersTo (session : GenerationSession Hy3ScalarSession) (call : CallEnvironment (World Unit)) :
    List (Except (ChatEngineError (Hy3ScalarError Unit) TokenizerError) (ChatCompletion Text)) :=
  (Hy3ChatEngine.completions
    ⟨GenerationSession.smallCausal, GenerationSession.greedyHost, lastTokenizer, Nat.zero_lt_one⟩
    Hy3ChatEngine.steadyCallback [(call, Hy3ChatEngine.speakingRequest)] (session, ())).1

/-- The lengths of the payloads of the two experts. -/
def payloadSizes (source : ExpertSource) : List Nat :=
  [(smallHy3.payload source ⟨1, 0⟩).length, (smallHy3.payload source ⟨1, 1⟩).length]

/-- The preparation, the two sources and a chat over the shards answer. -/
theorem wide_answers :
    (validatedWide.toOption.bind fun model => (prepareWide model emptyDisk).1.toOption.bind
      fun report => (openWide model .direct).toOption.bind fun shards =>
      (openWide model sidecarWide).toOption.bind fun sidecar =>
      smallSession.toOption.map fun session =>
        (report.sidecarBytes, payloadSizes shards, payloadSizes sidecar,
          (answersTo session (lendingCall (smallHy3.payload shards))).map fun answer =>
            answer.toOption.isSome)) = some (2688, [1312, 1312], [1312, 1312], [true]) := by
  unfold answersTo GenerationSession.smallCausal Hy3ScalarModel.causal
  delta Hy3ScalarModel.evaluate
  -- the sorts behind a routing do not compute
  simp only [Hy3ScalarModel.evaluateInner, smallHy3_layers, Hy3ScalarModel.evaluateLayers,
    Hy3ScalarModel.evaluateLayer, Hy3ScalarModel.evaluateMoe, hy3MoeRouteToken, routeToken,
    routeExperts_unordered zeroNumerics_unordered]
  decide +kernel

theorem lendingCall_healthy {source : ExpertSource} (h : payloadSizes source = [1312, 1312])
    (n : Nat) : ((lendingCall (smallHy3.payload source)).world n).evaluation.Healthy smallHy3
      (smallHy3.payload source) := by
  obtain ⟨hfirst, hsecond⟩ := List.cons_eq_cons.mp h
  refine smallHy3_healthy fun expert hexpert => ?_
  rcases expert with _ | _ | expert
  · exact hfirst
  · exact List.singleton_inj.mp hsecond
  · omega

/-- Two experts are prepared, and the sidecar feeds the chat that the shards have fed. -/
theorem chat_over_sidecar_single : ∃ model report after shards sidecar session completion,
    validatedWide = .ok model ∧ prepareWide model emptyDisk = (.ok report, after) ∧
    openWide model .direct = .ok shards ∧ openWide model sidecarWide = .ok sidecar ∧
    smallSession = .ok session ∧
    answersTo session (lendingCall (smallHy3.payload shards)) = [.ok completion] ∧
    answersTo session (lendingCall (smallHy3.payload sidecar)) = [.ok completion] := by
  have hrun := wide_answers
  simp only [Option.bind_eq_some_iff, Option.map_eq_some_iff, toOption_eq_some] at hrun
  obtain ⟨model, hmodel, report, hreport, shards, hshards, sidecar, hsidecar, session, hopened,
    hanswers⟩ := hrun
  obtain ⟨hsize, hanswers⟩ := Prod.mk.inj hanswers
  obtain ⟨hshardSizes, hanswers⟩ := Prod.mk.inj hanswers
  obtain ⟨hsidecarSizes, hanswers⟩ := Prod.mk.inj hanswers
  obtain ⟨answer, hanswer, hcompleted⟩ := List.map_eq_singleton_iff.mp hanswers
  obtain ⟨completion, hcompletion⟩ := Option.isSome_iff_exists.mp hcompleted
  cases toOption_eq_some.mp hcompletion
  have hprepared : prepareWide model emptyDisk =
      (.ok report, (prepareWide model emptyDisk).2) := Prod.ext hreport rfl
  obtain ⟨shards', sidecar', hdirect, hopen, hsame⟩ := chat_over_sidecar rfl namesTwo ⟨rfl, rfl⟩
    hprepared (jsonOf_roundTrips manifestWide) (by rw [hsize]; decide) (openingOf_calm _ _ _ _)
    rfl rfl Kernels.zeroNumerics zeroSha smallHy3 (by decide) (T := Unit) (.opened _ _ hopened)
    GenerationSession.greedyHost lastTokenizer Nat.zero_lt_one Hy3ChatEngine.steadyCallback ()
  cases hdirect.symm.trans hshards
  cases (hopen true true).symm.trans hsidecar
  have hcalls : List.Forall₂ (OverSources smallHy3 shards sidecar)
      [(lendingCall (smallHy3.payload shards), Hy3ChatEngine.speakingRequest)]
      [(lendingCall (smallHy3.payload sidecar), Hy3ChatEngine.speakingRequest)] :=
    .cons ⟨rfl, rfl, rfl, lendingCall_healthy hshardSizes, lendingCall_healthy hsidecarSizes⟩ .nil
  exact ⟨model, report, _, shards, sidecar, session, completion, hmodel, hprepared, hshards,
    hsidecar, hopened, hanswer, (hsame _ _ hcalls).1.trans hanswer⟩

end LightBridge.Runtime
