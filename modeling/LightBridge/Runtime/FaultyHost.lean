import LightBridge.Runtime.Faults
import LightBridge.Runtime.Storage

/-! Chats on a host with faults: memory may be refused, loads may fail, and other sessions may use
the expert cache. What such a host says before it fails is what a healthy host says. -/
namespace LightBridge.Runtime
open Foundation Tokenizer ExpertCache Hy3 Kernels
variable {ε R W V υ : Type}

/-- Texts are only added to those that a callback has kept. -/
theorem recording_extends (emit : TextCallback υ) :
    Extends (fun state state' : υ × List Text => state.2 <+: state'.2)
      (Hy3ChatEngine.recording emit) where
  refl _ := List.prefix_rfl
  step text _ _ h := h.trans (List.prefix_append _ [text])

/-- A program that asks one request after the other and gives up at the first failure gets from a
host with faults what it gets from a healthy one: the same completions and texts, or a failure
behind a part of them. -/
theorem chat_despite_faults (N : Numerics) (sha : Sha256) (model : Hy3ScalarModel)
    (capacity : model.contextCapacity ≤ usizeMax) {T : Type}
    {session : GenerationSession Hy3ScalarSession}
    (reachable : GenerationSession.Reachable T sha (model.causal (ε := ε) N sha capacity) session)
    (host : SamplerHost R W) (tokenizer : Hy3Tokenizer V)
    (eos_lt : tokenizer.eos < model.config.vocabularySize) (source : ExpertKey → List UInt8)
    {calls calls' : Hy3ChatEngine.Calls (World ε) V}
    (hcalls : List.Forall₂ (Hy3ChatEngine.RougherCall
      (fun world => world.evaluation.Shared model source)
      (fun world => world.evaluation.Healthy model source)) calls calls')
    (emit : TextCallback υ) (caller : υ) :
    let engine : Hy3ChatEngine (World ε) Hy3ScalarSession (Hy3ScalarError ε) R W V :=
      ⟨model.causal N sha capacity, host, tokenizer, eos_lt⟩
    let faulty := Hy3ChatEngine.untilFailure engine (Hy3ChatEngine.recording emit) calls
      (session, caller, [])
    let healthy := Hy3ChatEngine.untilFailure engine (Hy3ChatEngine.recording emit) calls'
      (session, caller, [])
    faulty = healthy ∨
      faulty.2.1.isSome ∧ faulty.1 <+: healthy.1 ∧ faulty.2.2.2 <+: healthy.2.2.2 :=
  Hy3ChatEngine.untilFailure_falters (Hy3ScalarModel.faltering N sha source capacity)
    (recording_extends emit) hcalls (caller, []) (reachable_whole reachable).matched

/-! ### Two requests -/

/-- A host that refuses all memory. -/
def refusingCall : CallEnvironment (World Unit) :=
  { lendingCall zeroExperts with alloc := fun _ => false }

/-- A host whose loads fail. -/
def failingCall : CallEnvironment (World Unit) :=
  { lendingCall zeroExperts with
    world := fun _ =>
      { grantedWorld with
        evaluation :=
          { lendingHost (ε := Unit) zeroExperts with
            acquire := fun _ _ => .error (.loader ()) } } }

theorem lendingCall_zeroExperts (n : Nat) :
    ((lendingCall zeroExperts).world n).evaluation.Healthy smallHy3 zeroExperts :=
  smallHy3_healthy fun _ _ => List.length_replicate

/-- The host of two faults, beside the healthy one. -/
theorem faulty_rougher : ∀ env ∈ [refusingCall, failingCall],
    Rougher (fun world => world.evaluation.Shared smallHy3 zeroExperts)
      (fun world => world.evaluation.Healthy smallHy3 zeroExperts) env
      (lendingCall zeroExperts) := by
  intro env hmem
  rcases List.mem_pair.mp hmem with rfl | rfl
  · exact ⟨fun n => (lendingCall_zeroExperts n).shared, lendingCall_zeroExperts, rfl, rfl⟩
  · refine ⟨fun n => ?_, lendingCall_zeroExperts, rfl, rfl⟩
    intro index layer moe size routes leases _ _ _ _ hacquired
    cases hacquired

/-- What a program gets that asks a session of `smallHy3` twice. -/
def askedTwice (session : GenerationSession Hy3ScalarSession)
    (second : CallEnvironment (World Unit)) :
    List (ChatCompletion Text) × Option (ChatEngineError (Hy3ScalarError Unit) TokenizerError) ×
      Unit × List Text :=
  Hy3ChatEngine.untilFailure
    ⟨GenerationSession.smallCausal, GenerationSession.greedyHost, lastTokenizer, Nat.zero_lt_one⟩
    (Hy3ChatEngine.recording Hy3ChatEngine.steadyCallback)
    [(lendingCall zeroExperts, Hy3ChatEngine.speakingRequest),
      (second, Hy3ChatEngine.speakingRequest)] (session, (), [])

/-- The request whose experts cannot be loaded fails behind the one that is answered. -/
theorem failingCall_fails :
    (smallSession.map fun session => ((askedTwice session failingCall).1.length,
      (askedTwice session failingCall).2.1.isSome)) = .ok (1, true) := by
  unfold askedTwice GenerationSession.smallCausal Hy3ScalarModel.causal
  delta Hy3ScalarModel.evaluate
  -- the sorts behind a routing do not compute
  simp only [Hy3ScalarModel.evaluateInner, smallHy3_layers, Hy3ScalarModel.evaluateLayers,
    Hy3ScalarModel.evaluateLayer, Hy3ScalarModel.evaluateMoe, hy3MoeRouteToken, routeToken,
    routeExperts_unordered zeroNumerics_unordered]
  decide +kernel

/-- Memory is refused to the second request, or its experts cannot be loaded. -/
theorem chat_despite_faults_twice : ∃ session, smallSession = .ok session ∧
    (askedTwice session failingCall).1.length = 1 ∧
    (askedTwice session failingCall).2.1.isSome ∧
    ∀ second ∈ [refusingCall, failingCall],
      askedTwice session second = askedTwice session (lendingCall zeroExperts) ∨
        (askedTwice session second).2.1.isSome ∧
        (askedTwice session second).1 <+: (askedTwice session (lendingCall zeroExperts)).1 ∧
        (askedTwice session second).2.2.2 <+:
          (askedTwice session (lendingCall zeroExperts)).2.2.2 := by
  obtain ⟨session, hopened, hfailed⟩ := except_map_ok_iff.mp failingCall_fails
  obtain ⟨hanswered, hfailed⟩ := Prod.mk.inj hfailed
  refine ⟨session, hopened, hanswered, hfailed, fun second hsecond => ?_⟩
  have hcalls : List.Forall₂ (Hy3ChatEngine.RougherCall
      (fun world => world.evaluation.Shared smallHy3 zeroExperts)
      (fun world => world.evaluation.Healthy smallHy3 zeroExperts))
      [(lendingCall zeroExperts, Hy3ChatEngine.speakingRequest),
        (second, Hy3ChatEngine.speakingRequest)]
      [(lendingCall zeroExperts, Hy3ChatEngine.speakingRequest),
        (lendingCall zeroExperts, Hy3ChatEngine.speakingRequest)] :=
    .cons ⟨rfl, fun n => (lendingCall_zeroExperts n).shared, lendingCall_zeroExperts, rfl, rfl⟩
      (.cons ⟨rfl, faulty_rougher second hsecond⟩ .nil)
  exact chat_despite_faults Kernels.zeroNumerics zeroSha smallHy3 (by decide) (T := Unit)
    (.opened _ _ hopened) GenerationSession.greedyHost lastTokenizer Nat.zero_lt_one zeroExperts
    hcalls Hy3ChatEngine.steadyCallback ()

end LightBridge.Runtime
