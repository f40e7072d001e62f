import LightBridge.Runtime.FaultyHost
import LightBridge.Server.Streaming

/-! Streams from a host with faults. A client gets what a healthy host sends, or a part of its texts
and one error. -/
namespace LightBridge.Server
open Foundation Command Tokenizer ExpertCache Hy3 Kernels LightBridge.Runtime

/-- Texts are only added to those that were recorded. -/
theorem recordText_extends : Extends (fun texts texts' : List Text => texts <+: texts')
    recordText where
  refl _ := List.prefix_rfl
  step text _ _ h := h.trans (List.prefix_append _ [text])

theorem continueText_extends : Extends (fun _ _ : Unit => True) continueText :=
  ⟨fun _ => trivial, fun _ _ _ _ => trivial⟩

section Staying
variable {E : Type} (host : ResponseHost E) (id : Text) (prepared : PreparedRequest)

theorem shownTexts_begins {texts texts' : List Text} (h : texts <+: texts') :
    shownTexts prepared texts <+: shownTexts prepared texts' := by
  unfold shownTexts
  split
  · exact List.prefix_rfl
  · exact h

theorem openingEvents_begins {texts texts' : List Text} (h : texts <+: texts') :
    openingEvents host id prepared texts <+: openingEvents host id prepared texts' := by
  obtain ⟨rest, rfl⟩ := h
  unfold openingEvents
  rw [List.mapIdx_append]
  exact (List.prefix_cons_inj _).mpr (List.prefix_append _ _)

/-- A transcript ends with an error, behind texts that another transcript begins with. -/
structure BrokenOff (faulty healthy : List Event) (texts : List Text)
    (error : ChatEngineError E TokenizerError) : Prop where
  begun : openingEvents host id prepared texts <+: healthy
  ended : faulty = openingEvents host id prepared texts ++
    [.error (host.errorText error) "inference_error", .done]

/-- Beside a completion that may fail, what the two clients receive. -/
theorem transcript_falters
    {x y : Except (ChatEngineError E TokenizerError) (ChatCompletion Value) × List Text}
    (h : Falters (fun _ texts texts' => texts' = texts) (fun texts texts' => texts <+: texts')
      x y) :
    transcript host id prepared (shownTexts prepared x.2) x.1 =
        transcript host id prepared (shownTexts prepared y.2) y.1 ∨
      ∃ texts error, BrokenOff host id prepared
        (transcript host id prepared (shownTexts prepared x.2) x.1)
        (transcript host id prepared (shownTexts prepared y.2) y.1) texts error := by
  cases h with
  | answered completion texts texts' hsame =>
      left
      rw [hsame]
  | failed error r texts texts' hbegun =>
      refine .inr ⟨shownTexts prepared texts, error, ?_, rfl⟩
      exact (openingEvents_begins host id prepared (shownTexts_begins prepared hbegun)).trans
        (List.prefix_append _ _)

end Staying

section Faults
variable {ε R W : Type} {N : Numerics} {sha : Sha256} {model : Hy3ScalarModel}
  {capacity : model.contextCapacity ≤ usizeMax}

/-- A completion of its own session, on a host with faults and on a healthy one. -/
theorem completion_falters {V υ : Type} {sampler : SamplerHost R W} {tokenizer : Hy3Tokenizer V}
    {eos_lt : tokenizer.eos < model.config.vocabularySize} {source : ExpertKey → List UInt8}
    {opening opening' : World ε} (granting : opening'.opening = .granting)
    {env env' : CallEnvironment (World ε)}
    (henv : Rougher (fun world => world.evaluation.Shared model source)
      (fun world => world.evaluation.Healthy model source) env env') {le : υ → υ → Prop}
    {emit : TextCallback υ} (hemit : Extends le emit) (request : ChatRequest V) (caller : υ) :
    Falters (fun _ x y => y = x) le
      (Hy3ChatEngine.completeWithStops ⟨model.causal N sha capacity, sampler, tokenizer, eos_lt⟩
        opening env request emit caller)
      (Hy3ChatEngine.completeWithStops ⟨model.causal N sha capacity, sampler, tokenizer, eos_lt⟩
        opening' env' request emit caller) := by
  refine Hy3ChatEngine.completeWithStops_falters (Hy3ScalarModel.faltering N sha source capacity)
    henv hemit request (fun session h => ?_) caller
  rw [henv.granted]
  exact ⟨newSession_answersAs env.alloc granting session h,
    (reachable_whole (T := Unit) (.opened _ _ h)).matched⟩

/-- A client that stays receives from a host with faults what it would from a healthy one, or the
opening, some first texts of that, and the error. -/
theorem streamCompletion_despite_faults (host : ResponseHost (Hy3ScalarError ε)) (id : Text)
    (prepared : PreparedRequest) (N : Numerics) (sha : Sha256) (model : Hy3ScalarModel)
    (capacity : model.contextCapacity ≤ usizeMax) (sampler : SamplerHost R W)
    (tokenizer : Hy3Tokenizer Value) (eos_lt : tokenizer.eos < model.config.vocabularySize)
    (source : ExpertKey → List UInt8) (opening : World ε) {opening' : World ε}
    (granting : opening'.opening = .granting) {env env' : CallEnvironment (World ε)}
    (henv : Rougher (fun world => world.evaluation.Shared model source)
      (fun world => world.evaluation.Healthy model source) env env') :
    let engine : Hy3ChatEngine (World ε) Hy3ScalarSession (Hy3ScalarError ε) R W Value :=
      ⟨model.causal N sha capacity, sampler, tokenizer, eos_lt⟩
    let faulty := (streamCompletion host id prepared engine opening env (.start none)).received
    let healthy := (streamCompletion host id prepared engine opening' env' (.start none)).received
    faulty = healthy ∨ ∃ texts error, BrokenOff host id prepared faulty healthy texts error := by
  intro engine faulty healthy
  have hfaulty : faulty = _ := streamCompletion_staying host id prepared engine opening env
  have hhealthy : healthy = _ := streamCompletion_staying host id prepared engine opening' env'
  rw [hfaulty, hhealthy]
  exact transcript_falters host id prepared
    (completion_falters granting henv recordText_extends prepared.chat [])

end Faults

/-! ### A host of two faults -/

theorem Value.asStr_eq (value : Value) (text : Text) :
    value.asStr = some text ↔ value = .string text := by
  cases value <;> simp [Value.asStr]

/-- The tokenizer of one token, for the values of the server. -/
def soleTokenizer : Hy3Tokenizer Value where
  inner := lastTokenizer.inner
  serde := ⟨Value.isObject, .string, Value.asStr, Value.asStr_eq, fun _ => .ok [], fun _ => none⟩
  eos := 0

def soleRequest : PreparedRequest where
  messages := [.user ['z']]
  template := ⟨true, .noThink, none, false, false, []⟩
  sampling := Hy3ChatEngine.speakingRequest.sampling
  stopSequences := []
  includeUsage := true
  bufferStructuredOutput := false
  stream := true

def soleHost : ResponseHost (Hy3ScalarError Unit) := ⟨fun _ => [], fun _ => "", id⟩

/-- What `smallHy3` streams to a client that stays. -/
def streamFrom (env : CallEnvironment (World Unit)) : Connection :=
  streamCompletion soleHost "chatcmpl-1".toList soleRequest
    ⟨GenerationSession.smallCausal, GenerationSession.greedyHost, soleTokenizer, Nat.zero_lt_one⟩
    grantedWorld env (.start none)

/-- Memory is refused to the request, or its experts cannot be loaded. -/
theorem streamCompletion_despite_faults_single : [refusingCall, failingCall].Forall fun env =>
    (streamFrom env).received = (streamFrom (lendingCall zeroExperts)).received ∨
      ∃ texts error, BrokenOff soleHost "chatcmpl-1".toList soleRequest
        (streamFrom env).received (streamFrom (lendingCall zeroExperts)).received texts error := by
  refine List.forall_iff_forall_mem.mpr fun env hmem => ?_
  have hgranted : grantedWorld.opening = .granting := rfl
  exact streamCompletion_despite_faults soleHost "chatcmpl-1".toList soleRequest
    Kernels.zeroNumerics zeroSha smallHy3 (by decide) GenerationSession.greedyHost soleTokenizer
    Nat.zero_lt_one zeroExperts grantedWorld hgranted (faulty_rougher env hmem)

end LightBridge.Server
