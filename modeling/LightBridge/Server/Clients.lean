import LightBridge.Server.Slots

/-! The clients of a server over a host with faults. Each is answered what a healthy host would
answer, an error, or a part of it. -/
namespace LightBridge.Server
open Foundation Command Tokenizer ExpertCache Hy3 Kernels LightBridge.Runtime

/-- What a client has that leaves after so many events, if it leaves. -/
def Reply.upTo (leaves : Option Nat) : Reply → Reply
  | .events received => .events (received.take (leaves.getD received.length))
  | reply => reply

theorem workerReply_upTo {Ω S E R W : Type} (host : ResponseHost E)
    (engine : Hy3ChatEngine Ω S E R W Value) (id : Text) (prepared : PreparedRequest) (opening : Ω)
    (env : CallEnvironment Ω) (leaves : Option Nat) :
    workerReply host engine id prepared opening env leaves =
      (workerReply host engine id prepared opening env none).upTo leaves := by
  unfold workerReply
  split
  · cases leaves with
    | none => rw [Reply.upTo, Option.getD_none, List.take_length]
    | some n =>
        rw [(streamCompletion_follows host id prepared engine opening env n).received]
        rfl
  · split
    · rfl
    · rfl

/-- A reply from a host with faults, beside the one from a healthy host: the same, an error in its
place, or a stream that is broken off. -/
inductive Despite {E : Type} (host : ResponseHost E) (id : Text) (prepared : PreparedRequest) :
    Reply → Reply → Prop where
  | same (reply : Reply) : Despite host id prepared reply reply
  | failed (error : ChatEngineError E TokenizerError) (reply : Reply) :
      Despite host id prepared (.error (.ofInternal (host.errorText error))) reply
  | broken (faulty healthy : List Event) (texts : List Text)
      (error : ChatEngineError E TokenizerError)
      (h : BrokenOff host id prepared faulty healthy texts error) :
      Despite host id prepared (.events faulty) (.events healthy)

section Faults
variable {ε R W : Type} {N : Numerics} {sha : Sha256} {model : Hy3ScalarModel}
  {capacity : model.contextCapacity ≤ usizeMax}

/-- What workers may meet: any refusal of memory, failing loads, and other clients of the cache. No
one cancels them. -/
def Rough (model : Hy3ScalarModel) (source : ExpertKey → List UInt8) (_ : World ε)
    (env : CallEnvironment (World ε)) : Prop :=
  (∀ n, (env.world n).evaluation.Shared model source) ∧ env.cancelled = fun _ => false

/-- A host where nothing is refused. -/
structure Fine (model : Hy3ScalarModel) (source : ExpertKey → List UInt8) (opening : World ε)
    (env : CallEnvironment (World ε)) : Prop where
  granting : opening.opening = .granting
  healthy : ∀ n, (env.world n).evaluation.Healthy model source
  granted : env.alloc = fun _ => true
  cancelled : env.cancelled = fun _ => false

theorem workerReply_despite (host : ResponseHost (Hy3ScalarError ε)) (id : Text)
    (prepared : PreparedRequest) {sampler : SamplerHost R W} {tokenizer : Hy3Tokenizer Value}
    {eos_lt : tokenizer.eos < model.config.vocabularySize} {source : ExpertKey → List UInt8}
    {opening opening' : World ε} {env env' : CallEnvironment (World ε)}
    (rough : Rough model source opening env) (fine : Fine model source opening' env') :
    Despite host id prepared
      (workerReply host ⟨model.causal N sha capacity, sampler, tokenizer, eos_lt⟩ id prepared
        opening env none)
      (workerReply host ⟨model.causal N sha capacity, sampler, tokenizer, eos_lt⟩ id prepared
        opening' env' none) := by
  have henv : Rougher (fun world => world.evaluation.Shared model source)
      (fun world => world.evaluation.Healthy model source) env env' :=
    ⟨rough.1, fine.healthy, fine.granted, fine.cancelled.trans rough.2.symm⟩
  unfold workerReply
  split
  · rw [streamCompletion_staying, streamCompletion_staying]
    rcases transcript_falters host id prepared (completion_falters (N := N) fine.granting henv
      recordText_extends prepared.chat []) with hsame | ⟨texts, error, hbroken⟩
    · rw [hsame]
      exact .same _
    · exact .broken _ _ texts error hbroken
  · have hrun : Falters (fun _ x y => y = x) (fun _ _ => True)
        (Hy3ChatEngine.completeWithStops ⟨model.causal N sha capacity, sampler, tokenizer, eos_lt⟩
          opening env prepared.chat continueText ())
        (Hy3ChatEngine.completeWithStops ⟨model.causal N sha capacity, sampler, tokenizer, eos_lt⟩
          opening' env' prepared.chat continueText ()) :=
      completion_falters fine.granting henv continueText_extends prepared.chat ()
    generalize Hy3ChatEngine.completeWithStops ⟨model.causal N sha capacity, sampler, tokenizer,
      eos_lt⟩ opening env prepared.chat continueText () = x at hrun ⊢
    generalize Hy3ChatEngine.completeWithStops ⟨model.causal N sha capacity, sampler, tokenizer,
      eos_lt⟩ opening' env' prepared.chat continueText () = y at hrun ⊢
    cases hrun with
    | answered completion _ _ _ => exact .same _
    | failed error r _ _ _ => exact .failed error _

/-- What a request is answered on a host with faults: why it was turned away, or what stands beside
the answer of any healthy host. -/
inductive AnsweredDespite (formatting : Formatting) (host : ResponseHost (Hy3ScalarError ε))
    (engine : Hy3ChatEngine (World ε) Hy3ScalarSession (Hy3ScalarError ε) R W Value)
    (config : ServerConfig) (model : Hy3ScalarModel) (source : ExpertKey → List UInt8)
    (issued : List Text) (request : ChatCompletionRequest) : Reply → Prop where
  | refused (error : ApiError)
      (h : admitRequest formatting config engine.model.vocabularySize request = .error error) :
      AnsweredDespite formatting host engine config model source issued request (.error error)
  | busy (prepared : PreparedRequest)
      (h : admitRequest formatting config engine.model.vocabularySize request = .ok prepared) :
      AnsweredDespite formatting host engine config model source issued request (.error .ofBusy)
  | served (prepared : PreparedRequest)
      (h : admitRequest formatting config engine.model.vocabularySize request = .ok prepared)
      (id : Text) (given : id ∈ issued) (reply : Reply) (leaves : Option Nat)
      (despite : ∀ opening env, Fine model source opening env →
        Despite host id prepared reply (workerReply host engine id prepared opening env none)) :
      AnsweredDespite formatting host engine config model source issued request
        (reply.upTo leaves)

/-- In every run of a server over a host with faults, each request that has its reply is answered
what a healthy host would answer it, with an error in its place, or with a stream of that which is
broken off; a client that leaves has the first events of one of these. -/
theorem clients_served_despite_faults (formatting : Formatting)
    (host : ResponseHost (Hy3ScalarError ε)) (config : ServerConfig) (N : Numerics) (sha : Sha256)
    (model : Hy3ScalarModel) (capacity : model.contextCapacity ≤ usizeMax)
    (sampler : SamplerHost R W) (tokenizer : Hy3Tokenizer Value)
    (eos_lt : tokenizer.eos < model.config.vocabularySize) (source : ExpertKey → List UInt8)
    {start : Slots} (router : Slots.router config = .ok start) {actions : List (Action (World ε))}
    (rough : ∀ action ∈ actions, action.Meets (Rough model source)) :
    let engine : Hy3ChatEngine (World ε) Hy3ScalarSession (Hy3ScalarError ε) R W Value :=
      ⟨model.causal N sha capacity, sampler, tokenizer, eos_lt⟩
    let s := Slots.run formatting host engine config actions start
    ∀ reply ∈ s.replies, ∃ request, s.requests[reply.1]? = some request ∧
      AnsweredDespite formatting host engine config model source s.issued request reply.2 := by
  intro engine s reply hreply
  have hserved : Slots.Served formatting host engine config (Rough model source) s :=
    Slots.run_served rough (Slots.router_served router)
  obtain ⟨request, hrequest, hanswered⟩ := hserved.replies reply hreply
  refine ⟨request, hrequest, ?_⟩
  generalize reply.2 = answer at hanswered
  cases hanswered with
  | refused error h => exact .refused error h
  | busy prepared h => exact .busy prepared h
  | served prepared h id given opening env leaves met =>
      rw [workerReply_upTo]
      exact .served prepared h id given _ leaves fun opening' env' fine =>
        workerReply_despite host id prepared met fine

end Faults

/-- The worker of the one client has no memory, or cannot load its experts. -/
def afterFault (env : CallEnvironment (World Unit)) (start : Slots) : Slots :=
  Slots.run soleFormatting soleHost soleEngine ⟨1, 1, 1⟩
    [.arrive soleChat, .number 0 0, .finish 0 grantedWorld env none] start

theorem clients_served_despite_faults_single : ∃ start, Slots.router ⟨1, 1, 1⟩ = .ok start ∧
    ∀ env ∈ [refusingCall, failingCall],
      ∀ reply ∈ (afterFault env start).replies, ∃ request,
        (afterFault env start).requests[reply.1]? = some request ∧
        AnsweredDespite soleFormatting soleHost soleEngine ⟨1, 1, 1⟩ smallHy3 zeroExperts
          (afterFault env start).issued request reply.2 := by
  let start : Slots := ⟨1, 0, [], [], [], []⟩
  have hrouter : Slots.router ⟨1, 1, 1⟩ = .ok start := rfl
  refine ⟨start, hrouter, fun env henv => ?_⟩
  have hrough : ∀ action ∈ [Action.arrive soleChat, .number 0 0, .finish 0 grantedWorld env none],
      action.Meets (Rough smallHy3 zeroExperts) := by
    intro action hmem
    rcases List.mem_cons.mp hmem with rfl | hmem
    · trivial
    · rcases List.mem_cons.mp hmem with rfl | hmem
      · trivial
      · rw [List.mem_singleton.mp hmem]
        exact ⟨(faulty_rougher env henv).rough, (faulty_rougher env henv).cancelled.symm⟩
  exact clients_served_despite_faults soleFormatting soleHost ⟨1, 1, 1⟩ Kernels.zeroNumerics
    zeroSha smallHy3 (by decide) GenerationSession.greedyHost soleTokenizer Nat.zero_lt_one
    zeroExperts hrouter hrough

end LightBridge.Server
