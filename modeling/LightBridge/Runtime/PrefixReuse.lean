import LightBridge.Runtime.ChatEngine
import LightBridge.Runtime.Lockstep
import LightBridge.Runtime.Preserved
import LightBridge.Runtime.Invariant

/-! Prefix reuse. Over a deterministic model, a completion in a used session says what the
same completion says in a fresh one. -/
namespace LightBridge.Runtime
open Foundation Command Tokenizer

variable {Ω S E R W V τ υ : Type}

/-- A model whose logits are a function of the tokens evaluated since its last reset:
`Evaluated` says which these are, and `answer` what the last of them is answered with. -/
structure CausalModel.Deterministic (model : CausalModel Ω S E) (fine : Ω → Prop)
    (Evaluated : S → List Nat → Prop) (answer : List Nat → Except E (List F32)) : Prop where
  opened : ∀ env session, model.newSession env = .ok session → Evaluated session []
  reset : ∀ session history, Evaluated session history → Evaluated (model.resetSession session) []
  position : ∀ session history, Evaluated session history → model.position session = history.length
  evaluated : ∀ env session history tokenId logits, fine env → Evaluated session history →
    logits.length = model.vocabularySize →
    Ends (fun _ state => answer (history ++ [tokenId]) = .ok state.2 ∧
      state.2.length = model.vocabularySize ∧
        Evaluated state.1 (history ++ [tokenId]))
      (fun error _ => answer (history ++ [tokenId]) = .error error)
      (model.evaluateToken env tokenId (session, logits))

/-- A call over a whole prompt beside one that has `reused` tokens of it behind it: the same
allocator, and cancelled at the same token if at all. -/
structure CallEnvironment.Aligned (env env' : CallEnvironment Ω) (reused : Nat) : Prop where
  alloc : env'.alloc = env.alloc
  entered : env.cancelled 0 = false
  entered' : env'.cancelled 0 = false
  front : ∀ n, n < reused → env'.cancelled (1 + n) = false
  polls : ∀ n, env'.cancelled (1 + reused + n) = env.cancelled (1 + n)

theorem CallEnvironment.Aligned.of_uncancelled {env env' : CallEnvironment Ω}
    (alloc : env'.alloc = env.alloc) (uncancelled : ∀ n, env.cancelled n = false)
    (uncancelled' : ∀ n, env'.cancelled n = false) (reused : Nat) :
    env.Aligned env' reused :=
  ⟨alloc, uncancelled 0, uncancelled' 0, fun _ _ => uncancelled' _, fun _ => by
    rw [uncancelled, uncancelled']⟩

/-- Histories of answered tokens, with the logits that the last of them is answered with. -/
inductive Absorbed (answer : List Nat → Except E (List F32)) (vocabularySize : Nat) :
    List Nat → List F32 → Prop where
  | empty : Absorbed answer vocabularySize [] (List.replicate vocabularySize .zero)
  | token {history : List Nat} {logits next : List F32} {tokenId : Nat}
      (h : Absorbed answer vocabularySize history logits) (known : tokenId < vocabularySize)
      (answered : answer (history ++ [tokenId]) = .ok next) (width : next.length = vocabularySize) :
      Absorbed answer vocabularySize (history ++ [tokenId]) next

namespace Absorbed
variable {answer : List Nat → Except E (List F32)} {vocabularySize : Nat} {history : List Nat}
    {logits : List F32}

theorem length_logits (h : Absorbed answer vocabularySize history logits) :
    logits.length = vocabularySize := by
  cases h with
  | empty => exact List.length_replicate
  | token _ _ _ width => exact width

theorem known (h : Absorbed answer vocabularySize history logits) : ∀ tokenId ∈ history,
      tokenId < vocabularySize := by
  induction h with
  | empty =>
      intro tokenId hmem
      cases hmem
  | token _ hknown _ _ ih =>
      intro tokenId hmem
      rcases List.mem_append.mp hmem with hold | hnew
      · exact ih tokenId hold
      · rw [List.mem_singleton.mp hnew]
        exact hknown

theorem unique (h : Absorbed answer vocabularySize history logits) {logits' : List F32}
    (h' : Absorbed answer vocabularySize history logits') : logits' = logits := by
  cases h with
  | empty =>
      generalize hhistory : ([] : List Nat) = empty at h'
      cases h' with
      | empty => rfl
      | token _ _ _ _ => exact absurd hhistory.symm (by simp)
  | @token front _ next tokenId _ _ answered _ =>
      generalize hhistory : front ++ [tokenId] = whole at h'
      cases h' with
      | empty => exact absurd hhistory (by simp)
      | token _ _ answered' _ =>
          rw [← hhistory, answered] at answered'
          cases answered'
          rfl

end Absorbed

/-- A healthy session that has evaluated its history and nothing else. -/
structure GenerationSession.Tracks (model : CausalModel Ω S E) (Evaluated : S → List Nat → Prop)
    (answer : List Nat → Except E (List F32)) (session : GenerationSession S) : Prop where
  evaluated : Evaluated session.model session.history
  absorbed : Absorbed answer model.vocabularySize session.history session.logits
  hasLogits : session.hasLogits = true ↔ session.history ≠ []
  healthy : session.healthy = true

/-- Sessions of a model that have evaluated the same tokens, with their logits. -/
def Evenly (model : CausalModel Ω S E) (Evaluated : S → List Nat → Prop)
    (x y : S × List F32) : Prop :=
  (∃ history, Evaluated x.1 history ∧ Evaluated y.1 history) ∧ y.2 = x.2 ∧
    x.2.length = model.vocabularySize

open GenerationSession

namespace CausalModel.Deterministic
variable {model : CausalModel Ω S E} {fine : Ω → Prop} {Evaluated : S → List Nat → Prop}
  {answer : List Nat → Except E (List F32)} {session s t : GenerationSession S}

theorem lockstep (law : model.Deterministic fine Evaluated answer) :
    model.Lockstep fine (Evenly model Evaluated) (fun _ _ => True) where
  logits _ _ h := h.2.1
  position x y h := by
    obtain ⟨⟨history, hx, hy⟩, -⟩ := h
    rw [law.position _ _ hx, law.position _ _ hy]
  failed _ _ _ := trivial
  reset x y h := by
    obtain ⟨⟨history, hx, hy⟩, hlogits, hwidth⟩ := h
    refine ⟨⟨[], law.reset _ _ hx, law.reset _ _ hy⟩, by rw [hlogits], ?_⟩
    rw [List.length_map]
    exact hwidth
  evaluated env env' x y hfine hfine' h tokenId := by
    obtain ⟨⟨history, hx, hy⟩, hlogits, hwidth⟩ := h
    have hleft := law.evaluated env x.1 history tokenId x.2 hfine hx hwidth
    have hright :=
      law.evaluated env' y.1 history tokenId y.2 hfine' hy (by rw [hlogits]; exact hwidth)
    change Paired _ _ (model.evaluateToken env tokenId (x.1, x.2))
      (model.evaluateToken env' tokenId (y.1, y.2))
    generalize model.evaluateToken env tokenId (x.1, x.2) = first at hleft ⊢
    generalize model.evaluateToken env' tokenId (y.1, y.2) = second at hright ⊢
    cases hleft with
    | answered _ a ha =>
        cases hright with
        | answered _ b hb =>
            have hsame : a.2 = b.2 := Except.ok.inj (ha.1.symm.trans hb.1)
            exact .answered () a b ⟨⟨_, ha.2.2, hb.2.2⟩, hsame.symm, ha.2.1⟩
        | failed e b hb => exact absurd (ha.1.symm.trans hb) nofun
    | failed e a ha =>
        cases hright with
        | answered _ b hb => exact absurd (ha.symm.trans hb.1) nofun
        | failed e' b hb =>
            obtain rfl := Except.error.inj (ha.symm.trans hb)
            exact .failed e a b trivial

theorem newSession_tracks (law : model.Deterministic fine Evaluated answer)
    {alloc : GenerationSite → Bool} {env : Ω}
    (h : Generator.newSession model alloc env = .ok session) :
    Tracks model Evaluated answer session ∧ session.history = [] := by
  unfold Generator.newSession at h
  obtain ⟨state, hopened, h⟩ := except_bind_ok_iff.mp h
  obtain ⟨_, -, h⟩ := except_bind_ok_iff.mp h
  cases h
  exact ⟨⟨law.opened env state (wrap_eq_ok.mp hopened), .empty, by simp, rfl⟩, rfl⟩

theorem reset_tracks (law : model.Deterministic fine Evaluated answer)
    (evaluated : Evaluated session.model session.history)
    (width : session.logits.length = model.vocabularySize) :
    Tracks model Evaluated answer (Generator.reset model session) := by
  refine ⟨law.reset _ _ evaluated, ?_, by simp [Generator.reset], rfl⟩
  change Absorbed answer model.vocabularySize [] (session.logits.map fun _ => F32.zero)
  rw [List.map_const', width]
  exact .empty

theorem evaluate_tracks (law : model.Deterministic fine Evaluated answer) {env : Ω}
    (hfine : fine env) {tokenId : Nat} (known : tokenId < model.vocabularySize)
    (h : Tracks model Evaluated answer session) :
    Ends (fun _ last => Tracks model Evaluated answer last ∧
      last.history = session.history ++ [tokenId])
      (fun error _ => ∃ inner, error = .model inner ∧
        answer (session.history ++ [tokenId]) = .error inner)
      (Generator.evaluate model env tokenId session) := by
  have hlaw :=
    law.evaluated env session.model session.history tokenId session.logits hfine h.evaluated
    h.absorbed.length_logits
  unfold Generator.evaluate
  rcases hrun : model.evaluateToken env tokenId (session.model, session.logits) with ⟨r, state⟩
  rw [hrun] at hlaw
  cases hlaw with
  | answered _ _ hanswer =>
      exact .answered () _
        ⟨⟨hanswer.2.2, .token h.absorbed known hanswer.1 hanswer.2.1, by simp, h.healthy⟩, rfl⟩
  | failed error _ herror => exact .failed _ _ ⟨error, rfl, herror⟩

theorem preserved (law : model.Deterministic fine Evaluated answer) :
    Generator.Preserved model fine (Tracks model Evaluated answer) (fun _ => True) where
  position _ h := law.position _ _ h.evaluated
  failed _ _ := trivial
  evaluated _ _ _ hfine h _ known := (law.evaluate_tracks hfine known h).mono (fun _ _ h => h)
    fun _ _ _ => trivial

/-- Sessions with the same history are alike. -/
theorem similar (hs : Tracks model Evaluated answer s) (ht : Tracks model Evaluated answer t)
    (history : t.history = s.history) : Similar (Evenly model Evaluated) s t := by
  refine ⟨⟨⟨s.history, hs.evaluated, ?_⟩, ?_, hs.absorbed.length_logits⟩, history, ?_, ?_⟩
  · rw [← history]
    exact ht.evaluated
  · apply hs.absorbed.unique
    rw [← history]
    exact ht.absorbed
  · rw [Bool.eq_iff_iff, ht.hasLogits, hs.hasLogits, history]
  · rw [ht.healthy, hs.healthy]

/-- A fresh session absorbs an absorbed history as the front of any prompt. -/
theorem prefill_absorbed (law : model.Deterministic fine Evaluated answer) {env : CallEnvironment Ω}
    (hfine : ∀ n, fine (env.world n)) {history : List Nat} {logits : List F32}
    (absorbed : Absorbed answer model.vocabularySize history logits)
    (uncancelled : ∀ n, n < history.length → env.cancelled (1 + n) = false)
    (ht : Tracks model Evaluated answer t) (empty : t.history = []) :
    ∃ last, Tracks model Evaluated answer last ∧ last.history = history ∧ ∀ rest,
      Generator.prefill model env 0 (history ++ rest) t =
      Generator.prefill model env history.length rest last := by
  induction absorbed with
  | empty => exact ⟨t, ht, empty, fun rest => rfl⟩
  | @token front _ next tokenId h known answered width ih =>
      rw [List.length_append, List.length_singleton] at uncancelled
      obtain ⟨middle, hmiddle, hhistory, hrun⟩ :=
        ih fun n hn => uncancelled n (Nat.lt_succ_of_lt hn)
      have hstep := law.evaluate_tracks (hfine front.length) known hmiddle
      rcases heval : Generator.evaluate model (env.world front.length) tokenId middle with ⟨r, last⟩
      rw [heval] at hstep
      cases hstep with
      | failed _ _ herror =>
          obtain ⟨inner, -, hanswer⟩ := herror
          rw [hhistory, answered] at hanswer
          cases hanswer
      | answered _ _ hlast =>
          refine ⟨last, hlast.1, hlast.2.trans (by rw [hhistory]), ?_⟩
          intro rest
          rw [List.append_assoc, hrun, List.length_append, List.length_singleton]
          change Generator.prefill model env front.length (tokenId :: rest) middle = _
          rw [Generator.prefill, uncancelled _ (Nat.lt_succ_self _), if_neg Bool.false_ne_true,
            Command.bind_of_ok heval]

/-- What is checked of a prompt is the same for the whole of it in a fresh session and for
what a used session has not evaluated. -/
theorem admitted_iff (law : model.Deterministic fine Evaluated answer)
    {alloc : GenerationSite → Bool} {config : SamplingConfig} {suffix : List Nat}
    {generationLimit : Nat} (hs : Tracks model Evaluated answer s)
    (ht : Tracks model Evaluated answer t) (empty : t.history = []) :
    Generator.Admitted model alloc config suffix s generationLimit ↔
      Generator.Admitted model alloc config (s.history ++ suffix) t generationLimit := by
  have hposition := law.position _ _ hs.evaluated
  have hstart := law.position _ _ ht.evaluated
  rw [empty, List.length_nil] at hstart
  have hlogits : t.hasLogits = false := by
    rw [Bool.eq_false_iff]
    intro hlogits
    exact ht.hasLogits.mp hlogits empty
  constructor
  · intro h
    have hroom := h.room
    have hlimit := h.limit
    rw [hposition] at hroom hlimit
    refine ⟨h.valid, ht.healthy, ?_, ?_, ?_, ?_, ?_, h.generated⟩
    · intro tokenId hmem
      rcases List.mem_append.mp hmem with hold | hnew
      · exact hs.absorbed.known tokenId hold
      · exact h.known tokenId hnew
    · rw [hstart, List.length_append]
      omega
    · refine Or.inl ?_
      intro hnil
      obtain ⟨hhistory, hsuffix⟩ := List.append_eq_nil_iff.mp hnil
      rcases h.prompt with hprompt | hprompt
      · exact hprompt hsuffix
      · exact hs.hasLogits.mp hprompt hhistory
    · rw [hstart, List.length_append]
      omega
    · rw [empty, List.length_append, List.length_nil, Nat.zero_add, Nat.add_assoc]
      exact h.history
  · intro h
    have hroom := h.room
    have hlimit := h.limit
    rw [hstart, List.length_append] at hroom hlimit
    refine ⟨h.valid, hs.healthy, ?_, ?_, ?_, ?_, ?_, h.generated⟩
    · intro tokenId hmem
      exact h.known tokenId (List.mem_append_right _ hmem)
    · rw [hposition]
      omega
    · by_cases hsuffix : suffix = []
      · rcases h.prompt with hprompt | hprompt
        · rw [hsuffix, List.append_nil] at hprompt
          exact Or.inr (hs.hasLogits.mpr hprompt)
        · rw [hlogits] at hprompt
          cases hprompt
      · exact Or.inl hsuffix
    · rw [hposition]
      omega
    · have hhistory := h.history
      rwa [empty, List.length_append, List.length_nil, Nat.zero_add, Nat.add_assoc] at hhistory

end CausalModel.Deterministic

/-- Two streams that sample the same tokens and end for the same reason, or that both fail. -/
inductive SameStream (Rel : S × List F32 → S × List F32 → Prop) :
    Except (GenerationError E) GenerationOutcome × GenerationSession S × τ →
      Except (GenerationError E) GenerationOutcome × GenerationSession S × τ → Prop where
  | answered (tokenIds : List Nat) (reason : StopReason) (promptTokens promptTokens' : Nat)
      {last last' : GenerationSession S} (caller : τ) (similar : Similar Rel last last') :
      SameStream Rel (.ok (outcome tokenIds reason promptTokens), last, caller)
        (.ok (outcome tokenIds reason promptTokens'), last', caller)
  | failed (error error' : GenerationError E) (last last' : GenerationSession S) (caller : τ) :
      SameStream Rel (.error error, last, caller) (.error error', last', caller)

theorem SameStream.of_decoded {Rel Failed : S × List F32 → S × List F32 → Prop}
    {c d : Command (GenerationSession S × τ) (GenerationError E) (List Nat × StopReason)}
    {x y : GenerationSession S × τ}
    (h : Paired (fun _ x y => Similar Rel x.1 y.1 ∧ y.2 = x.2)
      (fun x y => Similar Failed x.1 y.1 ∧ y.2 = x.2) (c x) (d y))
    (promptTokens promptTokens' : Nat) :
    SameStream Rel ((c >>= fun decoded => pure (outcome decoded.1 decoded.2 promptTokens)) x)
      ((d >>= fun decoded => pure (outcome decoded.1 decoded.2 promptTokens')) y) := by
  rcases hc : c x with ⟨r, last, caller⟩
  rcases hd : d y with ⟨r', last', caller'⟩
  rw [hc, hd] at h
  cases h with
  | answered decoded _ _ hsame =>
      obtain ⟨hsimilar, rfl⟩ := hsame
      rw [Command.bind_of_ok hc, Command.bind_of_ok hd]
      exact .answered decoded.1 decoded.2 promptTokens promptTokens' _ hsimilar
  | failed error _ _ hsame =>
      obtain ⟨-, rfl⟩ := hsame
      rw [Command.bind_of_error hc, Command.bind_of_error hd]
      exact .failed error error last last' _

namespace CausalModel.Deterministic
variable {model : CausalModel Ω S E} {fine : Ω → Prop} {Evaluated : S → List Nat → Prop}
  {answer : List Nat → Except E (List F32)} {session s t : GenerationSession S}

/-- A stream that goes on from a used session does what it does for the whole prompt from a
fresh one. -/
theorem resumed_stream (law : model.Deterministic fine Evaluated answer)
    {env env' : CallEnvironment Ω} (hfine : ∀ n, fine (env.world n))
    (hfine' : ∀ n, fine (env'.world n)) (aligned : env.Aligned env' s.history.length)
    (host : SamplerHost R W) (config : SamplingConfig) (suffix : List Nat) (emit : Callback τ)
    (caller : τ) (hs : Tracks model Evaluated answer s) (ht : Tracks model Evaluated answer t)
    (empty : t.history = []) :
    SameStream (Evenly model Evaluated)
      (Generator.generateStream model host env config suffix emit (s, caller))
      (Generator.generateStream model host env' config (s.history ++ suffix) emit (t, caller)) := by
  have hlock := law.lockstep
  have hpolls : ∀ n k, env'.cancelled (1 + (s.history.length + n) + k) =
      env.cancelled (1 + n + k) := by
    intro n k
    have hpoll := aligned.polls (n + k)
    rwa [← Nat.add_assoc, ← Nat.add_assoc, Nat.add_assoc 1] at hpoll
  unfold Generator.generateStream
  rw [Command.bind_of_ok (Command.read_run _), Command.bind_of_ok (Command.read_run _)]
  dsimp only
  rw [aligned.alloc]
  cases hprepared : Generator.prepare model env.alloc config suffix s with
  | error error =>
      cases hprepared' : Generator.prepare model env.alloc config (s.history ++ suffix) t with
      | error error' => exact .failed error error' s t caller
      | ok limit =>
          have hadmitted :=
            (law.admitted_iff hs ht empty).mpr (Generator.prepare_eq_ok_iff.mp hprepared')
          rw [Generator.prepare_eq_ok_iff.mpr hadmitted] at hprepared
          cases hprepared
  | ok limit =>
      have hadmitted := (law.admitted_iff hs ht empty).mp (Generator.prepare_eq_ok_iff.mp hprepared)
      rw [Generator.prepare_eq_ok_iff.mpr hadmitted, Command.bind_of_ok (Command.lift_run _ _),
        Command.bind_of_ok (Command.lift_run _ _), aligned.entered, aligned.entered',
        if_neg Bool.false_ne_true, if_neg Bool.false_ne_true]
      obtain ⟨middle, hmiddle, hhistory, hrun⟩ :=
        law.prefill_absorbed hfine' hs.absorbed aligned.front ht empty
      have hprefill := hlock.prefill hfine hfine' suffix 0 s.history.length s middle
        (similar hs hmiddle hhistory) (hpolls 0)
      rw [← hrun suffix] at hprefill
      rcases hleft : Generator.prefill model env 0 suffix s with ⟨r, s'⟩
      rcases hright : Generator.prefill model env' 0 (s.history ++ suffix) t with ⟨r', t'⟩
      rw [hleft, hright] at hprefill
      cases hprefill with
      | failed error _ _ _ =>
          rw [Command.bind_of_error (Command.zoom_run hleft),
            Command.bind_of_error (Command.zoom_run hright)]
          exact .failed error error s' t' caller
      | answered absorbed _ _ hsimilar =>
          rw [Command.bind_of_ok (Command.zoom_run hleft),
            Command.bind_of_ok (Command.zoom_run hright)]
          cases absorbed with
          | false => exact .answered [] .cancelled _ _ caller hsimilar
          | true =>
              rw [if_pos rfl, if_pos rfl]
              cases hsampler : wrap GenerationError.sampling
                (Sampler.new host env.alloc config model.vocabularySize) with
              | error error => exact .failed error error s' t' caller
              | ok sampler =>
                  rw [Command.bind_of_ok (Command.lift_run _ _),
                    Command.bind_of_ok (Command.lift_run _ _)]
                  dsimp only
                  have hlater : ∀ k, env'.cancelled (1 + (s.history ++ suffix).length + k) =
                      env.cancelled (1 + suffix.length + k) := by
                    rw [List.length_append]
                    exact hpolls suffix.length
                  have hdecode := hlock.decode hfine hfine' host config emit
                    (if limit < config.maxNewTokens then .contextLength else .maxTokens)
                    hlater limit 0 sampler [] s' t' caller hsimilar
                  exact .of_decoded hdecode _ _

end CausalModel.Deterministic

/-! ### Completions -/

namespace Hy3ChatEngine
variable {engine : Hy3ChatEngine Ω S E R W V} {session s t : GenerationSession S}

/-- What follows the generation does not depend on how much of the prompt was reused. -/
theorem assemble_cached (request : ChatRequest V) (promptTokens : List Nat) (cached cached' : Nat)
    (emit : TextCallback υ) (tokenIds : List Nat) (reason : StopReason) (count count' : Nat)
    (stream : StreamState) (caller : υ) :
    assemble engine request promptTokens cached' emit
      (outcome tokenIds reason count') stream caller =
      ((assemble engine request promptTokens cached emit
        (outcome tokenIds reason count) stream caller).1.map
          fun completion => { completion with cachedPromptTokens := cached' },
        (assemble engine request promptTokens cached emit
          (outcome tokenIds reason count) stream caller).2) := by
  unfold assemble
  dsimp only [outcome]
  apply Command.bind_mapped
  intro _ caller
  apply Command.bind_mapped
  intro decodedText caller
  apply Command.bind_mapped
  intro ended caller
  unfold conclude
  apply Command.bind_mapped
  intro rawDecoded caller
  rfl

end Hy3ChatEngine

/-- Two streams of a completion that sample the same tokens, or that both fail. -/
inductive SameStreamed (Rel : S × List F32 → S × List F32 → Prop) :
    Except (ChatEngineError E TokenizerError) (GenerationOutcome × StreamState) ×
        GenerationSession S ×
        υ →
      Except (ChatEngineError E TokenizerError) (GenerationOutcome × StreamState) ×
        GenerationSession S ×
        υ →
      Prop where
  | answered (tokenIds : List Nat) (reason : StopReason) (count count' : Nat) (stream : StreamState)
      {last last' : GenerationSession S} (caller : υ) (similar : Similar Rel last last') :
      SameStreamed Rel (.ok (outcome tokenIds reason count, stream), last, caller)
        (.ok (outcome tokenIds reason count', stream), last', caller)
  | failed (error error' : ChatEngineError E TokenizerError) (last last' : GenerationSession S)
    (caller : υ) :
      SameStreamed Rel (.error error, last, caller) (.error error', last', caller)

/-- Two completions that say the same and leave the same session, or that both fail. -/
inductive SameCompletion (Rel : S × List F32 → S × List F32 → Prop) :
    Except (ChatEngineError E TokenizerError) (ChatCompletion V) × GenerationSession S × υ →
      Except (ChatEngineError E TokenizerError) (ChatCompletion V) × GenerationSession S × υ →
      Prop where
  | answered (completion : ChatCompletion V) (cached : Nat) {last last' : GenerationSession S}
      (caller : υ) (similar : Similar Rel last last') :
      SameCompletion Rel (.ok completion, last, caller)
        (.ok { completion with cachedPromptTokens := cached }, last', caller)
  | failed (error error' : ChatEngineError E TokenizerError) (last last' : GenerationSession S)
    (caller : υ) :
      SameCompletion Rel (.error error, last, caller) (.error error', last', caller)

/-- The same reply is assembled from the same stream. -/
theorem SameStreamed.assembled {Rel : S × List F32 → S × List F32 → Prop}
    {engine : Hy3ChatEngine Ω S E R W V}
    {c d : Command (GenerationSession S × υ) (ChatEngineError E TokenizerError)
      (GenerationOutcome × StreamState)} {x y : GenerationSession S × υ}
    (h : SameStreamed Rel (c x) (d y)) (request : ChatRequest V) (promptTokens : List Nat)
    (cached cached' : Nat) (emit : TextCallback υ) :
    SameCompletion Rel
      ((c >>= fun ended =>
        (Hy3ChatEngine.assemble engine request promptTokens cached emit ended.1 ended.2).zoom
          Prod.snd
          fun caller state => (state.1, caller)) x)
      ((d >>= fun ended =>
        (Hy3ChatEngine.assemble engine request promptTokens cached' emit ended.1 ended.2).zoom
          Prod.snd
          fun caller state => (state.1, caller)) y) := by
  rcases hc : c x with ⟨r, last, caller⟩
  rcases hd : d y with ⟨r', last', caller'⟩
  rw [hc, hd] at h
  cases h with
  | failed error error' =>
      rw [Command.bind_of_error hc, Command.bind_of_error hd]
      exact .failed error error' last last' _
  | answered tokenIds reason count count' stream _ similar =>
      rw [Command.bind_of_ok hc, Command.bind_of_ok hd]
      have hcached : Hy3ChatEngine.assemble engine request promptTokens cached' emit
          (outcome tokenIds reason count') stream
        caller = _ :=
          Hy3ChatEngine.assemble_cached request promptTokens cached cached' emit tokenIds reason
            count count' stream caller
      rcases hrun : Hy3ChatEngine.assemble engine request promptTokens cached emit
        (outcome tokenIds reason count) stream
        caller with ⟨r, after⟩
      rw [hrun] at hcached
      rw [Command.zoom_run hrun, Command.zoom_run hcached]
      cases r with
      | ok completion => exact .answered completion cached' after similar
      | error error => exact .failed error error last last' after

namespace Hy3ChatEngine
variable {engine : Hy3ChatEngine Ω S E R W V} {fine : Ω → Prop} {Evaluated : S → List Nat → Prop}
  {answer : List Nat → Except E (List F32)} {session s t : GenerationSession S}

theorem resume_tracks (law : engine.model.toCausalModel.Deterministic fine Evaluated answer)
    (promptTokens : List Nat) (h : Tracks engine.model.toCausalModel Evaluated answer session) :
    Tracks engine.model.toCausalModel Evaluated answer
      (resume engine.model.toCausalModel promptTokens session) := by
  unfold resume
  split
  · exact h
  · exact law.reset_tracks h.evaluated h.absorbed.length_logits

theorem streamTokens_tracks (law : engine.model.toCausalModel.Deterministic fine Evaluated answer)
    {env : CallEnvironment Ω} (hfine : ∀ n, fine (env.world n)) (sampling : SamplingConfig)
    (stopSequences : List Text) (promptSuffix : List Nat) (emit : TextCallback υ) (caller : υ)
    (h : Tracks engine.model.toCausalModel Evaluated answer session) :
    Ends (fun _ last => Tracks engine.model.toCausalModel Evaluated answer last.1) (fun _ _ => True)
      (streamTokens engine env sampling stopSequences promptSuffix emit (session, caller)) := by
  have hstream :=
    law.preserved.generateStream engine.host env hfine
      (sampling.insertStop engine.tokenizer.eos) promptSuffix
    (streamToken engine.tokenizer emit) (session, .start stopSequences, caller) h
  unfold streamTokens
  rcases hrun : Generator.generateStream engine.model.toCausalModel engine.host env
    (sampling.insertStop engine.tokenizer.eos) promptSuffix (streamToken engine.tokenizer emit)
    (session, .start stopSequences, caller) with ⟨r, last, stream, caller'⟩
  rw [hrun] at hstream
  cases hstream with
  | answered outcome _ hlast => exact .answered (outcome, stream) (last, caller') hlast
  | failed error _ _ => exact .failed _ (last, caller') trivial

/-- A completion that answers leaves a healthy session that has evaluated its history. -/
theorem complete_tracks (law : engine.model.toCausalModel.Deterministic fine Evaluated answer)
    {env : CallEnvironment Ω} (hfine : ∀ n, fine (env.world n)) (request : ChatRequest V)
    (emit : TextCallback υ) (caller : υ)
    (h : Tracks engine.model.toCausalModel Evaluated answer session) :
    Ends (fun _ last => Tracks engine.model.toCausalModel Evaluated answer last.1) (fun _ _ => True)
      (completeWithStopsInSession engine env request emit (session, caller)) := by
  cases hprompt : promptOf engine request with
  | error error =>
      rw [complete_refused env emit caller hprompt]
      exact .failed _ _ trivial
  | ok promptTokens =>
      rw [complete_run env emit caller hprompt]
      apply (streamTokens_tracks law hfine _ _ _ emit caller
        (resume_tracks law promptTokens h)).bind
      rintro ⟨outcome, stream⟩ ⟨last, caller'⟩ hlast
      rcases hrun : assemble engine request promptTokens
        (resume engine.model.toCausalModel promptTokens session).history.length emit outcome stream
          caller' with ⟨r, caller''⟩
      rw [Command.zoom_run hrun]
      cases r with
      | ok completion => exact .answered completion (last, caller'') hlast
      | error error => exact .failed error (last, caller'') trivial

/-- Chat sessions that successful completions and resets lead to. -/
inductive Reached (engine : Hy3ChatEngine Ω S E R W V) (fine : Ω → Prop) :
    GenerationSession S → Prop where
  | opened (alloc : GenerationSite → Bool) (env : Ω) {session : GenerationSession S}
      (h : Generator.newSession engine.model.toCausalModel alloc env = .ok session) :
      Reached engine fine session
  | completed {υ : Type} {session last : GenerationSession S} (h : Reached engine fine session)
      (env : CallEnvironment Ω) (hfine : ∀ n, fine (env.world n)) (request : ChatRequest V)
      (emit : TextCallback υ) (caller caller' : υ) (completion : ChatCompletion V)
      (hrun : completeWithStopsInSession engine env request emit (session, caller) =
        (.ok completion, last, caller')) : Reached engine fine last
  | reset {session : GenerationSession S} (h : Reached engine fine session) :
      Reached engine fine (Generator.reset engine.model.toCausalModel session)

theorem Reached.tracks (law : engine.model.toCausalModel.Deterministic fine Evaluated answer)
    (h : Reached engine fine session) :
    Tracks engine.model.toCausalModel Evaluated answer session := by
  induction h with
  | opened alloc env h => exact (law.newSession_tracks h).1
  | completed _ env hfine request emit caller caller' completion hrun ih =>
      have hends := complete_tracks law hfine request emit caller ih
      rw [hrun] at hends
      cases hends with
      | answered _ _ hlast => exact hlast
  | reset _ ih => exact law.reset_tracks ih.evaluated ih.absorbed.length_logits

/-- The stream under a completion goes on from a used session as it does for the whole prompt
from a fresh one. -/
theorem resumed_streamTokens (law : engine.model.toCausalModel.Deterministic fine Evaluated answer)
    {env env' : CallEnvironment Ω} (hfine : ∀ n, fine (env.world n))
    (hfine' : ∀ n, fine (env'.world n)) (aligned : env.Aligned env' s.history.length)
    (sampling : SamplingConfig) (stopSequences : List Text) (suffix : List Nat)
    (emit : TextCallback υ) (caller : υ) (hs : Tracks engine.model.toCausalModel Evaluated answer s)
    (ht : Tracks engine.model.toCausalModel Evaluated answer t) (empty : t.history = []) :
    SameStreamed (Evenly engine.model.toCausalModel Evaluated)
      (streamTokens engine env sampling stopSequences suffix emit (s, caller))
      (streamTokens engine env' sampling stopSequences (s.history ++ suffix) emit (t, caller)) := by
  have hstream :=
    law.resumed_stream hfine hfine' aligned engine.host
      (sampling.insertStop engine.tokenizer.eos) suffix
    (streamToken engine.tokenizer emit) (.start stopSequences, caller) hs ht empty
  unfold streamTokens
  dsimp only
  generalize Generator.generateStream engine.model.toCausalModel engine.host env
    (sampling.insertStop engine.tokenizer.eos)
    suffix (streamToken engine.tokenizer emit) (s, .start stopSequences, caller) =
      first at hstream ⊢
  generalize Generator.generateStream engine.model.toCausalModel engine.host env'
    (sampling.insertStop engine.tokenizer.eos) (s.history ++ suffix)
      (streamToken engine.tokenizer emit)
    (t, .start stopSequences, caller) = second at hstream ⊢
  cases hstream with
  | answered tokenIds reason promptTokens promptTokens' last similar =>
      exact .answered tokenIds reason promptTokens promptTokens' last.1 last.2 similar
  | failed error error' x y last => exact .failed _ _ x y last.2

/-- A completion that goes on from a healthy session says what it says in a fresh one. -/
theorem complete_resumed (law : engine.model.toCausalModel.Deterministic fine Evaluated answer)
    {env env' : CallEnvironment Ω} (hfine : ∀ n, fine (env.world n))
    (hfine' : ∀ n, fine (env'.world n)) (request : ChatRequest V)
    (resumed : ∀ promptTokens, promptOf engine request = .ok promptTokens →
      Tracks engine.model.toCausalModel Evaluated answer
        (resume engine.model.toCausalModel promptTokens s))
    (ht : Tracks engine.model.toCausalModel Evaluated answer t) (empty : t.history = [])
    (aligned : ∀ promptTokens, promptOf engine request = .ok promptTokens →
      env.Aligned env' (resume engine.model.toCausalModel promptTokens s).history.length)
    (emit : TextCallback υ) (caller : υ) :
    SameCompletion (Evenly engine.model.toCausalModel Evaluated)
      (completeWithStopsInSession engine env request emit (s, caller))
      (completeWithStopsInSession engine env' request emit (t, caller)) := by
  cases hprompt : promptOf engine request with
  | error error =>
      rw [complete_refused env emit caller hprompt, complete_refused env' emit caller hprompt]
      exact .failed error error s t caller
  | ok promptTokens =>
      have hstart : resume engine.model.toCausalModel promptTokens t = t := by
        unfold resume
        rw [empty]
        rfl
      rw [complete_run env emit caller hprompt, complete_run env' emit caller hprompt,
        hstart, empty]
      have haligned := aligned promptTokens hprompt
      have hresumed := resumed promptTokens hprompt
      have hfront := resume_prefix engine.model.toCausalModel promptTokens s
      generalize resume engine.model.toCausalModel promptTokens s =
        start at haligned hresumed hfront ⊢
      obtain ⟨suffix, rfl⟩ := hfront
      rw [List.drop_left, List.length_nil, List.drop_zero]
      have hstreamed :=
        resumed_streamTokens law hfine hfine' haligned request.sampling
          request.stopSequences suffix emit
        caller hresumed ht empty
      exact hstreamed.assembled request _ _ _ emit

/-- A completion in a used session says what it says in a fresh one, and leaves the same history. -/
theorem complete_as_fresh (law : engine.model.toCausalModel.Deterministic fine Evaluated answer)
    (reached : Reached engine fine session) {alloc : GenerationSite → Bool} {world : Ω}
    {fresh : GenerationSession S}
    (hfresh : Generator.newSession engine.model.toCausalModel alloc world = .ok fresh)
    {env env' : CallEnvironment Ω} (hfine : ∀ n, fine (env.world n))
    (hfine' : ∀ n, fine (env'.world n)) (request : ChatRequest V)
    (aligned : ∀ promptTokens, promptOf engine request = .ok promptTokens →
      env.Aligned env' (resume engine.model.toCausalModel promptTokens session).history.length)
    (emit : TextCallback υ) (caller : υ) :
    SameCompletion (Evenly engine.model.toCausalModel Evaluated)
      (completeWithStopsInSession engine env request emit (session, caller))
      (completeWithStopsInSession engine env' request emit (fresh, caller)) := by
  have hs := reached.tracks law
  obtain ⟨ht, hempty⟩ := law.newSession_tracks hfresh
  apply complete_resumed law hfine hfine' request ?_ ht hempty aligned
  intro promptTokens _
  exact resume_tracks law promptTokens hs

/-- A model of one token that only counts. An evaluation that meets `true` fails. -/
def countingModel : SnapshotModel Bool Nat Unit where
  vocabularySize := 1
  contextLength := 8
  contextLength_le := by decide
  newSession _ := .ok 0
  resetSession _ := 0
  position session := session
  evaluateToken fault _ := fun state =>
    if fault then (.error (), state) else (.ok (), state.1 + 1, [F32.zero])
  modelFingerprint := ⟨List.replicate 32 0, length_zeros⟩
  exportKvSnapshot _ _ _ := .error ()
  restoreKvSnapshot _ _ _ := Command.raise ()

theorem countingModel_deterministic :
    countingModel.toCausalModel.Deterministic (fun fault => fault = false)
      (fun session history => session = history.length) fun _ => .ok [F32.zero] where
  opened _ session h := by
    cases h
    rfl
  reset _ _ _ := rfl
  position _ _ h := h
  evaluated fault session history tokenId logits hfine hposition _ := by
    cases hfine
    refine .answered () _ ⟨rfl, rfl, ?_⟩
    rw [hposition, List.length_append]
    rfl

/-- A tokenizer with a token for every `z`. -/
def countingTokenizer : Hy3Tokenizer Text where
  inner := ⟨fun text => .ok (List.replicate (text.count 'z') 0), fun ids _ =>
    .ok (ids.map fun _ => 'z'), fun ids _ state => (.ok (some (ids.map fun _ => 'z')), state)⟩
  serde := ⟨fun _ => false, id, some, fun _ _ => Option.some_inj, .ok, fun _ => none⟩
  eos := 0

def countingEngine : Hy3ChatEngine Bool Nat Unit Unit Unit Text :=
  ⟨countingModel, greedyHost, countingTokenizer, by decide⟩

def countingRequest (content : Text) : ChatRequest Text where
  messages := [.user content]
  template := ⟨true, .noThink, none, false, false, []⟩
  sampling := { SamplingConfig.default with temperature := .zero }
  stopSequences := []

def calmCall : CallEnvironment Bool := ⟨fun _ => true, fun _ => false, fun _ => false⟩

/-- A prompt of three tokens goes on from the two that the first completion has evaluated. -/
theorem complete_as_fresh_reused : ∃ session : GenerationSession Nat,
    session.history = [0, 0] ∧
    SameCompletion (Evenly countingModel.toCausalModel fun session history =>
      session = history.length)
      (completeWithStopsInSession countingEngine calmCall (countingRequest ['z', 'z', 'z'])
        (fun _ state => (false, state))
        (session, ()))
      (completeWithStopsInSession countingEngine calmCall (countingRequest ['z', 'z', 'z'])
        (fun _ state => (false, state))
        (⟨0, [], [F32.zero], false, true⟩, ())) := by
  have hfresh : Generator.newSession countingModel.toCausalModel (fun _ => true) false =
      .ok ⟨0, [], [F32.zero], false, true⟩ := rfl
  have hanswered : (completeWithStopsInSession countingEngine calmCall (countingRequest ['z'])
      (fun _ state => (false, state)) (⟨0, [], [F32.zero], false, true⟩, ())).1.isOk = true := by
      decide +kernel
  have hhistory : (completeWithStopsInSession countingEngine calmCall (countingRequest ['z'])
      (fun _ state => (false, state)) (⟨0, [], [F32.zero], false, true⟩, ())).2.1.history =
      [0, 0] := by decide +kernel
  rcases hrun : completeWithStopsInSession countingEngine calmCall (countingRequest ['z'])
    (fun _ state => (false, state))
    (⟨0, [], [F32.zero], false, true⟩, ()) with ⟨r, session, caller⟩
  rw [hrun] at hanswered hhistory
  cases r with
  | error error => cases hanswered
  | ok completion =>
      have hfine : ∀ n, calmCall.world n = false := fun _ => rfl
      refine ⟨session, hhistory, ?_⟩
      apply complete_as_fresh countingModel_deterministic
        (.completed (.opened _ _ hfresh) calmCall hfine _ _ () caller completion hrun)
          hfresh hfine hfine
      intro _ _
      exact .of_uncancelled rfl (fun _ => rfl) (fun _ => rfl) _

end Hy3ChatEngine
end LightBridge.Runtime
