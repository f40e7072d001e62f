import LightBridge.Hy3.Opening
import LightBridge.Runtime.ChatEngine
import LightBridge.Runtime.Hy3Model
import LightBridge.Runtime.Lockstep

/-! Completions one after another. Over sessions that a model answers alike they say the
same, whether they answer or fail. -/
namespace LightBridge.Runtime
open Foundation Command Tokenizer

variable {Ω S E R W V υ : Type}

namespace Hy3ChatEngine
variable {engine : Hy3ChatEngine Ω S E R W V} {fine : Ω → Prop}
    {Rel Failed : S × List F32 → S × List F32 → Prop}
  {s t : GenerationSession S}

theorem resume_paired (lock : engine.model.toCausalModel.Lockstep fine Rel Failed)
    (promptTokens : List Nat) (h : Similar Rel s t) :
    Similar Rel (resume engine.model.toCausalModel promptTokens s)
      (resume engine.model.toCausalModel promptTokens t) := by
  unfold resume
  rw [h.history]
  split
  · exact h
  · exact lock.resetSession h

theorem streamTokens_paired (lock : engine.model.toCausalModel.Lockstep fine Rel Failed)
    {env env' : CallEnvironment Ω} (hfine : ∀ n, fine (env.world n))
    (hfine' : ∀ n, fine (env'.world n)) (halloc : env'.alloc = env.alloc)
    (hcancelled : env'.cancelled = env.cancelled) (sampling : SamplingConfig)
    (stopSequences : List Text) (promptSuffix : List Nat) (emit : TextCallback υ) (caller : υ)
    (h : Similar Rel s t) :
    Paired (fun _ x y => Similar Rel x.1 y.1 ∧ y.2 = x.2)
      (fun x y => Similar Failed x.1 y.1 ∧ y.2 = x.2)
      (streamTokens engine env sampling stopSequences promptSuffix emit (s, caller))
      (streamTokens engine env' sampling stopSequences promptSuffix emit (t, caller)) := by
  have hstream := lock.generateStream hfine hfine' halloc hcancelled engine.host
    (sampling.insertStop engine.tokenizer.eos) promptSuffix (streamToken engine.tokenizer emit)
    (.start stopSequences, caller) h
  unfold streamTokens
  dsimp only
  generalize Generator.generateStream engine.model.toCausalModel engine.host env
    (sampling.insertStop engine.tokenizer.eos)
    promptSuffix (streamToken engine.tokenizer emit) (s, .start stopSequences, caller) =
      first at hstream ⊢
  generalize Generator.generateStream engine.model.toCausalModel engine.host env'
    (sampling.insertStop engine.tokenizer.eos) promptSuffix (streamToken engine.tokenizer emit)
    (t, .start stopSequences, caller) = second at hstream ⊢
  cases hstream with
  | answered outcome x y hxy =>
      obtain ⟨last, stream, caller'⟩ := x
      obtain ⟨last', rest⟩ := y
      obtain ⟨hsimilar, rfl⟩ := hxy
      exact .answered (outcome, stream) (last, caller') (last', caller') ⟨hsimilar, rfl⟩
  | failed error x y hxy =>
      obtain ⟨last, stream, caller'⟩ := x
      obtain ⟨last', rest⟩ := y
      obtain ⟨hsimilar, rfl⟩ := hxy
      exact .failed _ (last, caller') (last', caller') ⟨hsimilar, rfl⟩

/-- A completion goes alike over similar sessions. -/
theorem complete_paired (lock : engine.model.toCausalModel.Lockstep fine Rel Failed)
    {env env' : CallEnvironment Ω} (hfine : ∀ n, fine (env.world n))
    (hfine' : ∀ n, fine (env'.world n)) (halloc : env'.alloc = env.alloc)
    (hcancelled : env'.cancelled = env.cancelled) (request : ChatRequest V) (emit : TextCallback υ)
    (caller : υ) (h : Similar Rel s t) :
    Paired (fun _ x y => Similar Rel x.1 y.1 ∧ y.2 = x.2)
      (fun x y => Similar Failed x.1 y.1 ∧ y.2 = x.2)
      (completeWithStopsInSession engine env request emit (s, caller))
      (completeWithStopsInSession engine env' request emit (t, caller)) := by
  cases hprompt : promptOf engine request with
  | error error =>
      rw [complete_refused env emit caller hprompt, complete_refused env' emit caller hprompt]
      exact .failed error _ _ ⟨h.mono lock.failed, rfl⟩
  | ok promptTokens =>
      have hresumed := resume_paired lock promptTokens h
      rw [complete_run env emit caller hprompt, complete_run env' emit caller hprompt,
        hresumed.history]
      apply (streamTokens_paired lock hfine hfine' halloc hcancelled _ _ _ emit caller
        hresumed).bind
      rintro ⟨outcome, stream⟩ ⟨last, caller'⟩ ⟨last', _⟩ ⟨hlast, rfl⟩
      apply Paired.zoom
      dsimp only
      generalize assemble engine request promptTokens
        (resume engine.model.toCausalModel promptTokens s).history.length emit outcome
          stream _ = ended
      rcases ended with ⟨r, caller''⟩
      cases r with
      | ok completion => exact .answered completion caller'' caller'' ⟨hlast, rfl⟩
      | error error => exact .failed error caller'' caller'' ⟨hlast.mono lock.failed, rfl⟩

/-- What a program asks of a session, one request after the other. -/
abbrev Calls (Ω V : Type) : Type := List (CallEnvironment Ω × ChatRequest V)

/-- The answers of the completions, and what they leave. -/
def completions (engine : Hy3ChatEngine Ω S E R W V) (emit : TextCallback υ) :
    Calls Ω V → GenerationSession S × υ →
      List (Except (ChatEngineError E TokenizerError) (ChatCompletion V)) × GenerationSession S × υ
  | [], state => ([], state)
  | (env, request) :: calls, state =>
      let ended := completeWithStopsInSession engine env request emit state
      let rest := completions engine emit calls ended.2
      (ended.1 :: rest.1, rest.2)

/-- The same request in two environments without faults. -/
structure SameCall (fine : Ω → Prop) (call call' : CallEnvironment Ω × ChatRequest V) : Prop where
  request : call'.2 = call.2
  alloc : call'.1.alloc = call.1.alloc
  cancelled : call'.1.cancelled = call.1.cancelled
  calm : ∀ n, fine (call.1.world n)
  calm' : ∀ n, fine (call'.1.world n)

/-- Similar sessions answer every sequence of requests alike, and stay similar. -/
theorem completions_paired (engine : Hy3ChatEngine Ω S E R W V)
    (lock : engine.model.toCausalModel.Lockstep fine Rel Rel) (emit : TextCallback υ)
    {calls calls' : Calls Ω V} (hcalls : List.Forall₂ (SameCall fine) calls calls') (caller : υ)
    (h : Similar Rel s t) :
    (completions engine emit calls' (t, caller)).1 = (completions engine emit calls (s, caller)).1 ∧
      Similar Rel (completions engine emit calls (s, caller)).2.1
        (completions engine emit calls' (t, caller)).2.1 ∧
      (completions engine emit calls' (t, caller)).2.2 =
      (completions engine emit calls (s, caller)).2.2 := by
  induction hcalls generalizing s t caller with
  | nil => exact ⟨rfl, h, rfl⟩
  | @cons call call' _ _ hcall _ ih =>
      obtain ⟨env, first⟩ := call
      obtain ⟨env', request⟩ := call'
      obtain ⟨rfl, halloc, hcancelled, hcalm, hcalm'⟩ := hcall
      have hfirst := complete_paired lock hcalm hcalm' halloc hcancelled request emit caller h
      dsimp only [completions]
      generalize completeWithStopsInSession engine env request emit (s, caller) = first at hfirst ⊢
      generalize completeWithStopsInSession engine env' request emit (t, caller) =
        second at hfirst ⊢
      cases hfirst with
      | answered completion x y hxy =>
          obtain ⟨s', first⟩ := x
          obtain ⟨t', caller'⟩ := y
          obtain ⟨hsimilar, rfl⟩ := hxy
          obtain ⟨hanswers, hlast⟩ := ih caller' hsimilar
          exact ⟨congrArg _ hanswers, hlast⟩
      | failed error x y hxy =>
          obtain ⟨s', first⟩ := x
          obtain ⟨t', caller'⟩ := y
          obtain ⟨hsimilar, rfl⟩ := hxy
          obtain ⟨hanswers, hlast⟩ := ih caller' hsimilar
          exact ⟨congrArg _ hanswers, hlast⟩

end Hy3ChatEngine
end LightBridge.Runtime

namespace LightBridge.Hy3
open Foundation Kernels ExpertCache LightBridge.Runtime
variable {ε : Type} {model : Hy3ScalarModel}

/-- Sessions of the scalar model that no later call tells apart, with their logits. -/
def Matched (model : Hy3ScalarModel) (x y : Hy3ScalarSession × List F32) : Prop :=
  Sound model x.1 ∧ Resembles x.1 y.1 ∧ y.2 = x.2

theorem resetSession_resembles {s t : Hy3ScalarSession} (h : Resembles s t) :
    Resembles (Hy3ScalarModel.resetSession s) (Hy3ScalarModel.resetSession t) := by
  obtain ⟨cache, hrun, hwf, hconfig, hview⟩ := h.cache.left.reset
  obtain ⟨cache', hrun', hwf', hconfig', hview'⟩ := h.cache.right.reset
  unfold Hy3ScalarModel.resetSession
  rw [hrun, hrun']
  refine ⟨⟨hwf, hwf', hconfig'.trans (h.cache.config.trans hconfig.symm), hview'.trans hview.symm⟩,
    rfl, ?_, cleared_idle _ _, cleared_idle _ _⟩
  rw [cleared_shape, cleared_shape]
  exact h.shape

/-- The scalar model answers matched sessions alike on hosts without faults. -/
theorem Hy3ScalarModel.lockstep (N : Numerics) (sha : Sha256) (source : ExpertKey → List UInt8)
    (capacity : model.contextCapacity ≤ usizeMax) :
    (model.causal (ε := ε) N sha capacity).toCausalModel.Lockstep
      (fun world => world.evaluation.Healthy model source) (Matched model) (Matched model) where
  logits _ _ h := h.2.2
  position _ _ h := h.2.1.position
  failed _ _ h := h
  reset x y h := ⟨resetSession_sound h.1, resetSession_resembles h.2.1, by rw [h.2.2]⟩
  evaluated env env' x y hfine hfine' h tokenId := by
    obtain ⟨s, logits⟩ := x
    obtain ⟨t, buffer⟩ := y
    obtain ⟨hsound, hresembles, hlogits⟩ := h
    dsimp only at hsound hresembles hlogits
    subst hlogits
    have hpaired := evaluate_paired N hfine hfine' tokenId buffer hsound hresembles
    have hends := evaluate_ends N env.evaluation tokenId buffer hsound
    change Command.Paired _ _ (evaluate N env.evaluation model tokenId (s, buffer))
      (evaluate N env'.evaluation model tokenId (t, buffer))
    generalize evaluate N env.evaluation model tokenId (s, buffer) = first at hpaired hends ⊢
    generalize evaluate N env'.evaluation model tokenId (t, buffer) = second at hpaired ⊢
    cases hpaired with
    | answered _ a b hab => exact .answered () a b ⟨(hends.of_ok rfl).sound, hab⟩
    | failed e a b hab => exact .failed e a b ⟨(hends.of_error rfl).2.1.sound hsound, hab⟩

end LightBridge.Hy3

