import LightBridge.Hy3.Faults
import LightBridge.Runtime.Completions
import LightBridge.Runtime.Leaving
import LightBridge.Runtime.Preserved

/-! Completions on a host with faults, beside a healthy one: those that answer say the same, and
those that fail have streamed a part of it. -/
namespace LightBridge.Runtime
open Foundation Command Tokenizer

variable {Ω S E R W τ : Type}

/-- Where an evaluation of a model answers in a `rough` environment, it answers alike in a `fine`
one, and keeps the sessions related. -/
structure CausalModel.Faltering (model : CausalModel Ω S E) (rough fine : Ω → Prop)
    (Rel : S × List F32 → S × List F32 → Prop) : Prop where
  logits : ∀ x y, Rel x y → y.2 = x.2
  position : ∀ x y, Rel x y → model.position y.1 = model.position x.1
  reset : ∀ x y, Rel x y →
    Rel (model.resetSession x.1, x.2.map fun _ => .zero)
      (model.resetSession y.1, y.2.map fun _ => .zero)
  evaluated : ∀ env env' x y, rough env → fine env' → Rel x y → ∀ tokenId,
    Falters (fun _ => Rel) (fun _ _ => True) (model.evaluateToken env tokenId x)
      (model.evaluateToken env' tokenId y)

/-- A callback only adds to what it has. -/
structure Extends {α τ : Type} (le : τ → τ → Prop) (emit : α → τ → Bool × τ) : Prop where
  refl : ∀ state, le state state
  step : ∀ value state state', le state state' → le state (emit value state').2

/-- A call in a rough environment, where memory may be refused, and the same call in a fine one,
where all of it is granted. -/
structure Rougher (rough fine : Ω → Prop) (env env' : CallEnvironment Ω) : Prop where
  rough : ∀ n, rough (env.world n)
  fine : ∀ n, fine (env'.world n)
  granted : env'.alloc = fun _ => true
  cancelled : env'.cancelled = env.cancelled

theorem Sampler.new_granted (host : SamplerHost R W) (alloc : GenerationSite → Bool)
    (config : SamplingConfig) (vocabularySize : Nat) :
    AnswersAs (Sampler.new host alloc config vocabularySize)
      (Sampler.new host (fun _ => true) config vocabularySize) := by
  unfold Sampler.new
  refine .bind (.refl _) fun _ _ => .bind ?_ fun _ _ => .bind ?_ fun _ _ => .refl _
  · exact fun _ h => ensure_eq_ok.mpr (tryReserve_mono (ensure_eq_ok.mp h))
  · exact fun _ h => ensure_eq_ok.mpr (tryReserve_mono (ensure_eq_ok.mp h))

namespace CausalModel.Faltering
variable {model : CausalModel Ω S E} {rough fine : Ω → Prop}
  {Rel : S × List F32 → S × List F32 → Prop} {s t : GenerationSession S}
  {env env' : CallEnvironment Ω}

theorem evaluate (h : model.Faltering rough fine Rel) {world world' : Ω} (hrough : rough world)
    (hfine : fine world') (tokenId : Nat) (hs : Similar Rel s t) :
    Falters (fun _ => Similar Rel) (fun _ _ => True) (Generator.evaluate model world tokenId s)
      (Generator.evaluate model world' tokenId t) := by
  have hstep := h.evaluated world world' _ _ hrough hfine hs.related tokenId
  unfold Generator.evaluate
  rcases hleft : model.evaluateToken world tokenId (s.model, s.logits) with ⟨r, x⟩
  rcases hright : model.evaluateToken world' tokenId (t.model, t.logits) with ⟨r', y⟩
  rw [hleft, hright] at hstep
  cases hstep with
  | answered _ _ _ hrelated =>
      refine .answered () _ _ ⟨hrelated, ?_, rfl, hs.healthy⟩
      change t.history ++ [tokenId] = s.history ++ [tokenId]
      rw [hs.history]
  | failed error r' _ _ _ => exact .failed _ _ _ _ trivial

theorem resetSession (h : model.Faltering rough fine Rel) (hs : Similar Rel s t) :
    Similar Rel (Generator.reset model s) (Generator.reset model t) :=
  ⟨h.reset _ _ hs.related, rfl, rfl, rfl⟩

theorem prepare (h : model.Faltering rough fine Rel) (alloc : GenerationSite → Bool)
    (config : SamplingConfig) (promptTokens : List Nat) (hs : Similar Rel s t) :
    AnswersAs (Generator.prepare model alloc config promptTokens s)
      (Generator.prepare model (fun _ => true) config promptTokens t) := by
  intro limit hlimit
  have hadmitted := Generator.prepare_eq_ok_iff.mp hlimit
  have hposition : model.position t.model = model.position s.model := h.position _ _ hs.related
  refine Generator.prepare_eq_ok_iff.mpr ⟨hadmitted.valid, ?_, hadmitted.known, ?_, ?_, ?_, ?_, ?_⟩
  · rw [hs.healthy, hadmitted.healthy]
  · rw [hposition]
    exact hadmitted.room
  · rw [hs.hasLogits]
    exact hadmitted.prompt
  · rw [hposition]
    exact hadmitted.limit
  · rw [hs.history]
    exact tryReserve_mono hadmitted.history
  · exact tryReserve_mono hadmitted.generated

/-- The prompt loop. -/
theorem prefill (h : model.Faltering rough fine Rel) (henv : Rougher rough fine env env')
    (tokens : List Nat) :
    ∀ (index : Nat) (s t : GenerationSession S), Similar Rel s t →
      Falters (fun _ => Similar Rel) (fun _ _ => True) (Generator.prefill model env index tokens s)
        (Generator.prefill model env' index tokens t) := by
  induction tokens with
  | nil =>
      intro index s t hs
      exact .answered true s t hs
  | cons tokenId rest ih =>
      intro index s t hs
      unfold Generator.prefill
      rw [henv.cancelled]
      split
      · exact .answered false s t hs
      · apply (h.evaluate (henv.rough index) (henv.fine index) tokenId hs).bind
        · exact fun _ s' t' hnext => ih (index + 1) s' t' hnext
        · exact fun _ _ _ _ => trivial

end CausalModel.Faltering

section Generation
variable {model : CausalModel Ω S E} {rough fine : Ω → Prop}
  {Rel : S × List F32 → S × List F32 → Prop} {s t : GenerationSession S}
  {env env' : CallEnvironment Ω} {le : τ → τ → Prop} {emit : Callback τ}

/-- The decoding loop. -/
theorem CausalModel.Faltering.decode (h : model.Faltering rough fine Rel)
    (henv : Rougher rough fine env env') (hemit : Extends le emit) (host : SamplerHost R W)
    (config : SamplingConfig) (promptLength : Nat) (exhausted : StopReason) (remaining : Nat) :
    ∀ (index : Nat) (sampler : Sampler R) (generated : List Nat) (s t : GenerationSession S)
      (caller : τ), Similar Rel s t →
      Falters (fun _ x y => Similar Rel x.1 y.1 ∧ y.2 = x.2) (Behind le)
        (Generator.decode model host env config emit promptLength exhausted remaining index sampler
          generated (s, caller))
        (Generator.decode model host env' config emit promptLength exhausted remaining index
          sampler generated (t, caller)) := by
  induction remaining with
  | zero =>
      intro index sampler generated s t caller hs
      exact .answered _ _ _ ⟨hs, rfl⟩
  | succ remaining ih =>
      intro index sampler generated s t caller hs
      have hlogits : t.logits = s.logits := h.logits _ _ hs.related
      unfold Generator.decode
      rw [henv.cancelled]
      split
      · exact .answered _ _ _ ⟨hs, rfl⟩
      · apply Falters.read_bind
        dsimp only
        rw [hlogits, hs.history]
        refine Falters.check_bind (G := Behind le) (s := (s, caller)) (t := (t, caller))
          (hemit.refl caller) fun tokenId _ => ?_
        refine Falters.bind (Q := fun _ x y => Similar Rel x.1 y.1 ∧ y.2 = x.2) ?_ ?_ ?_
        · apply Falters.zoom
          apply (h.evaluate (henv.rough _) (henv.fine _) tokenId hs).mono
          · exact fun _ s' t' hnext => ⟨hnext, rfl⟩
          · exact fun _ _ _ => hemit.refl caller
        · rintro _ ⟨s', caller'⟩ ⟨t', _⟩ ⟨hnext, rfl⟩
          refine Falters.bind (Q := fun _ x y => Similar Rel x.1 y.1 ∧ y.2 = x.2) ?_ ?_ ?_
          · apply Falters.zoom
            unfold Generator.emitToken
            dsimp only
            split
            · exact .answered _ _ _ ⟨hnext, rfl⟩
            · exact .answered _ _ _ ⟨hnext, rfl⟩
          · rintro ⟨generated', reason⟩ ⟨s'', caller''⟩ ⟨t'', _⟩ ⟨hlast, rfl⟩
            cases reason with
            | some reason => exact .answered _ _ _ ⟨hlast, rfl⟩
            | none => exact ih (index + 1) _ generated' s'' t'' _ hlast
          · rintro ⟨generated', reason⟩ x
            cases reason with
            | some reason => exact fun _ hy => hy
            | none =>
                dsimp only
                exact decode_keeps (fun token => hemit.step token x.2) model host env' config
                  promptLength exhausted remaining (index + 1) _ generated'
        · rintro _ x
          refine Keeps.bind ?_ ?_
          · exact fun y hy => emitToken_keeps (E := E) (fun token => hemit.step token x.2) config
              ⟨_, index⟩ generated y.2 hy
          · rintro ⟨generated', reason⟩
            cases reason with
            | some reason => exact fun _ hy => hy
            | none =>
                dsimp only
                exact decode_keeps (fun token => hemit.step token x.2) model host env' config
                  promptLength exhausted remaining (index + 1) _ generated'

theorem CausalModel.Faltering.generateStream (h : model.Faltering rough fine Rel)
    (henv : Rougher rough fine env env') (hemit : Extends le emit) (host : SamplerHost R W)
    (config : SamplingConfig) (promptTokens : List Nat) (caller : τ) (hs : Similar Rel s t) :
    Falters (fun _ x y => Similar Rel x.1 y.1 ∧ y.2 = x.2) (Behind le)
      (Generator.generateStream model host env config promptTokens emit (s, caller))
      (Generator.generateStream model host env' config promptTokens emit (t, caller)) := by
  have hrefl := hemit.refl caller
  cases hlimit : Generator.prepare model env.alloc config promptTokens s with
  | error error =>
      have hrefused : Generator.generateStream model host env config promptTokens emit (s, caller) =
          (.error error, s, caller) := by
        unfold Generator.generateStream
        rw [bind_of_ok (read_run _)]
        dsimp only
        rw [hlimit, bind_of_error (lift_run _ _)]
      have hkeeps := ((simulates_of_keeps fun token => hemit.step token caller).generateStream model
        host env' config promptTokens t ⟨rfl, hrefl⟩).kept
      rw [hrefused]
      generalize Generator.generateStream model host env' config promptTokens emit (t, caller) = y
        at hkeeps ⊢
      exact .failed error y.1 _ y.2 hkeeps
  | ok limit =>
      have hlimit' := h.prepare env.alloc config promptTokens hs limit hlimit
      unfold Generator.generateStream
      apply Falters.read_bind
      dsimp only
      rw [henv.granted, hlimit, hlimit', henv.cancelled]
      refine Falters.check_bind (G := Behind le) (s := (s, caller)) (t := (t, caller)) hrefl
        fun _ hsame => ?_
      cases hsame
      split
      · exact .answered _ _ _ ⟨hs, rfl⟩
      · refine Falters.bind (Q := fun _ x y => Similar Rel x.1 y.1 ∧ y.2 = x.2) ?_ ?_ ?_
        · apply Falters.zoom
          apply (h.prefill henv promptTokens 0 s t hs).mono
          · exact fun _ s' t' hnext => ⟨hnext, rfl⟩
          · exact fun _ _ _ => hrefl
        · rintro absorbed ⟨s', caller'⟩ ⟨t', _⟩ ⟨hnext, rfl⟩
          cases absorbed with
          | false =>
              apply Falters.read_bind
              dsimp only
              rw [hnext.history]
              exact .answered _ _ _ ⟨hnext, rfl⟩
          | true =>
              refine Falters.lift_bind (wrap_answersAs (Sampler.new_granted host env.alloc config
                model.vocabularySize)) (hemit.refl _) ?_ ?_
              · intro sampler _
                apply (h.decode henv hemit host config _ _ limit 0 sampler [] s' t' _ hnext).bind
                · rintro ⟨generated, reason⟩ x y hxy
                  exact .answered _ x y hxy
                · exact fun _ _ _ hy => hy
              · intro sampler
                refine Keeps.bind ?_ fun _ _ hstate => hstate
                exact decode_keeps (fun token => hemit.step token _) model host env' config _ _
                  limit 0 sampler []
        · intro absorbed x
          cases absorbed with
          | false => exact fun _ hy => hy
          | true =>
              refine Keeps.bind (Keeps.lift _ _) fun sampler => Keeps.bind ?_ fun _ _ hy => hy
              exact decode_keeps (fun token => hemit.step token x.2) model host env' config _ _
                limit 0 sampler []

end Generation

/-! ### Completions -/

namespace Hy3ChatEngine
variable {V υ : Type} {engine : Hy3ChatEngine Ω S E R W V} {rough fine : Ω → Prop}
  {Rel : S × List F32 → S × List F32 → Prop} {s t : GenerationSession S}
  {env env' : CallEnvironment Ω} {le : υ → υ → Prop} {emit : TextCallback υ}

theorem streamToken_extends (hemit : Extends le emit) (tokenizer : Hy3Tokenizer V) :
    Extends (Behind le) (streamToken tokenizer emit) := by
  constructor
  · exact fun state => hemit.refl state.2
  · rintro token state ⟨stream, caller⟩ hstate
    rcases streamToken_caller tokenizer emit token stream caller with hkept | ⟨text, htext⟩
    · rw [Behind, hkept]
      exact hstate
    · rw [Behind, htext]
      exact emitText_keeps (fun text caller => hemit.step text state.2 caller) text hstate

theorem resume_similar (h : engine.model.toCausalModel.Faltering rough fine Rel)
    (promptTokens : List Nat) (hs : Similar Rel s t) :
    Similar Rel (resume engine.model.toCausalModel promptTokens s)
      (resume engine.model.toCausalModel promptTokens t) := by
  unfold resume
  rw [hs.history]
  split
  · exact hs
  · exact h.resetSession hs

theorem streamTokens_falters (h : engine.model.toCausalModel.Faltering rough fine Rel)
    (henv : Rougher rough fine env env') (hemit : Extends le emit) (sampling : SamplingConfig)
    (stopSequences : List Text) (promptSuffix : List Nat) (caller : υ) (hs : Similar Rel s t) :
    Falters (fun _ x y => Similar Rel x.1 y.1 ∧ y.2 = x.2) (Behind le)
      (streamTokens engine env sampling stopSequences promptSuffix emit (s, caller))
      (streamTokens engine env' sampling stopSequences promptSuffix emit (t, caller)) := by
  have hstream := h.generateStream henv (streamToken_extends hemit engine.tokenizer) engine.host
    (sampling.insertStop engine.tokenizer.eos) promptSuffix (.start stopSequences, caller) hs
  unfold streamTokens
  dsimp only
  generalize Generator.generateStream engine.model.toCausalModel engine.host env
    (sampling.insertStop engine.tokenizer.eos) promptSuffix (streamToken engine.tokenizer emit)
    (s, .start stopSequences, caller) = first at hstream ⊢
  generalize Generator.generateStream engine.model.toCausalModel engine.host env'
    (sampling.insertStop engine.tokenizer.eos) promptSuffix (streamToken engine.tokenizer emit)
    (t, .start stopSequences, caller) = second at hstream ⊢
  cases hstream with
  | answered outcome x y hxy =>
      obtain ⟨last, stream, caller'⟩ := x
      obtain ⟨last', rest⟩ := y
      obtain ⟨hsimilar, rfl⟩ := hxy
      exact .answered (outcome, stream) (last, caller') (last', caller') ⟨hsimilar, rfl⟩
  | failed error r x y hxy =>
      obtain ⟨last, stream, caller'⟩ := x
      obtain ⟨last', stream', caller''⟩ := y
      cases r with
      | ok outcome => exact .failed _ _ _ _ hxy
      | error error' => exact .failed _ _ _ _ hxy

/-- A completion that answers on a host with faults answers as on a healthy one; one that fails has
streamed a part of what the healthy one streams. -/
theorem complete_falters (h : engine.model.toCausalModel.Faltering rough fine Rel)
    (henv : Rougher rough fine env env') (hemit : Extends le emit) (request : ChatRequest V)
    (caller : υ) (hs : Similar Rel s t) :
    Falters (fun _ x y => Similar Rel x.1 y.1 ∧ y.2 = x.2) (Behind le)
      (completeWithStopsInSession engine env request emit (s, caller))
      (completeWithStopsInSession engine env' request emit (t, caller)) := by
  cases hprompt : promptOf engine request with
  | error error =>
      rw [complete_refused env emit caller hprompt, complete_refused env' emit caller hprompt]
      exact .failed error _ _ _ (hemit.refl caller)
  | ok promptTokens =>
      have hresumed := resume_similar h promptTokens hs
      rw [complete_run env emit caller hprompt, complete_run env' emit caller hprompt,
        hresumed.history]
      apply (streamTokens_falters h henv hemit _ _ _ caller hresumed).bind
      · rintro ⟨outcome, stream⟩ ⟨last, caller'⟩ ⟨last', _⟩ ⟨hlast, rfl⟩
        apply Falters.zoom
        dsimp only
        generalize assemble engine request promptTokens
          (resume engine.model.toCausalModel promptTokens s).history.length emit outcome
            stream _ = ended
        rcases ended with ⟨r, caller''⟩
        cases r with
        | ok completion => exact .answered completion caller'' caller'' ⟨hlast, rfl⟩
        | error error => exact .failed error _ caller'' caller'' (hemit.refl caller'')
      · rintro ⟨outcome, stream⟩ x y hy
        exact assemble_keeps (fun text caller => hemit.step text x.2 caller) engine request
          promptTokens _ outcome stream y.2 hy

/-- The session of a completion is opened as on a healthy host, or not at all. -/
theorem completeWithStops_falters (h : engine.model.toCausalModel.Faltering rough fine Rel)
    (henv : Rougher rough fine env env') (hemit : Extends le emit) (request : ChatRequest V)
    {opening opening' : Ω}
    (hopening : ∀ session,
      Generator.newSession engine.model.toCausalModel env.alloc opening = .ok session →
      Generator.newSession engine.model.toCausalModel env'.alloc opening' = .ok session ∧
        Similar Rel session session) (caller : υ) :
    Falters (fun _ x y => y = x) le (completeWithStops engine opening env request emit caller)
      (completeWithStops engine opening' env' request emit caller) := by
  unfold completeWithStops
  cases hopened : Generator.newSession engine.model.toCausalModel env.alloc opening with
  | error error =>
      refine .failed _ _ _ _ ?_
      have hkeeps := completeWithStops_keeps (fun text caller' => hemit.step text caller caller')
        engine opening' env' request caller (hemit.refl caller)
      exact hkeeps
  | ok session =>
      obtain ⟨hsame, hsimilar⟩ := hopening session hopened
      rw [hsame]
      have hrun := complete_falters h henv hemit request caller hsimilar
      dsimp only
      generalize completeWithStopsInSession engine env request emit (session, caller) = x at hrun ⊢
      generalize completeWithStopsInSession engine env' request emit (session, caller) = y
        at hrun ⊢
      cases hrun with
      | answered completion x y hxy => exact .answered completion x.2 y.2 hxy.2
      | failed error r x y hxy => exact .failed error r x.2 y.2 hxy

/-! ### Completions one after another -/

/-- The same request in a rough environment and in a fine one. -/
structure RougherCall (rough fine : Ω → Prop) (call call' : CallEnvironment Ω × ChatRequest V) :
    Prop where
  request : call'.2 = call.2
  env : Rougher rough fine call.1 call'.1

/-- What a program gets that asks one request after the other and gives up at the first failure:
the completions, the failure, and what its callback has. -/
def untilFailure (engine : Hy3ChatEngine Ω S E R W V) (emit : TextCallback υ) :
    Calls Ω V → GenerationSession S × υ →
      List (ChatCompletion V) × Option (ChatEngineError E TokenizerError) × υ
  | [], state => ([], none, state.2)
  | (env, request) :: calls, state =>
      match completeWithStopsInSession engine env request emit state with
      | (.ok completion, state) =>
          let rest := untilFailure engine emit calls state
          (completion :: rest.1, rest.2)
      | (.error error, state) => ([], some error, state.2)

theorem untilFailure_keeps {K : υ → Prop} (hK : ∀ text caller, K caller → K (emit text caller).2)
    (calls : Calls Ω V) :
    ∀ state : GenerationSession S × υ, K state.2 →
      K (untilFailure engine emit calls state).2.2 := by
  induction calls with
  | nil => exact fun state hstate => hstate
  | cons call calls ih =>
      rintro ⟨session, caller⟩ (hstate : K caller)
      have hkept := (complete_simulates (simulates_of_keeps hK) engine call.1 call.2 session
        ⟨rfl, hstate⟩).kept
      unfold untilFailure
      generalize completeWithStopsInSession engine call.1 call.2 emit (session, caller) = ended
        at hkept ⊢
      obtain ⟨r, state⟩ := ended
      cases r with
      | ok completion => exact ih state hkept
      | error error => exact hkept

/-- A program gets the same from a host with faults as from a healthy one, or a failure behind a
part of it. -/
theorem untilFailure_falters (h : engine.model.toCausalModel.Faltering rough fine Rel)
    (hemit : Extends le emit) {calls calls' : Calls Ω V}
    (hcalls : List.Forall₂ (RougherCall rough fine) calls calls') (caller : υ)
    (hs : Similar Rel s t) :
    untilFailure engine emit calls (s, caller) = untilFailure engine emit calls' (t, caller) ∨
      (untilFailure engine emit calls (s, caller)).2.1.isSome ∧
      (untilFailure engine emit calls (s, caller)).1 <+:
        (untilFailure engine emit calls' (t, caller)).1 ∧
      le (untilFailure engine emit calls (s, caller)).2.2
        (untilFailure engine emit calls' (t, caller)).2.2 := by
  induction hcalls generalizing s t caller with
  | nil => exact .inl rfl
  | @cons call call' _ calls' hcall _ ih =>
      obtain ⟨env, first⟩ := call
      obtain ⟨env', request⟩ := call'
      obtain ⟨rfl, henv⟩ := hcall
      have hfirst := complete_falters h henv hemit request caller hs
      dsimp only [untilFailure]
      generalize completeWithStopsInSession engine env request emit (s, caller) = first at hfirst ⊢
      generalize completeWithStopsInSession engine env' request emit (t, caller) =
        second at hfirst ⊢
      cases hfirst with
      | answered completion x y hxy =>
          obtain ⟨s', first⟩ := x
          obtain ⟨t', caller'⟩ := y
          obtain ⟨hsimilar, rfl⟩ := hxy
          rcases ih caller' hsimilar with hsame | ⟨hfailed, hanswers, hcaller⟩
          · left
            dsimp only
            rw [hsame]
          · exact .inr ⟨hfailed, (List.prefix_cons_inj completion).mpr hanswers, hcaller⟩
      | failed error r x y hxy =>
          refine .inr ⟨rfl, List.nil_prefix, ?_⟩
          cases r with
          | error error' => exact hxy
          | ok completion =>
              exact untilFailure_keeps (fun text caller => hemit.step text x.2 caller) calls' y hxy

end Hy3ChatEngine
end LightBridge.Runtime

namespace LightBridge.Hy3
open Foundation Kernels LightBridge.Runtime
variable {ε : Type} {model : Hy3ScalarModel}

/-- The scalar model falters on a host whose cache it shares, beside a healthy one. -/
theorem Hy3ScalarModel.faltering (N : Numerics) (sha : Sha256) (source : ExpertKey → List UInt8)
    (capacity : model.contextCapacity ≤ usizeMax) :
    (model.causal (ε := ε) N sha capacity).toCausalModel.Faltering
      (fun world => world.evaluation.Shared model source)
      (fun world => world.evaluation.Healthy model source) (Matched model) where
  logits _ _ h := h.2.2
  position _ _ h := h.2.1.position
  reset x y h := ⟨resetSession_sound h.1, resetSession_resembles h.2.1, by rw [h.2.2]⟩
  evaluated env env' x y hrough hfine h tokenId := by
    obtain ⟨s, logits⟩ := x
    obtain ⟨t, buffer⟩ := y
    obtain ⟨hsound, hresembles, hlogits⟩ := h
    dsimp only at hsound hresembles hlogits
    subst hlogits
    have hstep := evaluate_falters N hrough hfine tokenId buffer hsound hresembles
    have hends := evaluate_ends N env.evaluation tokenId buffer hsound
    change Command.Falters _ _ (evaluate N env.evaluation model tokenId (s, buffer))
      (evaluate N env'.evaluation model tokenId (t, buffer))
    generalize evaluate N env.evaluation model tokenId (s, buffer) = first at hstep hends ⊢
    generalize evaluate N env'.evaluation model tokenId (t, buffer) = second at hstep ⊢
    cases hstep with
    | answered _ a b hab => exact .answered () a b ⟨(hends.of_ok rfl).sound, hab⟩
    | failed e r a b _ => exact .failed e r a b trivial

end LightBridge.Hy3
