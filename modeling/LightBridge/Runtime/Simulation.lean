import LightBridge.Runtime.ChatEngine

/-! Completions under two callbacks that answer alike: whatever they keep of the texts, the model
is asked the same and says the same. -/
namespace LightBridge.Runtime
open Foundation Command Tokenizer

/-- From related states the callbacks answer alike, and leave related states. -/
def Simulates {α τ τ' : Type} (Rel : τ → τ' → Prop) (emit : α → τ → Bool × τ)
    (emit' : α → τ' → Bool × τ') : Prop :=
  ∀ value state state', Rel state state' →
    (emit value state).1 = (emit' value state').1 ∧ Rel (emit value state).2 (emit' value state').2

/-- One session under two callbacks. -/
def Beside {σ τ τ' : Type} (Rel : τ → τ' → Prop) (x : σ × τ) (y : σ × τ') : Prop :=
  x.1 = y.1 ∧ Rel x.2 y.2

/-- Two runs that only the states of their callbacks tell apart. -/
abbrev RunBeside {σ τ τ' ε α : Type} (Rel : τ → τ' → Prop) :
    Except ε α × σ × τ → Except ε α × σ × τ' → Prop :=
  Paired (fun _ x y => Beside Rel x y) (Beside Rel)

section Generation
variable {Ω S E R W τ τ' : Type} {Rel : τ → τ' → Prop} {emit : Callback τ} {emit' : Callback τ'}

theorem RunBeside.zoom_fst {σ ε α : Type} (c : Command σ ε α) {s : σ} {state : τ} {state' : τ'}
    (h : Rel state state') :
    RunBeside Rel (c.zoom Prod.fst (fun session state => (session, state.2)) (s, state))
      (c.zoom Prod.fst (fun session state => (session, state.2)) (s, state')) := by
  refine Paired.zoom ?_
  dsimp only
  rcases c s with ⟨r, s'⟩
  cases r with
  | ok a => exact .answered a s' s' ⟨rfl, h⟩
  | error e => exact .failed e s' s' ⟨rfl, h⟩

theorem Simulates.emitToken (h : Simulates Rel emit emit') (config : SamplingConfig)
    (token : GeneratedToken) (generated : List Nat) {state : τ} {state' : τ'}
    (hstate : Rel state state') :
    Paired (ε := GenerationError E) (fun _ => Rel) Rel
      (Generator.emitToken config emit token generated state)
      (Generator.emitToken config emit' token generated state') := by
  obtain ⟨hanswer, hnext⟩ := h token state state' hstate
  unfold Generator.emitToken
  dsimp only
  split
  · rw [hanswer]
    exact .answered _ _ _ hnext
  · exact .answered _ _ _ hstate

/-- The decoding loop. -/
theorem Simulates.decode (h : Simulates Rel emit emit') (model : CausalModel Ω S E)
    (host : SamplerHost R W) (env : CallEnvironment Ω) (config : SamplingConfig)
    (promptLength : Nat) (exhausted : StopReason) (remaining : Nat) :
    ∀ (index : Nat) (sampler : Sampler R) (generated : List Nat) (session : GenerationSession S)
      (state : τ) (state' : τ'), Rel state state' →
      RunBeside Rel
        (Generator.decode model host env config emit promptLength exhausted remaining index sampler
          generated (session, state))
        (Generator.decode model host env config emit' promptLength exhausted remaining index
          sampler generated (session, state')) := by
  induction remaining with
  | zero =>
      intro index sampler generated session state state' hstate
      exact .answered _ _ _ ⟨rfl, hstate⟩
  | succ remaining ih =>
      intro index sampler generated session state state' hstate
      unfold Generator.decode
      split
      · exact .answered _ _ _ ⟨rfl, hstate⟩
      · apply Paired.read_bind
        apply Paired.lift_bind rfl ⟨rfl, hstate⟩
        intro tokenId _
        apply (RunBeside.zoom_fst _ hstate).bind
        rintro _ ⟨last, kept⟩ ⟨_, kept'⟩ ⟨rfl, hkept⟩
        apply Paired.bind (Q := fun _ x y => Beside Rel x y)
        · apply Paired.zoom
          exact (h.emitToken config _ generated hkept).mono (fun _ _ _ hnext => ⟨rfl, hnext⟩)
            fun _ _ hnext => ⟨rfl, hnext⟩
        · rintro ⟨generated', reason⟩ ⟨session', next⟩ ⟨_, next'⟩ ⟨rfl, hnext⟩
          cases reason with
          | some reason => exact .answered _ _ _ ⟨rfl, hnext⟩
          | none => exact ih (index + 1) _ generated' _ _ _ hnext

theorem Simulates.generateStream (h : Simulates Rel emit emit') (model : CausalModel Ω S E)
    (host : SamplerHost R W) (env : CallEnvironment Ω) (config : SamplingConfig)
    (promptTokens : List Nat) (session : GenerationSession S) {state : τ} {state' : τ'}
    (hstate : Rel state state') :
    RunBeside Rel (Generator.generateStream model host env config promptTokens emit
        (session, state))
      (Generator.generateStream model host env config promptTokens emit' (session, state')) := by
  unfold Generator.generateStream
  apply Paired.read_bind
  apply Paired.lift_bind rfl ⟨rfl, hstate⟩
  intro generationLimit _
  split
  · exact .answered _ _ _ ⟨rfl, hstate⟩
  · apply (RunBeside.zoom_fst _ hstate).bind
    rintro absorbed ⟨last, kept⟩ ⟨_, kept'⟩ ⟨rfl, hkept⟩
    cases absorbed with
    | false =>
        apply Paired.read_bind
        exact .answered _ _ _ ⟨rfl, hkept⟩
    | true =>
        apply Paired.lift_bind rfl ⟨rfl, hkept⟩
        intro sampler _
        apply (h.decode model host env config _ _ generationLimit 0 sampler [] last kept kept'
          hkept).bind
        rintro ⟨generated, reason⟩ x y hxy
        exact .answered _ x y hxy

end Generation

/-! ### Completions -/

namespace Hy3ChatEngine
variable {Ω S E R W V υ υ' : Type} {Rel : υ → υ' → Prop} {emit : TextCallback υ}
  {emit' : TextCallback υ'}

theorem emitText_simulates (h : Simulates Rel emit emit') :
    Simulates Rel (emitText emit) (emitText emit') := by
  intro text caller caller' hcaller
  unfold emitText
  split
  · exact ⟨rfl, hcaller⟩
  · exact h text caller caller' hcaller

theorem streamChunk_simulates (h : Simulates Rel emit emit') (chunk : Text) (stream : StreamState)
    {caller : υ} {caller' : υ'} (hcaller : Rel caller caller') :
    (streamChunk emit chunk stream caller).1 = (streamChunk emit' chunk stream caller').1 ∧
      Beside Rel (streamChunk emit chunk stream caller).2
        (streamChunk emit' chunk stream caller').2 := by
  obtain ⟨hanswer, hnext⟩ := emitText_simulates h (stream.filter.push chunk).1.text _ _ hcaller
  unfold streamChunk
  dsimp only
  rw [hanswer]
  split
  · exact ⟨rfl, rfl, hnext⟩
  · split
    · exact ⟨rfl, rfl, hnext⟩
    · exact ⟨rfl, rfl, hnext⟩

theorem streamToken_simulates (h : Simulates Rel emit emit') (tokenizer : Hy3Tokenizer V) :
    Simulates (Beside Rel) (streamToken tokenizer emit) (streamToken tokenizer emit') := by
  rintro token ⟨stream, caller⟩ ⟨_, caller'⟩ ⟨rfl, hcaller⟩
  unfold streamToken
  dsimp only
  split
  · exact ⟨rfl, rfl, hcaller⟩
  · exact ⟨rfl, rfl, hcaller⟩
  · exact streamChunk_simulates h _ _ hcaller

theorem streamTokens_simulates (h : Simulates Rel emit emit')
    (engine : Hy3ChatEngine Ω S E R W V) (env : CallEnvironment Ω) (sampling : SamplingConfig)
    (stopSequences : List Text) (promptSuffix : List Nat) (session : GenerationSession S)
    {caller : υ} {caller' : υ'} (hcaller : Rel caller caller') :
    RunBeside Rel
      (streamTokens engine env sampling stopSequences promptSuffix emit (session, caller))
      (streamTokens engine env sampling stopSequences promptSuffix emit' (session, caller')) := by
  have hstream := (streamToken_simulates h engine.tokenizer).generateStream
    engine.model.toCausalModel engine.host env (sampling.insertStop engine.tokenizer.eos)
    promptSuffix session
    (show Beside Rel (StreamState.start stopSequences, caller)
      (StreamState.start stopSequences, caller') from ⟨rfl, hcaller⟩)
  unfold streamTokens
  dsimp only
  generalize Generator.generateStream engine.model.toCausalModel engine.host env
    (sampling.insertStop engine.tokenizer.eos) promptSuffix (streamToken engine.tokenizer emit)
    (session, .start stopSequences, caller) = first at hstream ⊢
  generalize Generator.generateStream engine.model.toCausalModel engine.host env
    (sampling.insertStop engine.tokenizer.eos) promptSuffix (streamToken engine.tokenizer emit')
    (session, .start stopSequences, caller') = second at hstream ⊢
  cases hstream with
  | answered outcome x y hxy =>
      obtain ⟨last, stream, kept⟩ := x
      obtain ⟨_, _, kept'⟩ := y
      obtain ⟨rfl, rfl, hkept⟩ := hxy
      exact .answered _ _ _ ⟨rfl, hkept⟩
  | failed error x y hxy =>
      obtain ⟨last, stream, kept⟩ := x
      obtain ⟨_, _, kept'⟩ := y
      obtain ⟨rfl, rfl, hkept⟩ := hxy
      exact .failed _ _ _ ⟨rfl, hkept⟩

/-- What goes on with the answer of a callback. -/
theorem emitting_simulates (h : Simulates Rel emit emit') (text : Text) {ε α : Type}
    {P : α → υ → υ' → Prop} {Q : υ → υ' → Prop} {next : Bool → Command υ ε α}
    {next' : Bool → Command υ' ε α} {caller : υ} {caller' : υ'} (hcaller : Rel caller caller')
    (hnext : ∀ broke kept kept', Rel kept kept' →
      Paired P Q (next broke kept) (next' broke kept')) :
    Paired P Q
      (((fun caller => (.ok (emitText emit text caller).1, (emitText emit text caller).2) :
        Command υ ε Bool) >>= next) caller)
      (((fun caller => (.ok (emitText emit' text caller).1, (emitText emit' text caller).2) :
        Command υ' ε Bool) >>= next') caller') := by
  obtain ⟨hanswer, hkept⟩ := emitText_simulates h text _ _ hcaller
  apply Paired.bind (Q := fun _ => Rel)
  · rw [hanswer]
    exact .answered _ _ _ hkept
  · exact hnext

theorem flush_simulates (h : Simulates Rel emit emit') (decodedText : Text)
    (outcome : GenerationOutcome) (stream : StreamState) {caller : υ} {caller' : υ'}
    (hcaller : Rel caller caller') :
    Paired (fun _ => Rel) Rel (flush (E := E) emit decodedText outcome stream caller)
      (flush (E := E) emit' decodedText outcome stream caller') := by
  unfold flush
  apply Paired.lift_bind rfl hcaller
  intro suffix _
  dsimp only
  apply emitting_simulates h _ hcaller
  intro broke kept kept' hkept
  split
  · exact .answered _ _ _ hkept
  · split
    · exact .answered _ _ _ hkept
    · apply emitting_simulates h _ hkept
      intro broke' next next' hnext
      exact .answered _ _ _ hnext

theorem assemble_simulates (h : Simulates Rel emit emit') (engine : Hy3ChatEngine Ω S E R W V)
    (request : ChatRequest V) (promptTokens : List Nat) (cached : Nat)
    (outcome : GenerationOutcome) (stream : StreamState) {caller : υ} {caller' : υ'}
    (hcaller : Rel caller caller') :
    Paired (fun _ => Rel) Rel
      (assemble engine request promptTokens cached emit outcome stream caller)
      (assemble engine request promptTokens cached emit' outcome stream caller') := by
  unfold assemble
  apply Paired.lift_bind rfl hcaller
  intro _ _
  apply Paired.lift_bind rfl hcaller
  intro decodedText _
  apply Paired.bind (Q := fun _ => Rel)
  · split
    · exact .answered _ _ _ hcaller
    · exact flush_simulates h decodedText _ stream hcaller
  · rintro ⟨ended, last⟩ kept kept' hkept
    unfold conclude
    apply Paired.lift_bind rfl hkept
    intro raw _
    exact .answered _ _ _ hkept

/-- A completion under two callbacks that answer alike. -/
theorem complete_simulates (h : Simulates Rel emit emit') (engine : Hy3ChatEngine Ω S E R W V)
    (env : CallEnvironment Ω) (request : ChatRequest V) (session : GenerationSession S)
    {caller : υ} {caller' : υ'} (hcaller : Rel caller caller') :
    RunBeside Rel (completeWithStopsInSession engine env request emit (session, caller))
      (completeWithStopsInSession engine env request emit' (session, caller')) := by
  cases hprompt : promptOf engine request with
  | error error =>
      rw [complete_refused env emit caller hprompt, complete_refused env emit' caller' hprompt]
      exact .failed error _ _ ⟨rfl, hcaller⟩
  | ok promptTokens =>
      rw [complete_run env emit caller hprompt, complete_run env emit' caller' hprompt]
      apply (streamTokens_simulates h engine env _ _ _ _ hcaller).bind
      rintro ⟨outcome, stream⟩ ⟨last, kept⟩ ⟨_, kept'⟩ ⟨rfl, hkept⟩
      apply Paired.zoom
      exact (assemble_simulates h engine request promptTokens _ outcome stream hkept).mono
        (fun _ _ _ hnext => ⟨rfl, hnext⟩) fun _ _ hnext => ⟨rfl, hnext⟩

end Hy3ChatEngine
end LightBridge.Runtime
