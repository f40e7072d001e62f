import LightBridge.Foundation.Parting
import LightBridge.Runtime.Simulation

/-! Completions under a callback that may stop them, beside one that lets them go on: what the first
has kept is what the second has kept up to there. -/
namespace LightBridge.Runtime
open Foundation Command Tokenizer

/-- From related states the callbacks answer alike and leave related states, or the first is left
behind; then neither changes that. -/
structure Leaves {α τ τ' : Type} (Rel Gone : τ → τ' → Prop) (emit : α → τ → Bool × τ)
    (emit' : α → τ' → Bool × τ') : Prop where
  step : ∀ value state state', Rel state state' →
    ((emit value state).1 = (emit' value state').1 ∧
      Rel (emit value state).2 (emit' value state').2) ∨
      Gone (emit value state).2 (emit' value state').2
  left : ∀ value state state', Gone state state' → Gone (emit value state).2 state'
  right : ∀ value state state', Gone state state' → Gone state (emit' value state').2

/-- The states of the callbacks are behind. -/
def Behind {σ τ τ' : Type} (Gone : τ → τ' → Prop) (x : σ × τ) (y : σ × τ') : Prop := Gone x.2 y.2

/-- Two runs that go together until one callback is left behind. -/
abbrev RunApart {σ τ τ' ε α : Type} (Rel Gone : τ → τ' → Prop) :
    Except ε α × σ × τ → Except ε α × σ × τ' → Prop :=
  Parted (Beside Rel) (Behind Gone)

/-- A callback that keeps `K` simulates itself. -/
theorem simulates_of_keeps {α τ : Type} {emit : α → τ → Bool × τ} {K : τ → Prop}
    (h : ∀ value state, K state → K (emit value state).2) :
    Simulates (fun state state' => state = state' ∧ K state) emit emit := by
  rintro value state _ ⟨rfl, hK⟩
  exact ⟨rfl, rfl, h value state hK⟩

theorem RunBeside.kept {σ τ ε α : Type} {K : τ → Prop} {x : Except ε α × σ × τ}
    (h : RunBeside (fun state state' => state = state' ∧ K state) x x) : K x.2.2 := by
  cases h with
  | answered a s t h => exact h.2.2
  | failed e s t h => exact h.2.2

theorem kept_of_paired {τ ε α : Type} {K : τ → Prop} {x : Except ε α × τ}
    (h : Paired (fun _ state state' => state = state' ∧ K state)
      (fun state state' => state = state' ∧ K state) x x) : K x.2 := by
  cases h with
  | answered a s t h => exact h.2
  | failed e s t h => exact h.2

section Generation
variable {Ω S E R W τ τ' : Type} {Rel Gone : τ → τ' → Prop} {emit : Callback τ}
  {emit' : Callback τ'}

theorem emitToken_keeps {K : τ → Prop} (h : ∀ token state, K state → K (emit token state).2)
    (config : SamplingConfig) (token : GeneratedToken) (generated : List Nat) :
    (Generator.emitToken (E := E) config emit token generated).Keeps K := by
  intro state hstate
  unfold Generator.emitToken
  dsimp only
  split
  · exact h token state hstate
  · exact hstate

theorem decode_keeps {K : τ → Prop} (h : ∀ token state, K state → K (emit token state).2)
    (model : CausalModel Ω S E) (host : SamplerHost R W) (env : CallEnvironment Ω)
    (config : SamplingConfig) (promptLength : Nat) (exhausted : StopReason)
    (remaining index : Nat) (sampler : Sampler R) (generated : List Nat) :
    (Generator.decode model host env config emit promptLength exhausted remaining index sampler
      generated).Keeps fun state => K state.2 := by
  rintro ⟨session, state⟩ hstate
  exact ((simulates_of_keeps h).decode model host env config promptLength exhausted remaining index
    sampler generated session state state ⟨rfl, hstate⟩).kept

theorem Leaves.emitToken (h : Leaves Rel Gone emit emit') (config : SamplingConfig)
    (token : GeneratedToken) (generated : List Nat) {state : τ} {state' : τ'}
    (hstate : Rel state state') :
    Parted (ε := GenerationError E) Rel Gone (Generator.emitToken config emit token generated state)
      (Generator.emitToken config emit' token generated state') := by
  unfold Generator.emitToken
  dsimp only
  split
  · rcases h.step token state state' hstate with ⟨hanswer, hnext⟩ | hgone
    · rw [hanswer]
      exact .together _ _ _ hnext
    · exact .behind _ _ _ _ hgone
  · exact .together _ _ _ hstate

/-- The decoding loop. -/
theorem Leaves.decode (h : Leaves Rel Gone emit emit') (model : CausalModel Ω S E)
    (host : SamplerHost R W) (env : CallEnvironment Ω) (config : SamplingConfig)
    (promptLength : Nat) (exhausted : StopReason) (remaining : Nat) :
    ∀ (index : Nat) (sampler : Sampler R) (generated : List Nat) (session : GenerationSession S)
      (state : τ) (state' : τ'), Rel state state' →
      RunApart Rel Gone
        (Generator.decode model host env config emit promptLength exhausted remaining index sampler
          generated (session, state))
        (Generator.decode model host env config emit' promptLength exhausted remaining index
          sampler generated (session, state')) := by
  induction remaining with
  | zero =>
      intro index sampler generated session state state' hstate
      exact .together _ _ _ ⟨rfl, hstate⟩
  | succ remaining ih =>
      intro index sampler generated session state state' hstate
      unfold Generator.decode
      split
      · exact .together _ _ _ ⟨rfl, hstate⟩
      · apply Parted.read_bind
        apply Parted.lift_bind ⟨rfl, hstate⟩
        intro tokenId _
        apply Parted.paired_bind (RunBeside.zoom_fst _ hstate)
        rintro _ ⟨last, kept⟩ ⟨_, kept'⟩ ⟨rfl, hkept⟩
        refine Parted.bind ?_ ?_ ?_ ?_
        · apply Parted.zoom
          exact (h.emitToken config _ generated hkept).mono (fun _ _ hnext => ⟨rfl, hnext⟩)
            fun _ _ hgone => hgone
        · rintro ⟨generated', reason⟩ ⟨session', next⟩ ⟨_, next'⟩ ⟨rfl, hnext⟩
          cases reason with
          | some reason => exact .together _ _ _ ⟨rfl, hnext⟩
          | none => exact ih (index + 1) _ generated' _ _ _ hnext
        · rintro ⟨generated', reason⟩ ⟨session', next'⟩ s hgone
          cases reason with
          | some reason => exact hgone
          | none =>
              have hkeeps (sampler : Sampler R) := decode_keeps
                (fun token state => h.left token state next') model host env config promptLength
                exhausted remaining (index + 1) sampler generated'
              exact hkeeps _ s hgone
        · rintro ⟨generated', reason⟩ ⟨session', next⟩ s hgone
          cases reason with
          | some reason => exact hgone
          | none =>
              have hkeeps (sampler : Sampler R) := decode_keeps
                (fun token state' => h.right token next state') model host env config promptLength
                exhausted remaining (index + 1) sampler generated'
              exact hkeeps _ s hgone

theorem Leaves.generateStream (h : Leaves Rel Gone emit emit') (model : CausalModel Ω S E)
    (host : SamplerHost R W) (env : CallEnvironment Ω) (config : SamplingConfig)
    (promptTokens : List Nat) (session : GenerationSession S) {state : τ} {state' : τ'}
    (hstate : Rel state state') :
    RunApart Rel Gone (Generator.generateStream model host env config promptTokens emit
        (session, state))
      (Generator.generateStream model host env config promptTokens emit' (session, state')) := by
  unfold Generator.generateStream
  apply Parted.read_bind
  apply Parted.lift_bind ⟨rfl, hstate⟩
  intro generationLimit _
  split
  · exact .together _ _ _ ⟨rfl, hstate⟩
  · apply Parted.paired_bind (RunBeside.zoom_fst _ hstate)
    rintro absorbed ⟨last, kept⟩ ⟨_, kept'⟩ ⟨rfl, hkept⟩
    cases absorbed with
    | false => exact .together _ _ _ ⟨rfl, hkept⟩
    | true =>
        apply Parted.lift_bind ⟨rfl, hkept⟩
        intro sampler _
        refine Parted.bind (h.decode model host env config _ _ generationLimit 0 sampler [] last
          kept kept' hkept) ?_ ?_ ?_
        · rintro ⟨generated, reason⟩ x y hxy
          exact .together _ x y hxy
        · exact fun _ _ _ hgone => hgone
        · exact fun _ _ _ hgone => hgone

end Generation

/-! ### Completions -/

namespace Hy3ChatEngine
variable {Ω S E R W V υ υ' : Type} {Rel Gone : υ → υ' → Prop} {emit : TextCallback υ}
  {emit' : TextCallback υ'}

theorem emitText_leaves (h : Leaves Rel Gone emit emit') :
    Leaves Rel Gone (emitText emit) (emitText emit') := by
  constructor
  · intro text caller caller' hcaller
    unfold emitText
    split
    · exact .inl ⟨rfl, hcaller⟩
    · exact h.step text caller caller' hcaller
  · intro text caller caller' hgone
    unfold emitText
    split
    · exact hgone
    · exact h.left text caller caller' hgone
  · intro text caller caller' hgone
    unfold emitText
    split
    · exact hgone
    · exact h.right text caller caller' hgone

theorem streamChunk_caller (emit : TextCallback υ) (chunk : Text) (stream : StreamState)
    (caller : υ) : (streamChunk emit chunk stream caller).2.2 =
      (emitText emit (stream.filter.push chunk).1.text caller).2 := by
  unfold streamChunk
  dsimp only
  split
  · rfl
  · split
    · rfl
    · rfl

/-- What a token leaves of its caller is what its text leaves of it. -/
theorem streamToken_caller (tokenizer : Hy3Tokenizer V) (emit : TextCallback υ)
    (token : GeneratedToken) (stream : StreamState) (caller : υ) :
    (streamToken tokenizer emit token (stream, caller)).2.2 = caller ∨
      ∃ text, (streamToken tokenizer emit token (stream, caller)).2.2 =
        (emitText emit text caller).2 := by
  unfold streamToken
  dsimp only
  split
  · exact .inl rfl
  · exact .inl rfl
  · exact .inr ⟨_, streamChunk_caller emit _ _ caller⟩

theorem streamChunk_leaves (h : Leaves Rel Gone emit emit') (chunk : Text) (stream : StreamState)
    {caller : υ} {caller' : υ'} (hcaller : Rel caller caller') :
    ((streamChunk emit chunk stream caller).1 = (streamChunk emit' chunk stream caller').1 ∧
      Beside Rel (streamChunk emit chunk stream caller).2
        (streamChunk emit' chunk stream caller').2) ∨
      Behind Gone (streamChunk emit chunk stream caller).2
        (streamChunk emit' chunk stream caller').2 := by
  rcases (emitText_leaves h).step (stream.filter.push chunk).1.text _ _ hcaller with
    ⟨hanswer, hnext⟩ | hgone
  · left
    unfold streamChunk
    dsimp only
    rw [hanswer]
    split
    · exact ⟨rfl, rfl, hnext⟩
    · split
      · exact ⟨rfl, rfl, hnext⟩
      · exact ⟨rfl, rfl, hnext⟩
  · right
    rw [Behind, streamChunk_caller, streamChunk_caller]
    exact hgone

theorem streamToken_leaves (h : Leaves Rel Gone emit emit') (tokenizer : Hy3Tokenizer V) :
    Leaves (Beside Rel) (Behind Gone) (streamToken tokenizer emit)
      (streamToken tokenizer emit') := by
  have htext := emitText_leaves h
  constructor
  · rintro token ⟨stream, caller⟩ ⟨_, caller'⟩ ⟨rfl, hcaller⟩
    unfold streamToken
    dsimp only
    split
    · exact .inl ⟨rfl, rfl, hcaller⟩
    · exact .inl ⟨rfl, rfl, hcaller⟩
    · exact streamChunk_leaves h _ _ hcaller
  · rintro token ⟨stream, caller⟩ state' hgone
    rcases streamToken_caller tokenizer emit token stream caller with hkept | ⟨text, htext'⟩
    · rw [Behind, hkept]
      exact hgone
    · rw [Behind, htext']
      exact htext.left text caller _ hgone
  · rintro token state ⟨stream, caller'⟩ hgone
    rcases streamToken_caller tokenizer emit' token stream caller' with hkept | ⟨text, htext'⟩
    · rw [Behind, hkept]
      exact hgone
    · rw [Behind, htext']
      exact htext.right text _ caller' hgone

theorem streamTokens_leaves (h : Leaves Rel Gone emit emit') (engine : Hy3ChatEngine Ω S E R W V)
    (env : CallEnvironment Ω) (sampling : SamplingConfig) (stopSequences : List Text)
    (promptSuffix : List Nat) (session : GenerationSession S) {caller : υ} {caller' : υ'}
    (hcaller : Rel caller caller') :
    RunApart Rel Gone
      (streamTokens engine env sampling stopSequences promptSuffix emit (session, caller))
      (streamTokens engine env sampling stopSequences promptSuffix emit' (session, caller')) := by
  have hstream := (streamToken_leaves h engine.tokenizer).generateStream
    engine.model.toCausalModel engine.host env (sampling.insertStop engine.tokenizer.eos)
    promptSuffix session
    (show Beside Rel (StreamState.start stopSequences, caller)
      (StreamState.start stopSequences, caller') from ⟨rfl, hcaller⟩)
  unfold streamTokens
  dsimp only
  generalize Generator.generateStream engine.model.toCausalModel engine.host env
    (sampling.insertStop engine.tokenizer.eos) promptSuffix (streamToken engine.tokenizer emit)
    (session, .start stopSequences, caller) = first at hstream ⊢
  generalize Generator.generateStream engine.model.toCausalModel engine.host env
    (sampling.insertStop engine.tokenizer.eos) promptSuffix (streamToken engine.tokenizer emit')
    (session, .start stopSequences, caller') = second at hstream ⊢
  cases hstream with
  | together r x y hxy =>
      obtain ⟨last, stream, kept⟩ := x
      obtain ⟨_, _, kept'⟩ := y
      obtain ⟨rfl, rfl, hkept⟩ := hxy
      cases r with
      | ok outcome => exact .together (.ok (outcome, stream)) _ _ ⟨rfl, hkept⟩
      | error error => exact .together (.error _) _ _ ⟨rfl, hkept⟩
  | behind r r' x y hgone =>
      obtain ⟨last, stream, kept⟩ := x
      obtain ⟨last', stream', kept'⟩ := y
      cases r with
      | ok outcome =>
          cases r' with
          | ok outcome' => exact .behind _ _ _ _ hgone
          | error error' => exact .behind _ _ _ _ hgone
      | error error =>
          cases r' with
          | ok outcome' => exact .behind _ _ _ _ hgone
          | error error' => exact .behind _ _ _ _ hgone

/-- A text, and what is done with the answer to it. -/
theorem emitting_leaves (h : Leaves Rel Gone emit emit') (text : Text) {ε α : Type}
    {next : Bool → Command υ ε α} {next' : Bool → Command υ' ε α} {caller : υ} {caller' : υ'}
    (hcaller : Rel caller caller')
    (hnext : ∀ broke kept kept', Rel kept kept' →
      Parted Rel Gone (next broke kept) (next' broke kept'))
    (left : ∀ broke kept', (next broke).Keeps fun kept => Gone kept kept')
    (right : ∀ broke kept, (next' broke).Keeps fun kept' => Gone kept kept') :
    Parted Rel Gone
      (((fun caller => (.ok (emitText emit text caller).1, (emitText emit text caller).2) :
        Command υ ε Bool) >>= next) caller)
      (((fun caller => (.ok (emitText emit' text caller).1, (emitText emit' text caller).2) :
        Command υ' ε Bool) >>= next') caller') := by
  refine Parted.bind (Q := Rel) ?_ hnext left right
  rcases (emitText_leaves h).step text _ _ hcaller with ⟨hanswer, hkept⟩ | hgone
  · rw [hanswer]
    exact .together _ _ _ hkept
  · exact .behind _ _ _ _ hgone

theorem emitText_keeps {K : υ → Prop} (h : ∀ text caller, K caller → K (emit text caller).2)
    (text : Text) {caller : υ} (hcaller : K caller) : K (emitText emit text caller).2 := by
  unfold emitText
  split
  · exact hcaller
  · exact h text caller hcaller

theorem flush_leaves (h : Leaves Rel Gone emit emit') (decodedText : Text)
    (outcome : GenerationOutcome) (stream : StreamState) {caller : υ} {caller' : υ'}
    (hcaller : Rel caller caller') :
    Parted Rel Gone (flush (E := E) emit decodedText outcome stream caller)
      (flush (E := E) emit' decodedText outcome stream caller') := by
  unfold flush
  apply Parted.lift_bind hcaller
  intro suffix _
  dsimp only
  apply emitting_leaves h _ hcaller
  · intro broke kept kept' hkept
    split
    · exact .together _ _ _ hkept
    · split
      · exact .together _ _ _ hkept
      · apply emitting_leaves h _ hkept
        · intro broke' next next' hnext
          exact .together _ _ _ hnext
        · exact fun _ _ _ hgone => hgone
        · exact fun _ _ _ hgone => hgone
  · intro broke kept' kept hgone
    split
    · exact hgone
    · split
      · exact hgone
      · exact emitText_keeps (fun text caller => h.left text caller kept') _ hgone
  · intro broke kept kept' hgone
    split
    · exact hgone
    · split
      · exact hgone
      · exact emitText_keeps (fun text caller' => h.right text kept caller') _ hgone

theorem conclude_keeps (engine : Hy3ChatEngine Ω S E R W V) (request : ChatRequest V)
    (promptTokens : List Nat) (cached : Nat) (outcome : GenerationOutcome) (stream : StreamState)
    (K : υ → Prop) : (conclude engine request promptTokens cached outcome stream).Keeps K := by
  unfold conclude
  exact (Keeps.lift _ K).bind fun _ _ hK => hK

theorem assemble_leaves (h : Leaves Rel Gone emit emit') (engine : Hy3ChatEngine Ω S E R W V)
    (request : ChatRequest V) (promptTokens : List Nat) (cached : Nat)
    (outcome : GenerationOutcome) (stream : StreamState) {caller : υ} {caller' : υ'}
    (hcaller : Rel caller caller') :
    Parted Rel Gone (assemble engine request promptTokens cached emit outcome stream caller)
      (assemble engine request promptTokens cached emit' outcome stream caller') := by
  unfold assemble
  apply Parted.lift_bind hcaller
  intro _ _
  apply Parted.lift_bind hcaller
  intro decodedText _
  refine Parted.bind (Q := Rel) ?_ ?_ ?_ ?_
  · split
    · exact .together _ _ _ hcaller
    · exact flush_leaves h decodedText _ stream hcaller
  · rintro ⟨ended, last⟩ kept kept' hkept
    unfold conclude
    apply Parted.lift_bind hkept
    intro raw _
    exact .together _ _ _ hkept
  · exact fun _ _ => conclude_keeps engine request promptTokens cached _ _ _
  · exact fun _ _ => conclude_keeps engine request promptTokens cached _ _ _

theorem assemble_keeps {K : υ → Prop} (h : ∀ text caller, K caller → K (emit text caller).2)
    (engine : Hy3ChatEngine Ω S E R W V) (request : ChatRequest V) (promptTokens : List Nat)
    (cached : Nat) (outcome : GenerationOutcome) (stream : StreamState) :
    (assemble engine request promptTokens cached emit outcome stream).Keeps K := by
  intro caller hcaller
  exact kept_of_paired (assemble_simulates (simulates_of_keeps h) engine request promptTokens cached
    outcome stream ⟨rfl, hcaller⟩)

/-- A completion that a callback may stop, beside one that goes on. -/
theorem complete_leaves (h : Leaves Rel Gone emit emit') (engine : Hy3ChatEngine Ω S E R W V)
    (env : CallEnvironment Ω) (request : ChatRequest V) (session : GenerationSession S)
    {caller : υ} {caller' : υ'} (hcaller : Rel caller caller') :
    RunApart Rel Gone (completeWithStopsInSession engine env request emit (session, caller))
      (completeWithStopsInSession engine env request emit' (session, caller')) := by
  cases hprompt : promptOf engine request with
  | error error =>
      rw [complete_refused env emit caller hprompt, complete_refused env emit' caller' hprompt]
      exact .together _ _ _ ⟨rfl, hcaller⟩
  | ok promptTokens =>
      rw [complete_run env emit caller hprompt, complete_run env emit' caller' hprompt]
      refine Parted.bind (streamTokens_leaves h engine env _ _ _ _ hcaller) ?_ ?_ ?_
      · rintro ⟨outcome, stream⟩ ⟨last, kept⟩ ⟨_, kept'⟩ ⟨rfl, hkept⟩
        apply Parted.zoom
        exact (assemble_leaves h engine request promptTokens _ outcome stream hkept).mono
          (fun _ _ hnext => ⟨rfl, hnext⟩) fun _ _ hgone => hgone
      · rintro ended ⟨last', kept'⟩ ⟨last, kept⟩ hgone
        exact assemble_keeps (fun text caller => h.left text caller kept') engine request
          promptTokens _ _ _ kept hgone
      · rintro ended ⟨last, kept⟩ ⟨last', kept'⟩ hgone
        exact assemble_keeps (fun text caller' => h.right text kept caller') engine request
          promptTokens _ _ _ kept' hgone

/-! ### Sessions of one completion -/

/-- `complete_with_stops`: the session is opened in the environment `opening`, and dropped. -/
def completeWithStops (engine : Hy3ChatEngine Ω S E R W V) (opening : Ω) (env : CallEnvironment Ω)
    (request : ChatRequest V) (emit : TextCallback υ) :
    Command υ (ChatEngineError E TokenizerError) (ChatCompletion V) := fun caller =>
  match Generator.newSession engine.model.toCausalModel env.alloc opening with
  | .error error => (.error (.generation error), caller)
  | .ok session =>
      let ended := completeWithStopsInSession engine env request emit (session, caller)
      (ended.1, ended.2.2)

theorem completeWithStops_simulates (h : Simulates Rel emit emit')
    (engine : Hy3ChatEngine Ω S E R W V) (opening : Ω) (env : CallEnvironment Ω)
    (request : ChatRequest V) {caller : υ} {caller' : υ'} (hcaller : Rel caller caller') :
    Paired (fun _ => Rel) Rel (completeWithStops engine opening env request emit caller)
      (completeWithStops engine opening env request emit' caller') := by
  unfold completeWithStops
  cases Generator.newSession engine.model.toCausalModel env.alloc opening with
  | error error => exact .failed _ _ _ hcaller
  | ok session =>
      have hrun := complete_simulates h engine env request session hcaller
      dsimp only
      generalize completeWithStopsInSession engine env request emit (session, caller) = x at hrun ⊢
      generalize completeWithStopsInSession engine env request emit' (session, caller') = y
        at hrun ⊢
      cases hrun with
      | answered a s t h => exact .answered a s.2 t.2 h.2
      | failed e s t h => exact .failed e s.2 t.2 h.2

theorem completeWithStops_keeps {K : υ → Prop}
    (h : ∀ text caller, K caller → K (emit text caller).2) (engine : Hy3ChatEngine Ω S E R W V)
    (opening : Ω) (env : CallEnvironment Ω) (request : ChatRequest V) :
    (completeWithStops engine opening env request emit).Keeps K := by
  intro caller hcaller
  exact kept_of_paired (completeWithStops_simulates (simulates_of_keeps h) engine opening env
    request ⟨rfl, hcaller⟩)

theorem completeWithStops_leaves (h : Leaves Rel Gone emit emit')
    (engine : Hy3ChatEngine Ω S E R W V) (opening : Ω) (env : CallEnvironment Ω)
    (request : ChatRequest V) {caller : υ} {caller' : υ'} (hcaller : Rel caller caller') :
    Parted Rel Gone (completeWithStops engine opening env request emit caller)
      (completeWithStops engine opening env request emit' caller') := by
  unfold completeWithStops
  cases Generator.newSession engine.model.toCausalModel env.alloc opening with
  | error error => exact .together _ _ _ hcaller
  | ok session =>
      have hrun := complete_leaves h engine env request session hcaller
      dsimp only
      generalize completeWithStopsInSession engine env request emit (session, caller) = x at hrun ⊢
      generalize completeWithStopsInSession engine env request emit' (session, caller') = y
        at hrun ⊢
      cases hrun with
      | together r s t h => exact .together r s.2 t.2 h.2
      | behind r r' s t h => exact .behind r r' s.2 t.2 h

end Hy3ChatEngine
end LightBridge.Runtime
