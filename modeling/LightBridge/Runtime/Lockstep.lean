import LightBridge.Runtime.Generation

/-! Two sessions of a model that answers both alike. Streams over them sample the same tokens
and go on alike, step by step. -/
namespace LightBridge.Runtime
open Foundation Command

variable {Ω S E R W τ : Type}

/-- A model answers related sessions alike, in any two environments that are `fine`, and
keeps them related. `Failed` relates what two failed evaluations leave. -/
structure CausalModel.Lockstep (model : CausalModel Ω S E) (fine : Ω → Prop)
    (Rel Failed : S × List F32 → S × List F32 → Prop) : Prop where
  logits : ∀ x y, Rel x y → y.2 = x.2
  position : ∀ x y, Rel x y → model.position y.1 = model.position x.1
  failed : ∀ x y, Rel x y → Failed x y
  reset : ∀ x y, Rel x y →
    Rel (model.resetSession x.1, x.2.map fun _ => .zero)
      (model.resetSession y.1, y.2.map fun _ => .zero)
  evaluated : ∀ env env' x y, fine env → fine env' → Rel x y → ∀ tokenId,
    Paired (fun _ => Rel) Failed (model.evaluateToken env tokenId x)
      (model.evaluateToken env' tokenId y)

/-- Sessions with the same tokens and flags over related sessions of the model. -/
structure Similar (Rel : S × List F32 → S × List F32 → Prop)
    (s t : GenerationSession S) : Prop where
  related : Rel (s.model, s.logits) (t.model, t.logits)
  history : t.history = s.history
  hasLogits : t.hasLogits = s.hasLogits
  healthy : t.healthy = s.healthy

theorem Similar.mono {Rel Rel' : S × List F32 → S × List F32 → Prop} {s t : GenerationSession S}
    (h : Similar Rel s t)
    (hRel : ∀ x y, Rel x y → Rel' x y) : Similar Rel' s t :=
  ⟨hRel _ _ h.related, h.history, h.hasLogits, h.healthy⟩

namespace CausalModel.Lockstep
variable {model : CausalModel Ω S E} {fine : Ω → Prop}
    {Rel Failed : S × List F32 → S × List F32 → Prop}
  {s t : GenerationSession S}

theorem evaluate (lock : model.Lockstep fine Rel Failed) {env env' : Ω} (hfine : fine env)
    (hfine' : fine env') (tokenId : Nat) (h : Similar Rel s t) :
    Paired (fun _ => Similar Rel) (Similar Failed) (Generator.evaluate model env tokenId s)
      (Generator.evaluate model env' tokenId t) := by
  have hpaired := lock.evaluated env env' _ _ hfine hfine' h.related tokenId
  unfold Generator.evaluate
  rcases hleft : model.evaluateToken env tokenId (s.model, s.logits) with ⟨r, x⟩
  rcases hright : model.evaluateToken env' tokenId (t.model, t.logits) with ⟨r', y⟩
  rw [hleft, hright] at hpaired
  cases hpaired with
  | answered _ _ _ hrelated =>
      refine .answered () _ _ ⟨hrelated, ?_, rfl, h.healthy⟩
      change t.history ++ [tokenId] = s.history ++ [tokenId]
      rw [h.history]
  | failed error _ _ hfailed => exact .failed _ _ _ ⟨hfailed, h.history, rfl, rfl⟩

theorem resetSession (lock : model.Lockstep fine Rel Failed) (h : Similar Rel s t) :
    Similar Rel (Generator.reset model s) (Generator.reset model t) :=
  ⟨lock.reset _ _ h.related, rfl, rfl, rfl⟩

/-- The prompt loop, wherever the two runs have their evaluations. -/
theorem prefill (lock : model.Lockstep fine Rel Failed) {env env' : CallEnvironment Ω}
    (hfine : ∀ n, fine (env.world n)) (hfine' : ∀ n, fine (env'.world n)) (tokens : List Nat) :
    ∀ (index index' : Nat) (s t : GenerationSession S), Similar Rel s t →
      (∀ n, env'.cancelled (1 + index' + n) = env.cancelled (1 + index + n)) →
      Paired (fun _ => Similar Rel) (Similar Failed) (Generator.prefill model env index tokens s)
        (Generator.prefill model env' index' tokens t) := by
  induction tokens with
  | nil =>
      intro index index' s t h _
      exact .answered true s t h
  | cons tokenId rest ih =>
      intro index index' s t h hpolls
      have hpoll := hpolls 0
      rw [Nat.add_zero, Nat.add_zero] at hpoll
      unfold Generator.prefill
      rw [hpoll]
      split
      · exact .answered false s t h
      · apply (lock.evaluate (hfine index) (hfine' index') tokenId h).bind
        intro _ s' t' h'
        apply ih (index + 1) (index' + 1) s' t' h'
        intro n
        have hnext := hpolls (n + 1)
        have hshift : ∀ i, 1 + i + (n + 1) = 1 + (i + 1) + n := by
          intro i
          omega
        rwa [hshift, hshift] at hnext

/-- The decoding loop, wherever the two runs have their evaluations. -/
theorem decode (lock : model.Lockstep fine Rel Failed) {env env' : CallEnvironment Ω}
    (hfine : ∀ n, fine (env.world n)) (hfine' : ∀ n, fine (env'.world n)) (host : SamplerHost R W)
    (config : SamplingConfig) (emit : Callback τ) {promptLength promptLength' : Nat}
    (exhausted : StopReason)
    (hpolls : ∀ n, env'.cancelled (1 + promptLength' + n) = env.cancelled (1 + promptLength + n))
    (remaining : Nat) :
    ∀ (index : Nat) (sampler : Sampler R) (generated : List Nat) (s t : GenerationSession S)
      (caller : τ), Similar Rel s t →
      Paired (fun _ x y => Similar Rel x.1 y.1 ∧ y.2 = x.2)
        (fun x y => Similar Failed x.1 y.1 ∧ y.2 = x.2)
        (Generator.decode model host env config emit promptLength exhausted remaining index sampler
          generated (s, caller))
        (Generator.decode model host env' config emit promptLength' exhausted remaining index
          sampler generated
              (t, caller)) := by
  induction remaining with
  | zero =>
      intro index sampler generated s t caller h
      exact .answered _ (s, caller) (t, caller) ⟨h, rfl⟩
  | succ remaining ih =>
      intro index sampler generated s t caller h
      have hfailed : Similar Failed s t := h.mono lock.failed
      have hlogits : t.logits = s.logits := lock.logits _ _ h.related
      unfold Generator.decode
      rw [hpolls index]
      split
      · exact .answered _ (s, caller) (t, caller) ⟨h, rfl⟩
      · apply Paired.read_bind
        dsimp only
        rw [hlogits, h.history]
        apply Paired.lift_bind rfl ⟨hfailed, rfl⟩
        intro tokenId _
        apply Paired.bind (Q := fun _ x y => Similar Rel x.1 y.1 ∧ y.2 = x.2)
        · apply Paired.zoom
          apply (lock.evaluate (hfine _) (hfine' _) tokenId h).mono
          · intro _ s' t' h'
            exact ⟨h', rfl⟩
          · intro s' t' h'
            exact ⟨h', rfl⟩
        · rintro _ ⟨s', caller'⟩ ⟨t', _⟩ ⟨h', rfl⟩
          apply Paired.bind (Q := fun _ x y => Similar Rel x.1 y.1 ∧ y.2 = x.2)
          · apply Paired.zoom
            unfold Generator.emitToken
            dsimp only
            split
            · exact .answered _ _ _ ⟨h', rfl⟩
            · exact .answered _ _ _ ⟨h', rfl⟩
          · rintro ⟨generated', reason⟩ ⟨s'', caller''⟩ ⟨t'', _⟩ ⟨h'', rfl⟩
            cases reason with
            | some reason => exact .answered _ _ _ ⟨h'', rfl⟩
            | none => exact ih (index + 1) _ generated' s'' t'' _ h''

theorem prepare (lock : model.Lockstep fine Rel Failed) (alloc : GenerationSite → Bool)
    (config : SamplingConfig) (promptTokens : List Nat) (h : Similar Rel s t) :
    Generator.prepare model alloc config promptTokens t =
      Generator.prepare model alloc config promptTokens s := by
  unfold Generator.prepare
  rw [h.healthy, h.hasLogits, h.history]
  have hposition : model.position t.model = model.position s.model := lock.position _ _ h.related
  rw [hposition]

/-- Streams with the same prompt over similar sessions answer alike. -/
theorem generateStream (lock : model.Lockstep fine Rel Failed) {env env' : CallEnvironment Ω}
    (hfine : ∀ n, fine (env.world n)) (hfine' : ∀ n, fine (env'.world n))
    (halloc : env'.alloc = env.alloc) (hcancelled : env'.cancelled = env.cancelled)
    (host : SamplerHost R W) (config : SamplingConfig) (promptTokens : List Nat) (emit : Callback τ)
    (caller : τ) (h : Similar Rel s t) :
    Paired (fun _ x y => Similar Rel x.1 y.1 ∧ y.2 = x.2)
      (fun x y => Similar Failed x.1 y.1 ∧ y.2 = x.2)
      (Generator.generateStream model host env config promptTokens emit (s, caller))
      (Generator.generateStream model host env' config promptTokens emit (t, caller)) := by
  have hfailed : Similar Failed s t := h.mono lock.failed
  unfold Generator.generateStream
  apply Paired.read_bind
  dsimp only
  rw [halloc, hcancelled, lock.prepare env.alloc config promptTokens h]
  apply Paired.lift_bind rfl ⟨hfailed, rfl⟩
  intro generationLimit _
  split
  · exact .answered _ _ _ ⟨h, rfl⟩
  · apply Paired.bind (Q := fun _ x y => Similar Rel x.1 y.1 ∧ y.2 = x.2)
    · apply Paired.zoom
      apply (lock.prefill hfine hfine' promptTokens 0 0 s t h fun n => by rw [hcancelled]).mono
      · intro _ s' t' h'
        exact ⟨h', rfl⟩
      · intro s' t' h'
        exact ⟨h', rfl⟩
    · rintro absorbed ⟨s', _⟩ ⟨t', caller'⟩ ⟨h', rfl⟩
      cases absorbed with
      | false =>
          apply Paired.read_bind
          dsimp only
          rw [h'.history]
          exact .answered _ _ _ ⟨h', rfl⟩
      | true =>
          apply Paired.lift_bind rfl ⟨h'.mono lock.failed, rfl⟩
          intro sampler _
          have hpolls : ∀ n, env'.cancelled (1 + promptTokens.length + n) =
              env.cancelled (1 + promptTokens.length + n) := by
            intro n
            rw [hcancelled]
          have hloop := lock.decode hfine hfine' host config emit
            (if generationLimit < config.maxNewTokens then .contextLength else .maxTokens) hpolls
              generationLimit 0
            sampler [] s' t' caller' h'
          apply hloop.bind
          rintro ⟨generated, reason⟩ x y hxy
          exact .answered _ x y hxy

end CausalModel.Lockstep
end LightBridge.Runtime
