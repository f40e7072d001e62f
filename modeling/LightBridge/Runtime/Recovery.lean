import LightBridge.Runtime.PrefixReuse

/-! What a failed completion leaves, and when the same request can be made again. An evaluation
meets a fault or none, and a token that is not answered is rolled back. -/
namespace LightBridge.Runtime
open Foundation Command Tokenizer GenerationSession

variable {Ω S E R W V τ υ : Type}

/-- A model that answers only without a fault, and otherwise keeps what it has evaluated. -/
structure CausalModel.RollsBack (model : CausalModel Ω S E) (fine : Ω → Prop)
    (Evaluated : S → List Nat → Prop) :
    Prop where
  evaluated : ∀ env session history tokenId logits, Evaluated session history →
    logits.length = model.vocabularySize →
    Ends (fun _ _ => fine env) (fun _ state => Evaluated state.1 history ∧
      state.2.length = model.vocabularySize)
      (model.evaluateToken env tokenId (session, logits))

/-- A session between two calls, of which the last may have failed. -/
structure GenerationSession.Settled (model : CausalModel Ω S E) (Evaluated : S → List Nat → Prop)
    (answer : List Nat → Except E (List F32)) (session : GenerationSession S) : Prop where
  evaluated : Evaluated session.model session.history
  width : session.logits.length = model.vocabularySize
  tracks : session.healthy = true → Tracks model Evaluated answer session

namespace Absorbed
variable {answer : List Nat → Except E (List F32)} {vocabularySize : Nat} {history rest : List Nat}
    {logits : List F32}

theorem init {tokenId : Nat} (h : Absorbed answer vocabularySize (history ++ [tokenId]) logits) :
    (∃ before, Absorbed answer vocabularySize history before) ∧
      answer (history ++ [tokenId]) = .ok logits := by
  generalize hwhole : history ++ [tokenId] = whole at h
  cases h with
  | empty => exact absurd hwhole (by simp)
  | token hfront _ answered _ =>
      obtain ⟨rfl, -⟩ := List.append_inj' hwhole rfl
      exact ⟨⟨_, hfront⟩, answered⟩

/-- Every front of an absorbed history is absorbed. -/
theorem front (h : Absorbed answer vocabularySize (history ++ rest) logits) :
    ∃ before, Absorbed answer vocabularySize history before := by
  induction rest using List.reverseRecOn generalizing logits with
  | nil =>
      rw [List.append_nil] at h
      exact ⟨logits, h⟩
  | append_singleton rest tokenId ih =>
      rw [← List.append_assoc] at h
      obtain ⟨⟨before, hbefore⟩, -⟩ := h.init
      exact ih hbefore

theorem answered {tokenId : Nat}
    (h : Absorbed answer vocabularySize (history ++ tokenId :: rest) logits) :
    ∃ next, answer (history ++ [tokenId]) = .ok next := by
  rw [List.append_cons] at h
  obtain ⟨next, hnext⟩ := h.front
  exact ⟨next, hnext.init.2⟩

end Absorbed

namespace CausalModel.Deterministic
variable {model : CausalModel Ω S E} {fine : Ω → Prop} {Evaluated : S → List Nat → Prop}
  {answer : List Nat → Except E (List F32)} {session s t : GenerationSession S}

theorem settled (h : Tracks model Evaluated answer session) :
    Settled model Evaluated answer session :=
  ⟨h.evaluated, h.absorbed.length_logits, fun _ => h⟩

/-- An evaluation in any environment: without a fault it is answered like any other, and
where it fails the session is poisoned and settled. -/
theorem evaluate_settled (law : model.Deterministic fine Evaluated answer)
    (rolls : model.RollsBack fine Evaluated) (env : Ω) {tokenId : Nat}
    (known : tokenId < model.vocabularySize) (h : Tracks model Evaluated answer session) :
    Ends (fun _ last => fine env ∧ Tracks model Evaluated answer last ∧
      last.history = session.history ++ [tokenId])
      (fun _ last => last.healthy = false ∧ Settled model Evaluated answer last ∧
        last.history = session.history ∧
        (fine env → ∃ inner, answer (session.history ++ [tokenId]) = .error inner))
      (Generator.evaluate model env tokenId session) := by
  have hrolls :=
    rolls.evaluated env session.model session.history tokenId session.logits h.evaluated
    h.absorbed.length_logits
  have hfine := fun hfine : fine env => law.evaluate_tracks hfine known h
  unfold Generator.evaluate at hfine ⊢
  rcases hrun : model.evaluateToken env tokenId
    (session.model, session.logits) with ⟨r, state, logits⟩
  rw [hrun] at hrolls hfine
  cases hrolls with
  | answered _ _ hcalm => exact .answered () _ ⟨hcalm, (hfine hcalm).of_ok rfl⟩
  | failed error _ hstate =>
      refine .failed _ _ ⟨rfl, ⟨hstate.1, hstate.2, fun hhealthy => by cases hhealthy⟩, rfl, ?_⟩
      intro hcalm
      obtain ⟨inner, -, hanswer⟩ := (hfine hcalm).of_error rfl
      exact ⟨inner, hanswer⟩

theorem settling (law : model.Deterministic fine Evaluated answer)
    (rolls : model.RollsBack fine Evaluated) (count : Nat) :
    Generator.Preserved model (fun _ => True)
      (fun s => Tracks model Evaluated answer s ∧ count ≤ s.history.length)
      (fun s => Settled model Evaluated answer s ∧ count ≤ s.history.length) where
  position _ h := law.position _ _ h.1.evaluated
  failed _ h := ⟨settled h.1, h.2⟩
  evaluated env tokenId session _ h _ known := by
    apply (law.evaluate_settled rolls env known h.1).mono
    · rintro _ last ⟨-, htracks, hhistory⟩
      refine ⟨⟨htracks, ?_⟩, hhistory⟩
      rw [hhistory, List.length_append]
      exact h.2.trans (Nat.le_add_right _ _)
    · rintro _ last ⟨-, hsettled, hhistory, -⟩
      refine ⟨hsettled, ?_⟩
      rw [hhistory]
      exact h.2

/-- The prompt loop ends behind its prompt, or at the token it could not evaluate. -/
theorem prefill_settled (law : model.Deterministic fine Evaluated answer)
    (rolls : model.RollsBack fine Evaluated) (env : CallEnvironment Ω) (tokens : List Nat) :
    ∀ (index : Nat) (session : GenerationSession S), Tracks model Evaluated answer session →
      (∀ tokenId ∈ tokens, tokenId < model.vocabularySize) →
      Ends (fun absorbed last => Tracks model Evaluated answer last ∧
          ((∀ n, env.cancelled n = false) → absorbed = true) ∧
          (absorbed = true → last.history = session.history ++ tokens ∧
            ∀ n, n < tokens.length → fine (env.world (index + n))))
        (fun _ last => last.healthy = false ∧ Settled model Evaluated answer last ∧
          ∃ front tokenId back, tokens = front ++ tokenId :: back ∧
          last.history = session.history ++ front ∧
            (fine (env.world (index + front.length)) → ∃ inner,
            answer (session.history ++ front ++ [tokenId]) = .error inner))
        (Generator.prefill model env index tokens session) := by
  induction tokens with
  | nil =>
      intro index session h _
      refine .answered true session ⟨h, fun _ => rfl, fun _ => ⟨(List.append_nil _).symm, ?_⟩⟩
      intro n hn
      cases hn
  | cons tokenId rest ih =>
      intro index session h known
      unfold Generator.prefill
      split
      · rename_i hcancelled
        refine .answered false session ⟨h, ?_, fun habsorbed => by cases habsorbed⟩
        intro uncancelled
        rw [uncancelled] at hcancelled
        cases hcancelled
      · have hstep :=
          law.evaluate_settled rolls (env.world index) (known tokenId List.mem_cons_self) h
        apply Ends.bind (Q := fun _ next => fine (env.world index) ∧
          Tracks model Evaluated answer next ∧
          next.history = session.history ++ [tokenId])
        · apply hstep.mono
          · intro _ next hnext
            exact hnext
          · rintro _ last ⟨hunhealthy, hsettled, hhistory, hanswer⟩
            refine ⟨hunhealthy, hsettled, [], tokenId, rest, rfl, ?_, ?_⟩
            · rw [hhistory, List.append_nil]
            · rw [List.append_nil]
              exact hanswer
        · rintro _ next ⟨hcalm, hnext, hhistory⟩
          apply (ih (index + 1) next hnext fun t ht => known t (List.mem_cons_of_mem _ ht)).mono
          · rintro absorbed last ⟨hlast, huncancelled, habsorbed⟩
            refine ⟨hlast, huncancelled, ?_⟩
            intro hdone
            obtain ⟨hfull, hworlds⟩ := habsorbed hdone
            refine ⟨by rw [hfull, hhistory, List.append_assoc]; rfl, ?_⟩
            intro n hn
            cases n with
            | zero => exact hcalm
            | succ n =>
                have hworld := hworlds n (Nat.lt_of_succ_lt_succ hn)
                rwa [Nat.add_assoc, Nat.add_comm 1] at hworld
          · rintro _ last ⟨hunhealthy, hsettled, front, token, back, htokens, hfront, hanswer⟩
            refine ⟨hunhealthy, hsettled, tokenId :: front, token, back,
              by rw [htokens]; rfl, ?_, ?_⟩
            · rw [hfront, hhistory, List.append_assoc]
              rfl
            · intro hworld
              have hshift : index + (tokenId :: front).length = index + 1 + front.length := by
                rw [List.length_cons]
                omega
              rw [hshift] at hworld
              have hinner := hanswer hworld
              rw [hhistory, List.append_assoc session.history] at hinner
              exact hinner

/-- The decoding loop fails at its first evaluation, behind it, or for lack of a token. -/
theorem decode_settled (law : model.Deterministic fine Evaluated answer)
    (rolls : model.RollsBack fine Evaluated) (host : SamplerHost R W) (env : CallEnvironment Ω)
    (config : SamplingConfig) (emit : Callback τ) (promptLength : Nat) (exhausted : StopReason)
    (remaining index : Nat) {sampler : Sampler R} (generated : List Nat)
    (size : sampler.vocabularySize = model.vocabularySize)
    (h : Tracks model Evaluated answer session)
    (room : session.history.length + remaining ≤ model.contextLength) (caller : τ) :
    Ends (fun _ last => Settled model Evaluated answer last.1)
      (fun error last => Settled model Evaluated answer last.1 ∧ ∀ inner, error = .model inner →
        (0 < remaining ∧ last.1.healthy = false ∧ last.1.history = session.history ∧
          ∃ tokenId rng, sampler.sample host session.logits session.history sampler.rng =
          (.ok tokenId, rng) ∧
            (fine (env.world (promptLength + index)) → ∃ inner,
            answer (session.history ++ [tokenId]) = .error inner)) ∨
        (fine (env.world (promptLength + index)) ∧ session.history.length < last.1.history.length))
      (Generator.decode model host env config emit promptLength exhausted remaining index
        sampler generated
        (session, caller)) := by
  cases remaining with
  | zero => exact .answered _ _ (settled h)
  | succ remaining =>
      unfold Generator.decode
      split
      · exact .answered _ _ (settled h)
      · apply Ends.read_bind
        apply Ends.lift_bind
        · intro error herror
          refine ⟨settled h, ?_⟩
          rintro inner rfl
          obtain ⟨_, -, hwrapped⟩ := wrap_eq_error.mp herror
          cases hwrapped
        · intro tokenId hdrawn
          have hsample := wrap_eq_ok.mp hdrawn
          have hknown : tokenId < model.vocabularySize := by
            rw [← size]
            exact Sampler.sample_lt host (Prod.ext hsample rfl)
          apply Ends.bind (Q := fun _ next => fine (env.world (promptLength + index)) ∧
            Tracks model Evaluated answer next.1 ∧ next.1.history = session.history ++ [tokenId])
          · apply Ends.zoom
            apply (law.evaluate_settled rolls (env.world (promptLength + index)) hknown h).mono
            · intro _ next hnext
              exact hnext
            · rintro error last ⟨hunhealthy, hsettled, hhistory, hanswer⟩
              refine ⟨hsettled, ?_⟩
              intro inner _
              exact Or.inl ⟨Nat.succ_pos _, hunhealthy, hhistory, tokenId, _,
                Prod.ext hsample rfl, hanswer⟩
          · rintro _ ⟨next, caller'⟩ ⟨hcalm, hnext, hhistory⟩
            have hlonger : next.history.length = session.history.length + 1 := by
              rw [hhistory, List.length_append]
              rfl
            apply Ends.bind (Q := fun _ after => after.1 = next)
            · apply Ends.zoom
              unfold Generator.emitToken
              dsimp only
              split
              · exact .answered _ _ rfl
              · exact .answered _ _ rfl
            · rintro ⟨generated', reason⟩ ⟨after, caller''⟩ rfl
              cases reason with
              | some reason => exact .answered _ _ (settled hnext)
              | none =>
                  dsimp only at hlonger
                  have hroom : after.history.length + remaining ≤ model.contextLength := by omega
                  have hrest := (law.settling rolls (session.history.length + 1)).decode host env
                      (fun _ => trivial) config
                    emit promptLength exhausted remaining (index + 1)
                    { sampler with rng := (sampler.sample host session.logits session.history
                      sampler.rng).2 } generated'
                    (after, caller'') size ⟨hnext, hlonger.ge⟩ hroom
                  apply hrest.mono
                  · rintro _ last ⟨hlast, -⟩
                    exact settled hlast
                  · rintro error last ⟨hsettled, hlength⟩
                    refine ⟨hsettled, ?_⟩
                    intro inner _
                    exact Or.inr ⟨hcalm, hlength⟩

/-- Where a stream over a prompt met a fault. -/
inductive Struck (model : CausalModel Ω S E) (fine : Ω → Prop)
    (answer : List Nat → Except E (List F32)) (host : SamplerHost R W) (env : CallEnvironment Ω)
    (config : SamplingConfig) (start : List Nat) (suffix : List Nat) (limit : Nat)
    (broken : GenerationSession S) : Prop where
  | prompt (front : List Nat) (tokenId : Nat) (back : List Nat)
      (tokens : suffix = front ++ tokenId :: back) (unhealthy : broken.healthy = false)
      (history : broken.history = start ++ front)
      (failed : fine (env.world front.length) →
        ∃ inner, answer (start ++ front ++ [tokenId]) = .error inner)
  | first (positive : 0 < limit) (unhealthy : broken.healthy = false)
      (history : broken.history = start ++ suffix) {sampler : Sampler R}
      (opened : Sampler.new host env.alloc config model.vocabularySize = .ok sampler)
      {logits : List F32} (absorbed : Absorbed answer model.vocabularySize (start ++ suffix) logits)
      {tokenId : Nat} {rng : R}
      (drawn : sampler.sample host logits (start ++ suffix) sampler.rng = (.ok tokenId, rng))
      (failed : fine (env.world suffix.length) →
        ∃ inner, answer (start ++ suffix ++ [tokenId]) = .error inner)
  | later (calm : ∀ n, n ≤ suffix.length → fine (env.world n))
      (longer : (start ++ suffix).length < broken.history.length)

theorem prepare_failsIn (model : CausalModel Ω S E) (alloc : GenerationSite → Bool)
    (config : SamplingConfig) (promptTokens : List Nat) (session : GenerationSession S) :
    FailsIn (Generator.prepare model alloc config promptTokens session) fun error => ∀ inner,
      error ≠ .model inner := by
  unfold Generator.prepare
  refine FailsIn.bind ?_ fun _ _ => ?_
  · intro _ herror
    obtain ⟨_, -, rfl⟩ := wrap_eq_error.mp herror
    exact fun _ => nofun
  · refine (failsIn_ensure fun _ => nofun).bind fun _ _ => ?_
    split
    · intro _ herror
      cases herror
      exact fun _ => nofun
    · refine (failsIn_ensure fun _ => nofun).bind fun _ _ => ?_
      refine (failsIn_ensure fun _ => nofun).bind fun _ _ => ?_
      refine (failsIn_okOr fun _ => nofun).bind fun _ _ => ?_
      refine (failsIn_ensure fun _ => nofun).bind fun _ _ => ?_
      refine (failsIn_ensure fun _ => nofun).bind fun _ _ => ?_
      exact .pure _ _

/-- A stream that fails in the model was struck by a fault, and leaves a settled session. -/
theorem stream_struck (law : model.Deterministic fine Evaluated answer)
    (rolls : model.RollsBack fine Evaluated) (host : SamplerHost R W) (env : CallEnvironment Ω)
    (config : SamplingConfig) (suffix : List Nat) (emit : Callback τ)
    (h : Tracks model Evaluated answer session) (caller : τ) :
    Ends (fun _ last => Settled model Evaluated answer last.1)
      (fun error last => Settled model Evaluated answer last.1 ∧ ∀ inner, error = .model inner →
        ∃ limit, Generator.Admitted model env.alloc config suffix session limit ∧
          Struck model fine answer host env config session.history suffix limit last.1)
      (Generator.generateStream model host env config suffix emit (session, caller)) := by
  have hposition := law.position _ _ h.evaluated
  unfold Generator.generateStream
  apply Ends.read_bind
  apply Ends.lift_bind
  · intro error herror
    refine ⟨settled h, ?_⟩
    rintro inner rfl
    exact absurd rfl (prepare_failsIn model env.alloc config suffix session _ herror inner)
  · intro limit hprepared
    have hadmitted := Generator.prepare_eq_ok_iff.mp hprepared
    have hroom := hadmitted.length_le
    rw [hposition] at hroom
    split
    · exact .answered _ _ (settled h)
    · apply Ends.bind (Q := fun absorbed next => Tracks model Evaluated answer next.1 ∧
        (absorbed = true →
        next.1.history = session.history ++ suffix ∧ ∀ n, n < suffix.length → fine (env.world n)))
      · apply Ends.zoom
        apply (law.prefill_settled rolls env suffix 0 session h hadmitted.known).mono
        · rintro absorbed next ⟨hnext, -, habsorbed⟩
          refine ⟨hnext, ?_⟩
          simpa only [Nat.zero_add] using habsorbed
        · rintro error last ⟨hunhealthy, hsettled, front, tokenId, back, htokens, hhistory, hfailed⟩
          refine ⟨hsettled, ?_⟩
          intro inner _
          rw [Nat.zero_add] at hfailed
          exact ⟨limit, hadmitted, .prompt front tokenId back htokens hunhealthy hhistory hfailed⟩
      · rintro absorbed ⟨next, caller'⟩ ⟨hnext, habsorbed⟩
        cases absorbed with
        | false => exact .answered _ _ (settled hnext)
        | true =>
            obtain ⟨hhistory, hcalm⟩ := habsorbed rfl
            dsimp only at hnext hhistory
            rw [if_pos rfl]
            apply Ends.lift_bind
            · intro error herror
              refine ⟨settled hnext, ?_⟩
              rintro inner rfl
              obtain ⟨_, -, hwrapped⟩ := wrap_eq_error.mp herror
              cases hwrapped
            · intro sampler hsampler
              have hopened := wrap_eq_ok.mp hsampler
              have hsize := Sampler.new_vocabularySize host hopened
              have hlength : next.history.length = session.history.length + suffix.length := by
                rw [hhistory, List.length_append]
              have hdecode := law.decode_settled rolls host env config emit suffix.length
                (if limit < config.maxNewTokens then .contextLength else .maxTokens) limit 0 []
                  hsize hnext (by omega) caller'
              rw [Nat.add_zero] at hdecode
              apply Ends.bind (Q := fun _ last => Settled model Evaluated answer last.1)
              · apply hdecode.mono
                · intro _ last hlast
                  exact hlast
                · rintro error last ⟨hsettled, hmodel⟩
                  refine ⟨hsettled, ?_⟩
                  intro inner herror
                  refine ⟨limit, hadmitted, ?_⟩
                  rcases hmodel inner herror with
                    ⟨hpositive, hunhealthy, hstopped, tokenId, rng, hdrawn, hfailed⟩
                      | ⟨hfirst, hlonger⟩
                  · rw [hhistory] at hstopped hdrawn hfailed
                    have habsorbed := hnext.absorbed
                    rw [hhistory] at habsorbed
                    exact .first hpositive hunhealthy hstopped hopened habsorbed hdrawn hfailed
                  · refine .later ?_ ?_
                    · intro n hn
                      rcases Nat.lt_or_eq_of_le hn with hlt | rfl
                      · exact hcalm n hlt
                      · exact hfirst
                    · rw [← hhistory]
                      exact hlonger
              · rintro ⟨generated, reason⟩ last hlast
                exact .answered _ last hlast

/-- What an answered stream knows of its prompt and of the first token after it. -/
structure Spoken (model : CausalModel Ω S E) (answer : List Nat → Except E (List F32))
    (host : SamplerHost R W) (alloc : GenerationSite → Bool) (config : SamplingConfig)
    (history : List Nat) (limit : Nat) : Prop where
  absorbed : ∃ logits, Absorbed answer model.vocabularySize history logits
  first : 0 < limit → ∃ sampler logits tokenId rng next,
    Sampler.new host alloc config model.vocabularySize = .ok sampler ∧
    Absorbed answer model.vocabularySize history logits ∧
    sampler.sample host logits history sampler.rng = (.ok tokenId, rng) ∧
      answer (history ++ [tokenId]) = .ok next

theorem stream_answered (law : model.Deterministic fine Evaluated answer)
    (rolls : model.RollsBack fine Evaluated) (host : SamplerHost R W) {env : CallEnvironment Ω}
    (uncancelled : ∀ n, env.cancelled n = false) (config : SamplingConfig) (promptTokens : List Nat)
    (emit : Callback τ) (h : Tracks model Evaluated answer session) {caller : τ}
    {outcome : GenerationOutcome} {last : GenerationSession S × τ}
    (hrun : Generator.generateStream model host env config promptTokens emit (session, caller) =
      (.ok outcome, last)) :
    ∃ limit, Generator.Admitted model env.alloc config promptTokens session limit ∧
      Spoken model answer host env.alloc config (session.history ++ promptTokens) limit := by
  unfold Generator.generateStream at hrun
  rw [Command.bind_of_ok (Command.read_run _)] at hrun
  obtain ⟨limit, hprepared, hrun⟩ := Command.lift_bind_ok_iff.mp hrun
  have hadmitted := Generator.prepare_eq_ok_iff.mp hprepared
  rw [uncancelled, if_neg Bool.false_ne_true] at hrun
  obtain ⟨absorbed, middle, hprefill, hrun⟩ := Command.bind_ok_iff.mp hrun
  have hends := law.prefill_settled rolls env promptTokens 0 session h hadmitted.known
  rcases hloop : Generator.prefill model env 0 promptTokens session with ⟨r, next⟩
  rw [hloop] at hends
  rw [Command.zoom_run hloop] at hprefill
  obtain ⟨rfl, rfl⟩ := Prod.mk.inj hprefill
  obtain ⟨hnext, hdone, hhistory⟩ := hends.of_ok rfl
  obtain rfl := hdone uncancelled
  obtain ⟨hhistory, -⟩ := hhistory rfl
  have habsorbed := hnext.absorbed
  rw [hhistory] at habsorbed
  refine ⟨limit, hadmitted, ⟨_, habsorbed⟩, ?_⟩
  intro hpositive
  rw [if_pos rfl] at hrun
  obtain ⟨sampler, hsampler, hrun⟩ := Command.lift_bind_ok_iff.mp hrun
  have hopened := wrap_eq_ok.mp hsampler
  obtain ⟨_, _, hdecode, -⟩ := Command.bind_ok_iff.mp hrun
  obtain ⟨remaining, rfl⟩ := Nat.exists_eq_succ_of_ne_zero hpositive.ne'
  unfold Generator.decode at hdecode
  rw [uncancelled, if_neg Bool.false_ne_true, Command.bind_of_ok (Command.read_run _)] at hdecode
  obtain ⟨tokenId, hdrawn, hdecode⟩ := Command.lift_bind_ok_iff.mp hdecode
  have hsample := wrap_eq_ok.mp hdrawn
  have hknown : tokenId < model.vocabularySize := by
    rw [← Sampler.new_vocabularySize host hopened]
    exact Sampler.sample_lt host (Prod.ext hsample rfl)
  obtain ⟨_, _, heval, -⟩ := Command.bind_ok_iff.mp hdecode
  have hstep := law.evaluate_settled rolls (env.world (promptTokens.length + 0)) hknown hnext
  rcases hevaluated : Generator.evaluate model (env.world (promptTokens.length + 0)) tokenId
    next with ⟨r, after⟩
  rw [hevaluated] at hstep
  rw [Command.zoom_run hevaluated] at heval
  obtain ⟨rfl, -⟩ := Prod.mk.inj heval
  obtain ⟨-, hafter, hlonger⟩ := hstep.of_ok rfl
  have hlast := hafter.absorbed
  rw [hlonger, hhistory] at hlast
  rw [hhistory] at hsample
  exact ⟨sampler, _, tokenId, _, _, hopened, habsorbed, Prod.ext hsample rfl, hlast.init.2⟩

/-- A fault that leaves the history a front of the prompt struck before the second token that
was generated, and one that strikes later leaves more than the prompt. -/
theorem Struck.prefix_iff {host : SamplerHost R W} {env : CallEnvironment Ω}
    {alloc : GenerationSite → Bool} {config : SamplingConfig} {start suffix : List Nat}
    {limit : Nat} {broken : GenerationSession S}
    (h : Struck model fine answer host env config start suffix limit broken)
    (spoken : Spoken model answer host alloc config (start ++ suffix) limit) :
    ¬ broken.history <+: start ++ suffix ↔ ∀ n, n ≤ suffix.length → fine (env.world n) := by
  obtain ⟨⟨whole, hwhole⟩, hfirst⟩ := spoken
  cases h with
  | prompt front tokenId back tokens unhealthy history failed =>
      subst tokens
      constructor
      · intro hprefix
        refine absurd ?_ hprefix
        rw [history, ← List.append_assoc]
        exact List.prefix_append _ _
      · intro hcalm
        obtain ⟨inner, hinner⟩ := failed (hcalm _ (by rw [List.length_append]; omega))
        rw [← List.append_assoc] at hwhole
        obtain ⟨next, hnext⟩ := hwhole.answered
        exact absurd (hnext.symm.trans hinner) nofun
  | first positive unhealthy history opened absorbed drawn failed =>
      constructor
      · intro hprefix
        refine absurd ?_ hprefix
        rw [history]
      · intro hcalm
        obtain ⟨inner, hinner⟩ := failed (hcalm _ (Nat.le_refl _))
        obtain ⟨sampler, logits, tokenId, rng, next, hopened, habsorbed, hdrawn, hnext⟩ :=
          hfirst positive
        obtain rfl := Sampler.new_agree host opened hopened
        obtain rfl := absorbed.unique habsorbed
        obtain ⟨htoken, -⟩ := Prod.mk.inj (drawn.symm.trans hdrawn)
        cases htoken
        exact absurd (hnext.symm.trans hinner) nofun
  | later calm longer =>
      refine ⟨fun _ => calm, ?_⟩
      intro _ hprefix
      exact absurd hprefix.length_le (Nat.not_le_of_lt longer)

theorem Struck.unhealthy {host : SamplerHost R W} {env : CallEnvironment Ω}
    {config : SamplingConfig} {start suffix : List Nat} {limit : Nat} {broken : GenerationSession S}
    (h : Struck model fine answer host env config start suffix limit broken)
    (hfront : broken.history <+: start ++ suffix) :
    broken.healthy = false := by
  cases h with
  | prompt _ _ _ _ unhealthy _ _ => exact unhealthy
  | first _ unhealthy _ _ _ _ _ => exact unhealthy
  | later _ longer => exact absurd hfront.length_le (Nat.not_le_of_lt longer)

/-- A stream refuses a poisoned session. -/
theorem stream_poisoned (model : CausalModel Ω S E) (host : SamplerHost R W)
    (env : CallEnvironment Ω) (config : SamplingConfig) (promptTokens : List Nat)
    (emit : Callback τ) (unhealthy : session.healthy = false) (caller : τ) :
    ∃ error, (∀ inner, error ≠ .model inner) ∧
      Generator.generateStream model host env config promptTokens emit (session, caller) =
      (.error error, session, caller) := by
  cases hprepared : Generator.prepare model env.alloc config promptTokens session with
  | ok limit =>
      have hhealthy := (Generator.prepare_eq_ok_iff.mp hprepared).healthy
      rw [unhealthy] at hhealthy
      cases hhealthy
  | error error =>
      refine ⟨error,
        prepare_failsIn model env.alloc config promptTokens session error hprepared, ?_⟩
      unfold Generator.generateStream
      rw [Command.bind_of_ok (Command.read_run _)]
      dsimp only
      rw [hprepared, Command.bind_of_error (Command.lift_run _ _)]

end CausalModel.Deterministic

/-! ### Completions -/

namespace Hy3ChatEngine
variable {engine : Hy3ChatEngine Ω S E R W V} {fine : Ω → Prop} {Evaluated : S → List Nat → Prop}
  {answer : List Nat → Except E (List F32)} {session broken : GenerationSession S}

open CausalModel.Deterministic

theorem resume_settled (law : engine.model.toCausalModel.Deterministic fine Evaluated answer)
    (promptTokens : List Nat) (h : Settled engine.model.toCausalModel Evaluated answer session) :
    Settled engine.model.toCausalModel Evaluated answer
      (resume engine.model.toCausalModel promptTokens session) := by
  unfold resume
  split
  · exact h
  · exact settled (law.reset_tracks h.evaluated h.width)

/-- The stream of a completion leaves a settled session, and fails in the model only where a
fault struck it. -/
theorem streamTokens_struck (law : engine.model.toCausalModel.Deterministic fine Evaluated answer)
    (rolls : engine.model.toCausalModel.RollsBack fine Evaluated) (env : CallEnvironment Ω)
    (sampling : SamplingConfig) (stopSequences : List Text) (suffix : List Nat)
    (emit : TextCallback υ) (h : Settled engine.model.toCausalModel Evaluated answer session)
    (caller : υ) :
    Ends (fun _ last => Settled engine.model.toCausalModel Evaluated answer last.1)
      (fun error last => Settled engine.model.toCausalModel Evaluated answer last.1 ∧
        ∀ inner, error = .generation (.model inner) →
          Tracks engine.model.toCausalModel Evaluated answer session ∧ ∃ limit,
            Generator.Admitted engine.model.toCausalModel env.alloc
              (sampling.insertStop engine.tokenizer.eos) suffix session
              limit ∧
            Struck engine.model.toCausalModel fine answer engine.host env
              (sampling.insertStop engine.tokenizer.eos)
              session.history suffix limit last.1)
      (streamTokens engine env sampling stopSequences suffix emit (session, caller)) := by
  unfold streamTokens
  dsimp only
  by_cases hhealthy : session.healthy = true
  · have hstream :=
      law.stream_struck rolls engine.host env (sampling.insertStop engine.tokenizer.eos) suffix
      (streamToken engine.tokenizer emit) (h.tracks hhealthy) (.start stopSequences, caller)
    generalize Generator.generateStream engine.model.toCausalModel engine.host env
      (sampling.insertStop engine.tokenizer.eos)
      suffix (streamToken engine.tokenizer emit) (session, .start stopSequences, caller) =
        ended at hstream ⊢
    cases hstream with
    | answered outcome last hlast => exact .answered _ _ hlast
    | failed error last hlast =>
        refine .failed _ _ ⟨hlast.1, ?_⟩
        intro inner herror
        cases herror
        exact ⟨h.tracks hhealthy, hlast.2 inner rfl⟩
  · obtain ⟨error, hmodel, hrun⟩ := stream_poisoned engine.model.toCausalModel engine.host env
      (sampling.insertStop engine.tokenizer.eos) suffix (streamToken engine.tokenizer emit)
      (Bool.eq_false_iff.mpr hhealthy) (.start stopSequences, caller)
    rw [hrun]
    refine .failed _ _ ⟨h, ?_⟩
    intro inner herror
    cases herror
    exact absurd rfl (hmodel inner)

theorem flush_failsIn (emit : TextCallback υ) (decodedText : Text) (outcome : GenerationOutcome)
    (stream : StreamState) (caller : υ) :
    Ends (fun _ _ => True)
      (fun (error : ChatEngineError E TokenizerError) _ => ∀ inner, error ≠ .generation inner)
      (flush emit decodedText outcome stream caller) := by
  unfold flush
  apply Ends.lift_bind
  · intro error herror
    obtain ⟨-, rfl⟩ := okOr_eq_error.mp herror
    exact fun _ => nofun
  · intro suffix _
    generalize stream.filter.push suffix = pushed
    obtain ⟨update, filter⟩ := pushed
    apply Ends.bind (Q := fun _ _ => True)
    · exact .answered _ _ trivial
    · intro broke after _
      dsimp only
      split
      · exact .answered _ _ trivial
      · split
        · exact .answered _ _ trivial
        · apply Ends.bind (Q := fun _ _ => True)
          · exact .answered _ _ trivial
          · intro _ _ _
            exact .answered _ _ trivial

theorem conclude_failsIn (request : ChatRequest V) (promptTokens : List Nat) (cached : Nat)
    (outcome : GenerationOutcome) (stream : StreamState) (caller : υ) :
    Ends (fun _ _ => True) (fun error _ => ∀ inner, error ≠ .generation inner)
      (conclude engine request promptTokens cached outcome stream caller) := by
  apply Ends.lift_bind
  · intro error herror
    obtain ⟨_, -, rfl⟩ := wrap_eq_error.mp herror
    exact fun _ => nofun
  · intro _ _
    exact .answered _ _ trivial

/-- What follows the stream never fails in the model. -/
theorem assemble_failsIn (request : ChatRequest V) (promptTokens : List Nat) (cached : Nat)
    (emit : TextCallback υ) (outcome : GenerationOutcome) (stream : StreamState) (caller : υ) :
    Ends (fun _ _ => True) (fun error _ => ∀ inner, error ≠ .generation inner)
      (assemble engine request promptTokens cached emit outcome stream caller) := by
  unfold assemble
  apply Ends.lift_bind
  · intro error herror
    split at herror
    · cases herror
      exact fun _ => nofun
    · cases herror
  · intro _ _
    apply Ends.lift_bind
    · intro error herror
      obtain ⟨_, -, rfl⟩ := wrap_eq_error.mp herror
      exact fun _ => nofun
    · intro decodedText _
      apply Ends.bind (Q := fun _ _ => True)
      · split
        · exact .answered _ _ trivial
        · exact flush_failsIn emit decodedText _ stream caller
      · intro ended after _
        exact conclude_failsIn request promptTokens cached ended.1 ended.2 after

/-- Where a completion failed in the model, and what it left. -/
theorem complete_struck (law : engine.model.toCausalModel.Deterministic fine Evaluated answer)
    (rolls : engine.model.toCausalModel.RollsBack fine Evaluated) (env : CallEnvironment Ω)
    (request : ChatRequest V) (emit : TextCallback υ)
    (h : Settled engine.model.toCausalModel Evaluated answer session) (caller : υ) :
    Ends (fun _ last => Settled engine.model.toCausalModel Evaluated answer last.1)
      (fun error last => Settled engine.model.toCausalModel Evaluated answer last.1 ∧
        ∀ inner, error = .generation (.model inner) → ∃ promptTokens,
          promptOf engine request = .ok promptTokens ∧
          Tracks engine.model.toCausalModel Evaluated answer
            (resume engine.model.toCausalModel promptTokens session) ∧
          ∃ limit, Generator.Admitted engine.model.toCausalModel env.alloc
              (request.sampling.insertStop engine.tokenizer.eos)
              (promptTokens.drop
                (resume engine.model.toCausalModel promptTokens session).history.length)
              (resume engine.model.toCausalModel promptTokens session) limit ∧
            Struck engine.model.toCausalModel fine answer engine.host env
              (request.sampling.insertStop engine.tokenizer.eos)
              (resume engine.model.toCausalModel promptTokens session).history
              (promptTokens.drop
                (resume engine.model.toCausalModel promptTokens session).history.length)
              limit last.1)
      (completeWithStopsInSession engine env request emit (session, caller)) := by
  cases hprompt : promptOf engine request with
  | error error =>
      rw [complete_refused env emit caller hprompt]
      refine .failed _ _ ⟨h, ?_⟩
      rintro inner rfl
      rcases except_bind_error_iff.mp hprompt with hstops | ⟨_, -, hencoded⟩
      · unfold checkStops at hstops
        split at hstops <;> cases hstops
      · obtain ⟨_, -, hwrapped⟩ := wrap_eq_error.mp hencoded
        cases hwrapped
  | ok promptTokens =>
      rw [complete_run env emit caller hprompt]
      have hstream := streamTokens_struck law rolls env request.sampling request.stopSequences
        (promptTokens.drop (resume engine.model.toCausalModel promptTokens session).history.length)
          emit
        (resume_settled law promptTokens h) caller
      apply Ends.bind (Q := fun _ last =>
        Settled engine.model.toCausalModel Evaluated answer last.1)
      · apply hstream.mono
        · intro _ last hlast
          exact hlast
        · rintro error last ⟨hsettled, hmodel⟩
          refine ⟨hsettled, ?_⟩
          intro inner herror
          exact ⟨promptTokens, rfl, hmodel inner herror⟩
      · rintro ⟨outcome, stream⟩ ⟨last, caller'⟩ hlast
        apply Ends.zoom
        apply (assemble_failsIn request promptTokens _ emit outcome stream caller').mono
        · intro _ _ _
          exact hlast
        · intro error _ hgeneration
          refine ⟨hlast, ?_⟩
          intro inner herror
          exact absurd herror (hgeneration _)

/-- Chat sessions that completions and resets lead to, whether they answer or fail. -/
inductive Used (engine : Hy3ChatEngine Ω S E R W V) : GenerationSession S → Prop where
  | opened (alloc : GenerationSite → Bool) (env : Ω) {session : GenerationSession S}
      (h : Generator.newSession engine.model.toCausalModel alloc env = .ok session) :
      Used engine session
  | completed {υ : Type} {session : GenerationSession S} (h : Used engine session)
      (env : CallEnvironment Ω) (request : ChatRequest V) (emit : TextCallback υ) (caller : υ) :
      Used engine (completeWithStopsInSession engine env request emit (session, caller)).2.1
  | reset {session : GenerationSession S} (h : Used engine session) :
      Used engine (Generator.reset engine.model.toCausalModel session)

theorem Used.settled (law : engine.model.toCausalModel.Deterministic fine Evaluated answer)
    (rolls : engine.model.toCausalModel.RollsBack fine Evaluated) (h : Used engine session) :
    Settled engine.model.toCausalModel Evaluated answer session := by
  induction h with
  | opened alloc env h => exact CausalModel.Deterministic.settled (law.newSession_tracks h).1
  | completed _ env request emit caller ih =>
      exact ((complete_struck law rolls env request emit ih caller).mono (fun _ _ hlast => hlast)
        fun _ _ hlast => hlast.1).last
  | reset _ ih => exact CausalModel.Deterministic.settled (law.reset_tracks ih.evaluated ih.width)

/-- A completion that answers in a fresh session has evaluated its prompt and the first token after
it. -/
theorem complete_spoken (law : engine.model.toCausalModel.Deterministic fine Evaluated answer)
    (rolls : engine.model.toCausalModel.RollsBack fine Evaluated) {env : CallEnvironment Ω}
    (uncancelled : ∀ n, env.cancelled n = false) {request : ChatRequest V}
    {emit : TextCallback υ} {caller : υ}
    (h : Tracks engine.model.toCausalModel Evaluated answer session) (empty : session.history = [])
    {completion : ChatCompletion V} {last : GenerationSession S × υ}
    (hrun : completeWithStopsInSession engine env request emit (session, caller) =
      (.ok completion, last)) {promptTokens : List Nat}
    (hprompt : promptOf engine request = .ok promptTokens) :
    ∃ limit, Generator.Admitted engine.model.toCausalModel env.alloc
      (request.sampling.insertStop engine.tokenizer.eos)
        promptTokens session limit ∧
      Spoken engine.model.toCausalModel answer engine.host env.alloc
        (request.sampling.insertStop engine.tokenizer.eos)
        promptTokens limit := by
  have hstart : resume engine.model.toCausalModel promptTokens session = session := by
    unfold resume
    rw [empty]
    rfl
  rw [complete_run env emit caller hprompt, hstart, empty, List.length_nil, List.drop_zero] at hrun
  obtain ⟨_, _, hstream, -⟩ := Command.bind_ok_iff.mp hrun
  unfold streamTokens at hstream
  dsimp only at hstream
  rcases hgenerated : Generator.generateStream engine.model.toCausalModel engine.host env
    (request.sampling.insertStop engine.tokenizer.eos) promptTokens
      (streamToken engine.tokenizer emit)
    (session, .start request.stopSequences, caller) with ⟨r, after⟩
  rw [hgenerated] at hstream
  cases r with
  | error error => cases hstream
  | ok outcome =>
      obtain ⟨limit, hadmitted, hspoken⟩ :=
        law.stream_answered rolls engine.host uncancelled _ promptTokens _ h hgenerated
      rw [empty] at hspoken
      exact ⟨limit, hadmitted, hspoken⟩

/-- A poisoned session refuses every request whose prompt extends it. -/
theorem complete_poisoned (env : CallEnvironment Ω) {request : ChatRequest V}
    (emit : TextCallback υ) (caller : υ) {promptTokens : List Nat}
    (hprompt : promptOf engine request = .ok promptTokens) (unhealthy : session.healthy = false)
    (hfront : session.history <+: promptTokens) :
    ∃ error, completeWithStopsInSession engine env request emit (session, caller) =
      (.error error, session, caller) := by
  have hstart : resume engine.model.toCausalModel promptTokens session = session := by
    unfold resume
    rw [if_pos (List.isPrefixOf_iff_prefix.mpr hfront)]
  obtain ⟨error, -, hstream⟩ := stream_poisoned engine.model.toCausalModel engine.host env
    (request.sampling.insertStop engine.tokenizer.eos) (promptTokens.drop session.history.length)
    (streamToken engine.tokenizer emit) unhealthy (.start request.stopSequences, caller)
  refine ⟨.generation error, ?_⟩
  rw [complete_run env emit caller hprompt, hstart]
  apply Command.bind_of_error
  unfold streamTokens
  rw [hstream]

/-- A request that failed in the model succeeds as on a fresh session exactly when the fault struck
behind the first generated token. -/
theorem retry_as_fresh (law : engine.model.toCausalModel.Deterministic fine Evaluated answer)
    (rolls : engine.model.toCausalModel.RollsBack fine Evaluated) (used : Used engine session)
    {env : CallEnvironment Ω} {request : ChatRequest V} {emit : TextCallback υ}
    {caller caller' : υ} {inner : E}
    (failed : completeWithStopsInSession engine env request emit (session, caller) =
      (.error (.generation (.model inner)), broken, caller'))
    {alloc : GenerationSite → Bool} {world : Ω} {fresh : GenerationSession S}
    (hfresh : Generator.newSession engine.model.toCausalModel alloc world = .ok fresh)
    {retry first : CallEnvironment Ω} (calm : ∀ n, fine (retry.world n))
    (calm' : ∀ n, fine (first.world n)) (halloc : first.alloc = retry.alloc)
    (uncancelled : ∀ n, retry.cancelled n = false) (uncancelled' : ∀ n, first.cancelled n = false)
    {completion : ChatCompletion V} {last : GenerationSession S × υ}
    (succeeds : completeWithStopsInSession engine first request emit (fresh, caller) =
      (.ok completion, last)) :
    SameCompletion (Evenly engine.model.toCausalModel Evaluated)
        (completeWithStopsInSession engine retry request emit (broken, caller))
        (completeWithStopsInSession engine first request emit (fresh, caller)) ↔
      ∀ promptTokens, promptOf engine request = .ok promptTokens →
        ∀ n, n ≤ (promptTokens.drop
          (resume engine.model.toCausalModel promptTokens session).history.length).length →
          fine (env.world n) := by
  obtain ⟨ht, hempty⟩ := law.newSession_tracks hfresh
  have hstruck := complete_struck law rolls env request emit (used.settled law rolls) caller
  rw [failed] at hstruck
  obtain ⟨hsettled, hmodel⟩ := hstruck.of_error rfl
  obtain ⟨promptTokens, hprompt, hresumed, limit, hadmitted, hstruck⟩ := hmodel inner rfl
  obtain ⟨limit', hadmitted', hspoken⟩ :=
    complete_spoken law rolls uncancelled' ht hempty succeeds hprompt
  have hfront := resume_prefix engine.model.toCausalModel promptTokens session
  generalize hstart : resume engine.model.toCausalModel promptTokens session =
    start at hresumed hadmitted hstruck hfront
  obtain ⟨suffix, rfl⟩ := hfront
  rw [List.drop_left] at hadmitted hstruck
  have hlimit : limit' = limit := by
    have hlimit := hadmitted.limit
    have hlimit' := hadmitted'.limit
    rw [law.position _ _ hresumed.evaluated] at hlimit
    rw [law.position _ _ ht.evaluated, hempty, List.length_append] at hlimit'
    rw [hlimit, hlimit', List.length_nil, Nat.sub_zero, Nat.sub_add_eq]
  rw [hlimit] at hspoken
  have hprefix := hstruck.prefix_iff hspoken
  constructor
  · intro hsame promptTokens' hprompt'
    obtain rfl := Except.ok.inj (hprompt.symm.trans hprompt')
    rw [hstart, List.drop_left]
    apply hprefix.mp
    intro hfront
    obtain ⟨error, hrefused⟩ :=
      complete_poisoned retry emit caller hprompt (hstruck.unhealthy hfront) hfront
    rw [hrefused, succeeds] at hsame
    cases hsame
  · intro hcalm
    have hcalm := hcalm _ hprompt
    rw [hstart, List.drop_left] at hcalm
    have hlost := hprefix.mpr hcalm
    refine complete_resumed law calm calm' request ?_ ht hempty
      (fun _ _ => .of_uncancelled halloc uncancelled uncancelled' _)
      emit caller
    intro promptTokens' hprompt'
    obtain rfl := Except.ok.inj (hprompt.symm.trans hprompt')
    unfold resume
    rw [if_neg fun hfront => hlost (List.isPrefixOf_iff_prefix.mp hfront)]
    exact law.reset_tracks hsettled.evaluated hsettled.width

theorem countingModel_rollsBack : countingModel.toCausalModel.RollsBack (fun fault => fault = false)
    fun session history => session = history.length where
  evaluated fault session history tokenId logits hposition hwidth := by
    cases fault with
    | false => exact .answered () _ rfl
    | true => exact .failed () _ ⟨hposition, hwidth⟩

/-- A call whose evaluation of number `index` meets a fault. -/
def faultyCall (index : Nat) : CallEnvironment Bool :=
  ⟨fun _ => true, fun n => n == index, fun _ => false⟩

def firstSession : GenerationSession Nat := ⟨0, [], [F32.zero], false, true⟩

/-- What the fault leaves of the first session. -/
def brokenSession : GenerationSession Nat := { firstSession with healthy := false }

/-- The fault strikes the first token of the prompt: the retry is not what a fresh session answers.
-/
theorem retry_as_fresh_first :
    ¬ SameCompletion (Evenly countingModel.toCausalModel fun session history =>
      session = history.length)
      (completeWithStopsInSession countingEngine calmCall (countingRequest ['z'])
        (fun _ state => (false, state))
        (brokenSession, ()))
      (completeWithStopsInSession countingEngine calmCall (countingRequest ['z'])
        (fun _ state => (false, state))
        (firstSession, ())) := by
  have hopened : Generator.newSession countingModel.toCausalModel (fun _ => true) false =
      .ok firstSession := rfl
  have hprompt : promptOf countingEngine (countingRequest ['z']) = .ok [0] := by decide +kernel
  have hfailed : completeWithStopsInSession countingEngine (faultyCall 0) (countingRequest ['z'])
      (fun _ state => (false, state)) (firstSession, ()) =
        (.error (.generation (.model ())), brokenSession, ()) := by
    rw [complete_run _ _ _ hprompt]
    rfl
  have hsucceeds : (completeWithStopsInSession countingEngine calmCall (countingRequest ['z'])
      (fun _ state => (false, state)) (firstSession, ())).1.isOk = true := by decide +kernel
  rcases hrun : completeWithStopsInSession countingEngine calmCall (countingRequest ['z'])
    (fun _ state => (false, state))
    (firstSession, ()) with ⟨r, last⟩
  rw [hrun] at hsucceeds
  cases r with
  | error error => cases hsucceeds
  | ok completion =>
      rw [← hrun]
      intro hsame
      have hcalm :=
        (retry_as_fresh countingModel_deterministic countingModel_rollsBack
          (.opened _ _ hopened) hfailed
        hopened (fun _ => rfl) (fun _ => rfl) rfl (fun _ => rfl) (fun _ => rfl) hrun).mp hsame [0]
        hprompt 0 (Nat.zero_le _)
      cases hcalm

/-- A request that met a fault at its first token is refused from then on, and answered on a fresh
session. -/
theorem not_retry_as_fresh :
    completeWithStopsInSession countingEngine (faultyCall 0) (countingRequest ['z'])
      (fun _ state => (false, state))
      (firstSession, ()) = (.error (.generation (.model ())), brokenSession, ()) ∧
      completeWithStopsInSession countingEngine calmCall (countingRequest ['z'])
        (fun _ state => (false, state))
        (brokenSession, ()) = (.error (.generation .sessionPoisoned), brokenSession, ()) ∧
      (completeWithStopsInSession countingEngine calmCall (countingRequest ['z'])
        (fun _ state => (false, state))
        (firstSession, ())).1.isOk = true := by
  have hprompt : promptOf countingEngine (countingRequest ['z']) = .ok [0] := by decide +kernel
  refine ⟨?_, ?_, by decide +kernel⟩
  · rw [complete_run _ _ _ hprompt]
    rfl
  · rw [complete_run _ _ _ hprompt]
    rfl

end Hy3ChatEngine
end LightBridge.Runtime
