import LightBridge.Runtime.Postcondition
import LightBridge.Runtime.PrefixReuse

/-! Greedy generation in two calls. What the second call goes on from is what one call has
at that place: the logits, the history its penalties look at, and the room that is left. -/
namespace LightBridge.Runtime
open Foundation Command

variable {Ω S E R W : Type}

/-- A model whose evaluation is a function of its session, the logits and the token in every
environment that is `fine`, and takes one position. -/
structure CausalModel.Functional (model : CausalModel Ω S E) (fine : Ω → Prop) : Prop where
  evaluated : ∀ env env', fine env → fine env' → model.evaluateToken env = model.evaluateToken env'
  advanced : ∀ env tokenId state state', fine env →
    model.evaluateToken env tokenId state = (.ok (), state') →
    model.position state'.1 = model.position state.1 + 1

def SamplingConfig.limited (config : SamplingConfig) (maxNewTokens : Nat) : SamplingConfig :=
  { config with maxNewTokens }

/-- A temperature of zero. -/
def SamplingConfig.Greedy (config : SamplingConfig) : Prop := config.temperature.magnitude = 0

namespace Generator

def quiet : Callback Unit := fun _ state => (false, state)

/-- The first of the sorted candidates. -/
def greedyChoice (host : SamplerHost R W) (config : SamplingConfig) (vocabularySize : Nat)
    (logits : List F32)
    (history : List Nat) : Except SamplingError Nat := do
  ensure (logits.length = vocabularySize) (.logitCountMismatch vocabularySize logits.length)
  (match logits.findIdx? F32.isNaN with
    | some tokenId => .error (.nanLogit tokenId)
    | none => .ok ())
  okOr (((((candidatesOf host config logits history).mergeSort candidateLe).head?).filter
    fun candidate =>
    decide (candidate.logit ≠ F32.negInfinity)).map Candidate.tokenId) .noCandidate

/-- A greedy choice looks at no random number and does not depend on how many tokens may follow. -/
theorem sample_greedy (host : SamplerHost R W) {config : SamplingConfig} (greedy : config.Greedy)
    (maxNewTokens vocabularySize : Nat) (seeded : R) (logits : List F32) (history : List Nat) :
    Sampler.sample host ⟨config.limited maxNewTokens, vocabularySize, seeded⟩ logits history =
      Command.lift (greedyChoice host config vocabularySize logits history) := by
  have htemperature : (config.limited maxNewTokens).temperature.magnitude = 0 := greedy
  unfold Sampler.sample greedyChoice
  dsimp only
  rw [if_pos htemperature]
  simp only [Command.lift_bind_lift]
  rfl

section Resume
variable {model : CausalModel Ω S E} {host : SamplerHost R W} {fine : Ω → Prop}
    {config : SamplingConfig}

theorem evaluate_functional (functional : model.Functional fine) {env env' : Ω} (hfine : fine env)
    (hfine' : fine env') :
    evaluate model env = evaluate model env' := by
  funext tokenId session
  unfold evaluate
  rw [functional.evaluated env env' hfine hfine']

theorem prefill_functional (functional : model.Functional fine) {env env' : CallEnvironment Ω}
    (hfine : ∀ n, fine (env.world n)) (hfine' : ∀ n, fine (env'.world n))
    (calm : ∀ n, env.cancelled n = false) (calm' : ∀ n, env'.cancelled n = false)
    (index : Nat) (tokens : List Nat) :
    prefill model env index tokens = prefill model env' index tokens := by
  induction tokens generalizing index with
  | nil => rfl
  | cons tokenId rest ih =>
      unfold prefill
      rw [calm, calm', evaluate_functional functional (hfine index) (hfine' index), ih]

theorem emitToken_quiet (config : SamplingConfig) (maxNewTokens tokenId index : Nat)
    (generated : List Nat) :
    emitToken (E := E) (config.limited maxNewTokens) quiet ⟨tokenId, index⟩ generated () =
      (.ok (if config.stopTokens.contains tokenId then
          (if config.emitStopToken then generated ++ [tokenId] else generated,
          some (.stopToken tokenId))
        else (generated ++ [tokenId], none)), ()) := by
  have hstops : (config.limited maxNewTokens).stopTokens.contains tokenId =
      config.stopTokens.contains tokenId := rfl
  have hemit : (config.limited maxNewTokens).emitStopToken = config.emitStopToken := rfl
  unfold emitToken quiet
  dsimp only
  rw [hstops, hemit]
  cases config.stopTokens.contains tokenId with
  | false => rfl
  | true =>
      cases config.emitStopToken with
      | false => rfl
      | true => rfl

/-- A step of a quiet loop: a token that is sampled, evaluated and returned or, as a stop token, the
end. -/
theorem decode_quiet_succ (greedy : config.Greedy) {env : CallEnvironment Ω}
    (calm : ∀ n, env.cancelled n = false) (maxNewTokens promptLength : Nat) (exhausted : StopReason)
    (remaining index vocabularySize : Nat) (rng : R) (generated : List Nat)
    (session : GenerationSession S) :
    decode model host env (config.limited maxNewTokens) quiet promptLength exhausted
      (remaining + 1) index
        ⟨config.limited maxNewTokens, vocabularySize, rng⟩ generated (session, ()) =
      (Command.lift
        (wrap .sampling (greedyChoice host config vocabularySize session.logits session.history))
        >>= fun tokenId =>
        (evaluate model (env.world (promptLength + index)) tokenId).zoom Prod.fst
          (fun session state => (session, state.2)) >>= fun _ =>
        if config.stopTokens.contains tokenId then
          pure (if config.emitStopToken then generated ++ [tokenId] else generated,
          .stopToken tokenId)
        else decode model host env (config.limited maxNewTokens) quiet promptLength exhausted
          remaining (index + 1)
          ⟨config.limited maxNewTokens, vocabularySize, rng⟩ (generated ++ [tokenId]))
        (session, ()) := by
  conv_lhs => unfold decode
  dsimp only
  rw [calm, if_neg Bool.false_ne_true, Command.bind_of_ok (Command.read_run _)]
  dsimp only
  rw [sample_greedy host greedy, Command.lift_run]
  refine congrFun
    (congrArg _ (funext fun tokenId => congrArg _ (funext fun _ => funext fun state => ?_)))
      (session, ())
  rw [Command.bind_of_ok
    (Command.zoom_run (emitToken_quiet config maxNewTokens tokenId index generated))]
  split
  · rfl
  · rfl

variable (host) in
/-- A loop in another call goes on as one that has tokens behind it. -/
theorem decode_resumed (functional : model.Functional fine) (greedy : config.Greedy)
    {env env' : CallEnvironment Ω} (hfine : ∀ n, fine (env.world n))
    (hfine' : ∀ n, fine (env'.world n)) (calm : ∀ n, env.cancelled n = false)
    (calm' : ∀ n, env'.cancelled n = false) (limit limit' promptLength promptLength' : Nat)
    (exhausted : StopReason) (vocabularySize : Nat) (rng : R) (front : List Nat) (remaining : Nat) :
    ∀ (index index' : Nat) (generated : List Nat) (session : GenerationSession S),
      decode model host env (config.limited limit) quiet promptLength exhausted remaining index
          ⟨config.limited limit, vocabularySize, rng⟩ (front ++ generated) (session, ()) =
        ((decode model host env' (config.limited limit') quiet promptLength' exhausted
          remaining index'
            ⟨config.limited limit', vocabularySize, rng⟩ generated (session, ())).1.map
            fun answer => (front ++ answer.1, answer.2),
          (decode model host env' (config.limited limit') quiet promptLength' exhausted
            remaining index'
            ⟨config.limited limit', vocabularySize, rng⟩ generated (session, ())).2) := by
  induction remaining with
  | zero =>
      intro _ _ _ _
      rfl
  | succ remaining ih =>
      intro index index' generated session
      rw [decode_quiet_succ greedy calm, decode_quiet_succ greedy calm',
        evaluate_functional functional (hfine _) (hfine' (promptLength' + index'))]
      apply Command.bind_mapped
      intro tokenId state
      apply Command.bind_mapped
      rintro _ ⟨next, _⟩
      split
      · cases config.emitStopToken with
        | true =>
            rw [if_pos rfl, if_pos rfl, List.append_assoc]
            rfl
        | false => rfl
      · rw [List.append_assoc]
        exact ih (index + 1) (index' + 1) (generated ++ [tokenId]) next

/-- A loop that is exhausted after its steps goes on with the steps that one with more of them has.
-/
theorem decode_more (functional : model.Functional fine) (greedy : config.Greedy)
    {env env' : CallEnvironment Ω} (hfine : ∀ n, fine (env.world n))
    (hfine' : ∀ n, fine (env'.world n)) (calm : ∀ n, env.cancelled n = false)
    (calm' : ∀ n, env'.cancelled n = false) (limit limit' promptLength more : Nat)
    (exhausted : StopReason) (vocabularySize : Nat) (rng : R) {ids : List Nat}
    {middle : GenerationSession S} (steps : Nat) :
    ∀ (index : Nat) (generated : List Nat) (session : GenerationSession S),
      decode model host env (config.limited limit) quiet promptLength .maxTokens steps index
          ⟨config.limited limit, vocabularySize, rng⟩ generated (session, ()) =
          (.ok (ids, .maxTokens), middle, ()) →
      decode model host env' (config.limited limit') quiet promptLength exhausted
        (steps + more) index
          ⟨config.limited limit', vocabularySize, rng⟩ generated (session, ()) =
        decode model host env' (config.limited limit') quiet promptLength exhausted more
          (index + steps)
          ⟨config.limited limit', vocabularySize, rng⟩ ids (middle, ()) := by
  induction steps with
  | zero =>
      intro index generated session h
      cases h
      rw [Nat.zero_add, Nat.add_zero]
  | succ steps ih =>
      intro index generated session h
      rw [decode_quiet_succ greedy calm] at h
      obtain ⟨tokenId, hdrawn, h⟩ := Command.lift_bind_ok_iff.mp h
      obtain ⟨_, _, hevaluate, h⟩ := Command.bind_ok_iff.mp h
      obtain ⟨next, hnext, rfl⟩ := Command.zoom_eq_iff.mp hevaluate
      rw [evaluate_functional functional (hfine _) (hfine' (promptLength + index))] at hnext
      split at h
      · cases h
      · rename_i hplain
        rw [Nat.add_right_comm, decode_quiet_succ greedy calm', hdrawn,
          Command.bind_of_ok (Command.lift_run _ _), Command.bind_of_ok (Command.zoom_run hnext),
          if_neg hplain, ← Nat.add_assoc, Nat.add_right_comm index]
        exact ih (index + 1) (generated ++ [tokenId]) next h

/-- A session that has evaluated these tokens more. -/
structure Advanced (model : CausalModel Ω S E) (session last : GenerationSession S)
    (tokens : List Nat) : Prop where
  healthy : last.healthy = session.healthy
  history : last.history = session.history ++ tokens
  position : model.position last.model = model.position session.model + tokens.length
  hasLogits : last.hasLogits = true ↔ tokens ≠ [] ∨ session.hasLogits = true

theorem Advanced.refl (session : GenerationSession S) : Advanced model session session [] :=
  ⟨rfl, (List.append_nil _).symm, rfl, ⟨Or.inr, fun h => h.resolve_left fun h => h rfl⟩⟩

theorem Advanced.evaluate (functional : model.Functional fine) {env : Ω} (hfine : fine env)
    {tokenId : Nat} {session next : GenerationSession S}
    (h : evaluate model env tokenId session = (.ok (), next)) :
    Advanced model session next [tokenId] := by
  unfold Generator.evaluate at h
  split at h
  · rename_i hrun
    cases h
    exact ⟨rfl, rfl, functional.advanced env tokenId _ _ hfine hrun,
      ⟨fun _ => Or.inl (List.cons_ne_nil _ _), fun _ => rfl⟩⟩
  · cases h

theorem Advanced.trans {session middle last : GenerationSession S} {tokens more : List Nat}
    (h : Advanced model session middle tokens)
    (h' : Advanced model middle last more) : Advanced model session last (tokens ++ more) := by
  refine ⟨h'.healthy.trans h.healthy, ?_, ?_, ?_⟩
  · rw [h'.history, h.history, List.append_assoc]
  · rw [h'.position, h.position, List.length_append, Nat.add_assoc]
  · rw [h'.hasLogits, h.hasLogits, ← or_assoc,
      or_comm (a := more ≠ []), ← not_and_or, ← List.append_eq_nil_iff]

theorem prefill_advanced (functional : model.Functional fine) {env : CallEnvironment Ω}
    (hfine : ∀ n, fine (env.world n)) {index : Nat} {tokens : List Nat}
    {session last : GenerationSession S}
    (h : prefill model env index tokens session = (.ok true, last)) :
    Advanced model session last tokens := by
  induction tokens generalizing index session with
  | nil =>
      cases h
      exact .refl _
  | cons tokenId rest ih =>
      unfold prefill at h
      split at h
      · cases h
      · obtain ⟨_, next, hevaluate, h⟩ := Command.bind_ok_iff.mp h
        exact (Advanced.evaluate functional (hfine index) hevaluate).trans (ih h)

theorem Sampled.advanced (functional : model.Functional fine) {world : Nat → Ω}
    (hfine : ∀ n, fine (world n)) {index : Nat} {sampler : Sampler R}
    {session last : GenerationSession S} {sampled : List Nat}
    (h : Sampled model host world index sampler session sampled last) :
    Advanced model session last sampled := by
  induction h with
  | none => exact .refl _
  | token _ evaluated _ ih => exact (Advanced.evaluate functional (hfine _) evaluated).trans ih

/-- What is left to check of a call that is in order, where the allocator grants what can be had. -/
theorem prepare_of_granted {alloc : GenerationSite → Bool} {promptTokens : List Nat}
    {session : GenerationSession S} {limit : Nat}
    (valid : config.validate model.vocabularySize = .ok ()) (healthy : session.healthy = true)
    (known : ∀ tokenId ∈ promptTokens, tokenId < model.vocabularySize)
    (room : model.position session.model ≤ model.contextLength ∧
      promptTokens.length ≤ model.contextLength - model.position session.model)
    (prompt : promptTokens ≠ [] ∨ session.hasLogits = true) (history : alloc .history = true)
    (generated : alloc .generated = true)
    (hlimit : limit = min config.maxNewTokens
      (model.contextLength - model.position session.model - promptTokens.length)) :
    prepare model alloc config promptTokens session =
      if 4 * (session.history.length + (promptTokens.length + limit)) ≤ isizeMax then .ok limit
      else .error .allocationFailed := by
  split
  · rename_i hfits
    apply prepare_eq_ok_iff.mpr
    refine ⟨valid, healthy, known, room, prompt, hlimit, ?_, ?_⟩
    · simp [tryReserve, history, hfits]
    · have : 4 * limit ≤ isizeMax := by omega
      simp [tryReserve, generated, this]
  · rename_i hfits
    have hfind : (promptTokens.find? fun tokenId => decide (model.vocabularySize ≤ tokenId)) =
        none := by
      rw [List.find?_eq_none]
      simpa using known
    have hcontext := model.contextLength_le
    unfold prepare
    have hfails : tryReserve (alloc .history) 4
        (session.history.length + (promptTokens.length + limit)) ≠ true := by
      simp [tryReserve, hfits]
    rw [valid, hfind]
    dsimp only
    rw [← hlimit, checkedAdd_of_le (by omega)]
    simp only [wrap, okOr, ensure, except_ok_bind, if_pos healthy, if_pos room, if_pos prompt,
      if_neg hfails]
    rfl

theorem generate_run {env : CallEnvironment Ω} (calm : ∀ n, env.cancelled n = false)
    {promptTokens : List Nat} {session ready : GenerationSession S} {limit : Nat}
    {sampler : Sampler R}
    (prepared : prepare model env.alloc config promptTokens session = .ok limit)
    (filled : prefill model env 0 promptTokens session = (.ok true, ready))
    (opened : Sampler.new host env.alloc config model.vocabularySize = .ok sampler)
    {r : Except (GenerationError E) (List Nat × StopReason)} {last : GenerationSession S}
    (decoded : decode model host env config quiet promptTokens.length
      (if limit < config.maxNewTokens then .contextLength else .maxTokens) limit 0 sampler []
      (ready, ()) = (r, last, ())) :
    generate model host env config promptTokens session =
      (r.map fun answer => outcome answer.1 answer.2 promptTokens.length, last) := by
  have hopened : wrap (GenerationError.sampling (E := E))
      (Sampler.new host env.alloc config model.vocabularySize) = .ok sampler :=
    wrap_eq_ok.mpr opened
  have hrun : generateStream model host env config promptTokens (fun _ state => (false, state))
      (session, ()) =
      (r.map fun answer => outcome answer.1 answer.2 promptTokens.length, last, ()) := by
    unfold generateStream
    rw [Command.bind_of_ok (Command.read_run _)]
    dsimp only
    rw [prepared, Command.bind_of_ok (Command.lift_run _ _), calm, if_neg Bool.false_ne_true,
      Command.bind_of_ok (Command.zoom_run filled), if_pos rfl, hopened,
      Command.bind_of_ok (Command.lift_run _ _)]
    cases r with
    | ok answer => exact Command.bind_of_ok decoded
    | error error => exact Command.bind_of_error decoded
  unfold generate
  rw [hrun]

theorem generate_refused {env : CallEnvironment Ω} {promptTokens : List Nat}
    {session : GenerationSession S} {error : GenerationError E}
    (h : prepare model env.alloc config promptTokens session = .error error) :
    generate model host env config promptTokens session = (.error error, session) := by
  unfold generate generateStream
  rw [Command.bind_of_ok (Command.read_run _)]
  dsimp only
  rw [h, Command.bind_of_error (Command.lift_run _ _)]

/-- A call that ends with as many tokens as it may sample had room for them. -/
theorem generate_maxTokens {env : CallEnvironment Ω} {promptTokens : List Nat}
    {session middle : GenerationSession S}
    {first : GenerationOutcome}
    (h : generate model host env config promptTokens session = (.ok first, middle))
    (hreason : first.stopReason = .maxTokens) :
    ∃ ready sampler, Admitted model env.alloc config promptTokens session config.maxNewTokens ∧
      prefill model env 0 promptTokens session = (.ok true, ready) ∧
      Sampler.new host env.alloc config model.vocabularySize = .ok sampler ∧
      decode model host env config quiet promptTokens.length .maxTokens config.maxNewTokens 0
        sampler [] (ready, ()) = (.ok (first.tokenIds, .maxTokens), middle, ()) ∧
      first.promptTokens = promptTokens.length := by
  have hrun : generateStream model host env config promptTokens quiet (session, ()) =
      (.ok first, middle, ()) := by
    obtain ⟨hanswer, hlast⟩ := Prod.mk.inj h
    exact Prod.ext hanswer (Prod.ext hlast rfl)
  unfold generateStream at hrun
  rw [Command.bind_of_ok (Command.read_run _)] at hrun
  obtain ⟨limit, hprepared, hrun⟩ := Command.lift_bind_ok_iff.mp hrun
  have hadmitted := prepare_eq_ok_iff.mp hprepared
  split at hrun
  · cases hrun
    cases hreason
  · obtain ⟨absorbed, _, hprefill, hrun⟩ := Command.bind_ok_iff.mp hrun
    obtain ⟨ready, hready, rfl⟩ := Command.zoom_eq_iff.mp hprefill
    cases absorbed with
    | false =>
        cases hrun
        cases hreason
    | true =>
        rw [if_pos rfl] at hrun
        obtain ⟨sampler, hsampler, hrun⟩ := Command.lift_bind_ok_iff.mp hrun
        obtain ⟨⟨ids, reason⟩, ⟨last, _⟩, hdecode, hrun⟩ := Command.bind_ok_iff.mp hrun
        cases hrun
        obtain rfl : reason = .maxTokens := hreason
        obtain ⟨sampled, _, _, _, hloop⟩ := decode_loop hdecode nofun
        have hlimit : limit = config.maxNewTokens := by
          have hle := hadmitted.limit
          by_contra hne
          rw [if_pos (by omega)] at hloop
          rcases hloop.otherwise with hother | ⟨_, hother⟩ | hother
          · cases hother
          · cases hother
          · cases hother
        subst hlimit
        rw [if_neg (Nat.lt_irrefl _)] at hdecode
        exact ⟨ready, sampler, hadmitted, hready, wrap_eq_ok.mp hsampler, hdecode, rfl⟩

theorem new_limited {alloc : GenerationSite → Bool} {vocabularySize n : Nat} {sampler : Sampler R}
    (h : Sampler.new host alloc (config.limited n) vocabularySize = .ok sampler) (m : Nat) :
    sampler = ⟨config.limited n, vocabularySize, host.seedFromU64 config.seed⟩ ∧
      Sampler.new host alloc (config.limited m) vocabularySize =
      .ok ⟨config.limited m, vocabularySize, host.seedFromU64 config.seed⟩ := by
  unfold Sampler.new at h ⊢
  obtain ⟨_, hvalid, h⟩ := except_bind_ok_iff.mp h
  obtain ⟨_, hcandidates, h⟩ := except_bind_ok_iff.mp h
  obtain ⟨_, hrepeated, h⟩ := except_bind_ok_iff.mp h
  cases h
  refine ⟨rfl, ?_⟩
  change ((config.limited n).validate vocabularySize >>= _) = _
  rw [hvalid, except_ok_bind, hcandidates, except_ok_bind, hrepeated]
  rfl

/-- The outcome of two calls, the second without a prompt. -/
def continued (first second : GenerationOutcome) : GenerationOutcome :=
  outcome (first.tokenIds ++ second.tokenIds) second.stopReason first.promptTokens

/-- One call and the second of two ask for the same room in the history. -/
theorem prepare_split {alloc : GenerationSite → Bool} {promptTokens sampled : List Nat}
    {session middle : GenerationSession S} {n : Nat}
    (admitted : Admitted model alloc (config.limited n) promptTokens session n)
    (advanced : Advanced model session middle (promptTokens ++ sampled))
    (steps : sampled.length = n) (m : Nat) :
    ∃ rest,
      prepare model alloc (config.limited (n + m)) promptTokens session =
          (if 4 * (session.history.length + (promptTokens.length + (n + rest))) ≤
            isizeMax then .ok (n + rest)
            else .error .allocationFailed) ∧
        prepare model alloc (config.limited m) [] middle =
          (if 4 * (session.history.length + (promptTokens.length + (n + rest))) ≤
            isizeMax then .ok rest
            else .error .allocationFailed) := by
  have hhistory := congrArg List.length advanced.history
  have hposition := advanced.position
  rw [List.length_append] at hposition
  rw [List.length_append, List.length_append] at hhistory
  have hroom := admitted.room
  have hlimit : n =
      min n (model.contextLength - model.position session.model - promptTokens.length) :=
        admitted.limit
  have hhistoryGranted := (Bool.and_eq_true_iff.mp admitted.history).1
  have hgeneratedGranted := (Bool.and_eq_true_iff.mp admitted.generated).1
  have hvalid : ∀ k, (config.limited k).validate model.vocabularySize = .ok () :=
    fun _ => admitted.valid
  refine ⟨min m (model.contextLength - model.position session.model - promptTokens.length - n), ?_,
    ?_⟩
  · apply prepare_of_granted (hvalid _) admitted.healthy admitted.known hroom admitted.prompt
      hhistoryGranted hgeneratedGranted
    change _ = min (n + m) _
    omega
  · have hroom₂ : model.position middle.model ≤ model.contextLength := by
      rw [hposition]
      omega
    have hlogits : middle.hasLogits = true := by
      apply advanced.hasLogits.mpr
      rcases admitted.prompt with hprompt | hlogits
      · exact Or.inl (List.append_ne_nil_of_left_ne_nil hprompt sampled)
      · exact Or.inr hlogits
    have hrest : min m
        (model.contextLength - model.position session.model - promptTokens.length - n) =
        min m (model.contextLength - model.position middle.model - ([] : List Nat).length) := by
      rw [hposition, List.length_nil]
      omega
    have hprepare : prepare model alloc (config.limited m) [] middle = _ :=
      prepare_of_granted (hvalid m)
      (advanced.healthy.trans admitted.healthy) (List.forall_mem_nil _) ⟨hroom₂, Nat.zero_le _⟩
        (Or.inr hlogits) hhistoryGranted
      hgeneratedGranted hrest
    rw [hprepare, hhistory, steps, List.length_nil]
    simp only [Nat.add_assoc, Nat.zero_add]

/-- A greedy call that ends with as many tokens as it may sample, and one without a prompt after it,
answer as one call for as many tokens as both, and leave the session as it does unless no memory can
be had. -/
theorem generate_split (functional : model.Functional fine) (greedy : config.Greedy)
    {env env₁ env₂ : CallEnvironment Ω} (hfine : ∀ n, fine (env.world n))
    (hfine₁ : ∀ n, fine (env₁.world n)) (hfine₂ : ∀ n, fine (env₂.world n))
    (calm : ∀ n, env.cancelled n = false) (calm₁ : ∀ n, env₁.cancelled n = false)
    (calm₂ : ∀ n, env₂.cancelled n = false) (halloc₁ : env₁.alloc = env.alloc)
    (halloc₂ : env₂.alloc = env.alloc) {n : Nat} (m : Nat) {promptTokens : List Nat}
    {session middle : GenerationSession S} {first : GenerationOutcome}
    (h : generate model host env₁ (config.limited n) promptTokens session = (.ok first, middle))
    (hreason : first.stopReason = .maxTokens) :
    (generate model host env (config.limited (n + m)) promptTokens session).1 =
        (generate model host env₂ (config.limited m) [] middle).1.map (continued first) ∧
      ((generate model host env (config.limited (n + m)) promptTokens session).1 ≠
        .error .allocationFailed →
        (generate model host env (config.limited (n + m)) promptTokens session).2 =
          (generate model host env₂ (config.limited m) [] middle).2) := by
  obtain ⟨ready, sampler, hadmitted, hready, hsampler, hdecode, hprompt⟩ :=
    generate_maxTokens h hreason
  obtain ⟨hseeded, _⟩ := new_limited hsampler n
  obtain ⟨sampled, _, _, hsampled, hloop⟩ := decode_loop hdecode nofun
  have hsteps : sampled.length = n := ((hloop.stopsFor nofun fun _ => nofun).ended.mp rfl).2.2
  have hmiddle : Advanced model session middle (promptTokens ++ sampled) :=
    (prefill_advanced functional hfine₁ hready).trans
      (hsampled.advanced functional fun _ => hfine₁ _)
  obtain ⟨rest, hprepare, hprepare₂⟩ := prepare_split hadmitted hmiddle hsteps m
  rw [halloc₁] at hprepare hprepare₂
  by_cases hfits : 4 * (session.history.length + (promptTokens.length + (n + rest))) ≤ isizeMax
  · rw [if_pos hfits] at hprepare hprepare₂
    have hopened := (new_limited hsampler (n + m)).2
    have hopened₂ := (new_limited hsampler m).2
    rw [halloc₁] at hopened hopened₂
    rw [← halloc₂] at hopened₂ hprepare₂
    have hready' : prefill model env 0 promptTokens session = (.ok true, ready) := by
      rw [prefill_functional functional hfine hfine₁ calm calm₁]
      exact hready
    have hexhausted : (if n + rest <
        (config.limited (n + m)).maxNewTokens then StopReason.contextLength else .maxTokens) =
        if rest < (config.limited m).maxNewTokens then .contextLength else .maxTokens := by
      change (if n + rest < n + m then _ else _) = if rest < m then _ else _
      simp only [Nat.add_lt_add_iff_left]
    generalize hlast : (if rest < (config.limited m).maxNewTokens then StopReason.contextLength
      else .maxTokens) = exhausted at hexhausted
    rcases hdecode₂ : decode model host env₂ (config.limited m) quiet 0 exhausted rest 0
      ⟨config.limited m, model.vocabularySize, host.seedFromU64 config.seed⟩ []
        (middle, ()) with ⟨r, last, _⟩
    have hwhole : decode model host env (config.limited (n + m)) quiet promptTokens.length exhausted
        (n + rest) 0
        ⟨config.limited (n + m), model.vocabularySize, host.seedFromU64 config.seed⟩ []
          (ready, ()) = (r.map fun answer => (first.tokenIds ++ answer.1, answer.2), last, ()) := by
      rw [hseeded] at hdecode
      rw [decode_more functional greedy hfine₁ hfine calm₁ calm n
        (n + m) promptTokens.length rest exhausted _ _ n 0 [] ready hdecode]
      have hresumed := decode_resumed host functional greedy hfine hfine₂ calm calm₂
          (n + m) m promptTokens.length 0 exhausted
        model.vocabularySize (host.seedFromU64 config.seed) first.tokenIds rest (0 + n) 0 [] middle
      rw [hdecode₂, List.append_nil] at hresumed
      exact hresumed
    have hone := generate_run calm hprepare hready' hopened (hexhausted ▸ hwhole)
    have htwo := generate_run calm₂ hprepare₂ rfl hopened₂ (hlast ▸ hdecode₂)
    rw [hone, htwo]
    refine ⟨?_, fun _ => rfl⟩
    cases r with
    | ok answer =>
        change Except.ok (outcome _ _ _) = Except.ok (outcome _ _ _)
        rw [hprompt]
        rfl
    | error error => rfl
  · rw [if_neg hfits] at hprepare hprepare₂
    rw [← halloc₂] at hprepare₂
    rw [generate_refused hprepare, generate_refused hprepare₂]
    exact ⟨rfl, fun h => absurd rfl h⟩

theorem countingModel_functional : Hy3ChatEngine.countingModel.toCausalModel.Functional fun fault =>
      fault = false where
  evaluated _ _ hfine hfine' := by rw [hfine, hfine']
  advanced _ _ _ _ hfine h := by
    subst hfine
    cases h
    rfl

def greedyDefault : SamplingConfig := { SamplingConfig.default with temperature := .zero }

theorem greedyDefault_greedy : greedyDefault.Greedy := by
  change F32.zero.magnitude = 0
  decide

/-- Two tokens after a prompt of one, and one more. -/
theorem generate_split_counting :
    let session : GenerationSession Nat := ⟨0, [], [F32.zero], false, true⟩
    let middle : GenerationSession Nat := ⟨3, [0, 0, 0], [F32.zero], true, true⟩
    let run n promptTokens session :=
      generate Hy3ChatEngine.countingModel.toCausalModel GenerationSession.greedyHost
      Hy3ChatEngine.calmCall (greedyDefault.limited n) promptTokens session
    (run (2 + 1) [0] session).1 = (run 1 [] middle).1.map
      (continued (outcome [0, 0] .maxTokens 1)) ∧
      ((run (2 + 1) [0] session).1 ≠ .error .allocationFailed →
        (run (2 + 1) [0] session).2 = (run 1 [] middle).2) :=
  generate_split countingModel_functional greedyDefault_greedy (fun _ => rfl) (fun _ => rfl)
    (fun _ => rfl) (fun _ => rfl)
    (fun _ => rfl) (fun _ => rfl) rfl rfl 1 (by decide +kernel) rfl

end Resume
end Generator
end LightBridge.Runtime
