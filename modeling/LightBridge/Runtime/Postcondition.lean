import LightBridge.Runtime.Invariant

/-! What a stream that answers has done: the tokens it sampled, those it returned and passed
to its callback, and the reason it stopped for. -/
namespace LightBridge.Runtime
open Foundation Command

variable {Ω S E R W τ : Type}

/-- The cancellation token never says that the call is cancelled. -/
def CallEnvironment.Uncancelled (env : CallEnvironment Ω) : Prop := ∀ n, env.cancelled n = false

theorem CallEnvironment.Uncancelled.not_cancelled {env : CallEnvironment Ω} (h : env.Uncancelled)
    {n : Nat} (hcancelled : env.cancelled n = true) : False := by
  rw [h n] at hcancelled
  cases hcancelled

namespace Generator

/-- Tokens sampled one after another, each from the logits and the history the last one left. -/
inductive Sampled (model : CausalModel Ω S E) (host : SamplerHost R W) (world : Nat → Ω) :
    Nat → Sampler R → GenerationSession S → List Nat → GenerationSession S → Prop where
  | none (index : Nat) (sampler : Sampler R) (session : GenerationSession S) :
      Sampled model host world index sampler session [] session
  | token {index tokenId : Nat} {sampler : Sampler R} {rng : R}
      {session next last : GenerationSession S} {rest : List Nat}
      (drawn : sampler.sample host session.logits session.history sampler.rng = (.ok tokenId, rng))
      (evaluated : evaluate model (world index) tokenId session = (.ok (), next))
      (later : Sampled model host world (index + 1) { sampler with rng } next rest last) :
      Sampled model host world index sampler session (tokenId :: rest) last

/-- The tokens with their numbers, as the callback gets them. -/
def numbered (index : Nat) (tokenIds : List Nat) : List GeneratedToken :=
  (tokenIds.zipIdx index).map fun entry => ⟨entry.1, entry.2⟩

/-- The answers of a callback that is passed these tokens, and where they leave it. -/
def consult (emit : Callback τ) : List GeneratedToken → τ → List Bool × τ
  | [], state => ([], state)
  | token :: tokens, state =>
      let (answer, state) := emit token state
      let (answers, state) := consult emit tokens state
      (answer :: answers, state)

/-- The sampled tokens, less a stop token at their end where these are not emitted. -/
def withoutFinalStop (config : SamplingConfig) (sampled : List Nat) : List Nat :=
  if !config.emitStopToken && sampled.getLast?.any config.stopTokens.contains then sampled.dropLast
    else sampled

/-- How a loop goes that may sample `limit` more tokens, the first of them with the number `index`.
-/
inductive Loop (config : SamplingConfig) (emit : Callback τ) (exhausted : StopReason) :
    Nat → Nat → List Nat → List Nat → StopReason → τ → τ → Prop where
  | exhausted (index : Nat) (state : τ) :
      Loop config emit exhausted 0 index [] [] exhausted state state
  | silent {limit index tokenId : Nat} {state : τ} (stop : tokenId ∈ config.stopTokens)
      (hidden : config.emitStopToken = false) :
      Loop config emit exhausted (limit + 1) index [tokenId] [] (.stopToken tokenId) state state
  | broke {limit index tokenId : Nat} {state state' : τ}
      (shown : tokenId ∉ config.stopTokens ∨ config.emitStopToken = true)
      (answer : emit ⟨tokenId, index⟩ state = (true, state')) :
      Loop config emit exhausted (limit + 1) index [tokenId] [tokenId] .callback state state'
  | stopped {limit index tokenId : Nat} {state state' : τ} (stop : tokenId ∈ config.stopTokens)
      (shown : config.emitStopToken = true)
      (answer : emit ⟨tokenId, index⟩ state = (false, state')) :
      Loop config emit exhausted (limit + 1) index [tokenId] [tokenId] (.stopToken tokenId) state
        state'
  | token {limit index tokenId : Nat} {sampled tokenIds : List Nat} {reason : StopReason}
      {state next state' : τ} (plain : tokenId ∉ config.stopTokens)
      (answer : emit ⟨tokenId, index⟩ state = (false, next))
      (later : Loop config emit exhausted limit (index + 1) sampled tokenIds reason next state') :
      Loop config emit exhausted (limit + 1) index (tokenId :: sampled) (tokenId :: tokenIds) reason
        state state'

section Loop
variable {config : SamplingConfig} {emit : Callback τ} {exhausted : StopReason} {limit index : Nat}
    {sampled tokenIds : List Nat}
  {reason : StopReason} {state state' : τ}

theorem withoutFinalStop_cons {tokenId : Nat} (plain : tokenId ∉ config.stopTokens)
    (sampled : List Nat) :
    withoutFinalStop config (tokenId :: sampled) = tokenId :: withoutFinalStop config sampled := by
  unfold withoutFinalStop
  cases sampled with
  | nil => simp [plain]
  | cons next rest =>
      rw [List.getLast?_cons_cons, List.dropLast_cons_cons]
      split
      · rfl
      · rfl

theorem Loop.kept
      (h : Loop config emit exhausted limit index sampled tokenIds reason state state') :
    tokenIds = withoutFinalStop config sampled := by
  induction h with
  | exhausted => simp [withoutFinalStop]
  | silent stop hidden => simp [withoutFinalStop, stop, hidden]
  | broke shown _ =>
      rcases shown with hplain | hshown
      · simp [withoutFinalStop, hplain]
      · simp [withoutFinalStop, hshown]
  | stopped _ shown _ => simp [withoutFinalStop, shown]
  | token plain _ _ ih => rw [withoutFinalStop_cons plain, ih]

theorem Loop.length_le
      (h : Loop config emit exhausted limit index sampled tokenIds reason state state') :
    sampled.length ≤ limit := by
  induction h with
  | exhausted => exact Nat.le_refl 0
  | token _ _ _ ih => exact Nat.succ_le_succ ih
  | silent | broke | stopped => exact Nat.succ_le_succ (Nat.zero_le _)

/-- A stop token is the last one sampled. -/
theorem Loop.early
      (h : Loop config emit exhausted limit index sampled tokenIds reason state state') :
    ∀ tokenId ∈ sampled.dropLast, tokenId ∉ config.stopTokens := by
  induction h with
  | @token _ _ tokenId sampled _ _ _ _ _ plain _ _ ih =>
      cases sampled with
      | nil => exact List.forall_mem_nil _
      | cons next rest =>
          rw [List.dropLast_cons_cons]
          exact List.forall_mem_cons.mpr ⟨plain, ih⟩
  | exhausted | silent | broke | stopped => exact List.forall_mem_nil _

theorem consult_cons {tokenId : Nat} {next : τ} {answer : Bool}
    (h : emit ⟨tokenId, index⟩ state = (answer, next)) (tokenIds : List Nat) :
    consult emit (numbered index (tokenId :: tokenIds)) state =
      (answer :: (consult emit (numbered (index + 1) tokenIds) next).1,
        (consult emit (numbered (index + 1) tokenIds) next).2) := by
  change consult emit (⟨tokenId, index⟩ :: numbered (index + 1) tokenIds) state = _
  rw [consult, h]

/-- The callback is left where the returned tokens leave it. -/
theorem Loop.passed
      (h : Loop config emit exhausted limit index sampled tokenIds reason state state') :
    (consult emit (numbered index tokenIds) state).2 = state' := by
  induction h with
  | exhausted | silent => rfl
  | broke _ answer => rw [consult_cons answer]; rfl
  | stopped _ _ answer => rw [consult_cons answer]; rfl
  | token _ answer _ ih => rw [consult_cons answer, ih]

/-- The callback lets every token pass but the last one sampled. -/
theorem Loop.answers
      (h : Loop config emit exhausted limit index sampled tokenIds reason state state') :
    ∀ n, n + 1 < sampled.length → (consult emit (numbered index tokenIds) state).1[n]? =
      some false := by
  induction h with
  | token _ answer _ ih =>
      intro n hn
      rw [consult_cons answer]
      cases n with
      | zero => rfl
      | succ n => exact ih n (Nat.lt_of_succ_lt_succ hn)
  | exhausted | silent | broke | stopped =>
      intro n hn
      exact absurd hn (by simp)

/-- The callback broke the loop. -/
def Broken (emit : Callback τ) (tokenIds : List Nat) (index : Nat) (state : τ) : Prop :=
  true ∈ (consult emit (numbered index tokenIds) state).1

theorem broken_cons {tokenId : Nat} {next : τ} {answer : Bool}
    (h : emit ⟨tokenId, index⟩ state = (answer, next)) (tokenIds : List Nat) :
    Broken emit (tokenId :: tokenIds) index state ↔ answer = true ∨
      Broken emit tokenIds (index + 1) next := by
  unfold Broken
  rw [consult_cons h, List.mem_cons, eq_comm]

theorem not_broken_nil (emit : Callback τ) (index : Nat) (state : τ) :
    ¬ Broken emit [] index state := List.not_mem_nil

/-- Each reason to stop, and when it is the one. -/
structure StopsFor (config : SamplingConfig) (exhausted : StopReason) (limit : Nat)
    (sampled : List Nat) (broken : Prop) (reason : StopReason) : Prop where
  callback : reason = .callback ↔ broken
  stopToken : ∀ tokenId, reason = .stopToken tokenId ↔ ¬ broken ∧ tokenId ∈ config.stopTokens ∧
    sampled.getLast? = some tokenId
  ended : reason = exhausted ↔ ¬ broken ∧ (∀ tokenId ∈ sampled, tokenId ∉ config.stopTokens) ∧
    sampled.length = limit
  otherwise : reason = .callback ∨ (∃ tokenId, reason = .stopToken tokenId) ∨ reason = exhausted

theorem Loop.otherwise
      (h : Loop config emit exhausted limit index sampled tokenIds reason state state') :
    reason = .callback ∨ (∃ tokenId, reason = .stopToken tokenId) ∨ reason = exhausted := by
  induction h with
  | exhausted => exact Or.inr (Or.inr rfl)
  | broke => exact Or.inl rfl
  | @silent _ _ tokenId | @stopped _ _ tokenId => exact Or.inr (Or.inl ⟨tokenId, rfl⟩)
  | token _ _ _ ih => exact ih

theorem StopsFor.stopped {tokenId : Nat} {broken : Prop} (unbroken : ¬ broken)
    (stop : tokenId ∈ config.stopTokens)
    (hstop : exhausted ≠ .stopToken tokenId) :
    StopsFor config exhausted limit [tokenId] broken (.stopToken tokenId) := by
  refine ⟨⟨nofun, fun h => absurd h unbroken⟩, ?_, ⟨fun h => absurd h.symm hstop, ?_⟩,
    Or.inr (Or.inl ⟨tokenId, rfl⟩)⟩
  · intro other
    constructor
    · intro h
      cases h
      exact ⟨unbroken, stop, rfl⟩
    · rintro ⟨_, _, hlast⟩
      cases hlast
      rfl
  · rintro ⟨_, hplain, _⟩
    exact absurd stop (hplain tokenId List.mem_cons_self)

theorem Loop.stopsFor
      (h : Loop config emit exhausted limit index sampled tokenIds reason state state')
    (hcallback : exhausted ≠ .callback) (hstop : ∀ tokenId, exhausted ≠ .stopToken tokenId) :
    StopsFor config exhausted limit sampled (Broken emit tokenIds index state) reason := by
  induction h with
  | exhausted index state =>
      have hbroken := not_broken_nil emit index state
      exact ⟨⟨fun h => absurd h hcallback, fun h => absurd h hbroken⟩,
        fun tokenId => ⟨fun h => absurd h (hstop tokenId), fun h => nomatch h.2.2⟩,
        ⟨fun _ => ⟨hbroken, List.forall_mem_nil _, rfl⟩, fun _ => rfl⟩, Or.inr (Or.inr rfl)⟩
  | @silent _ index tokenId state stop hidden =>
      exact .stopped (not_broken_nil emit index state) stop (hstop tokenId)
  | @broke _ index tokenId state state' shown answer =>
      have hbroken : Broken emit [tokenId] index state := (broken_cons answer []).mpr (Or.inl rfl)
      exact ⟨⟨fun _ => hbroken, fun _ => rfl⟩, fun other => ⟨nofun, fun h => absurd hbroken h.1⟩,
        ⟨fun h => absurd h.symm hcallback, fun h => absurd hbroken h.1⟩, Or.inl rfl⟩
  | @stopped _ index tokenId state state' stop shown answer =>
      have hbroken : ¬ Broken emit [tokenId] index state := by
        rw [broken_cons answer]
        exact not_or.mpr ⟨Bool.false_ne_true, not_broken_nil emit _ _⟩
      exact .stopped hbroken stop (hstop tokenId)
  | @token limit index tokenId sampled tokenIds reason state next state' plain answer later ih =>
      have hbroken : Broken emit (tokenId :: tokenIds) index state ↔
          Broken emit tokenIds (index + 1) next := by
        rw [broken_cons answer]
        exact or_iff_right Bool.false_ne_true
      refine ⟨ih.callback.trans hbroken.symm, ?_, ?_, ih.otherwise⟩
      · intro other
        rw [ih.stopToken other, hbroken]
        cases sampled with
        | nil =>
            refine ⟨fun h => (nomatch h.2.2), ?_⟩
            rintro ⟨_, hstop', hlast⟩
            cases hlast
            exact absurd hstop' plain
        | cons second rest => rw [List.getLast?_cons_cons]
      · rw [ih.ended, hbroken, List.forall_mem_cons, List.length_cons, Nat.add_right_cancel_iff]
        exact ⟨fun h => ⟨h.1, ⟨plain, h.2.1⟩, h.2.2⟩, fun h => ⟨h.1, h.2.1.2, h.2.2⟩⟩

end Loop

section Run
variable {model : CausalModel Ω S E} {host : SamplerHost R W} {config : SamplingConfig}
    {emit : Callback τ}

/-- What follows the evaluation of a sampled token, as a loop ends with it or goes on. -/
inductive Emitted (config : SamplingConfig) (emit : Callback τ) (index tokenId : Nat) (state : τ) :
    List Nat → Option StopReason → τ → Prop where
  | silent (stop : tokenId ∈ config.stopTokens) (hidden : config.emitStopToken = false) :
      Emitted config emit index tokenId state [] (some (.stopToken tokenId)) state
  | broke {state' : τ} (shown : tokenId ∉ config.stopTokens ∨ config.emitStopToken = true)
      (answer : emit ⟨tokenId, index⟩ state = (true, state')) :
      Emitted config emit index tokenId state [tokenId] (some .callback) state'
  | stopped {state' : τ} (stop : tokenId ∈ config.stopTokens) (shown : config.emitStopToken = true)
      (answer : emit ⟨tokenId, index⟩ state = (false, state')) :
      Emitted config emit index tokenId state [tokenId] (some (.stopToken tokenId)) state'
  | token {state' : τ} (plain : tokenId ∉ config.stopTokens)
    (answer : emit ⟨tokenId, index⟩ state = (false, state')) :
      Emitted config emit index tokenId state [tokenId] none state'

theorem emitToken_emitted (index tokenId : Nat) (generated : List Nat) (state : τ) :
    ∃ shown reason state', Emitted config emit index tokenId state shown reason state' ∧
      emitToken (E := E) config emit ⟨tokenId, index⟩ generated state =
      (.ok (generated ++ shown, reason), state') := by
  rcases hanswer : emit ⟨tokenId, index⟩ state with ⟨answer, state'⟩
  unfold emitToken
  dsimp only
  rw [hanswer]
  by_cases hstop : tokenId ∈ config.stopTokens
  · have hcontains : config.stopTokens.contains tokenId = true := List.contains_iff_mem.mpr hstop
    rw [hcontains, Bool.not_true, Bool.false_or]
    cases hshown : config.emitStopToken with
    | false => exact ⟨[], _, state, .silent hstop hshown, by rw [List.append_nil]; rfl⟩
    | true =>
        cases answer with
        | true => exact ⟨[tokenId], _, state', .broke (Or.inr hshown) hanswer, rfl⟩
        | false => exact ⟨[tokenId], _, state', .stopped hstop hshown hanswer, rfl⟩
  · have hcontains : config.stopTokens.contains tokenId = false := by
      rw [← Bool.not_eq_true, List.contains_iff_mem]
      exact hstop
    rw [hcontains, Bool.not_false, Bool.true_or]
    cases answer with
    | true => exact ⟨[tokenId], _, state', .broke (Or.inl hstop) hanswer, rfl⟩
    | false => exact ⟨[tokenId], _, state', .token hstop hanswer, rfl⟩

theorem evaluate_history {env : Ω} {tokenId : Nat} {session next : GenerationSession S}
    (h : evaluate model env tokenId session = (.ok (), next)) :
    next.history = session.history ++ [tokenId] := by
  unfold evaluate at h
  split at h
  · cases h
    rfl
  · cases h

theorem Sampled.history {world : Nat → Ω} {index : Nat} {sampler : Sampler R}
    {session last : GenerationSession S} {sampled : List Nat}
    (h : Sampled model host world index sampler session sampled last) :
    last.history = session.history ++ sampled := by
  induction h with
  | none => rw [List.append_nil]
  | token _ evaluated _ ih =>
      rw [ih, evaluate_history evaluated, List.append_assoc, List.singleton_append]

theorem prefill_history {env : CallEnvironment Ω} {index : Nat} {tokens : List Nat}
    {session last : GenerationSession S}
    (h : prefill model env index tokens session = (.ok true, last)) :
    last.history = session.history ++ tokens := by
  induction tokens generalizing index session with
  | nil =>
      cases h
      rw [List.append_nil]
  | cons tokenId rest ih =>
      unfold prefill at h
      split at h
      · cases h
      · obtain ⟨_, next, hevaluate, h⟩ := Command.bind_ok_iff.mp h
        rw [ih h, evaluate_history hevaluate, List.append_assoc, List.singleton_append]

/-- The decoding loop samples the tokens of a loop, unless it is cancelled. -/
theorem decode_loop {env : CallEnvironment Ω} {promptLength : Nat} {exhausted reason : StopReason}
    {remaining index : Nat} {sampler : Sampler R} {generated ids : List Nat}
    {session session' : GenerationSession S} {state state' : τ}
    (h : decode model host env config emit promptLength exhausted remaining index sampler generated
      (session, state) =
      (.ok (ids, reason), session', state')) (uncancelled : reason ≠ .cancelled) :
    ∃ sampled tokenIds, ids = generated ++ tokenIds ∧
      Sampled model host (fun n => env.world (promptLength + n)) index sampler session
        sampled session' ∧
      Loop config emit exhausted remaining index sampled tokenIds reason state state' := by
  induction remaining generalizing index sampler generated session state with
  | zero =>
      cases h
      exact ⟨[], [], (List.append_nil _).symm, .none index sampler _, .exhausted index _⟩
  | succ remaining ih =>
      unfold decode at h
      split at h
      · cases h
        exact absurd rfl uncancelled
      · rw [Command.bind_of_ok (Command.read_run _)] at h
        dsimp only at h
        rcases hdrawn : sampler.sample host session.logits session.history
          sampler.rng with ⟨drawn, rng⟩
        rw [hdrawn] at h
        obtain ⟨tokenId, htoken, h⟩ := Command.lift_bind_ok_iff.mp h
        obtain rfl := wrap_eq_ok.mp htoken
        obtain ⟨_, ⟨evaluated, kept⟩, hevaluate, h⟩ := Command.bind_ok_iff.mp h
        obtain ⟨next, hnext, hlast⟩ := Command.zoom_eq_iff.mp hevaluate
        obtain ⟨rfl, rfl⟩ := Prod.mk.inj hlast
        obtain ⟨⟨generated', last⟩, ⟨kept, caller⟩, hemit, h⟩ := Command.bind_ok_iff.mp h
        obtain ⟨_, hpassed, hkept⟩ := Command.zoom_eq_iff.mp hemit
        obtain ⟨rfl, rfl⟩ := Prod.mk.inj hkept
        obtain ⟨shown, ended, after, hemitted, hrun⟩ : ∃ shown reason state',
          Emitted config emit index tokenId state shown reason state' ∧
            emitToken (E := E) config emit ⟨tokenId, index⟩ generated state =
              (.ok (generated ++ shown, reason), state') :=
          emitToken_emitted index tokenId generated state
        obtain ⟨hanswer, hafter⟩ := Prod.mk.inj (hrun.symm.trans hpassed)
        cases hanswer
        cases hafter
        have hone : Sampled model host (fun n => env.world (promptLength + n)) index sampler session
            [tokenId] next :=
          .token hdrawn hnext (.none (index + 1) { sampler with rng } next)
        cases hemitted with
        | silent stop hidden =>
            cases h
            exact ⟨[tokenId], [], rfl, hone, .silent stop hidden⟩
        | broke shown answer =>
            cases h
            exact ⟨[tokenId], [tokenId], rfl, hone, .broke shown answer⟩
        | stopped stop shown answer =>
            cases h
            exact ⟨[tokenId], [tokenId], rfl, hone, .stopped stop shown answer⟩
        | token plain answer =>
            obtain ⟨sampled, tokenIds, rfl, hsampled, hloop⟩ := ih h
            refine ⟨tokenId :: sampled, tokenId :: tokenIds, ?_, .token hdrawn hnext hsampled,
              .token plain answer hloop⟩
            rw [List.append_assoc, List.singleton_append]

/-- What a stream that was not cancelled has done in a session: it has evaluated the prompt, then
sampled these tokens and stopped for this reason. -/
structure Completed (model : CausalModel Ω S E) (host : SamplerHost R W) (env : CallEnvironment Ω)
    (config : SamplingConfig) (promptTokens : List Nat) (emit : Callback τ)
    (session : GenerationSession S) (state : τ) (sampled : List Nat) (outcome : GenerationOutcome)
    (session' : GenerationSession S) (state' : τ) : Prop where
  limit : sampled.length ≤ min config.maxNewTokens
    (model.contextLength - model.position session.model - promptTokens.length)
  drawn : ∃ ready sampler, prefill model env 0 promptTokens session = (.ok true, ready) ∧
    Sampler.new host env.alloc config model.vocabularySize = .ok sampler ∧
    Sampled model host (fun n => env.world (promptTokens.length + n)) 0 sampler ready
      sampled session'
  history : session'.history = session.history ++ promptTokens ++ sampled
  tokenIds : outcome.tokenIds = withoutFinalStop config sampled
  early : ∀ tokenId ∈ sampled.dropLast, tokenId ∉ config.stopTokens
  passed : (consult emit (numbered 0 outcome.tokenIds) state).2 = state'
  answers : ∀ n, n + 1 < sampled.length →
    (consult emit (numbered 0 outcome.tokenIds) state).1[n]? = some false
  reason : StopsFor config
    (if model.contextLength - model.position session.model - promptTokens.length <
      config.maxNewTokens then .contextLength
      else .maxTokens)
    (min config.maxNewTokens
      (model.contextLength - model.position session.model - promptTokens.length)) sampled
    (Broken emit outcome.tokenIds 0 state) outcome.stopReason

/-- The errors of a call that should not have been made. -/
def Rejected (model : CausalModel Ω S E) (config : SamplingConfig) : GenerationError E → Prop
  | .sampling error => config.validate model.vocabularySize = .error error
  | .sessionPoisoned | .tokenOutOfRange _ _ | .promptExceedsContext _ _ _ | .emptyPrompt => True
  | .model _ | .arithmeticOverflow | .allocationFailed => False

/-- The errors of a call that has been let in. -/
def Interrupted : GenerationError E → Prop
  | .model _ | .sampling _ => True
  | _ => False

theorem not_rejected_of_interrupted {error : GenerationError E}
    (valid : config.validate model.vocabularySize = .ok ())
    (h : Interrupted error) : ¬ Rejected model config error := by
  cases error with
  | sampling error =>
      intro hrejected
      cases valid.symm.trans hrejected
  | model | arithmeticOverflow | allocationFailed => exact id
  | sessionPoisoned | tokenOutOfRange | promptExceedsContext | emptyPrompt => exact absurd h id

theorem evaluate_interrupted (env : Ω) (tokenId : Nat) (session : GenerationSession S) :
    Ends (fun _ _ => True) (fun error _ => Interrupted error)
      (evaluate model env tokenId session) := by
  unfold evaluate
  split
  · exact .answered _ _ trivial
  · exact .failed _ _ trivial

theorem prefill_ends (env : CallEnvironment Ω) (tokens : List Nat) (index : Nat)
    (session : GenerationSession S) :
    Ends (fun absorbed _ => env.Uncancelled → absorbed = true) (fun error _ => Interrupted error)
      (prefill model env index tokens session) := by
  induction tokens generalizing index session with
  | nil => exact .answered _ _ fun _ => rfl
  | cons tokenId rest ih =>
      unfold prefill
      split
      · rename_i hcancelled
        exact .answered _ _ fun h => (h.not_cancelled hcancelled).elim
      · exact (evaluate_interrupted (env.world index) tokenId session).bind fun _ next _ =>
          ih (index + 1) next

theorem emitToken_ends (index tokenId : Nat) (generated : List Nat) (state : τ) :
    Ends (fun answer _ => answer.2 ≠ some .cancelled) (fun error _ => Interrupted error)
      (emitToken (E := E) config emit ⟨tokenId, index⟩ generated state) := by
  obtain ⟨shown, reason, state', hemitted, hrun⟩ : ∃ shown reason state',
      Emitted config emit index tokenId state shown reason state' ∧
        emitToken (E := E) config emit ⟨tokenId, index⟩ generated state =
          (.ok (generated ++ shown, reason), state') :=
    emitToken_emitted index tokenId generated state
  rw [hrun]
  refine .answered _ _ ?_
  cases hemitted with
  | silent | broke | stopped | token => exact nofun

/-- Only the cancellation token ends a decoding loop as cancelled. -/
theorem decode_ends (env : CallEnvironment Ω) (promptLength : Nat) {exhausted : StopReason}
    (hexhausted : exhausted ≠ .cancelled) (remaining index : Nat) (sampler : Sampler R)
    (generated : List Nat) (state : GenerationSession S × τ) :
    Ends (fun answer _ => env.Uncancelled → answer.2 ≠ .cancelled)
      (fun error _ => Interrupted error)
      (decode model host env config emit promptLength exhausted remaining index sampler
        generated state) := by
  induction remaining generalizing index sampler generated state with
  | zero => exact .answered _ _ fun _ => hexhausted
  | succ remaining ih =>
      unfold decode
      split
      · rename_i hcancelled
        exact .answered _ _ fun h => (h.not_cancelled hcancelled).elim
      · apply Ends.read_bind
        apply Ends.lift_bind
        · intro error herror
          obtain ⟨_, -, rfl⟩ := wrap_eq_error.mp herror
          exact trivial
        · intro tokenId _
          refine Ends.bind (Q := fun _ _ => True) (.zoom (evaluate_interrupted _ tokenId state.1))
            fun _ next _ => ?_
          refine Ends.bind (Q := fun answer _ => answer.2 ≠ some .cancelled)
            (.zoom (emitToken_ends index tokenId generated next.2)) ?_
          rintro ⟨generated', reason⟩ after hreason
          cases reason with
          | some reason => exact .answered _ _ fun _ h => hreason (congrArg some h)
          | none => exact ih (index + 1) _ generated' after

/-- The loop of a call that was let in completes it, unless it is cancelled. -/
theorem decode_completed {env : CallEnvironment Ω} {promptTokens : List Nat} {limit : Nat}
    {session ready : GenerationSession S} {state : τ} {sampler : Sampler R}
    {answer : List Nat × StopReason} {last : GenerationSession S × τ}
    (hadmitted : Admitted model env.alloc config promptTokens session limit)
    (hready : prefill model env 0 promptTokens session = (.ok true, ready))
    (hsampler : Sampler.new host env.alloc config model.vocabularySize = .ok sampler)
    (hlast : decode model host env config emit promptTokens.length
      (if limit < config.maxNewTokens then .contextLength else .maxTokens) limit 0 sampler []
      (ready, state) = (.ok answer, last)) (uncancelled : answer.2 ≠ .cancelled) :
    ∃ sampled, Completed model host env config promptTokens emit session state sampled
      (outcome answer.1 answer.2 promptTokens.length) last.1 last.2 := by
  obtain ⟨sampled, tokenIds, hids, hsampled, hloop⟩ := decode_loop hlast uncancelled
  rw [List.nil_append] at hids
  rw [← hids] at hloop
  have hless : limit < config.maxNewTokens ↔ model.contextLength - model.position session.model -
      promptTokens.length < config.maxNewTokens := by
    have := hadmitted.limit
    omega
  have hcallback : (if limit < config.maxNewTokens then StopReason.contextLength
      else .maxTokens) ≠ .callback := by
    split <;> exact nofun
  have hstop : ∀ tokenId, (if limit < config.maxNewTokens then StopReason.contextLength
      else .maxTokens) ≠ .stopToken tokenId := by
    intro tokenId
    split <;> exact nofun
  have hreason := hloop.stopsFor hcallback hstop
  simp only [hless] at hreason
  refine ⟨sampled, ?_, ⟨ready, sampler, hready, hsampler, hsampled⟩, ?_, hloop.kept, hloop.early,
    hloop.passed, hloop.answers, ?_⟩
  · rw [← hadmitted.limit]
    exact hloop.length_le
  · rw [hsampled.history, prefill_history hready]
  · rw [← hadmitted.limit]
    exact hreason

/-- A stream that answers is complete, or was cancelled by its token. One that was rejected changes
nothing. -/
theorem generateStream_completed (model : CausalModel Ω S E) (host : SamplerHost R W)
    (env : CallEnvironment Ω) (config : SamplingConfig) (promptTokens : List Nat)
    (emit : Callback τ) (session : GenerationSession S) (state : τ) :
    Ends (fun outcome last => (env.Uncancelled → outcome.stopReason ≠ .cancelled) ∧
        (outcome.stopReason ≠ .cancelled → ∃ sampled,
          Completed model host env config promptTokens emit session state sampled outcome
            last.1 last.2))
      (fun error last => Rejected model config error → last = (session, state))
      (generateStream model host env config promptTokens emit (session, state)) := by
  unfold generateStream
  apply Ends.read_bind
  apply Ends.lift_bind
  · intro _ _ _
    rfl
  · intro limit hprepared
    have hadmitted := prepare_eq_ok_iff.mp hprepared
    have hlate : ∀ error, Interrupted error → ¬ Rejected model config error := fun _ =>
      not_rejected_of_interrupted hadmitted.valid
    split
    · rename_i hcancelled
      exact .answered _ _
        ⟨fun h => (h.not_cancelled hcancelled).elim, fun h => absurd rfl h⟩
    · have hprefill : Ends (fun absorbed _ => env.Uncancelled → absorbed = true)
          (fun error _ => Interrupted error) (prefill model env 0 promptTokens session) :=
        prefill_ends env promptTokens 0 session
      rcases hready : prefill model env 0 promptTokens session with ⟨absorbed, ready⟩
      rw [hready] at hprefill
      rw [Command.bind_run, Command.zoom_run hready]
      cases hprefill with
      | failed error _ herror => exact .failed _ _ fun h => absurd h (hlate _ herror)
      | answered absorbed _ habsorbed =>
          cases absorbed with
          | false => exact .answered _ _ ⟨fun h => (nomatch habsorbed h), fun h => absurd rfl h⟩
          | true =>
              change Ends _ _ ((Command.lift _ >>= _) (ready, state))
              apply Ends.lift_bind
              · intro error herror
                obtain ⟨_, -, rfl⟩ := wrap_eq_error.mp herror
                exact fun h => absurd h (hlate _ trivial)
              · intro sampler hsampler
                have hended : (if limit < config.maxNewTokens then StopReason.contextLength
                    else .maxTokens) ≠ .cancelled := by
                  split <;> exact nofun
                have hdecode : Ends (fun answer _ => env.Uncancelled → answer.2 ≠ .cancelled)
                    (fun error _ => Interrupted error)
                    (decode model host env config emit promptTokens.length
                      (if limit < config.maxNewTokens then .contextLength else .maxTokens) limit 0
                      sampler [] (ready, state)) :=
                  decode_ends env promptTokens.length hended limit 0 sampler [] (ready, state)
                rcases hlast : decode model host env config emit promptTokens.length
                  (if limit < config.maxNewTokens then .contextLength else .maxTokens) limit 0
                  sampler [] (ready, state) with ⟨r, last⟩
                rw [hlast] at hdecode
                rw [Command.bind_run, hlast]
                cases hdecode with
                | failed error _ herror => exact .failed _ _ fun h => absurd h (hlate _ herror)
                | answered answer _ hanswer =>
                    exact .answered _ _ ⟨hanswer, fun uncancelled =>
                      decode_completed hadmitted hready (wrap_eq_ok.mp hsampler) hlast uncancelled⟩

/-- A model of two tokens that expects after each one the other. -/
def alternatingModel : CausalModel Unit Nat Unit where
  vocabularySize := 2
  contextLength := 6
  contextLength_le := by decide
  newSession _ := .ok 0
  resetSession _ := 0
  position session := session
  evaluateToken _ tokenId := fun state =>
    (.ok (), state.1 + 1, if tokenId = 0 then [.zero, .one] else [.one, .zero])

theorem mergeSort_pair {α : Type} (le : α → α → Bool) (a b : α) :
    [a, b].mergeSort le = if le a b then [a, b] else [b, a] := by
  unfold List.mergeSort
  simp [List.MergeSort.Internal.splitInTwo, List.merge]

theorem alternating_sample {sampler : Sampler Unit}
    (greedy : sampler.config.temperature = .zero)
    (plain : sampler.config.repetitionPenalty = .one) (size : sampler.vocabularySize = 2)
    (history : List Nat) (rng : Unit) :
    sampler.sample GenerationSession.greedyHost [.zero, .one] history rng = (.ok 1, rng) ∧
      sampler.sample GenerationSession.greedyHost [.one, .zero] history rng = (.ok 0, rng) := by
  have hcandidates : ∀ left right, candidatesOf GenerationSession.greedyHost sampler.config
      [left, right] history = [⟨0, left, ()⟩, ⟨1, right, ()⟩] := by
    intro left right
    unfold candidatesOf isRepeated
    rw [plain]
    rfl
  unfold Sampler.sample
  rw [size, hcandidates, hcandidates, mergeSort_pair, mergeSort_pair, greedy]
  exact ⟨rfl, rfl⟩

section Step
variable {env : CallEnvironment Ω} {promptLength remaining index tokenId : Nat}
    {exhausted reason : StopReason} {sampler : Sampler R} {rng : R} {generated shown : List Nat}
    {session next : GenerationSession S} {state state' : τ}

/-- One more token is sampled, and the loop goes on. -/
theorem decode_token (uncancelled : env.cancelled (1 + promptLength + index) = false)
    (drawn : sampler.sample host session.logits session.history sampler.rng = (.ok tokenId, rng))
    (evaluated : evaluate model (env.world (promptLength + index)) tokenId session = (.ok (), next))
    (emitted : emitToken (E := E) config emit ⟨tokenId, index⟩ generated state =
      (.ok (shown, none), state')) :
    decode model host env config emit promptLength exhausted (remaining + 1) index sampler generated
      (session, state) = decode model host env config emit promptLength exhausted remaining
        (index + 1) { sampler with rng } shown (next, state') := by
  rw [decode, if_neg (by rw [uncancelled]; exact Bool.false_ne_true),
    Command.bind_of_ok (Command.read_run _)]
  dsimp only
  rw [drawn, wrap, Command.bind_of_ok (Command.lift_run _ _),
    Command.bind_of_ok (Command.zoom_run evaluated), Command.bind_of_ok (Command.zoom_run emitted)]

/-- One more token is sampled, and the loop ends with it. -/
theorem decode_last (uncancelled : env.cancelled (1 + promptLength + index) = false)
    (drawn : sampler.sample host session.logits session.history sampler.rng = (.ok tokenId, rng))
    (evaluated : evaluate model (env.world (promptLength + index)) tokenId session = (.ok (), next))
    (emitted : emitToken (E := E) config emit ⟨tokenId, index⟩ generated state =
      (.ok (shown, some reason), state')) :
    decode model host env config emit promptLength exhausted (remaining + 1) index sampler generated
      (session, state) = (.ok (shown, reason), next, state') := by
  rw [decode, if_neg (by rw [uncancelled]; exact Bool.false_ne_true),
    Command.bind_of_ok (Command.read_run _)]
  dsimp only
  rw [drawn, wrap, Command.bind_of_ok (Command.lift_run _ _),
    Command.bind_of_ok (Command.zoom_run evaluated), Command.bind_of_ok (Command.zoom_run emitted)]
  rfl

end Step

end Run

/-- Token `1` stops the stream and is not shown; the callback keeps what it gets. -/
theorem generateStream_completed_alternating :
    let config : SamplingConfig :=
      { SamplingConfig.default with temperature := .zero, stopTokens := [1] }
    let env : CallEnvironment Unit := ⟨fun _ => true, fun _ => (), fun _ => false⟩
    let session : GenerationSession Nat := ⟨0, [], [.zero, .zero], false, true⟩
    let emit : Callback (List GeneratedToken) := fun token tokens => (false, tokens ++ [token])
    ∃ answer last, generateStream alternatingModel GenerationSession.greedyHost env config [0, 1]
        emit (session, []) = (.ok answer, last, [⟨0, 0⟩]) ∧
      answer = outcome [0] (.stopToken 1) 2 ∧ last.history = [0, 1, 0, 1] ∧
      ∃ sampled, Completed alternatingModel GenerationSession.greedyHost env config [0, 1] emit
        session [] sampled answer last [⟨0, 0⟩] := by
  intro config env session emit
  have hcompleted := generateStream_completed alternatingModel GenerationSession.greedyHost env
    config [0, 1] emit session []
  have hsample : ∀ history, (⟨config, 2, ()⟩ : Sampler Unit).sample GenerationSession.greedyHost
      [.zero, .one] history () = (.ok 1, ()) ∧
      (⟨config, 2, ()⟩ : Sampler Unit).sample GenerationSession.greedyHost
        [.one, .zero] history () = (.ok 0, ()) :=
    fun history => alternating_sample rfl rfl rfl history ()
  have hrun : generateStream alternatingModel GenerationSession.greedyHost env config [0, 1] emit
      (session, []) = (.ok (outcome [0] (.stopToken 1) 2),
        ⟨4, [0, 1, 0, 1], [.one, .zero], true, true⟩, [⟨0, 0⟩]) := by
    unfold generateStream
    rw [Command.bind_of_ok (Command.read_run _)]
    have hprepare : prepare alternatingModel env.alloc config [0, 1] session = .ok 4 := by
      decide +kernel
    have hnew : Sampler.new GenerationSession.greedyHost env.alloc config
        alternatingModel.vocabularySize = .ok ⟨config, 2, ()⟩ := by decide +kernel
    have hprefill : prefill alternatingModel env 0 [0, 1]
        (Prod.fst (session, ([] : List GeneratedToken))) =
        (.ok true, ⟨2, [0, 1], [.one, .zero], true, true⟩) := rfl
    dsimp only
    rw [hprepare, Command.bind_of_ok (Command.lift_run _ _), if_neg Bool.false_ne_true,
      Command.bind_of_ok (Command.zoom_run hprefill), if_pos rfl, hnew, wrap,
      Command.bind_of_ok (Command.lift_run _ _)]
    have hdecode : decode alternatingModel GenerationSession.greedyHost env config emit 2
        .contextLength 4 0 ⟨config, 2, ()⟩ [] (⟨2, [0, 1], [.one, .zero], true, true⟩, []) =
        (.ok ([0], .stopToken 1), ⟨4, [0, 1, 0, 1], [.one, .zero], true, true⟩, [⟨0, 0⟩]) := by
      rw [decode_token rfl (hsample [0, 1]).2 rfl rfl]
      exact decode_last rfl (hsample [0, 1, 0]).1 rfl rfl
    exact Command.bind_of_ok hdecode
  rw [hrun] at hcompleted
  refine ⟨_, _, hrun, rfl, rfl, ?_⟩
  cases hcompleted with
  | answered _ _ h => exact h.2 fun hreason => by cases hreason

end Generator
end LightBridge.Runtime
