import LightBridge.Runtime.Hy3Model
import LightBridge.Runtime.Preserved
import LightBridge.Runtime.SessionCodec

/-! The invariant of generation sessions, from any order of streams, resets and restored
snapshots over a model that counts its tokens. -/
namespace LightBridge.Runtime
open Foundation Command

variable {Ω S E R W τ T : Type}

/-- A model moves on by one token when an evaluation answers, and stays when it fails. -/
structure CausalModel.Counts (model : CausalModel Ω S E) : Prop where
  opened : ∀ env session, model.newSession env = .ok session → model.position session = 0
  reset : ∀ session, model.position (model.resetSession session) = 0
  evaluated : ∀ env tokenId session logits,
    Ends (fun _ state => model.position state.1 = model.position session + 1)
      (fun _ state => model.position state.1 = model.position session)
        (model.evaluateToken env tokenId (session, logits))

/-- The scalar model counts its tokens. -/
theorem Hy3ScalarModel.counts {ε : Type} (N : Kernels.Numerics) (sha : Sha256)
    (model : Hy3.Hy3ScalarModel)
    (capacity : model.contextCapacity ≤ usizeMax) :
    (model.causal (ε := ε) N sha capacity).toCausalModel.Counts where
  opened world session h := by
    change Hy3.Hy3ScalarModel.newSession world.opening model = .ok session at h
    unfold Hy3.Hy3ScalarModel.newSession at h
    obtain ⟨_, -, h⟩ := except_bind_ok_iff.mp h
    obtain ⟨_, -, h⟩ := except_bind_ok_iff.mp h
    obtain ⟨_, -, h⟩ := except_bind_ok_iff.mp h
    obtain ⟨_, -, h⟩ := except_bind_ok_iff.mp h
    obtain ⟨_, -, h⟩ := except_bind_ok_iff.mp h
    obtain ⟨_, -, h⟩ := except_bind_ok_iff.mp h
    obtain ⟨_, -, h⟩ := except_bind_ok_iff.mp h
    obtain ⟨_, -, h⟩ := except_bind_ok_iff.mp h
    obtain ⟨_, -, h⟩ := except_bind_ok_iff.mp h
    cases h
    rfl
  reset _ := rfl
  evaluated world tokenId session logits :=
    Hy3.evaluate_position N world.evaluation tokenId session logits

namespace GenerationSession

/-- What holds of a session between two calls. -/
structure Sane (model : CausalModel Ω S E) (session : GenerationSession S) : Prop where
  position : model.position session.model = session.history.length
  bounded : session.history.length ≤ model.contextLength
  tokens : ∀ tokenId ∈ session.history, tokenId < model.vocabularySize
  hasLogits : session.healthy = true → (session.hasLogits = true ↔ session.history ≠ [])

end GenerationSession

open GenerationSession

namespace Generator
variable {model : CausalModel Ω S E} {session : GenerationSession S}

theorem newSession_sane (counts : model.Counts) {alloc : GenerationSite → Bool} {env : Ω}
    (h : newSession model alloc env = .ok session) : Sane model session := by
  unfold newSession at h
  obtain ⟨state, hopened, hrest⟩ := except_bind_ok_iff.mp h
  obtain ⟨_, -, hlast⟩ := except_bind_ok_iff.mp hrest
  cases hlast
  refine ⟨counts.opened env state (wrap_eq_ok.mp hopened), Nat.zero_le _, ?_, ?_⟩
  · intro tokenId hmem
    cases hmem
  · intro _
    simp

theorem reset_sane (counts : model.Counts) (session : GenerationSession S) :
    Sane model (reset model session) := by
  refine ⟨counts.reset session.model, Nat.zero_le _, ?_, ?_⟩
  · intro tokenId hmem
    cases hmem
  · intro _
    simp [reset]

/-- An evaluation adds its token to a session with room for it, or fails and keeps the history. -/
theorem evaluate_sane (counts : model.Counts) (env : Ω) {tokenId : Nat} (sane : Sane model session)
    (room : session.history.length < model.contextLength) (known : tokenId < model.vocabularySize) :
    Ends (fun _ last => Sane model last ∧ last.history = session.history ++ [tokenId])
      (fun _ last => Sane model last) (evaluate model env tokenId session) := by
  have hcount := counts.evaluated env tokenId session.model session.logits
  unfold evaluate
  rcases hrun : model.evaluateToken env tokenId
    (session.model, session.logits) with ⟨r, state, logits⟩
  rw [hrun] at hcount
  cases hcount with
  | answered _ _ hposition =>
      refine .answered () _ ⟨⟨?_, ?_, ?_, ?_⟩, rfl⟩
      · change model.position state = _
        rw [List.length_append, List.length_singleton, ← sane.position]
        exact hposition
      · rw [List.length_append, List.length_singleton]
        exact room
      · intro token hmem
        rcases List.mem_append.mp hmem with hold | hnew
        · exact sane.tokens token hold
        · rw [List.mem_singleton.mp hnew]
          exact known
      · intro _
        simp
  | failed error _ hposition =>
      refine .failed _ _ ⟨?_, sane.bounded, sane.tokens, ?_⟩
      · change model.position state = _
        rw [← sane.position]
        exact hposition
      · intro hhealthy
        cases hhealthy

theorem generateStream_sane (counts : model.Counts) (host : SamplerHost R W)
    (env : CallEnvironment Ω) (config : SamplingConfig) (promptTokens : List Nat)
    (emit : Callback τ) (state : GenerationSession S × τ) (sane : Sane model state.1) :
    Ends (fun _ last => Sane model last.1) (fun _ last => Sane model last.1)
      (generateStream model host env config promptTokens emit state) := by
  have hpreserved : Preserved model (fun _ => True) (Sane model) (Sane model) := by
    refine ⟨fun _ h => h.position, fun _ h => h, ?_⟩
    intro env tokenId session _ sane room known
    exact evaluate_sane counts env sane room known
  exact hpreserved.generateStream host env (fun _ => trivial) config promptTokens emit state sane

end Generator

/-- A restored session satisfies the invariant whatever the bytes are. -/
theorem Hy3ChatEngine.restoreSession_sane {sha : Sha256} {env : SnapshotEnvironment Ω}
    {model : SnapshotModel Ω S E} {bytes : List UInt8} {maximumBytes : Nat}
    (limit : maximumBytes ≤ usizeMax) {session : GenerationSession S}
    (h : restoreSession (T := T) sha env model bytes maximumBytes = .ok session) :
    Sane model.toCausalModel session := by
  unfold restoreSession at h
  obtain ⟨record, hrecord, h⟩ := except_bind_ok_iff.mp h
  obtain ⟨_, -, h⟩ := except_bind_ok_iff.mp h
  obtain ⟨state, -, h⟩ := except_bind_ok_iff.mp h
  obtain ⟨_, hposition, h⟩ := except_bind_ok_iff.mp h
  cases h
  obtain ⟨-, -, ⟨hstorable, -⟩, -⟩ := (decodeRecord_eq_ok limit).mp hrecord
  refine ⟨ensure_eq_ok.mp hposition, hstorable.history_le, fun token hmem =>
    (hstorable.tokens token hmem).2, fun _ => ?_⟩
  change record.hasLogits = true ↔ record.history ≠ []
  rw [hstorable.hasLogits, decide_eq_true_eq, List.length_pos_iff]

namespace GenerationSession

/-- Sessions a program can hold: opened, used by streams with any callback, reset or restored. -/
inductive Reachable (T : Type) (sha : Sha256) (model : SnapshotModel Ω S E) :
    GenerationSession S → Prop where
  | opened (alloc : GenerationSite → Bool) (env : Ω) {session : GenerationSession S}
      (h : Generator.newSession model.toCausalModel alloc env = .ok session) :
      Reachable T sha model session
  | streamed {R W τ : Type} {session : GenerationSession S} (h : Reachable T sha model session)
      (host : SamplerHost R W) (env : CallEnvironment Ω) (config : SamplingConfig)
      (promptTokens : List Nat) (emit : Callback τ) (caller : τ) :
      Reachable T sha model
        (Generator.generateStream model.toCausalModel host env config promptTokens emit
          (session, caller)).2.1
  | reset {session : GenerationSession S} (h : Reachable T sha model session) :
      Reachable T sha model (Generator.reset model.toCausalModel session)
  | restored (env : SnapshotEnvironment Ω) (bytes : List UInt8) (maximumBytes : Nat)
      (limit : maximumBytes ≤ usizeMax) {session : GenerationSession S}
      (h : Hy3ChatEngine.restoreSession (T := T) sha env model bytes maximumBytes = .ok session) :
      Reachable T sha model session

/-- The position, the history and the logits of a session agree in every state a program can reach.
-/
theorem reachable_sane (sha : Sha256) {model : SnapshotModel Ω S E}
    (counts : model.toCausalModel.Counts) {session : GenerationSession S}
    (reachable : Reachable T sha model session) :
    Sane model.toCausalModel session := by
  induction reachable with
  | opened alloc env h => exact Generator.newSession_sane counts h
  | streamed h host env config promptTokens emit caller ih =>
      exact (Generator.generateStream_sane counts host env config promptTokens emit
        (_, caller) ih).last
  | reset h ih => exact Generator.reset_sane counts _
  | restored env bytes maximumBytes limit h => exact Hy3ChatEngine.restoreSession_sane limit h

/-- A host for greedy sampling. -/
def greedyHost : SamplerHost Unit Unit where
  seedFromU64 _ := ()
  draw _ := ((), ())
  mul32 x _ := x
  div32 x _ := x
  ofF32 _ := ()
  zero := ()
  one := ()
  add _ _ := ()
  sub _ _ := ()
  mul _ _ := ()
  div _ _ := ()
  exp _ := ()
  lt _ _ := false
  le _ _ := false
  isFinite _ := false

def smallCausal : SnapshotModel (Hy3.World Unit) Hy3.Hy3ScalarSession (Hy3.Hy3ScalarError Unit) :=
  Hy3.smallHy3.causal Kernels.zeroNumerics zeroSha (by decide)

def refusingWorld : Hy3.World Unit :=
  ⟨.granting, Hy3.refusingHost, fun _ => true⟩

/-- A stream whose first evaluation is refused leaves a session of the scalar model sane. -/
theorem reachable_sane_refused : ∃ session : GenerationSession Hy3.Hy3ScalarSession,
    Sane smallCausal.toCausalModel session ∧ session.healthy = false := by
  have hrun : ((Generator.newSession smallCausal.toCausalModel (fun _ => true) refusingWorld).map
      fun session =>
      (Generator.generateStream smallCausal.toCausalModel greedyHost
        ⟨fun _ => true, fun _ => refusingWorld, fun _ => false⟩
        .default [0] (fun _ state => (false, state)) (session, ())).2.1.healthy) = .ok false := by
        decide +kernel
  obtain ⟨session, hopened, hhealthy⟩ := except_map_ok_iff.mp hrun
  refine ⟨_, ?_, hhealthy⟩
  apply reachable_sane (T := Unit) zeroSha
    (Hy3ScalarModel.counts _ _ _ _)
  exact .streamed (.opened _ _ hopened) greedyHost _ .default [0] (fun _ state => (false, state)) ()

end GenerationSession
end LightBridge.Runtime
