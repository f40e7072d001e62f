import Mathlib.Data.List.Sort
import LightBridge.Host

/-! `Sampler`: comparisons of `f32` values, and the choice of a token from the logits of a step. -/
namespace LightBridge
open Foundation

namespace F32

def magnitude (x : F32) : Nat := x.toBits.toNat % 2 ^ 31

def isNaN (x : F32) : Bool := decide (0x7f800000 < x.magnitude)

/-- `x < 0.0`. -/
def negative (x : F32) : Bool := x.toBits.msb && decide (0 < x.magnitude) && !x.isNaN

/-- `0.0 < x`. -/
def positive (x : F32) : Bool := !x.toBits.msb && decide (0 < x.magnitude) && !x.isNaN

/-- The place of a value in the order of `total_cmp`. -/
def totalKey (x : F32) : Nat := if x.toBits.msb then 2 ^ 32 - 1 - x.toBits.toNat
      else x.toBits.toNat + 2 ^ 31

def one : F32 := .fromBits 0x3f800000
def infinity : F32 := .fromBits 0x7f800000
def negInfinity : F32 := .fromBits 0xff800000

end F32

namespace Runtime

/-! ### Configuration -/

/-- `SamplingConfig`; the stop tokens ascend. -/
structure SamplingConfig where
  maxNewTokens : Nat
  temperature : F32
  topK : Nat
  topP : F32
  seed : Nat
  repetitionPenalty : F32
  repeatLastN : Nat
  stopTokens : List Nat
  emitStopToken : Bool
  deriving DecidableEq, Repr

inductive SamplingError where
  | emptyVocabulary
  | invalidTemperature (temperature : F32)
  | invalidTopP (topP : F32)
  | invalidRepetitionPenalty (penalty : F32)
  | stopTokenOutOfRange (tokenId vocabularySize : Nat)
  | logitCountMismatch (expected actual : Nat)
  | nanLogit (tokenId : Nat)
  | noCandidate
  | allocationFailed
  deriving DecidableEq, Repr

namespace SamplingConfig

def default : SamplingConfig where
  maxNewTokens := 256
  temperature := .fromBits 0x3f666666
  topK := 0
  topP := .one
  seed := 0
  repetitionPenalty := .one
  repeatLastN := 64
  stopTokens := []
  emitStopToken := false

/-- `stop_tokens.insert`. -/
def insertStop (config : SamplingConfig) (tokenId : Nat) : SamplingConfig :=
  if config.stopTokens.contains tokenId then config
  else { config with stopTokens := config.stopTokens.orderedInsert (· ≤ ·) tokenId }

def validate (config : SamplingConfig) (vocabularySize : Nat) : Except SamplingError Unit := do
  ensure (vocabularySize ≠ 0) .emptyVocabulary
  ensure (config.temperature.isFinite = true ∧ config.temperature.negative = false)
    (.invalidTemperature config.temperature)
  ensure (config.topP.isFinite = true ∧ config.topP.positive = true ∧
      config.topP.magnitude ≤ F32.one.magnitude) (.invalidTopP config.topP)
  ensure (config.repetitionPenalty.isFinite = true ∧ config.repetitionPenalty.positive = true)
    (.invalidRepetitionPenalty config.repetitionPenalty)
  match config.stopTokens.find? fun tokenId => decide (vocabularySize ≤ tokenId) with
  | some tokenId => .error (.stopTokenOutOfRange tokenId vocabularySize)
  | none => .ok ()

end SamplingConfig

/-! ### Sampling -/

/-- The arithmetic of the sampler and its random numbers. -/
structure SamplerHost (R W : Type) where
  seedFromU64 : Nat → R
  draw : R → W × R
  mul32 : F32 → F32 → F32
  div32 : F32 → F32 → F32
  ofF32 : F32 → W
  zero : W
  one : W
  add : W → W → W
  sub : W → W → W
  mul : W → W → W
  div : W → W → W
  exp : W → W
  lt : W → W → Bool
  le : W → W → Bool
  isFinite : W → Bool

/-- A token that may be drawn. The source casts its identifier with `as u32`, which changes nothing
while a vocabulary has at most 2 ^ 32 tokens. That is assumed of every model, and holds of the ones
that are loaded, whose `vocabulary_size` is a `u32`. -/
structure Candidate (W : Type) where
  tokenId : Nat
  logit : F32
  weight : W
  deriving DecidableEq, Repr

structure Sampler (R : Type) where
  config : SamplingConfig
  vocabularySize : Nat
  rng : R
  deriving DecidableEq, Repr

/-- The places where generation asks the allocator for memory. -/
inductive GenerationSite where
  | sessionLogits
  | history
  | generated
  | candidates
  | repeated
  deriving DecidableEq, Repr

section Sample
variable {R W : Type} (host : SamplerHost R W)

def Sampler.new (alloc : GenerationSite → Bool) (config : SamplingConfig) (vocabularySize : Nat) :
    Except SamplingError (Sampler R) := do
  config.validate vocabularySize
  ensure (tryReserve (alloc .candidates) 16 vocabularySize) .allocationFailed
  ensure (tryReserve (alloc .repeated) 1 vocabularySize) .allocationFailed
  pure { config, vocabularySize, rng := host.seedFromU64 config.seed }

def applyRepetitionPenalty (logit penalty : F32) : F32 :=
  if logit.negative then host.mul32 logit penalty else host.div32 logit penalty

/-- `repeated[token_id]`. -/
def isRepeated (config : SamplingConfig) (history : List Nat) (tokenId : Nat) : Bool :=
  decide (config.repetitionPenalty ≠ F32.one) && decide (0 < config.repeatLastN) &&
    (history.drop (saturatingSub history.length config.repeatLastN)).contains tokenId

def candidatesOf (config : SamplingConfig) (logits : List F32) (history : List Nat) :
    List (Candidate W) :=
  logits.zipIdx.map fun (rawLogit, tokenId) =>
    { tokenId
      logit := if isRepeated config history tokenId then applyRepetitionPenalty host rawLogit
        config.repetitionPenalty
        else rawLogit
      weight := host.zero }

/-- `right.logit.total_cmp(&left.logit).then_with(|| left.token_id.cmp(&right.token_id))`. -/
def candidateLe (left right : Candidate W) : Bool :=
  if right.logit.totalKey < left.logit.totalKey then true
  else if left.logit.totalKey < right.logit.totalKey then false
  else decide (left.tokenId ≤ right.tokenId)

/-- The weights of the candidates that remain. -/
def weigh (config : SamplingConfig) (candidates : List (Candidate W)) :
    Except SamplingError (List (Candidate W)) :=
  let infinite := candidates.takeWhile fun candidate => decide (candidate.logit = F32.infinity)
  if infinite ≠ [] then .ok (infinite.map fun candidate => { candidate with weight := host.one })
  else match candidates with
  | [] => .error .noCandidate
  | first :: _ =>
      if first.logit = F32.negInfinity then .error .noCandidate
      else .ok (candidates.map fun candidate =>
        { candidate with
          weight := host.exp
            (host.div (host.sub (host.ofF32 candidate.logit) (host.ofF32 first.logit))
              (host.ofF32 config.temperature)) })

def totalWeight (candidates : List (Candidate W)) : W :=
  candidates.foldl (fun sum candidate => host.add sum candidate.weight) host.zero

/-- How many candidates `apply_top_p` keeps, from `keep` on. -/
def topPKeep (threshold : W) : W → Nat → List (Candidate W) → Nat
  | _, keep, [] => keep
  | cumulative, keep, candidate :: candidates =>
      let cumulative := host.add cumulative candidate.weight
      if host.le threshold cumulative then keep + 1
        else topPKeep threshold cumulative (keep + 1) candidates

def applyTopP (topP : F32) (candidates : List (Candidate W)) : List (Candidate W) :=
  if F32.one.magnitude ≤ topP.magnitude ∨ candidates.length ≤ 1 then candidates
  else
    let threshold := host.mul (totalWeight host candidates) (host.ofF32 topP)
    candidates.take (max (topPKeep host threshold host.zero 0 candidates) 1)

/-- The first candidate whose cumulative weight exceeds the target. -/
def pick (target : W) : W → List (Candidate W) → Option Nat
  | _, [] => none
  | cumulative, candidate :: candidates =>
      let cumulative := host.add cumulative candidate.weight
      if host.lt target cumulative then some candidate.tokenId
        else pick target cumulative candidates

/-- `sample` for a temperature above zero, from the sorted candidates. -/
def sampleWeighted (config : SamplingConfig) (sorted : List (Candidate W)) :
    Command R SamplingError Nat := do
  let kept := if config.topK = 0 then sorted else sorted.take (min config.topK sorted.length)
  let weighted ← Command.lift (weigh host config kept)
  let candidates := applyTopP host config.topP weighted
  let total := totalWeight host candidates
  Command.lift (ensure (host.isFinite total = true ∧ host.lt host.zero total = true) .noCandidate)
  let rng ← Command.read
  let (unit, rng) := host.draw rng
  Command.update fun _ => rng
  Command.lift (okOr ((pick host (host.mul unit total) host.zero candidates).or
    (candidates.getLast?.map Candidate.tokenId)) .noCandidate)

def Sampler.sample (sampler : Sampler R) (logits : List F32) (history : List Nat) :
    Command R SamplingError Nat := do
  Command.lift (ensure (logits.length = sampler.vocabularySize)
    (.logitCountMismatch sampler.vocabularySize logits.length))
  Command.lift (match logits.findIdx? F32.isNaN with
    | some tokenId => .error (.nanLogit tokenId)
    | none => .ok ())
  let sorted := (candidatesOf host sampler.config logits history).mergeSort candidateLe
  if sampler.config.temperature.magnitude = 0 then
    Command.lift
      (okOr ((sorted.head?.filter fun candidate => decide (candidate.logit ≠ F32.negInfinity)).map
      Candidate.tokenId) .noCandidate)
  else sampleWeighted host sampler.config sorted

/-! ### What is sampled -/

theorem Sampler.new_vocabularySize {alloc : GenerationSite → Bool} {config : SamplingConfig}
    {vocabularySize : Nat} {sampler : Sampler R}
    (h : Sampler.new host alloc config vocabularySize = .ok sampler) :
    sampler.vocabularySize = vocabularySize := by
  unfold Sampler.new at h
  obtain ⟨_, -, h⟩ := except_bind_ok_iff.mp h
  obtain ⟨_, -, h⟩ := except_bind_ok_iff.mp h
  obtain ⟨_, -, h⟩ := except_bind_ok_iff.mp h
  cases h
  rfl

/-- The allocator does not matter to a sampler. -/
theorem Sampler.new_agree {alloc alloc' : GenerationSite → Bool} {config : SamplingConfig}
    {vocabularySize : Nat} {sampler sampler' : Sampler R}
    (h : Sampler.new host alloc config vocabularySize = .ok sampler)
    (h' : Sampler.new host alloc' config vocabularySize = .ok sampler') : sampler = sampler' := by
  unfold Sampler.new at h h'
  obtain ⟨_, -, h⟩ := except_bind_ok_iff.mp h
  obtain ⟨_, -, h⟩ := except_bind_ok_iff.mp h
  obtain ⟨_, -, h⟩ := except_bind_ok_iff.mp h
  obtain ⟨_, -, h'⟩ := except_bind_ok_iff.mp h'
  obtain ⟨_, -, h'⟩ := except_bind_ok_iff.mp h'
  obtain ⟨_, -, h'⟩ := except_bind_ok_iff.mp h'
  cases h
  cases h'
  rfl

theorem candidatesOf_tokenId (config : SamplingConfig) (logits : List F32) (history : List Nat) :
    ∀ candidate ∈ candidatesOf host config logits history, candidate.tokenId < logits.length := by
  intro candidate hmem
  obtain ⟨⟨logit, tokenId⟩, hentry, rfl⟩ := List.mem_map.mp hmem
  have hindex : tokenId < 0 + logits.length := List.snd_lt_add_of_mem_zipIdx hentry
  change tokenId < logits.length
  omega

theorem mem_applyTopP {topP : F32} {candidates : List (Candidate W)} {candidate : Candidate W}
    (h : candidate ∈ applyTopP host topP candidates) : candidate ∈ candidates := by
  unfold applyTopP at h
  split at h
  · exact h
  · exact List.mem_of_mem_take h

theorem weigh_tokenId {config : SamplingConfig} {candidates weighted : List (Candidate W)}
    (h : weigh host config candidates = .ok weighted) :
    ∀ candidate ∈ weighted, ∃ origin ∈ candidates, candidate.tokenId = origin.tokenId := by
  intro candidate hmem
  unfold weigh at h
  dsimp only at h
  split at h
  · cases h
    obtain ⟨origin, horigin, rfl⟩ := List.mem_map.mp hmem
    exact ⟨origin, (List.takeWhile_sublist _).subset horigin, rfl⟩
  · cases candidates with
    | nil => cases h
    | cons first rest =>
        dsimp only at h
        split at h
        · cases h
        · cases h
          obtain ⟨origin, horigin, rfl⟩ := List.mem_map.mp hmem
          exact ⟨origin, horigin, rfl⟩

theorem pick_mem {target cumulative : W} {candidates : List (Candidate W)} {tokenId : Nat}
    (h : pick host target cumulative candidates = some tokenId) :
    ∃ candidate ∈ candidates, candidate.tokenId = tokenId := by
  induction candidates generalizing cumulative with
  | nil => cases h
  | cons candidate rest ih =>
      unfold pick at h
      dsimp only at h
      split at h
      · cases h
        exact ⟨candidate, List.mem_cons_self, rfl⟩
      · obtain ⟨found, hfound, hid⟩ := ih h
        exact ⟨found, List.mem_cons_of_mem candidate hfound, hid⟩

theorem sampleWeighted_mem {config : SamplingConfig} {sorted : List (Candidate W)} {rng rng' : R}
    {tokenId : Nat} (h : sampleWeighted host config sorted rng = (.ok tokenId, rng')) :
    ∃ candidate ∈ sorted, candidate.tokenId = tokenId := by
  unfold sampleWeighted at h
  obtain ⟨weighted, _, hweigh, h₁⟩ := Command.bind_ok_iff.mp h
  obtain ⟨hweighted, rfl⟩ := Prod.mk.inj hweigh
  obtain ⟨_, _, -, h₂⟩ := Command.bind_ok_iff.mp h₁
  obtain ⟨_, _, -, h₃⟩ := Command.bind_ok_iff.mp h₂
  obtain ⟨_, _, -, hlast⟩ := Command.bind_ok_iff.mp h₃
  have hchosen := okOr_eq_ok.mp (Prod.mk.inj hlast).1
  have hsome : ∃ candidate ∈ applyTopP host config.topP weighted, candidate.tokenId = tokenId := by
    rcases Option.or_eq_some_iff.mp hchosen with hpick | ⟨-, hfinal⟩
    · exact pick_mem host hpick
    · obtain ⟨candidate, hget, hid⟩ := Option.map_eq_some_iff.mp hfinal
      exact ⟨candidate, List.mem_of_getLast? hget, hid⟩
  obtain ⟨candidate, hmem, rfl⟩ := hsome
  obtain ⟨origin, horigin, hid⟩ := weigh_tokenId host hweighted candidate (mem_applyTopP host hmem)
  refine ⟨origin, ?_, hid.symm⟩
  split at horigin
  · exact horigin
  · exact List.mem_of_mem_take horigin

/-- A sampled token is in the vocabulary. -/
theorem Sampler.sample_lt {sampler : Sampler R} {logits : List F32} {history : List Nat}
    {rng rng' : R} {tokenId : Nat}
    (h : sampler.sample host logits history rng = (.ok tokenId, rng')) :
    tokenId < sampler.vocabularySize := by
  unfold Sampler.sample at h
  obtain ⟨_, _, hcount, h₁⟩ := Command.bind_ok_iff.mp h
  obtain ⟨hlength, rfl⟩ := Prod.mk.inj hcount
  obtain ⟨_, _, -, h₂⟩ := Command.bind_ok_iff.mp h₁
  rw [← ensure_eq_ok.mp hlength]
  have hmem : ∃ candidate ∈ (candidatesOf host sampler.config logits history).mergeSort candidateLe,
      candidate.tokenId = tokenId := by
    split at h₂
    · have hgreedy := okOr_eq_ok.mp (Prod.mk.inj h₂).1
      obtain ⟨candidate, hfilter, hid⟩ := Option.map_eq_some_iff.mp hgreedy
      exact ⟨candidate, List.mem_of_mem_head? (Option.filter_eq_some_iff.mp hfilter).1, hid⟩
    · exact sampleWeighted_mem host h₂
  obtain ⟨candidate, hsorted, rfl⟩ := hmem
  exact candidatesOf_tokenId host sampler.config logits history candidate
    (List.mem_mergeSort.mp hsorted)

end Sample
end Runtime
end LightBridge
