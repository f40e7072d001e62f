import Mathlib.Data.List.DropRight
import Mathlib.Data.List.GetD
import LightBridge.Foundation.Selection
import LightBridge.Runtime.Weights

/-! The tokens that `Sampler::sample` may return: the order of the penalised logits, and the prefix
of it from which a token is drawn. -/
namespace LightBridge.Runtime
open Foundation

/-! ### The order and the prefix -/

/-- The logit of a token, penalised where the token is among the last of the history. -/
def penalisedLogit {R W : Type} (host : SamplerHost R W) (config : SamplingConfig)
    (logits : List F32) (history : List Nat)
    (token : Nat) : F32 :=
  if token ∈ history.rtake config.repeatLastN then
    applyRepetitionPenalty host (logits.getD token .zero) config.repetitionPenalty
  else logits.getD token .zero

/-- By `total_cmp`: of two zeroes the positive one is higher. -/
def logitHigher (logit : Nat → F32) (first second : Nat) : Bool :=
  decide ((logit second).totalKey < (logit first).totalKey)

def firstTopK (topK : Nat) (order : List Nat) : List Nat :=
  if topK = 0 then order else order.take topK

/-- The tokens of infinite logit, if there are any. -/
def infiniteOnly (logit : Nat → F32) (tokens : List Nat) : List Nat :=
  if ∃ token ∈ tokens, logit token = .infinity then tokens.filter fun token =>
    decide (logit token = .infinity) else tokens

/-- The weight of a token among the tokens that remain, of which the first has the highest logit. At
temperature zero, where nothing is weighed, the quotient is zero. -/
noncomputable def tokenWeight (logit : Nat → F32) (temperature : F32) (tokens : List Nat)
    (token : Nat) : EReal :=
  if ∃ token ∈ tokens, logit token = .infinity then 1
  else (EReal.exp
    (((logit token).value - (logit (tokens.headD 0)).value) / temperature.value) : ENNReal)

/-- The candidate of a token. -/
def tokenCandidate (logit : Nat → F32) (weight : Nat → EReal) (token : Nat) : Candidate EReal :=
  ⟨token, logit token, weight token⟩

/-- A token drawn from the support, the shortest prefix of the tokens that remain which has its part
of their weight. -/
structure Drawn (config : SamplingConfig) (logit : Nat → F32) (vocabularySize : Nat)
    (order remaining support : List Nat) (token : Nat) : Prop where
  ordered : FirstOf (Ranked (logitHigher logit)) vocabularySize (List.range vocabularySize) order
  descending : order.Pairwise fun first second => (logit second).value ≤ (logit first).value
  remain : remaining = infiniteOnly logit (firstTopK config.topK order)
  shortest : ShortestReaching (tokenWeight logit config.temperature remaining)
    (weightOf (tokenWeight logit config.temperature remaining) remaining * config.topP.value)
      remaining support
  mem : token ∈ support
  inRange : token < vocabularySize
  weight : 0 < tokenWeight logit config.temperature remaining token
  finite : logit token ≠ .negInfinity
  greedy : config.temperature.magnitude = 0 → order.head? = some token

/-! ### What a valid configuration has -/

structure ValidConfig (config : SamplingConfig) : Prop where
  temperature : config.temperature.isFinite = true ∧ config.temperature.negative = false
  topP : config.topP.isFinite = true ∧ config.topP.positive = true ∧
    config.topP.magnitude ≤ F32.one.magnitude
  penalty : config.repetitionPenalty.isFinite = true ∧ config.repetitionPenalty.positive = true

theorem SamplingConfig.validate_eq_ok {config : SamplingConfig} {vocabularySize : Nat} {u : Unit}
    (h : config.validate vocabularySize = .ok u) : ValidConfig config := by
  simp only [SamplingConfig.validate, except_bind_ok_iff, ensure_eq_ok, exists_const] at h
  exact ⟨h.2.1, h.2.2.1, h.2.2.2.1⟩

namespace ValidConfig
variable {config : SamplingConfig} (h : ValidConfig config)
include h

theorem temperature_pos (hne : config.temperature.magnitude ≠ 0) :
    0 < config.temperature.value := by
  refine F32.value_pos ?_
  have hnan := F32.isNaN_of_isFinite h.temperature.1
  have hsign := h.temperature.2
  simp only [F32.negative, F32.positive, hnan, Bool.not_false, Bool.and_true,
    decide_eq_true (Nat.pos_of_ne_zero hne)] at hsign ⊢
  rw [hsign]
  rfl

theorem topP_le_one : config.topP.value ≤ 1 := by
  rw [← F32.value_one]
  refine F32.value_mono (F32.isNaN_of_isFinite h.topP.1) (by decide) ?_
  have hpositive := h.topP.2.1
  simp only [F32.positive, Bool.and_eq_true, Bool.not_eq_true', decide_eq_true_eq] at hpositive
  have hle := h.topP.2.2
  have hnat := F32.toNat_eq config.topP
  have hone : F32.one.totalKey = F32.one.magnitude + 2 ^ 31 := by decide
  rw [hone, F32.totalKey, hpositive.1.1]
  simp only [hpositive.1.1, Bool.false_eq_true, if_false] at hnat ⊢
  omega

theorem topP_eq_one (hle : F32.one.magnitude ≤ config.topP.magnitude) : config.topP = .one := by
  have hpositive := h.topP.2.1
  simp only [F32.positive, Bool.and_eq_true, Bool.not_eq_true', decide_eq_true_eq] at hpositive
  exact F32.ext_of_magnitude hpositive.1.1 (Nat.le_antisymm h.topP.2.2 hle)

end ValidConfig

/-! ### The candidates of the tokens -/

section Candidates
variable {R : Type} {host : SamplerHost R EReal} (hexact : ExactHost host) {config : SamplingConfig}
    {logits : List F32}
  {history : List Nat}

theorem isRepeated_iff {token : Nat} : isRepeated config history token = true ↔
    config.repetitionPenalty ≠ .one ∧ token ∈ history.rtake config.repeatLastN := by
  simp only [isRepeated, saturatingSub, Bool.and_eq_true, decide_eq_true_eq,
    List.contains_eq_mem, List.rtake]
  constructor
  · rintro ⟨⟨hpenalty, -⟩, hmem⟩
    exact ⟨hpenalty, hmem⟩
  · rintro ⟨hpenalty, hmem⟩
    refine ⟨⟨hpenalty, ?_⟩, hmem⟩
    by_contra hzero
    rw [Nat.eq_zero_of_not_pos hzero, Nat.sub_zero, List.drop_length] at hmem
    exact absurd hmem List.not_mem_nil

include hexact

theorem applyRepetitionPenalty_one {x : F32} (h : x.isNaN = false) :
    applyRepetitionPenalty host x .one = x := by
  rw [applyRepetitionPenalty, hexact.mul_one x h, hexact.div_one x h, ite_self]

theorem candidatesOf_eq (numbers : ∀ logit ∈ logits, logit.isNaN = false) :
    candidatesOf host config logits history =
    (List.range logits.length).map
      (tokenCandidate (penalisedLogit host config logits history) fun _ => 0) := by
  apply List.ext_getElem?
  intro token
  rw [candidatesOf, List.getElem?_map, List.getElem?_map, List.getElem?_zipIdx]
  by_cases htoken : token < logits.length
  · have hraw : logits.getD token .zero = logits[token] := List.getD_eq_getElem logits .zero htoken
    rw [List.getElem?_eq_getElem htoken, List.getElem?_range htoken, Option.map_some,
      Option.map_some, Option.map_some, Nat.zero_add, tokenCandidate, penalisedLogit,
      hraw, hexact.zero]
    dsimp only
    congr 2
    by_cases hone : config.repetitionPenalty = .one
    · have hnot : ¬ isRepeated config history token = true := fun h => (isRepeated_iff.mp h).1 hone
      rw [if_neg hnot, hone,
        applyRepetitionPenalty_one hexact (numbers _ (List.getElem_mem htoken)), ite_self]
    · have hiff : isRepeated config history token = true ↔
          token ∈ history.rtake config.repeatLastN :=
        isRepeated_iff.trans (and_iff_right hone)
      simp only [hiff]
  · rw [List.getElem?_eq_none (by omega), List.getElem?_eq_none (by rw [List.length_range]; omega)]
    rfl

theorem penalisedLogit_isNaN (valid : ValidConfig config)
    (numbers : ∀ logit ∈ logits, logit.isNaN = false) (token : Nat) :
    (penalisedLogit host config logits history token).isNaN = false := by
  have hraw : (logits.getD token .zero).isNaN = false := by
    by_cases htoken : token < logits.length
    · rw [List.getD_eq_getElem logits .zero htoken]
      exact numbers _ (List.getElem_mem htoken)
    · rw [List.getD_eq_default logits .zero (by omega)]
      decide
  unfold penalisedLogit applyRepetitionPenalty
  split
  · split
    · exact hexact.mul_isNaN _ _ hraw valid.penalty.1 valid.penalty.2
    · exact hexact.div_isNaN _ _ hraw valid.penalty.1 valid.penalty.2
  · exact hraw

/-- The penalty leaves a logit at the negative infinity. -/
theorem penalisedLogit_negInfinity (valid : ValidConfig config) {token : Nat}
    (h : logits.getD token .zero = .negInfinity) :
    penalisedLogit host config logits history token = .negInfinity := by
  have hnegative : F32.negInfinity.negative = true := by decide
  rw [penalisedLogit, h, applyRepetitionPenalty, if_pos hnegative,
    hexact.mul_negInfinity _ valid.penalty.1 valid.penalty.2, ite_self]

end Candidates

/-! ### The order of the tokens -/

section Order
variable {logit : Nat → F32} {vocabularySize : Nat}

theorem logitHigher_weak (logit : Nat → F32) (vocabularySize : Nat) :
    StrictWeakOn (List.range vocabularySize) (logitHigher logit) := by
  constructor
  · intro a _ b _ h
    simp only [logitHigher, decide_eq_true_eq, decide_eq_false_iff_not] at h ⊢
    omega
  · intro a _ b _ c _ h
    simp only [logitHigher, decide_eq_true_eq] at h ⊢
    omega

/-- The tokens as `sample` sorts them. -/
def tokenOrder (logit : Nat → F32) (vocabularySize : Nat) : List Nat :=
  (List.range vocabularySize).mergeSort (rankLe (logitHigher logit))

theorem tokenOrder_first (logit : Nat → F32) (vocabularySize : Nat) :
    FirstOf (Ranked (logitHigher logit)) vocabularySize (List.range vocabularySize)
      (tokenOrder logit vocabularySize) := by
  have hfirst := firstOf_ranked (logitHigher_weak logit vocabularySize) List.nodup_range
      (Nat.le_of_eq List.length_range.symm)
  have hall : ((List.range vocabularySize).mergeSort (rankLe (logitHigher logit))).take
      vocabularySize = tokenOrder logit vocabularySize := by
    rw [tokenOrder, List.take_of_length_le]
    rw [List.length_mergeSort, List.length_range]
  rwa [hall] at hfirst

theorem tokenOrder_keys : (tokenOrder logit vocabularySize).Pairwise fun first second =>
    (logit second).totalKey ≤ (logit first).totalKey := by
  refine (tokenOrder_first logit vocabularySize).ordered.imp ?_
  intro first second h
  simp only [Ranked, logitHigher, decide_eq_true_eq, decide_eq_false_iff_not] at h
  omega

theorem sort_candidates (logit : Nat → F32) (vocabularySize : Nat) :
    ((List.range vocabularySize).map (tokenCandidate logit fun _ => 0)).mergeSort candidateLe =
      (tokenOrder logit vocabularySize).map (tokenCandidate logit fun _ => 0) := by
  symm
  apply List.map_mergeSort
  intro first _ second _
  simp only [rankLe, candidateLe, logitHigher, decide_eq_true_eq]
  rfl

/-- A logit no lower than the infinite one is infinite. -/
theorem eq_infinity {x : F32} (number : x.isNaN = false) (h : F32.infinity.totalKey ≤ x.totalKey) :
    x = .infinity := by
  have hmagnitude := F32.isNaN_eq_false.mp number
  have hnat := F32.toNat_eq x
  have hkey : F32.infinity.totalKey = 0x7f800000 + 2 ^ 31 := by decide
  have hlt := F32.magnitude_lt x
  rw [hkey, F32.totalKey] at h
  cases hsign : x.toBits.msb <;> simp only [hsign, Bool.false_eq_true, if_true, if_false] at h hnat
  · exact F32.ext_of_magnitude (hsign.trans (by decide))
      ((by omega : x.magnitude = 0x7f800000).trans (by decide))
  · omega

end Order

/-! ### The tokens that remain, and their weights -/

section Remaining
variable {logit : Nat → F32} {tokens : List Nat} {temperature : F32}
    (numbers : ∀ token, (logit token).isNaN = false)
  (sorted : tokens.Pairwise fun first second => (logit second).totalKey ≤ (logit first).totalKey)

theorem tokenWeight_nonneg (logit : Nat → F32) (temperature : F32) (tokens : List Nat)
    (token : Nat) :
    0 ≤ tokenWeight logit temperature tokens token := by
  unfold tokenWeight
  split
  · exact zero_le_one
  · exact EReal.coe_ennreal_nonneg _

theorem mem_infiniteOnly {token : Nat} (h : token ∈ infiniteOnly logit tokens) :
    token ∈ tokens := by
  unfold infiniteOnly at h
  split at h
  · exact List.mem_of_mem_filter h
  · exact h

/-- A token with a weight has a logit above the negative infinity. -/
theorem logit_of_weight (hpositive : 0 < temperature.value) (hfinite : temperature.value ≠ ⊤)
    {token : Nat} (hmem : token ∈ infiniteOnly logit tokens)
    (hweight : tokenWeight logit temperature (infiniteOnly logit tokens) token ≠ 0) :
    logit token ≠ .negInfinity := by
  intro hlogit
  by_cases hinfinite : ∃ token ∈ tokens, logit token = .infinity
  · rw [infiniteOnly, if_pos hinfinite] at hmem
    have hother := of_decide_eq_true (List.mem_filter.mp hmem).2
    exact absurd (hlogit.symm.trans hother) (by decide)
  · rw [infiniteOnly, if_neg hinfinite, tokenWeight, if_neg hinfinite, hlogit,
      F32.value_negInfinity, EReal.bot_sub, EReal.bot_div_of_pos_ne_top hpositive hfinite,
      EReal.exp_bot] at hweight
    exact hweight EReal.coe_ennreal_zero

/-- The first of the tokens has a weight. -/
theorem tokenWeight_head {token : Nat} {rest : List Nat} (hlogit : logit token ≠ .negInfinity) :
    0 < tokenWeight logit temperature (token :: rest) token := by
  unfold tokenWeight
  split
  next => exact zero_lt_one
  next hnone =>
    have htop : (logit token).value ≠ ⊤ := by
      intro htop
      refine hnone ⟨token, List.mem_cons_self, F32.eq_infinity_of_value htop⟩
    have hbot : (logit token).value ≠ ⊥ := fun hbot => hlogit (F32.eq_negInfinity hbot)
    rw [List.headD_cons, EReal.sub_self htop hbot, EReal.zero_div, EReal.exp_zero]
    exact zero_lt_one

include numbers sorted

theorem takeWhile_infinite :
    tokens.takeWhile (fun token => decide (logit token = .infinity)) =
      tokens.filter fun token => decide (logit token = .infinity) := by
  refine takeWhile_eq_filter (sorted.imp ?_)
  intro first second hkeys hsecond
  rw [of_decide_eq_true hsecond] at hkeys
  exact decide_eq_true (eq_infinity (numbers first) hkeys)

/-- The first of the tokens remains. -/
theorem infiniteOnly_head {token : Nat} {rest : List Nat} (htokens : tokens = token :: rest) :
    ∃ others, infiniteOnly logit tokens = token :: others := by
  unfold infiniteOnly
  split
  next hinfinite =>
    rw [← takeWhile_infinite numbers sorted]
    obtain ⟨highest, hmem, hlogit⟩ := hinfinite
    have hfirst : logit token = .infinity := by
      rw [htokens] at hmem sorted
      rcases List.mem_cons.mp hmem with rfl | hbehind
      · exact hlogit
      · exact eq_infinity (numbers token)
          (hlogit ▸ (List.pairwise_cons.mp sorted).1 highest hbehind)
    simp only [htokens, List.takeWhile_cons, decide_eq_true hfirst, if_true]
    exact ⟨_, rfl⟩
  next => exact ⟨rest, htokens⟩

/-- The weights that `sample` gives are those of the tokens that remain. -/
theorem weigh_tokens {R : Type} {host : SamplerHost R EReal} (hexact : ExactHost host)
    {config : SamplingConfig} (valid : ValidConfig config) {weighted : List (Candidate EReal)}
    (h : weigh host config (tokens.map (tokenCandidate logit fun _ => 0)) = .ok weighted) :
    weighted = (infiniteOnly logit tokens).map
      (tokenCandidate logit
        (tokenWeight logit config.temperature (infiniteOnly logit tokens))) := by
  have hfront : (tokens.map (tokenCandidate logit fun _ => 0)).takeWhile
      (fun candidate => decide (candidate.logit = .infinity)) =
        (tokens.filter fun token => decide (logit token = .infinity)).map
          (tokenCandidate logit fun _ => 0) := by
    rw [List.takeWhile_map, ← takeWhile_infinite numbers sorted]
    rfl
  unfold weigh at h
  rw [hfront] at h
  by_cases hinfinite : ∃ token ∈ tokens, logit token = .infinity
  · obtain ⟨highest, hmem, hlogit⟩ := hinfinite
    have hremain : highest ∈ tokens.filter fun token => decide (logit token = .infinity) :=
      List.mem_filter.mpr ⟨hmem, decide_eq_true hlogit⟩
    have hsome : (tokens.filter fun token => decide (logit token = .infinity)).map
        (tokenCandidate logit fun _ => 0) ≠ [] :=
      List.ne_nil_of_mem (List.mem_map_of_mem hremain)
    have honly : infiniteOnly logit tokens = tokens.filter fun token =>
        decide (logit token = .infinity) :=
      if_pos ⟨highest, hmem, hlogit⟩
    dsimp only at h
    rw [if_pos hsome, List.map_map] at h
    rw [← Except.ok.inj h, honly]
    refine List.map_congr_left fun token _ => ?_
    rw [Function.comp_apply, tokenCandidate, tokenCandidate, hexact.one, tokenWeight,
      if_pos ⟨highest, hremain, hlogit⟩]
  · have hnone : tokens.filter (fun token => decide (logit token = .infinity)) = [] := by
      refine List.filter_eq_nil_iff.mpr fun token hmem htoken =>
        hinfinite ⟨token, hmem, of_decide_eq_true htoken⟩
    have honly : infiniteOnly logit tokens = tokens := if_neg hinfinite
    rw [hnone, List.map_nil] at h
    dsimp only at h
    rw [if_neg (not_not_intro rfl)] at h
    cases tokens with
    | nil => cases h
    | cons first rest =>
        rw [List.map_cons] at h
        dsimp only at h
        split at h
        · cases h
        · rw [← Except.ok.inj h, honly, ← List.map_cons, List.map_map]
          refine List.map_congr_left fun token _ => ?_
          rw [Function.comp_apply, tokenCandidate, tokenCandidate, tokenCandidate, tokenWeight,
            if_neg hinfinite, List.headD_cons, hexact.exp, hexact.div, hexact.sub,
            hexact.ofF32 _ (numbers token), hexact.ofF32 _ (numbers first),
            hexact.ofF32 _ (F32.isNaN_of_isFinite valid.temperature.1)]

end Remaining

/-! ### The token that is drawn -/

theorem exists_support {config : SamplingConfig} (valid : ValidConfig config) (logit : Nat → F32)
    (tokens : List Nat) :
    ∃ support, ShortestReaching (tokenWeight logit config.temperature tokens)
      (weightOf (tokenWeight logit config.temperature tokens) tokens * config.topP.value) tokens
      support := by
  refine exists_shortestReaching ?_
  calc
    weightOf (tokenWeight logit config.temperature tokens) tokens * config.topP.value ≤
        weightOf (tokenWeight logit config.temperature tokens) tokens * 1 :=
      mul_le_mul_of_nonneg_left valid.topP_le_one
        (weightOf_nonneg fun token _ => tokenWeight_nonneg _ _ _ token)
    _ = weightOf (tokenWeight logit config.temperature tokens) tokens := mul_one _

section Draw
variable {R : Type} {host : SamplerHost R EReal} (hexact : ExactHost host) {config : SamplingConfig}
    (valid : ValidConfig config)
  {logit : Nat → F32} (numbers : ∀ token, (logit token).isNaN = false) {vocabularySize : Nat}
theorem map_firstTopK {α : Type} (f : Nat → α) (topK : Nat) (order : List Nat) :
    (if topK = 0 then order.map f else (order.map f).take (min topK (order.map f).length)) =
      (firstTopK topK order).map f := by
  unfold firstTopK
  split
  · rfl
  · rw [← List.take_eq_take_min, List.map_take]

theorem firstTopK_keys (topK : Nat) : (firstTopK topK (tokenOrder logit vocabularySize)).Pairwise
      fun first second =>
    (logit second).totalKey ≤ (logit first).totalKey := by
  unfold firstTopK
  split
  · exact tokenOrder_keys
  · exact tokenOrder_keys.sublist (List.take_sublist _ _)

include numbers

theorem tokenOrder_descending : (tokenOrder logit vocabularySize).Pairwise fun first second =>
    (logit second).value ≤ (logit first).value := by
  refine tokenOrder_keys.imp ?_
  intro first second hkeys
  exact F32.value_mono (numbers second) (numbers first) hkeys

include valid

/-- The first of the order is in every support. -/
theorem drawn_greedy {token : Nat} {rest : List Nat}
    (horder : tokenOrder logit vocabularySize = token :: rest)
    (hlogit : logit token ≠ .negInfinity) :
    ∃ remaining support,
      Drawn config logit vocabularySize (tokenOrder logit vocabularySize) remaining support
      token := by
  have hkept : ∃ others, firstTopK config.topK (tokenOrder logit vocabularySize) =
      token :: others := by
    unfold firstTopK
    split
    next => exact ⟨rest, horder⟩
    next htopK =>
      obtain ⟨count, hcount⟩ := Nat.exists_eq_succ_of_ne_zero htopK
      rw [hcount, horder, List.take_succ_cons]
      exact ⟨_, rfl⟩
  obtain ⟨others, hkept⟩ := hkept
  obtain ⟨remaining, hremain⟩ := infiniteOnly_head numbers (firstTopK_keys config.topK) hkept
  obtain ⟨support, hsupport⟩ := exists_support valid logit (token :: remaining)
  have hweight : 0 < tokenWeight logit config.temperature (token :: remaining) token :=
    tokenWeight_head hlogit
  have htotal : 0 < weightOf (tokenWeight logit config.temperature (token :: remaining))
      (token :: remaining) :=
    hweight.trans_le
      (weight_le_weightOf (fun other _ => tokenWeight_nonneg _ _ _ other) List.mem_cons_self)
  have hfirst := tokenOrder_first logit vocabularySize
  refine ⟨token :: remaining, support, ?_⟩
  constructor
  case ordered => exact hfirst
  case descending => exact tokenOrder_descending numbers
  case remain => exact hremain.symm
  case shortest => exact hsupport
  case mem => exact hsupport.mem_head (EReal.mul_pos htotal (F32.value_pos valid.topP.2.1))
  case inRange => exact List.mem_range.mp (hfirst.mem token (horder ▸ List.mem_cons_self))
  case weight => exact hweight
  case finite => exact hlogit
  case greedy =>
    intro _
    rw [horder, List.head?_cons]

include hexact

theorem drawn_weighted (hwarm : config.temperature.magnitude ≠ 0) {rng rng' : R} {token : Nat}
    (h : sampleWeighted host config
      ((tokenOrder logit vocabularySize).map (tokenCandidate logit fun _ => 0)) rng =
      (.ok token, rng')) :
    ∃ remaining support,
      Drawn config logit vocabularySize (tokenOrder logit vocabularySize) remaining support
      token := by
  obtain ⟨weighted, candidate, target, hweigh, hid, hpasses⟩ := sampleWeighted_passes hexact h
  rw [map_firstTopK] at hweigh
  have hweighted := weigh_tokens numbers (firstTopK_keys config.topK) hexact valid hweigh
  generalize hremain : infiniteOnly logit
    (firstTopK config.topK (tokenOrder logit vocabularySize)) = remaining at hweighted
  subst hweighted
  obtain ⟨support, hsupport⟩ := exists_support valid logit remaining
  have hnonneg : ∀ candidate ∈
      remaining.map (tokenCandidate logit (tokenWeight logit config.temperature remaining)),
      0 ≤ candidate.weight := by
    intro candidate hmem
    obtain ⟨token, -, rfl⟩ := List.mem_map.mp hmem
    exact tokenWeight_nonneg _ _ _ token
  have hshortest : ShortestReaching Candidate.weight
      (weightOf Candidate.weight
        (remaining.map (tokenCandidate logit (tokenWeight logit config.temperature remaining))) *
        config.topP.value)
        (remaining.map (tokenCandidate logit (tokenWeight logit config.temperature remaining)))
      (support.map (tokenCandidate logit (tokenWeight logit config.temperature remaining))) := by
    rw [weightOf_map]
    exact ShortestReaching.map (by exact hsupport)
  have hchosen := mem_shortest_of_passes hexact (F32.isNaN_of_isFinite valid.topP.1)
      (F32.value_pos valid.topP.2.1)
    valid.topP_le_one (fun hle => by rw [valid.topP_eq_one hle, F32.value_one]) hnonneg
      hpasses hshortest
  obtain ⟨drawn, hdrawn, rfl⟩ := List.mem_map.mp hchosen
  have hdrawn' : drawn = token := hid
  subst hdrawn'
  have hmem : drawn ∈ remaining := hsupport.isPrefix.subset hdrawn
  have hweight := hpasses.weight_ne_zero
  have hfirst := tokenOrder_first logit vocabularySize
  refine ⟨remaining, support, ?_⟩
  constructor
  case ordered => exact hfirst
  case descending => exact tokenOrder_descending numbers
  case remain => exact hremain.symm
  case shortest => exact hsupport
  case mem => exact hdrawn
  case inRange =>
    rw [← hremain] at hmem
    have hkept := mem_infiniteOnly hmem
    unfold firstTopK at hkept
    split at hkept
    · exact List.mem_range.mp (hfirst.mem drawn hkept)
    · exact List.mem_range.mp (hfirst.mem drawn (List.mem_of_mem_take hkept))
  case weight => exact (tokenWeight_nonneg _ _ _ drawn).lt_of_ne hweight.symm
  case finite =>
    rw [← hremain] at hmem hweight
    exact logit_of_weight (valid.temperature_pos hwarm)
      (F32.value_ne_top valid.temperature.1) hmem hweight
  case greedy => exact fun hcold => absurd hcold hwarm

end Draw

/-- What `Sampler::sample` may return. The logits it sorts are penalised at the last tokens of the
history and nowhere else; and a token it returns is drawn from the support of their order, with a
logit that was above the negative infinity. -/
theorem Sampler.sample_support {R : Type} {host : SamplerHost R EReal} (hexact : ExactHost host)
    {sampler : Sampler R} {logits : List F32} {history : List Nat}
    (valid : sampler.config.validate sampler.vocabularySize = .ok ())
    (numbers : ∀ logit ∈ logits, logit.isNaN = false) :
    candidatesOf host sampler.config logits history =
        (List.range logits.length).map
          (tokenCandidate (penalisedLogit host sampler.config logits history) fun _ => 0) ∧
      ∀ rng rng' token, sampler.sample host logits history rng = (.ok token, rng') →
        logits.getD token .zero ≠ .negInfinity ∧ ∃ order remaining support,
          Drawn sampler.config (penalisedLogit host sampler.config logits history)
            sampler.vocabularySize order remaining support
            token := by
  have hvalid := SamplingConfig.validate_eq_ok valid
  have hcandidates : candidatesOf host sampler.config logits history =
      (List.range logits.length).map
        (tokenCandidate (penalisedLogit host sampler.config logits history) fun _ => 0) :=
    candidatesOf_eq hexact numbers
  have hnumbers : ∀ token, (penalisedLogit host sampler.config logits history token).isNaN =
      false :=
    penalisedLogit_isNaN hexact hvalid numbers
  refine ⟨hcandidates, fun rng rng' token h => ?_⟩
  unfold Sampler.sample at h
  obtain ⟨_, _, hcount, h₁⟩ := Command.bind_ok_iff.mp h
  obtain ⟨hlength, rfl⟩ := Prod.mk.inj hcount
  have hlength' := ensure_eq_ok.mp hlength
  obtain ⟨_, _, hchecked, h₂⟩ := Command.bind_ok_iff.mp h₁
  obtain ⟨-, rfl⟩ := Prod.mk.inj hchecked
  rw [hcandidates, hlength', sort_candidates] at h₂
  have hdrawn : ∃ remaining support,
      Drawn sampler.config (penalisedLogit host sampler.config logits history)
        sampler.vocabularySize
        (tokenOrder (penalisedLogit host sampler.config logits history) sampler.vocabularySize)
          remaining
        support token := by
    split at h₂
    next hcold =>
      have hgreedy := okOr_eq_ok.mp (Prod.mk.inj h₂).1
      obtain ⟨candidate, hfilter, hid⟩ := Option.map_eq_some_iff.mp hgreedy
      obtain ⟨hhead, hlogit⟩ := Option.filter_eq_some_iff.mp hfilter
      cases horder : tokenOrder (penalisedLogit host sampler.config logits history)
        sampler.vocabularySize with
      | nil =>
          rw [horder] at hhead
          cases hhead
      | cons first rest =>
          rw [horder] at hhead
          cases hhead
          subst hid
          rw [← horder]
          exact drawn_greedy hvalid hnumbers horder (of_decide_eq_true hlogit)
    next hwarm => exact drawn_weighted hexact hvalid hnumbers hwarm h₂
  obtain ⟨remaining, support, hdrawn⟩ := hdrawn
  refine ⟨fun hraw => hdrawn.finite (penalisedLogit_negInfinity hexact hvalid hraw), _, remaining,
    support, hdrawn⟩

/-! ### Two tokens, one of which has no weight -/

/-- A host in exact numbers that always draws zero. Its products and quotients are right for an
infinite logit. -/
noncomputable def zeroDraw : SamplerHost Nat EReal where
  seedFromU64 := id
  draw := fun rng => (0, rng + 1)
  mul32 := fun x _ => x
  div32 := fun x _ => x
  ofF32 := F32.value
  zero := 0
  one := 1
  add := fun a b => a + b
  sub := fun a b => a - b
  mul := fun a b => a * b
  div := fun a b => a / b
  exp := fun a => (EReal.exp a : ENNReal)
  lt := fun a b => decide (a < b)
  le := fun a b => decide (a ≤ b)
  isFinite := fun a => decide (a ≠ ⊥ ∧ a ≠ ⊤)

theorem zeroDraw_exact : ExactHost zeroDraw where
  ofF32 _ _ := rfl
  zero := rfl
  one := rfl
  add _ _ := rfl
  sub _ _ := rfl
  mul _ _ := rfl
  div _ _ := rfl
  exp _ := rfl
  lt _ _ := decide_eq_true_iff
  le _ _ := decide_eq_true_iff
  isFinite _ := decide_eq_true_iff
  draw _ := ⟨le_refl 0, zero_lt_one⟩
  mul_isNaN _ _ h _ _ := h
  div_isNaN _ _ h _ _ := h
  mul_negInfinity _ _ _ := rfl
  mul_one _ _ := rfl
  div_one _ _ := rfl

def halvingSampler : Sampler Nat where
  config := { SamplingConfig.default with
    temperature := .one, topK := 2, topP := .fromBits 0x3f000000,
    repetitionPenalty := .fromBits 0x40000000, repeatLastN := 1 }
  vocabularySize := 2
  rng := 0

theorem halving_valid : halvingSampler.config.validate 2 = .ok () := by decide

theorem one_ne_top : (1 : EReal) ≠ ⊤ := EReal.coe_ne_top 1
theorem one_ne_bot : (1 : EReal) ≠ ⊥ := EReal.coe_ne_bot 1

theorem weigh_halving :
    weigh zeroDraw halvingSampler.config [⟨1, .one, 0⟩, ⟨0, .negInfinity, 0⟩] =
      .ok [⟨1, .one, 1⟩, ⟨0, .negInfinity, 0⟩] := by
  have hinfinity : (F32.one = F32.infinity) = False := eq_false (by decide)
  have hnegative : (F32.one = F32.negInfinity) = False := eq_false (by decide)
  have htemperature : halvingSampler.config.temperature = .one := rfl
  have hfirst : (EReal.exp ((F32.one.value - F32.one.value) / F32.one.value) : ENNReal) = 1 := by
    rw [F32.value_one, EReal.sub_self one_ne_top one_ne_bot, EReal.zero_div, EReal.exp_zero]
  have hsecond : (EReal.exp ((F32.negInfinity.value - F32.one.value) / F32.one.value) : ENNReal) =
      0 := by
    rw [F32.value_negInfinity, F32.value_one, EReal.bot_sub,
      EReal.bot_div_of_pos_ne_top zero_lt_one one_ne_top, EReal.exp_bot]
  simp [weigh, hinfinity, hnegative, htemperature, zeroDraw, hfirst, hsecond]

theorem applyTopP_halving :
    applyTopP zeroDraw halvingSampler.config.topP [⟨1, .one, 1⟩, ⟨0, .negInfinity, 0⟩] =
      [⟨1, .one, 1⟩] := by
  have hle : halvingSampler.config.topP.value ≤ 1 :=
    (SamplingConfig.validate_eq_ok halving_valid).topP_le_one
  have hcut : ¬ F32.one.magnitude ≤ halvingSampler.config.topP.magnitude := by decide
  simp [applyTopP, hcut, totalWeight, topPKeep, zeroDraw, hle]

theorem sampleWeighted_halving (rng : Nat) : sampleWeighted zeroDraw halvingSampler.config
    [⟨1, .one, 0⟩, ⟨0, .negInfinity, 0⟩] rng = (.ok 1, rng + 1) := by
  have htopK : halvingSampler.config.topK = 2 := rfl
  unfold sampleWeighted
  rw [htopK, if_neg (by decide)]
  rw [Command.bind_of_ok (by rw [Command.lift_run]; exact congrArg (Prod.mk · rng) weigh_halving)]
  rw [applyTopP_halving]
  simp [totalWeight, zeroDraw, pick, Command.bind_run, ensure, okOr, one_ne_top, one_ne_bot]

/-- A token whose logit is the negative infinity, and is penalised, is not drawn. -/
theorem Sampler.sample_support_two : ∃ order remaining support,
    halvingSampler.sample zeroDraw [.negInfinity, .one] [0] 0 = (.ok 1, 1) ∧
    Drawn halvingSampler.config
      (penalisedLogit zeroDraw halvingSampler.config [.negInfinity, .one] [0]) 2 order remaining
      support 1 := by
  have hcandidates : candidatesOf zeroDraw halvingSampler.config [.negInfinity, .one] [0] =
      [⟨0, .negInfinity, 0⟩, ⟨1, .one, 0⟩] := rfl
  have hsorted : [(⟨0, .negInfinity, 0⟩ : Candidate EReal), ⟨1, .one, 0⟩].mergeSort candidateLe =
      [⟨1, .one, 0⟩, ⟨0, .negInfinity, 0⟩] := by
    have hbehind : candidateLe (⟨0, .negInfinity, 0⟩ : Candidate EReal) ⟨1, .one, 0⟩ = false := rfl
    simp [List.mergeSort, List.MergeSort.Internal.splitInTwo, hbehind]
  have hrun : halvingSampler.sample zeroDraw [.negInfinity, .one] [0] 0 = (.ok 1, 1) := by
    unfold Sampler.sample
    rw [hcandidates, hsorted]
    exact sampleWeighted_halving 0
  obtain ⟨-, order, remaining, support, hdrawn⟩ :=
    (Sampler.sample_support zeroDraw_exact (by decide) (by decide)).2 _ _ _ hrun
  exact ⟨order, remaining, support, hrun, hdrawn⟩

end LightBridge.Runtime
