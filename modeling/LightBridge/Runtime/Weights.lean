import Mathlib.Analysis.SpecialFunctions.Log.ERealExp
import Mathlib.Data.EReal.Inv
import LightBridge.Foundation.Cumulative
import LightBridge.Foundation.Floating
import LightBridge.Runtime.Sampling

/-! The weights of the sampler as exact numbers: what an `f32` stands for, and what the loops over
the weighted candidates compute. -/
namespace LightBridge
open Foundation

namespace F32

/-- The number of a magnitude up to that of infinity. -/
noncomputable def magnitudeValue (magnitude : Nat) : EReal :=
  if magnitude = 0x7f800000 then ⊤ else ((floatUnits 23 magnitude / 2 ^ 149 : ℝ) : EReal)

/-- The number that is meant; a NaN has none. -/
noncomputable def value (x : F32) : EReal := if x.toBits.msb then -magnitudeValue x.magnitude
      else magnitudeValue x.magnitude

theorem toNat_eq (x : F32) : x.toBits.toNat = (if x.toBits.msb then 2 ^ 31 else 0) +
      x.magnitude := by
  have hlt := x.toBits.isLt
  rw [magnitude, BitVec.msb_eq_decide]
  simp only [decide_eq_true_eq]
  split <;> omega

theorem magnitude_lt (x : F32) : x.magnitude < 2 ^ 31 := Nat.mod_lt _ (Nat.two_pow_pos 31)

theorem ext_of_magnitude {x y : F32} (hsign : x.toBits.msb = y.toBits.msb)
    (hmagnitude : x.magnitude = y.magnitude) : x = y := by
  have hnat : x.toBits.toNat = y.toBits.toNat := by rw [toNat_eq x, toNat_eq y, hsign, hmagnitude]
  cases x
  cases y
  exact congrArg F32.ofBits (BitVec.eq_of_toNat_eq hnat)

theorem isNaN_eq_false {x : F32} : x.isNaN = false ↔ x.magnitude ≤ 0x7f800000 := by
  simp [isNaN]

theorem magnitudeValue_nonneg (magnitude : Nat) : 0 ≤ magnitudeValue magnitude := by
  unfold magnitudeValue
  split
  · exact le_top
  · exact EReal.coe_nonneg.mpr (by positivity)

theorem magnitudeValue_mono {small large : Nat} (hle : small ≤ large)
    (hlarge : large ≤ 0x7f800000) :
    magnitudeValue small ≤ magnitudeValue large := by
  unfold magnitudeValue
  by_cases hinfinite : large = 0x7f800000
  · rw [if_pos hinfinite]
    exact le_top
  · rw [if_neg hinfinite, if_neg (by omega), EReal.coe_le_coe_iff]
    have hunits : (floatUnits 23 small : ℝ) ≤ floatUnits 23 large := by
      exact_mod_cast floatUnits_strictMono.monotone hle
    gcongr

theorem magnitudeValue_pos {magnitude : Nat} (h : 0 < magnitude) :
    0 < magnitudeValue magnitude := by
  unfold magnitudeValue
  split
  · exact EReal.coe_lt_top 0
  · have hunits : floatUnits 23 0 < floatUnits 23 magnitude := floatUnits_strictMono h
    rw [floatUnits_zero] at hunits
    exact EReal.coe_pos.mpr (by positivity)

/-! ### The values of an `f32` -/

theorem isFinite_iff {x : F32} : x.isFinite = true ↔ x.magnitude < 0x7f800000 := by
  have hexponent : x.isFinite = true ↔ x.toBits.toNat / 2 ^ 23 % 2 ^ 8 ≠ 255 := by
    rw [isFinite, bne_iff_ne, ne_eq, ← BitVec.toNat_inj, BitVec.extractLsb'_toNat,
      Nat.shiftRight_eq_div_pow]
    rfl
  have hlt := x.toBits.isLt
  rw [hexponent, magnitude]
  omega

theorem isNaN_of_isFinite {x : F32} (h : x.isFinite = true) : x.isNaN = false :=
  isNaN_eq_false.mpr (Nat.le_of_lt (isFinite_iff.mp h))

theorem value_negInfinity : negInfinity.value = ⊥ := by
  have hsign : negInfinity.toBits.msb = true := by decide
  have hmagnitude : negInfinity.magnitude = 0x7f800000 := by decide
  rw [value, if_pos hsign, magnitudeValue, if_pos hmagnitude, EReal.neg_top]

theorem value_one : one.value = 1 := by
  have hsign : one.toBits.msb = false := by decide
  have hmagnitude : one.magnitude = 0x3f800000 := by decide
  have hunits : floatUnits 23 0x3f800000 = 2 ^ 149 := by decide
  rw [value, hsign, if_neg Bool.false_ne_true, hmagnitude, magnitudeValue,
    if_neg (by decide), hunits]
  norm_num

/-- Only the negative infinity has no number above the least. -/
theorem eq_negInfinity {x : F32} (h : x.value = ⊥) : x = negInfinity := by
  unfold value at h
  split at h
  next hsign =>
    have htop := EReal.neg_eq_bot_iff.mp h
    unfold magnitudeValue at htop
    split at htop
    · next hmagnitude =>
        exact ext_of_magnitude (hsign.trans (by decide)) (hmagnitude.trans (by decide))
    · exact absurd htop (EReal.coe_ne_top _)
  next =>
    have hnonneg := magnitudeValue_nonneg x.magnitude
    rw [h] at hnonneg
    exact absurd hnonneg (not_le_of_gt EReal.bot_lt_zero)

/-- Only the infinity has the greatest number. -/
theorem eq_infinity_of_value {x : F32} (h : x.value = ⊤) : x = infinity := by
  unfold value at h
  split at h
  next =>
    have hnonneg := magnitudeValue_nonneg x.magnitude
    rw [EReal.neg_eq_top_iff.mp h] at hnonneg
    exact absurd hnonneg (not_le_of_gt EReal.bot_lt_zero)
  next hsign =>
    unfold magnitudeValue at h
    split at h
    · next hmagnitude =>
        exact ext_of_magnitude ((Bool.eq_false_of_not_eq_true hsign).trans (by decide))
          (hmagnitude.trans (by decide))
    · exact absurd h (EReal.coe_ne_top _)

theorem value_ne_top {x : F32} (h : x.isFinite = true) : x.value ≠ ⊤ := by
  have hmagnitude : ¬ x.magnitude = 0x7f800000 := Nat.ne_of_lt (isFinite_iff.mp h)
  rw [value, magnitudeValue, if_neg hmagnitude]
  split
  · rw [← EReal.coe_neg]
    exact EReal.coe_ne_top _
  · exact EReal.coe_ne_top _

theorem value_pos {x : F32} (h : x.positive = true) : 0 < x.value := by
  simp only [positive, Bool.and_eq_true, Bool.not_eq_true', decide_eq_true_eq] at h
  rw [value, h.1.1, if_neg Bool.false_ne_true]
  exact magnitudeValue_pos h.1.2

/-- The order of `total_cmp` is that of the values, with the zeroes and infinities of a sign apart.
-/
theorem value_mono {x y : F32} (hx : x.isNaN = false) (hy : y.isNaN = false)
    (h : x.totalKey ≤ y.totalKey) : x.value ≤ y.value := by
  have hx' := isNaN_eq_false.mp hx
  have hy' := isNaN_eq_false.mp hy
  have hxnat := toNat_eq x
  have hynat := toNat_eq y
  have hlt := magnitude_lt x
  have hlt' := magnitude_lt y
  unfold totalKey at h
  unfold value
  cases hxsign : x.toBits.msb <;> cases hysign : y.toBits.msb <;>
    simp only [hxsign, hysign, if_true, if_false, Bool.false_eq_true] at h hxnat hynat ⊢
  · exact magnitudeValue_mono (by omega) hy'
  · omega
  · exact (EReal.neg_le_zero.mpr (magnitudeValue_nonneg _)).trans (magnitudeValue_nonneg _)
  · exact EReal.neg_le_neg_iff.mpr (magnitudeValue_mono (by omega) hx')

end F32

namespace Runtime

/-- The host of the sampler in exact numbers, which has what `f32` products and quotients are relied
on for. -/
structure ExactHost {R : Type} (host : SamplerHost R EReal) : Prop where
  ofF32 : ∀ x : F32, x.isNaN = false → host.ofF32 x = x.value
  zero : host.zero = 0
  one : host.one = 1
  add : ∀ a b, host.add a b = a + b
  sub : ∀ a b, host.sub a b = a - b
  mul : ∀ a b, host.mul a b = a * b
  div : ∀ a b, host.div a b = a / b
  exp : ∀ a, host.exp a = (a.exp : EReal)
  lt : ∀ a b, host.lt a b = true ↔ a < b
  le : ∀ a b, host.le a b = true ↔ a ≤ b
  isFinite : ∀ a, host.isFinite a = true ↔ a ≠ ⊥ ∧ a ≠ ⊤
  /-- `gen::<f64>` is in the unit interval, without its end. -/
  draw : ∀ rng, 0 ≤ (host.draw rng).1 ∧ (host.draw rng).1 < 1
  mul_isNaN : ∀ x y : F32, x.isNaN = false → y.isFinite = true → y.positive = true →
    (host.mul32 x y).isNaN = false
  div_isNaN : ∀ x y : F32, x.isNaN = false → y.isFinite = true → y.positive = true →
    (host.div32 x y).isNaN = false
  mul_negInfinity : ∀ y : F32, y.isFinite = true → y.positive = true →
    host.mul32 .negInfinity y = .negInfinity
  mul_one : ∀ x : F32, x.isNaN = false → host.mul32 x .one = x
  div_one : ∀ x : F32, x.isNaN = false → host.div32 x .one = x

section Loops
variable {R : Type} {host : SamplerHost R EReal} (hexact : ExactHost host)
    {candidates : List (Candidate EReal)}
include hexact

theorem totalWeight_eq : totalWeight host candidates = weightOf Candidate.weight candidates := by
  have hfold : ∀ sum, candidates.foldl (fun sum candidate => host.add sum candidate.weight) sum =
      sum + weightOf Candidate.weight candidates := by
    induction candidates with
    | nil => exact fun sum => (add_zero sum).symm
    | cons candidate candidates ih =>
        intro sum
        rw [List.foldl_cons, ih, hexact.add, weightOf_cons, add_assoc]
  rw [totalWeight, hfold, hexact.zero, zero_add]

/-- The loop of `apply_top_p` stops at the first front that reaches the threshold. -/
theorem topPKeep_spec {threshold cumulative : EReal} (keep : Nat) (below : cumulative < threshold)
    (reached : threshold ≤ cumulative + weightOf Candidate.weight candidates) :
    ∃ count ≤ candidates.length, topPKeep host threshold cumulative keep candidates = keep + count ∧
      threshold ≤ cumulative + weightOf Candidate.weight (candidates.take count) ∧
      ∀ fewer < count, cumulative + weightOf Candidate.weight (candidates.take fewer) <
      threshold := by
  induction candidates generalizing cumulative keep with
  | nil =>
      rw [weightOf_nil, add_zero] at reached
      exact absurd reached (not_le_of_gt below)
  | cons candidate candidates ih =>
      rw [weightOf_cons, ← add_assoc] at reached
      by_cases hstop : threshold ≤ cumulative + candidate.weight
      · refine ⟨1, Nat.succ_le_succ (Nat.zero_le _), ?_, ?_, ?_⟩
        · rw [topPKeep, hexact.add, if_pos ((hexact.le _ _).mpr hstop)]
        · simpa using hstop
        · intro fewer hfewer
          rw [Nat.lt_one_iff.mp hfewer, List.take_zero, weightOf_nil, add_zero]
          exact below
      · obtain ⟨count, hcount, hkeep, hreach, hbelow⟩ := ih (keep + 1) (lt_of_not_ge hstop) reached
        refine ⟨count + 1, Nat.succ_le_succ hcount, ?_, ?_, ?_⟩
        · rw [topPKeep, hexact.add, if_neg (fun h => hstop ((hexact.le _ _).mp h)), hkeep]
          omega
        · rwa [List.take_succ_cons, weightOf_cons, ← add_assoc]
        · intro fewer hfewer
          cases fewer with
          | zero =>
              rw [List.take_zero, weightOf_nil, add_zero]
              exact below
          | succ fewer =>
              rw [List.take_succ_cons, weightOf_cons, ← add_assoc]
              exact hbelow fewer (by omega)

/-- The search of `sample` ends at the candidate where the weight passes the target. -/
theorem pick_spec {target cumulative : EReal} (below : cumulative ≤ target)
    (passed : target < cumulative + weightOf Candidate.weight candidates) :
    ∃ candidate before after, candidates = before ++ candidate :: after ∧
      pick host target cumulative candidates = some candidate.tokenId ∧
      cumulative + weightOf Candidate.weight before ≤ target ∧
      target < cumulative + weightOf Candidate.weight (before ++ [candidate]) := by
  induction candidates generalizing cumulative with
  | nil =>
      rw [weightOf_nil, add_zero] at passed
      exact absurd below (not_le_of_gt passed)
  | cons candidate candidates ih =>
      rw [weightOf_cons, ← add_assoc] at passed
      by_cases hfound : target < cumulative + candidate.weight
      · refine ⟨candidate, [], candidates, rfl, ?_, ?_, ?_⟩
        · rw [pick, hexact.add, if_pos ((hexact.lt _ _).mpr hfound)]
        · rwa [weightOf_nil, add_zero]
        · simpa using hfound
      · obtain ⟨found, before, after, rfl, hpick, hbelow, habove⟩ := ih (le_of_not_gt hfound) passed
        refine ⟨found, candidate :: before, after, rfl, ?_, ?_, ?_⟩
        · rw [pick, hexact.add, if_neg (fun h => hfound ((hexact.lt _ _).mp h)), hpick]
        · rwa [weightOf_cons, ← add_assoc]
        · rwa [List.cons_append, weightOf_cons, ← add_assoc]

/-- What `apply_top_p` keeps is the shortest prefix, but for a limit of one and for a single
candidate; and a candidate at which the weight of the kept passes a target is in the shortest prefix
there too. -/
theorem mem_shortest_of_passes {topP : F32} {target : EReal} {candidate : Candidate EReal}
    {chosen : List (Candidate EReal)} (number : topP.isNaN = false) (positive : 0 < topP.value)
    (le_one : topP.value ≤ 1) (whole : F32.one.magnitude ≤ topP.magnitude → topP.value = 1)
    (nonneg : ∀ candidate ∈ candidates, 0 ≤ candidate.weight)
    (h : PassesAt Candidate.weight target (applyTopP host topP candidates) candidate)
    (hchosen : ShortestReaching Candidate.weight (weightOf Candidate.weight candidates * topP.value)
      candidates chosen) :
    candidate ∈ chosen := by
  have hmem := mem_applyTopP host h.mem
  have htotal : 0 < weightOf Candidate.weight candidates :=
    ((nonneg _ hmem).lt_of_ne h.weight_ne_zero.symm).trans_le (weight_le_weightOf nonneg hmem)
  have hthreshold : 0 < weightOf Candidate.weight candidates * topP.value :=
    EReal.mul_pos htotal positive
  unfold applyTopP at h
  split at h
  next hkept =>
    rcases hkept with hone | hsingle
    · rw [whole hone, mul_one] at hchosen
      exact h.mem_whole nonneg hchosen
    · cases candidates with
      | nil => exact absurd hmem List.not_mem_nil
      | cons first rest =>
          have hrest : rest = [] :=
            List.eq_nil_of_length_eq_zero (by rw [List.length_cons] at hsingle; omega)
          subst hrest
          rw [List.mem_singleton.mp hmem]
          exact hchosen.mem_head hthreshold
  next =>
    have hle : weightOf Candidate.weight candidates * topP.value ≤
        weightOf Candidate.weight candidates := by
      calc
        weightOf Candidate.weight candidates * topP.value ≤
          weightOf Candidate.weight candidates * 1 :=
          mul_le_mul_of_nonneg_left le_one htotal.le
        _ = weightOf Candidate.weight candidates := mul_one _
    obtain ⟨count, hcount, hkeep, hreach, hbelow⟩ :=
      topPKeep_spec hexact 0 hthreshold (by rwa [zero_add])
    have hpositive : count ≠ 0 := by
      rintro rfl
      rw [List.take_zero, weightOf_nil, add_zero] at hreach
      exact absurd hreach (not_le_of_gt hthreshold)
    have hmax : max count 1 = count := by omega
    simp only [totalWeight_eq hexact, hexact.mul, hexact.ofF32 topP number, hexact.zero, hkeep,
      Nat.zero_add, hmax] at h
    simp only [zero_add] at hreach hbelow
    rw [← (ShortestReaching.of_take hcount hreach hbelow).unique hchosen] at h
    exact h.mem

/-- A token that `sample` returns at a temperature above zero is that of a candidate at which the
weight passes the target: the fall-through is not reached. -/
theorem sampleWeighted_passes {config : SamplingConfig} {sorted : List (Candidate EReal)}
    {rng rng' : R} {token : Nat} (h : sampleWeighted host config sorted rng = (.ok token, rng')) :
    ∃ weighted candidate target,
      weigh host config (if config.topK = 0 then sorted
        else sorted.take (min config.topK sorted.length)) = .ok weighted ∧
      candidate.tokenId = token ∧ PassesAt Candidate.weight target
        (applyTopP host config.topP weighted) candidate := by
  unfold sampleWeighted at h
  obtain ⟨weighted, _, hweigh, h₁⟩ := Command.bind_ok_iff.mp h
  obtain ⟨hweighted, rfl⟩ := Prod.mk.inj hweigh
  obtain ⟨_, _, hensure, h₂⟩ := Command.bind_ok_iff.mp h₁
  obtain ⟨hcheck, rfl⟩ := Prod.mk.inj hensure
  obtain ⟨_, _, hread, h₃⟩ := Command.bind_ok_iff.mp h₂
  obtain ⟨hrng, rfl⟩ := Prod.mk.inj hread
  obtain ⟨_, _, -, hlast⟩ := Command.bind_ok_iff.mp h₃
  have hchosen := okOr_eq_ok.mp (Prod.mk.inj hlast).1
  obtain ⟨hfinite, hpositive⟩ := ensure_eq_ok.mp hcheck
  rw [hexact.isFinite, totalWeight_eq hexact] at hfinite
  rw [hexact.lt, totalWeight_eq hexact, hexact.zero] at hpositive
  rw [totalWeight_eq hexact, hexact.mul, hexact.zero] at hchosen
  obtain ⟨hunit, hunit'⟩ := hexact.draw rng
  cases hrng
  -- The target is below the whole weight, which is a number.
  have htarget : (host.draw rng).1 *
      weightOf Candidate.weight (applyTopP host config.topP weighted) <
      weightOf Candidate.weight (applyTopP host config.topP weighted) := by
    generalize (host.draw rng).1 = unit at hunit hunit'
    generalize weightOf Candidate.weight (applyTopP host config.topP weighted) =
      total at hfinite hpositive
    lift total to ℝ using ⟨hfinite.2, hfinite.1⟩
    lift unit to ℝ using ⟨(hunit'.trans (EReal.coe_lt_top 1)).ne,
      (EReal.bot_lt_zero.trans_le hunit).ne'⟩
    norm_cast at hunit' hpositive ⊢
    exact mul_lt_of_lt_one_left hpositive hunit'
  have hstart : (0 : EReal) ≤ (host.draw rng).1 *
      weightOf Candidate.weight (applyTopP host config.topP weighted) :=
    mul_nonneg hunit hpositive.le
  obtain ⟨candidate, before, after, hsplit, hpick, hbelow, habove⟩ :=
    pick_spec hexact hstart (by rwa [zero_add])
  rw [hpick, Option.some_or, Option.some_inj] at hchosen
  rw [zero_add] at hbelow habove
  exact ⟨weighted, candidate, _, hweighted, hchosen, before, after, hsplit, hbelow, habove⟩

end Loops
end Runtime
end LightBridge
