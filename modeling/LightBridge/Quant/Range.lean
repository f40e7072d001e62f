import LightBridge.Quant.Dot

/-! No integer accumulator of the quantised kernels leaves its width, whatever the bytes. -/
namespace LightBridge.Quant
open Foundation Kernels

/-! ### Terms -/

theorem natAbs_toInt_le {w : Nat} (x : BitVec (w + 1)) : x.toInt.natAbs ≤ 2 ^ w := by
  have hlower : -2 ^ w ≤ x.toInt := BitVec.le_toInt x
  have hupper : x.toInt < 2 ^ w := BitVec.toInt_lt
  have hcast : ((2 ^ w : Nat) : Int) = 2 ^ w := by norm_cast
  omega

theorem natAbs_asI8_le (byte : UInt8) : (asI8 byte).natAbs ≤ 128 := natAbs_toInt_le byte.toBitVec

theorem natAbs_readI16_le (bytes : List UInt8) (offset : Nat) :
    (readI16 bytes offset).natAbs ≤ 32768 :=
  natAbs_toInt_le (readU16 bytes offset)

theorem toNat_and_le (a b : UInt8) : (a &&& b).toNat ≤ b.toNat := by
  rw [UInt8.toNat_and]
  exact Nat.and_le_right

theorem toNat_shiftRight_four_le (byte : UInt8) : (byte >>> 4).toNat ≤ 15 := by
  have hlt := byte.toNat_lt
  have heq : (byte >>> 4).toNat = byte.toNat / 16 := by
    rw [UInt8.toNat_shiftRight]
    exact Nat.shiftRight_eq_div_pow _ _
  omega

theorem toNat_high_lt (byte : UInt8) : ((byte >>> 6) <<< 4).toNat < 2 ^ 6 := by
  have hlt := byte.toNat_lt
  have hshift : (byte >>> 6).toNat = byte.toNat / 64 := by
    rw [UInt8.toNat_shiftRight]
    exact Nat.shiftRight_eq_div_pow _ _
  have heq : ((byte >>> 6) <<< 4).toNat = (byte >>> 6).toNat * 16 % 256 := by
    rw [UInt8.toNat_shiftLeft]
    exact congrArg (· % 256) (Nat.shiftLeft_eq _ _)
  omega

/-- Two bits above four. -/
theorem toNat_joined_le {low : UInt8} (hlow : low.toNat ≤ 15) (high : UInt8) :
    (low ||| ((high >>> 6) <<< 4)).toNat ≤ 63 := by
  rw [UInt8.toNat_or]
  exact Nat.le_of_lt_succ
    (Nat.or_lt_two_pow (Nat.lt_of_le_of_lt hlow (by decide)) (toNat_high_lt high))

/-- Scales and minima have six bits. -/
theorem scaleMin_le (scales : List UInt8) (index : Nat) :
    (scaleMin scales index).1.toNat ≤ 63 ∧ (scaleMin scales index).2.toNat ≤ 63 := by
  unfold scaleMin
  split
  · exact ⟨toNat_and_le _ 0x3f, toNat_and_le _ 0x3f⟩
  · exact ⟨toNat_joined_le (toNat_and_le _ 0x0f) _, toNat_joined_le (toNat_shiftRight_four_le _) _⟩

theorem nibble_le (packed : UInt8) (index : Nat) : nibble packed index ≤ 15 := by
  unfold nibble
  split
  · exact toNat_and_le packed 0x0f
  · exact toNat_shiftRight_four_le packed

/-! ### Accumulators -/

theorem bounded_mulI32 {a b : Int} (m n : Nat) (ha : a.natAbs ≤ m) (hb : b.natAbs ≤ n)
    (h : m * n < 2 ^ 31) :
    Bounded (mulI32 a b) (a * b) (m * n) := Bounded.mul ha hb h

theorem bounded_accumulate {sum value : Int} {term : Option Int} (bound : Nat)
    (h : Bounded term value bound) (hroom : sum.natAbs + bound < 2 ^ 31) :
    Bounded (accumulate sum term) (sum + value) (sum.natAbs + bound) :=
  h.bind fun hle => Bounded.add (Nat.le_refl _) hle hroom

/-- A scale or minimum is a factor of at most 63. -/
theorem natAbs_sixBits_le {byte : UInt8} (h : byte.toNat ≤ 63) :
    ((byte.toNat : Nat) : Int).natAbs ≤ 63 := by
  rwa [Int.natAbs_natCast]

def minimumTerm (weight activation : List UInt8) (group : Nat) : Int :=
  readI16 activation (260 + group * 2) * (scaleMin (slice weight 4 12) (group / 2)).2.toNat

theorem bounded_minimumSum (weight activation : List UInt8) :
    Bounded (minimumSum weight activation)
      (0 + ((List.range 16).map (minimumTerm weight activation)).sum) 33030144 := by
  refine Bounded.mono (Bounded.foldlM 2064384 33030144 (fun group _ sum hsum => ?_) (by decide))
    (by decide)
  refine bounded_accumulate 2064384 (bounded_mulI32 32768 63 (natAbs_readI16_le _ _) ?_ (by decide))
    (by omega)
  exact natAbs_sixBits_le (scaleMin_le _ _).2

def laneTerm (quants weight activation : List UInt8) (lane index step : Nat) : Int :=
  (scaleMin (slice weight 4 12) index).1.toNat *
    activationAt activation (index * 32 + step * 8 + lane) *
    asI8 (byteAt quants (index * 32 + step * 8 + lane))

theorem bounded_laneSum (quants weight activation : List UInt8) (lane : Nat) :
    Bounded (laneSum quants weight activation lane)
      (0 + ((List.range 8).map fun index =>
        ((List.range 4).map (laneTerm quants weight activation lane index)).sum).sum)
      33030144 := by
  refine Bounded.mono (Bounded.foldlM 4128768 33030144 (fun index _ sum hsum => ?_) (by decide))
    (by decide)
  refine Bounded.foldlM 1032192 33030144 (fun step _ sum hsum => ?_) (by simpa using hsum)
  refine bounded_accumulate (63 * 128 * 128) ?_ (by omega)
  refine Bounded.bind (bounded_mulI32 63 128 ?_ (natAbs_asI8_le _) (by decide)) fun hscaled => ?_
  · exact natAbs_sixBits_le (scaleMin_le _ _).1
  · exact bounded_mulI32 (63 * 128) 128 hscaled (natAbs_asI8_le _) (by decide)

/-- A codebook value times an activation, with its sign. -/
def signedValue (activation grid : Int) (negative : Bool) : Int :=
  activation * grid * if negative then -1 else 1

theorem bounded_signedTerm (byte : UInt8) {grid : Nat} (hg : grid < 256) (negative : Bool) :
    Bounded (signedTerm (asI8 byte) grid negative) (signedValue (asI8 byte) grid negative)
      32640 := by
  refine Bounded.bind (bounded_mulI32 128 255 (natAbs_asI8_le byte) ?_ (by decide)) fun hproduct =>
    bounded_mulI32 32640 1 hproduct ?_ (by decide)
  · rw [Int.natAbs_natCast]
    exact Nat.le_of_lt_succ hg
  · cases negative
    · decide
    · decide

def iq2sTerm (weight activation : List UInt8) (group laneGroup lane : Nat) : Int :=
  signedValue (activationAt activation (group * 32 + laneGroup * 8 + lane))
    (gridByte iq2sGrid (iq2sIndex weight group laneGroup) lane)
      (negated (iq2sSigns weight group laneGroup) lane)

def iq2sHalf (weight activation : List UInt8) (group half : Nat) : Int :=
  0 + ((List.range 2).map fun index =>
    ((List.range 8).map (iq2sTerm weight activation group (half * 2 + index))).sum).sum

theorem bounded_iq2sHalfSum (weight activation : List UInt8) (group half : Nat) :
    Bounded (iq2sHalfSum weight activation group half) (iq2sHalf weight activation group half)
      522240 := by
  refine Bounded.mono (Bounded.foldlM 261120 522240 (fun index _ sum hsum => ?_) (by decide))
    (by decide)
  refine Bounded.foldlM 32640 522240 (fun lane _ sum hsum => ?_) (by simpa using hsum)
  exact bounded_accumulate 32640 (bounded_signedTerm _ (gridByte_lt _ _ _) _) (by omega)

/-- An odd scale of five bits. -/
theorem natAbs_oddScale_le (packed : UInt8) (index : Nat) :
    ((1 + 2 * nibble packed index : Nat) : Int).natAbs ≤ 31 := by
  have hle := nibble_le packed index
  omega

def iq2sGroup (weight activation : List UInt8) (group : Nat) : Int :=
  (1 + 2 * nibble (byteAt weight (74 + group)) 0 : Nat) * iq2sHalf weight activation group 0 +
    (1 + 2 * nibble (byteAt weight (74 + group)) 1 : Nat) * iq2sHalf weight activation group 1

theorem bounded_iq2sBlockSum (weight activation : List UInt8) :
    Bounded (iq2sBlockSum weight activation)
      (0 + ((List.range 8).map (iq2sGroup weight activation)).sum) 259031040 := by
  refine Bounded.mono (Bounded.foldlM 32378880 259031040 (fun group _ sum hsum => ?_) (by decide))
    (by decide)
  refine (bounded_iq2sHalfSum weight activation group 0).bind fun hfirst => ?_
  refine (bounded_iq2sHalfSum weight activation group 1).bind fun hsecond => ?_
  refine bounded_accumulate (31 * 522240 + 31 * 522240) ?_ (by omega)
  refine (bounded_mulI32 31 522240 (natAbs_oddScale_le _ 0) hfirst (by decide)).bind fun hleft => ?_
  refine (bounded_mulI32 31 522240 (natAbs_oddScale_le _ 1) hsecond (by decide)).bind
    fun hright => ?_
  exact Bounded.add hleft hright (by decide)

def iq3sTerm (weight activation : List UInt8) (group laneGroup lane side : Nat) : Int :=
  signedValue (activationAt activation (group * 32 + laneGroup * 8 + (side * 4 + lane)))
    (gridByte iq3sGrid (iq3sIndex weight group laneGroup side) lane)
    (negated (iq3sSigns weight group laneGroup) (side * 4 + lane))

def iq3sGroup (weight activation : List UInt8) (group : Nat) : Int :=
  0 + ((List.range 4).map fun laneGroup => ((List.range 4).map fun lane =>
    ((List.range 2).map (iq3sTerm weight activation group laneGroup lane)).sum).sum).sum

theorem bounded_iq3sGroupSum (weight activation : List UInt8) (group : Nat) :
    Bounded (iq3sGroupSum weight activation group) (iq3sGroup weight activation group) 1044480 := by
  refine Bounded.mono (Bounded.foldlM 261120 1044480 (fun laneGroup _ sum hsum => ?_) (by decide))
    (by decide)
  refine Bounded.foldlM 65280 1044480 (fun lane _ sum hsum => ?_) (by simpa using hsum)
  refine Bounded.foldlM 32640 1044480 (fun side _ sum hsum => ?_) (by simpa using hsum)
  exact bounded_accumulate 32640 (bounded_signedTerm _ (gridByte_lt _ _ _) _) (by omega)

theorem bounded_iq3sBlockSum (weight activation : List UInt8) :
    Bounded (iq3sBlockSum weight activation)
      (0 +
        ((List.range 8).map fun group => iq3sGroup weight activation group *
          (2 * nibble (byteAt weight (106 + group / 2)) (group % 2) + 1 : Nat)).sum) 259031040 := by
  refine Bounded.mono (Bounded.foldlM 32378880 259031040 (fun group _ sum hsum => ?_) (by decide))
    (by decide)
  refine (bounded_iq3sGroupSum weight activation group).bind fun hgroup => ?_
  refine bounded_accumulate (1044480 * 31) (bounded_mulI32 1044480 31 hgroup ?_ (by decide))
    (by omega)
  rw [Nat.add_comm]
  exact natAbs_oddScale_le _ _

/-! ### Group sums -/

theorem bounded_groupSum (quants : List UInt8) (group : Nat) :
    Bounded (groupSum quants group)
      (0 + ((List.range 16).map fun lane => asI8 (byteAt quants (group * 16 + lane))).sum)
      2048 := by
  have hsum : Bounded
      ((List.range 16).foldlM (fun sum lane =>
        addI32 sum (asI8 (byteAt quants (group * 16 + lane)))) 0)
      (0 + ((List.range 16).map fun lane => asI8 (byteAt quants (group * 16 + lane))).sum)
        2048 := by
    refine Bounded.mono (Bounded.foldlM 128 2048 (fun lane _ sum hsum => ?_) (by decide))
      (by decide)
    exact Bounded.add (Nat.le_refl _) (natAbs_asI8_le _) (by omega)
  refine hsum.bind fun hle => ⟨signed_of_natAbs_lt (Nat.lt_of_le_of_lt hle (by decide)), hle⟩

/-! ### Whole calls -/

theorem option_foldlM_some {α β : Type} {f : β → α → Option β} {xs : List α}
    (h : ∀ b, ∀ x ∈ xs, ∃ b', f b x = some b')
    (b : β) : ∃ b', xs.foldlM f b = some b' := by
  induction xs generalizing b with
  | nil => exact ⟨b, rfl⟩
  | cons x xs ih =>
      obtain ⟨b', hb'⟩ := h b x List.mem_cons_self
      obtain ⟨b'', hrest⟩ := ih (fun c y hy => h c y (List.mem_cons_of_mem x hy)) b'
      exact ⟨b'', by rw [List.foldlM_cons, hb']; exact hrest⟩

theorem option_mapM_some {α β : Type} {f : α → Option β} {xs : List α}
    (h : ∀ x ∈ xs, ∃ y, f x = some y) :
    ∃ ys, xs.mapM f = some ys := by
  induction xs with
  | nil => exact ⟨[], rfl⟩
  | cons x xs ih =>
      obtain ⟨y, hy⟩ := h x List.mem_cons_self
      obtain ⟨ys, hys⟩ := ih fun z hz => h z (List.mem_cons_of_mem x hz)
      exact ⟨y :: ys, by rw [List.mapM_cons, hy, hys]; rfl⟩

theorem dotScaledBlock_some (A : Floats) (quants : List UInt8 → List UInt8) (blockBytes : Nat)
    (weights q8 : List UInt8) (total : List F32 × F32) (block : Nat) :
    ∃ next, dotScaledBlock A quants blockBytes weights q8 total block = some next := by
  unfold dotScaledBlock
  dsimp only
  generalize slice weights (block * blockBytes) blockBytes = weight
  generalize slice q8 (block * q8KBlockBytes) q8KBlockBytes = activation
  have hlanes : ∃ lanes, (List.range 8).mapM (laneSum (quants weight) weight activation) =
      some lanes :=
    option_mapM_some fun lane _ =>
      ⟨_, (bounded_laneSum (quants weight) weight activation lane).answers⟩
  obtain ⟨lanes, hlanes⟩ := hlanes
  rw [(bounded_minimumSum weight activation).answers, hlanes]
  exact ⟨_, rfl⟩

theorem dotQ4OrQ5K_some (A : Floats) (quants : List UInt8 → List UInt8) (blockBytes : Nat)
    (weights q8 : List UInt8)
    (blockCount : Nat) : ∃ value, dotQ4OrQ5K A quants blockBytes weights q8 blockCount =
      some value := by
  have htotal : ∃ total,
      (List.range blockCount).foldlM (dotScaledBlock A quants blockBytes weights q8)
        (List.replicate 8 F32.zero, F32.zero) = some total :=
    option_foldlM_some (fun total block _ =>
      dotScaledBlock_some A quants blockBytes weights q8 total block) _
  obtain ⟨total, htotal⟩ := htotal
  exact ⟨_, by rw [dotQ4OrQ5K, htotal]; rfl⟩

theorem dotGrid_some (A : Floats) {blockSum : List UInt8 → List UInt8 → Option Int}
    (h : ∀ weight activation, ∃ value, blockSum weight activation = some value) (blockBytes : Nat)
    (weights q8 : List UInt8) (blockCount : Nat) :
    ∃ value, dotGrid A blockSum blockBytes weights q8 blockCount = some value := by
  refine option_foldlM_some (fun sum block _ => ?_) F32.zero
  obtain ⟨value, hvalue⟩ :=
    h (slice weights (block * blockBytes) blockBytes)
      (slice q8 (block * q8KBlockBytes) q8KBlockBytes)
  dsimp only
  rw [hvalue]
  exact ⟨_, rfl⟩

/-- The scalar product of a supported type never overflows. -/
theorem dotScalar_some (A : Floats) {weightType : GgmlType}
    (hty : weightType ∈ [GgmlType.q4K, .q5K, .iq2S, .iq3S])
    (weights q8 : List UInt8) (blockCount : Nat) :
    ∃ value, dotScalar A weightType weights q8 blockCount = some value := by
  simp only [List.mem_cons, List.not_mem_nil, or_false] at hty
  rcases hty with rfl | rfl | rfl | rfl
  · exact dotQ4OrQ5K_some A q4Quants 144 weights q8 blockCount
  · exact dotQ4OrQ5K_some A q5Quants 176 weights q8 blockCount
  · obtain ⟨sum, hsum⟩ :=
      dotGrid_some A (fun weight activation =>
        ⟨_, (bounded_iq2sBlockSum weight activation).answers⟩)
      82 weights q8 blockCount
    exact ⟨_, by rw [dotScalar, dotIq2S, hsum]; rfl⟩
  · exact dotGrid_some A (fun weight activation =>
      ⟨_, (bounded_iq3sBlockSum weight activation).answers⟩)
      110 weights q8 blockCount

theorem quantizeBlock_some (A : Floats) (values : List F32) :
    ∃ bytes, quantizeBlock A values = some bytes := by
  unfold quantizeBlock
  split
  · exact ⟨_, rfl⟩
  · dsimp only
    generalize values.map (fun value =>
      quantByte A (A.mul (A.div minus127 (largest A values).1) value)) = quants
    have hsums : ∃ sums, (List.range 16).mapM (groupSum quants) = some sums :=
      option_mapM_some fun group _ => ⟨_, (bounded_groupSum quants group).answers⟩
    obtain ⟨sums, hsums⟩ := hsums
    rw [hsums]
    exact ⟨_, rfl⟩

theorem quantizeBlocks_run (A : Floats) (input : List F32) (blocks : List Nat)
    (encoded : List UInt8) :
    ∃ written, quantizeBlocks A input blocks encoded = (.ok (), written) := by
  induction blocks generalizing encoded with
  | nil => exact ⟨encoded, rfl⟩
  | cons block blocks ih =>
      obtain ⟨bytes, hbytes⟩ :=
        quantizeBlock_some A (slice input (block * q8KBlockElements) q8KBlockElements)
      obtain ⟨written, hwritten⟩ := ih (overwrite encoded (block * q8KBlockBytes) bytes)
      exact ⟨written, by rw [quantizeBlocks, hbytes]; exact hwritten⟩

/-- Every check of `quantize_row_q8_k_into` precedes its first write. -/
theorem quantizeRowQ8KInto_ends (A : Floats) (input : List F32) (encoded : List UInt8) :
    Command.Ends (fun _ _ => True) (fun e encoded' => encoded' = encoded ∧ e ≠ .panicked)
      (quantizeRowQ8KInto A input encoded) := by
  unfold quantizeRowQ8KInto
  refine .read_bind (.lift_bind (fun e he => ⟨rfl, ?_⟩) fun blockCount _ => ?_)
  · obtain ⟨error, -, rfl⟩ := wrap_eq_error.mp he
    simp
  · obtain ⟨written, hwritten⟩ := quantizeBlocks_run A input (List.range blockCount) encoded
    rw [hwritten]
    exact .answered () written trivial

theorem validateVecDotInner_type {weightType : GgmlType} {weights q8 : List UInt8}
    {logicalElements blockCount : Nat}
    (h : validateVecDotInner weightType weights q8 logicalElements = .ok blockCount) :
    weightType ∈ [GgmlType.q4K, .q5K, .iq2S, .iq3S] := by
  obtain ⟨_, hty, -⟩ := except_bind_ok_iff.mp h
  exact ensure_eq_ok.mp hty

/-- No accumulator overflows: not the minimum sum, the lane sums or the block sum of a scalar
product, and not the group sums of a quantised row. -/
theorem integers_stay_in_range (A : Floats) :
    (∀ weightType weights q8 logicalElements, vecDotQ8K A weightType weights q8 logicalElements ≠
      .error .panicked) ∧
    ∀ input encoded, (quantizeRowQ8KInto A input encoded).1 ≠ .error .panicked := by
  constructor
  · intro weightType weights q8 logicalElements
    unfold vecDotQ8K
    cases hvalid : validateVecDotInner weightType weights q8 logicalElements with
    | error e => simp [wrap]
    | ok blockCount =>
        obtain ⟨value, hvalue⟩ :=
          dotScalar_some A (validateVecDotInner_type hvalid) weights q8 blockCount
        rw [wrap, except_ok_bind, hvalue]
        simp [okOr]
  · intro input encoded h
    exact ((quantizeRowQ8KInto_ends A input encoded).of_error (Prod.ext h rfl)).2 rfl

end LightBridge.Quant
