import LightBridge.Foundation.Lanes
import LightBridge.Kernels.Buffers
import LightBridge.Quant.Exact

/-! Rows of activations as they are quantised: every block is that of its own elements, and its
stored sums are those of its groups. -/
namespace LightBridge.Quant
open Foundation Kernels
open Finset (mem_range range sum_congr sum_const_zero)

theorem readI16_of_slice {bytes : List UInt8} {offset : Nat} {n : Int} (hn : n.natAbs < 2 ^ 15)
    (h : slice bytes offset 2 = leBytes 2 (BitVec.ofInt 16 n).toNat) :
    readI16 bytes offset = n := by
  rw [readI16, readU16, h, ofLeBytes_leBytes (BitVec.ofInt 16 n).isLt, BitVec.ofNat_toNat,
    BitVec.setWidth_eq, BitVec.toInt_ofInt]
  exact bmod_of_natAbs_lt (w := 16) hn (by decide)

/-! ### One block -/

def groupValue (quants : List UInt8) (group : Nat) : Int :=
  ∑ lane ∈ range 16, asI8 (byteAt quants (group * 16 + lane))

theorem groupSum_eq (quants : List UInt8) :
    groupSum quants = fun group => pure (groupValue quants group) := by
  funext group
  rw [(bounded_groupSum quants group).answers, sum_map_range, zero_add]
  rfl

theorem groupValue_small (quants : List UInt8) (group : Nat) :
    (groupValue quants group).natAbs < 2 ^ 15 := by
  have h := (bounded_groupSum quants group).le
  rw [sum_map_range, zero_add] at h
  exact Nat.lt_of_le_of_lt h (by decide)

/-- The bytes of a block in their three fields. -/
def blockBytes (scale : Nat) (quants : List UInt8) : List UInt8 :=
  leBytes 4 scale ++ quants ++
    (List.range 16).flatMap fun group => leBytes 2 (BitVec.ofInt 16 (groupValue quants group)).toNat

theorem length_blockBytes {scale : Nat} {quants : List UInt8} (h : quants.length = 256) :
    (blockBytes scale quants).length = q8KBlockBytes := by
  simp [blockBytes, h, q8KBlockBytes, List.length_flatMap]

theorem activationAt_blockBytes {scale : Nat} {quants : List UInt8} {lane : Nat}
    (h : lane < quants.length) :
    activationAt (blockBytes scale quants) lane = asI8 (byteAt quants lane) := by
  have hfront : (leBytes 4 scale).length = 4 := length_leBytes 4 scale
  rw [activationAt, byteAt, byteAt, List.getD_eq_getElem?_getD, List.getD_eq_getElem?_getD,
    blockBytes, List.append_assoc, List.getElem?_append_right (by omega), hfront,
    Nat.add_sub_cancel_left, List.getElem?_append_left h]

theorem groupSums_blockBytes {scale : Nat} {quants : List UInt8} (h : quants.length = 256) :
    GroupSums (blockBytes scale quants) := by
  intro group hgroup
  have hsum : slice (blockBytes scale quants) (260 + group * 2) 2 =
      leBytes 2 (BitVec.ofInt 16 (groupValue quants group)).toNat := by
    have hfront : (leBytes 4 scale ++ quants).length = 260 := by simp [h]
    have hfield : slice ((List.range 16).map fun group =>
        leBytes 2 (BitVec.ofInt 16 (groupValue quants group)).toNat).flatten (group * 2) 2 = _ :=
      slice_flatten (by simp) (by simpa using hgroup)
    rw [blockBytes, ← slice_drop, ← hfront, List.drop_left, List.flatMap_def, hfield]
    simp
  rw [readI16_of_slice (groupValue_small quants group) hsum]
  refine sum_congr rfl fun lane hlane => ?_
  have hlane := mem_range.mp hlane
  rw [activationAt_blockBytes (by omega)]

theorem groupSums_zeros : GroupSums (List.replicate q8KBlockBytes 0) := by
  intro group hgroup
  have hzeros : slice (List.replicate q8KBlockBytes (0 : UInt8)) (260 + group * 2) 2 =
      leBytes 2 (BitVec.ofInt 16 0).toNat := by
    have hroom : min 2 (292 - (260 + group * 2)) = 2 := by omega
    rw [slice, q8KBlockBytes, List.drop_replicate, List.take_replicate, hroom]
    rfl
  have hlane (lane : Nat) : activationAt (List.replicate q8KBlockBytes 0) lane = 0 := by
    rw [activationAt, byteAt, List.getD_eq_getElem?_getD, List.getElem?_replicate]
    split <;> rfl
  rw [readI16_of_slice (by decide) hzeros]
  simp only [hlane, sum_const_zero]

theorem quantizeBlock_groupSums {A : Floats} {values : List F32} {bytes : List UInt8}
    (hlength : values.length = 256) (h : quantizeBlock A values = some bytes) :
    GroupSums bytes ∧ bytes.length = q8KBlockBytes := by
  unfold quantizeBlock at h
  split at h
  · cases h
    exact ⟨groupSums_zeros, List.length_replicate⟩
  · dsimp only at h
    rw [groupSum_eq, List.mapM_pure] at h
    obtain rfl := Option.some.inj h
    rw [List.flatMap_map]
    have hquants : (values.map fun value =>
        quantByte A (A.mul (A.div minus127 (largest A values).1) value)).length = 256 := by
      rw [List.length_map, hlength]
    exact ⟨groupSums_blockBytes hquants, length_blockBytes hquants⟩

/-! ### Rows -/

/-- The block loop writes block after block. -/
theorem quantizeBlocks_writes {A : Floats} {input : List F32} {blocks : Nat → List UInt8}
    {start count : Nat} {encoded : List UInt8}
    (hblocks : ∀ block < start + count, quantizeBlock A
      (slice input (block * q8KBlockElements) q8KBlockElements) = some (blocks block))
    (hsize : ∀ block < start + count, (blocks block).length = q8KBlockBytes)
    (hlength : encoded.length = (start + count) * q8KBlockBytes) :
    quantizeBlocks A input (List.range' start count) encoded =
      (.ok (), encoded.take (start * q8KBlockBytes) ++
        (List.range' start count).flatMap blocks) := by
  induction count generalizing start encoded with
  | zero =>
      rw [Nat.add_zero] at hlength
      rw [List.range'_zero, quantizeBlocks, Command.pure_run, List.flatMap_nil, List.append_nil,
        ← hlength, List.take_length]
  | succ count ih =>
      have hwidth : (blocks start).length = q8KBlockBytes := hsize start (by omega)
      have hroom : start * q8KBlockBytes + (blocks start).length ≤ encoded.length := by
        rw [hlength, hwidth]
        exact row_end_le (by omega)
      have hsame : start + 1 + count = start + (count + 1) := by omega
      rw [List.range'_succ, quantizeBlocks, hblocks start (by omega), okOr,
        Command.bind_of_ok (Command.lift_run _ _), Command.bind_of_ok (Command.update_run _ _), ih]
      · have htake : (overwrite encoded (start * q8KBlockBytes) (blocks start)).take
            ((start + 1) * q8KBlockBytes) =
            encoded.take (start * q8KBlockBytes) ++ blocks start := by
          apply List.take_left'
          rw [List.length_append, List.length_take, hwidth, Nat.succ_mul]
          omega
        rw [htake, List.flatMap_cons, List.append_assoc]
      · exact fun block hblock => hblocks block (by omega)
      · exact fun block hblock => hsize block (by omega)
      · rw [length_overwrite hroom, hlength, hsame]

/-- A row that `quantize_row_q8_k_into` wrote. -/
structure QuantizedRow (A : Floats) (input : List F32) (q8 : List UInt8) : Prop where
  length : q8.length = input.length / q8KBlockElements * q8KBlockBytes
  blocks : ∀ block < input.length / q8KBlockElements, quantizeBlock A
    (slice input (block * q8KBlockElements) q8KBlockElements) = some (q8Block q8 block)
  groupSums : ∀ block < input.length / q8KBlockElements, GroupSums (q8Block q8 block)

theorem quantizeRowQ8KInto_row {A : Floats} {input : List F32} {encoded q8 : List UInt8}
    (h : quantizeRowQ8KInto A input encoded = (.ok (), q8)) : QuantizedRow A input q8 := by
  suffices hends : Command.Ends (fun _ q8 => QuantizedRow A input q8) (fun _ _ => True)
      (quantizeRowQ8KInto A input encoded) from hends.of_ok h
  unfold quantizeRowQ8KInto
  refine .read_bind (.lift_bind (fun _ _ => trivial) fun blockCount hcheck => ?_)
  have hcheck := wrap_eq_ok.mp hcheck
  simp only [checkQuantize, validateLogicalElements, checkedBytes, except_bind_ok_iff,
    ensure_eq_ok, okOr_eq_ok] at hcheck
  obtain ⟨count, ⟨_, -, _, hdivides, hcount⟩, expected, hexpected, _, hlength, _, -, hok⟩ := hcheck
  obtain rfl : count = blockCount := Except.ok.inj hok
  obtain rfl : input.length / q8KBlockElements = count := Except.ok.inj hcount
  obtain ⟨-, rfl⟩ := checkedMul_eq_some.mp hexpected
  choose blocks hblocks using fun block =>
    quantizeBlock_some A (slice input (block * q8KBlockElements) q8KBlockElements)
  have hwhole : input.length / q8KBlockElements * q8KBlockElements = input.length :=
    Nat.div_mul_cancel (Nat.dvd_of_mod_eq_zero hdivides)
  have hblock (block : Nat) (h : block < input.length / q8KBlockElements) :
      GroupSums (blocks block) ∧ (blocks block).length = q8KBlockBytes := by
    refine quantizeBlock_groupSums (length_slice ?_) (hblocks block)
    calc block * q8KBlockElements + q8KBlockElements
        ≤ input.length / q8KBlockElements * q8KBlockElements := row_end_le h
      _ = input.length := hwhole
  have hrun :
      quantizeBlocks A input (List.range' 0 (input.length / q8KBlockElements)) encoded = _ :=
    quantizeBlocks_writes (fun block _ => hblocks block)
      (fun block h => (hblock block (by omega)).2) (by rw [hlength, Nat.zero_add])
  rw [List.range_eq_range', hrun]
  refine .answered () _ ?_
  rw [Nat.zero_mul, List.take_zero, List.nil_append, ← List.range_eq_range', List.flatMap_def]
  have hrows : ∀ row ∈ (List.range (input.length / q8KBlockElements)).map blocks,
      row.length = q8KBlockBytes := by
    intro row hrow
    obtain ⟨block, hmem, rfl⟩ := List.mem_map.mp hrow
    exact (hblock block (List.mem_range.mp hmem)).2
  have hq8 (block : Nat) (h : block < input.length / q8KBlockElements) :
      q8Block ((List.range (input.length / q8KBlockElements)).map blocks).flatten block =
        blocks block := by
    rw [q8Block, slice_flatten hrows (by simpa using h)]
    simp
  refine ⟨?_, fun block h => (hq8 block h).symm ▸ hblocks block,
    fun block h => (hq8 block h).symm ▸ (hblock block h).1⟩
  rw [length_flatten_of_forall hrows, List.length_map, List.length_range]

/-- A row that is quantised and then multiplied over exact numbers: the elements of its blocks,
times the decoded weights. -/
theorem quantized_product_exact (ofHalf : BitVec 16 → ℚ) (ofSingle : F32 → ℚ) {A : Floats}
    {input : List F32} {encoded q8 : List UInt8}
    (h : quantizeRowQ8KInto A input encoded = (.ok (), q8)) :
    QuantizedRow A input q8 ∧
    ∀ ty weights blockCount,
      validateVecDotInner ty weights q8 input.length = .ok blockCount →
      ∃ row, (rationals ofHalf ofSingle).decodeRow ty weights input.length = .ok row ∧
        row.length = input.length ∧
        (rationals ofHalf ofSingle).vecDotQ8K ty weights q8 input.length =
          .ok (∑ i ∈ range input.length, row.getD i 0 * activationValue ofSingle q8 i) := by
  have hrow := quantizeRowQ8KInto_row h
  refine ⟨hrow, fun ty weights blockCount hvalid => ?_⟩
  obtain ⟨hwhole, -⟩ := validateVecDotInner_decodes (N := rationals ofHalf ofSingle) hvalid
  have hcount : input.length / q8KBlockElements = blockCount := by
    rw [hwhole]
    exact Nat.mul_div_cancel blockCount (by decide)
  exact vecDotQ8K_decoded ofHalf ofSingle hvalid fun _ block hblock =>
    hrow.groupSums block (hcount ▸ hblock)

/-- A host whose results are right for the row below: `-127 / 127`, `1 / -1`, products with `-1`,
and sums with the rounding constant. -/
def negatingFloats : Floats := { zeroFloats with
  div := fun _ _ => minusOne
  mul := fun _ x => ⟨x.toBits ^^^ 0x80000000⟩
  add := fun x _ =>
    if x = minus127 then .fromBits 0x4b3fff81
    else if x = minusOne then .fromBits 0x4b3fffff
    else roundingMagic
  lt := fun x y => decide (x.toBits < y.toBits)
  eq := fun x y => decide (x = y) }

/-- The activations `127`, `1` and zeros. -/
def twoActivations : List F32 := .fromBits 0x42fe0000 :: one :: List.replicate 254 .zero

def quantizedTwo : List UInt8 :=
  [0, 0, 128, 191] ++ 129 :: 255 :: List.replicate 254 0 ++ 128 :: 255 :: List.replicate 30 0

/-- Weights whose two scales are `1.0`, and whose elements begin with `3 - 1`. -/
def packedWeights : List UInt8 := [0, 60, 0, 60] ++ List.replicate 12 1 ++ List.replicate 128 83

/-- The halves and singles that occur. -/
def halfOf (bits : BitVec 16) : ℚ := if bits = 0x3c00 then 1 else 0

def singleOf (x : F32) : ℚ := if x = minusOne then -1 else 0

/-- The row is quantised, and multiplied with its weights. -/
theorem quantized_product_exact_two :
    QuantizedRow negatingFloats twoActivations quantizedTwo ∧
    ∃ row, (rationals halfOf singleOf).decodeRow .q4K packedWeights 256 = .ok row ∧
      (rationals halfOf singleOf).vecDotQ8K .q4K packedWeights quantizedTwo 256 =
        .ok (∑ i ∈ range 256, row.getD i 0 * activationValue singleOf quantizedTwo i) := by
  have hrun : quantizeRowQ8KInto negatingFloats twoActivations (List.replicate 292 1) =
      (.ok (), quantizedTwo) := by decide +kernel
  have hvalid : validateVecDotInner .q4K packedWeights quantizedTwo 256 = .ok 1 := by
    decide +kernel
  have hlength : twoActivations.length = 256 := by decide +kernel
  obtain ⟨hrow, hdots⟩ := quantized_product_exact halfOf singleOf hrun
  rw [hlength] at hdots
  obtain ⟨row, hdecoded, -, hdot⟩ := hdots .q4K packedWeights 1 hvalid
  exact ⟨hrow, row, hdecoded, hdot⟩

end LightBridge.Quant
