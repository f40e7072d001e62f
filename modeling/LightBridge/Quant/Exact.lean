import Mathlib.Data.Rat.Cast.CharZero
import Mathlib.Tactic.Ring
import Mathlib.Tactic.NormNum
import LightBridge.Foundation.Pairing
import LightBridge.Quant.Range

/-! The kernels of packed rows over any numbers. Over the rationals a scalar product is that of
the decoded row, term by term. -/
namespace LightBridge.Quant
open Foundation Kernels
open Finset (mem_range mul_sum range sum_comm sum_congr
  sum_mul sum_range_one sum_range_succ sum_sub_distrib)

/-- The numbers that the kernels compute with: `f32`, or the rationals. -/
structure Numbers (K : Type) where
  zero : K
  one : K
  minusOne : K
  half : K
  quarter : K
  eighth : K
  add : K → K → K
  sub : K → K → K
  mul : K → K → K
  ofNat : Nat → K
  ofInt : Int → K
  ofHalf : BitVec 16 → K
  ofSingle : F32 → K

/-- The numbers of the source. -/
def Floats.numbers (A : Floats) : Numbers F32 where
  zero := .zero
  one := one
  minusOne := minusOne
  half := half
  quarter := quarter
  eighth := eighth
  add := A.add
  sub := A.sub
  mul := A.mul
  ofNat := A.ofNat
  ofInt := A.ofInt
  ofHalf := A.ofHalf
  ofSingle := id

/-- Exact numbers, with some reading of the two float formats. -/
def rationals (ofHalf : BitVec 16 → ℚ) (ofSingle : F32 → ℚ) : Numbers ℚ where
  zero := 0
  one := 1
  minusOne := -1
  half := 1 / 2
  quarter := 1 / 4
  eighth := 1 / 8
  add := (· + ·)
  sub := (· - ·)
  mul := (· * ·)
  ofNat := Nat.cast
  ofInt := Int.cast
  ofHalf := ofHalf
  ofSingle := ofSingle

namespace Numbers
variable {K : Type} (N : Numbers K)

def readF16 (bytes : List UInt8) (offset : Nat) : K := N.ofHalf (readU16 bytes offset)

/-! ### Decoding -/

def decodeScaled (quants encoded : List UInt8) : List K :=
  let d := N.readF16 encoded 0
  let dmin := N.readF16 encoded 2
  let scales := slice encoded 4 12
  (List.range 8).flatMap fun index =>
    let scale := N.mul d (N.ofNat (scaleMin scales index).1.toNat)
    let minimum := N.mul dmin (N.ofNat (scaleMin scales index).2.toNat)
    (List.range 32).map fun lane =>
      N.sub (N.mul scale (N.ofNat (byteAt quants (index * 32 + lane)).toNat)) minimum

def signOf (signs : UInt8) (lane : Nat) : K := if negated signs lane then N.minusOne else N.one

def decodeIq2S (encoded : List UInt8) : List K :=
  let d := N.readF16 encoded 0
  (List.range 8).flatMap fun group => (List.range 4).flatMap fun laneGroup =>
    let scale :=
      N.mul
        (N.mul d (N.add N.half (N.ofNat (nibble (byteAt encoded (74 + group)) (laneGroup / 2)))))
        N.quarter
    (List.range 8).map fun lane =>
      N.mul (N.mul scale (N.ofNat (gridByte iq2sGrid (iq2sIndex encoded group laneGroup) lane)))
        (N.signOf (iq2sSigns encoded group laneGroup) lane)

def decodeIq3S (encoded : List UInt8) : List K :=
  let d := N.readF16 encoded 0
  (List.range 8).flatMap fun group =>
    let scale := N.mul d (N.ofNat (1 + 2 * nibble (byteAt encoded (106 + group / 2)) (group % 2)))
    (List.range 4).flatMap fun laneGroup => (List.range 2).flatMap fun side =>
      (List.range 4).map fun lane =>
      N.mul (N.mul scale
        (N.ofNat (gridByte iq3sGrid (iq3sIndex encoded group laneGroup side) lane)))
        (N.signOf (iq3sSigns encoded group laneGroup) (side * 4 + lane))

def decodeValidatedBlock (ty : GgmlType) (encoded : List UInt8) : Except QuantError (List K) :=
  match ty with
  | .f32 => .ok [N.ofSingle (readF32 encoded 0)]
  | .q4K => .ok (N.decodeScaled (q4Quants encoded) encoded)
  | .q5K => .ok (N.decodeScaled (q5Quants encoded) encoded)
  | .iq2S => .ok (N.decodeIq2S encoded)
  | .iq3S => .ok (N.decodeIq3S encoded)
  | _ => .error (.unsupportedType ty)

/-- The loop of `decode_row_into`, with an output of its own. -/
def decodeBlocks (ty : GgmlType) (encoded : List UInt8) (blockBytes blockCount : Nat) :
    Except QuantError (List K) := do
  let blocks ← (List.range blockCount).mapM fun block =>
    N.decodeValidatedBlock ty (slice encoded (block * blockBytes) blockBytes)
  pure blocks.flatten

/-- `decode_row_into`, with an output of its own. -/
def decodeRow (ty : GgmlType) (encoded : List UInt8) (logicalElements : Nat) :
    Except QuantError (List K) := do
  let (blockElements, blockBytes) ← layout ty
  ensure (logicalElements ≠ 0) .zeroLogicalElements
  ensure (logicalElements % blockElements = 0)
    (.logicalElementsNotDivisible ty logicalElements blockElements)
  let blockCount := logicalElements / blockElements
  let expectedEncoded ← okOr (checkedMul blockCount blockBytes)
    (.arithmeticOverflow "encoded row length")
  let expectedOutput ← okOr (checkedMul blockCount blockElements)
    (.arithmeticOverflow "logical row length")
  validateLengths ty encoded.length expectedEncoded logicalElements expectedOutput
  validateScales ty encoded blockBytes (List.range blockCount)
  N.decodeBlocks ty encoded blockBytes blockCount

/-! ### Products -/

def dotScaledBlock (quants : List UInt8 → List UInt8) (blockBytes : Nat) (weights q8 : List UInt8)
    (total : List K × K) (block : Nat) : Option (List K × K) := do
  let weight := slice weights (block * blockBytes) blockBytes
  let activation := slice q8 (block * q8KBlockBytes) q8KBlockBytes
  let minimum ← minimumSum weight activation
  let lanes ← (List.range 8).mapM (laneSum (quants weight) weight activation)
  let activationScale := N.ofSingle (readF32 activation 0)
  let scale := N.mul (N.readF16 weight 0) activationScale
  let minimumScale := N.mul (N.readF16 weight 2) activationScale
  pure ((total.1.zip lanes).map fun lane => N.add lane.1 (N.mul scale (N.ofInt lane.2)),
    N.sub total.2 (N.mul minimumScale (N.ofInt minimum)))

def dotQ4OrQ5K (quants : List UInt8 → List UInt8) (blockBytes : Nat) (weights q8 : List UInt8)
    (blockCount : Nat) : Option K := do
  let (sums, sum) ← (List.range blockCount).foldlM (N.dotScaledBlock quants blockBytes weights q8)
    (List.replicate 8 N.zero, N.zero)
  pure (sums.foldl N.add sum)

def dotGrid (blockSum : List UInt8 → List UInt8 → Option Int) (blockBytes : Nat)
    (weights q8 : List UInt8) (blockCount : Nat) : Option K :=
  (List.range blockCount).foldlM (fun sum block => do
    let weight := slice weights (block * blockBytes) blockBytes
    let activation := slice q8 (block * q8KBlockBytes) q8KBlockBytes
    let scale := N.mul (N.readF16 weight 0) (N.ofSingle (readF32 activation 0))
    let blockSum ← blockSum weight activation
    pure (N.add sum (N.mul scale (N.ofInt blockSum)))) N.zero

def dotScalar (weightType : GgmlType) (weights q8 : List UInt8) (blockCount : Nat) : Option K :=
  match weightType with
  | .q4K => N.dotQ4OrQ5K q4Quants 144 weights q8 blockCount
  | .q5K => N.dotQ4OrQ5K q5Quants 176 weights q8 blockCount
  | .iq2S => (N.dotGrid iq2sBlockSum 82 weights q8 blockCount).map (N.mul N.eighth)
  | .iq3S => N.dotGrid iq3sBlockSum 110 weights q8 blockCount
  | _ => none

def vecDotQ8K (weightType : GgmlType) (weights q8 : List UInt8) (logicalElements : Nat) :
    Except (Fault QuantError) K := do
  let blockCount ← wrap Fault.error (validateVecDotInner weightType weights q8 logicalElements)
  okOr (N.dotScalar weightType weights q8 blockCount) .panicked

end Numbers

/-! ### The numbers of the source -/

theorem numbers_decodeValidatedBlock (A : Floats) :
    A.numbers.decodeValidatedBlock = decodeValidatedBlock A := by
  funext ty encoded
  cases ty <;> rfl

theorem numbers_dotScalar (A : Floats) : A.numbers.dotScalar = dotScalar A := by
  funext weightType weights q8 blockCount
  cases weightType <;> rfl

theorem numbers_vecDotQ8K (A : Floats) : A.numbers.vecDotQ8K = vecDotQ8K A := by
  funext weightType weights q8 logicalElements
  rw [Numbers.vecDotQ8K, vecDotQ8K, numbers_dotScalar]

/-- What `decode_row_into` writes. -/
theorem numbers_decodeRow {A : Floats} {ty : GgmlType} {encoded : List UInt8}
    {logicalElements : Nat} {output output' : List F32}
    (h : decodeRowInto A ty encoded logicalElements output = (.ok (), output')) :
    A.numbers.decodeRow ty encoded logicalElements = .ok output' := by
  suffices hends : Command.Ends
      (fun _ output' => A.numbers.decodeRow ty encoded logicalElements = .ok output')
      (fun _ _ => True) (decodeRowInto A ty encoded logicalElements output) from hends.of_ok h
  unfold decodeRowInto
  refine .read_bind (.lift_bind (fun _ _ => trivial) fun sizes hlayout => ?_)
  refine .lift_bind (fun _ _ => trivial) fun _ hpositive =>
    .lift_bind (fun _ _ => trivial) fun _ hdivides => ?_
  refine .lift_bind (fun _ _ => trivial) fun expectedEncoded hencoded =>
    .lift_bind (fun _ _ => trivial) fun expectedOutput houtput => ?_
  refine .lift_bind (fun _ _ => trivial) fun _ hlengths =>
    .lift_bind (fun _ _ => trivial) fun _ hscales => ?_
  obtain ⟨hty, rfl⟩ := layout_eq_ok.mp hlayout
  obtain ⟨-, rfl⟩ := checkedMul_eq_some.mp (okOr_eq_ok.mp houtput)
  have hwhole : logicalElements / ty.blockSize * ty.blockSize = logicalElements :=
    Nat.div_mul_cancel (Nat.dvd_of_mod_eq_zero (ensure_eq_ok.mp hdivides))
  obtain ⟨_, hbytes, hlength⟩ := except_bind_ok_iff.mp hlengths
  have hlengths : validateLengths ty encoded.length expectedEncoded logicalElements
      (logicalElements / ty.blockSize * ty.blockSize) = .ok () :=
    except_bind_ok_iff.mpr ⟨(), hbytes, ensure_eq_ok.mpr hwhole.symm⟩
  choose rows hrows using fun block => decodeValidatedBlock_of_layout A hlayout
    (slice encoded (block * ty.typeSize) ty.typeSize)
  have hrun : decodeBlocks A ty encoded ty.blockSize ty.typeSize
      (List.range' 0 (logicalElements / ty.blockSize)) output = _ :=
    decodeBlocks_run hrows (by rw [ensure_eq_ok.mp hlength, Nat.zero_add])
  have hblocks : A.numbers.decodeBlocks ty encoded ty.typeSize (logicalElements / ty.blockSize) =
      .ok ((List.range (logicalElements / ty.blockSize)).flatMap rows) := by
    rw [Numbers.decodeBlocks, numbers_decodeValidatedBlock,
      except_mapM_of_ok fun block _ => hrows block]
    exact congrArg Except.ok List.flatMap_def.symm
  rw [List.range_eq_range', hrun]
  refine .answered () _ ?_
  rw [Nat.zero_mul, List.take_zero, List.nil_append, ← List.range_eq_range']
  exact except_bind_ok_iff.mpr ⟨_, hlayout, except_bind_ok_iff.mpr ⟨_, hpositive,
    except_bind_ok_iff.mpr ⟨_, hdivides, except_bind_ok_iff.mpr ⟨_, hencoded,
      except_bind_ok_iff.mpr ⟨_, houtput, except_bind_ok_iff.mpr ⟨_, hlengths,
        except_bind_ok_iff.mpr ⟨_, hscales, hblocks⟩⟩⟩⟩⟩⟩⟩

/-! ### Integer sums -/

/-- The stored sums of an activation block are those of its groups. -/
def GroupSums (activation : List UInt8) : Prop :=
  ∀ group < 16, readI16 activation (260 + group * 2) =
    ∑ lane ∈ range 16, activationAt activation (group * 16 + lane)

/-- The minima meet the sums of their own 32 lanes. -/
theorem minimumSum_eq (weight : List UInt8) {activation : List UInt8} (h : GroupSums activation) :
    minimumSum weight activation = some (∑ index ∈ range 8, ∑ lane ∈ range 32,
      ((scaleMin (slice weight 4 12) index).2.toNat : Int) *
        activationAt activation (index * 32 + lane)) := by
  rw [(bounded_minimumSum weight activation).answers, sum_map_range, zero_add,
    sum_range_blocks 8 2]
  refine congrArg some (sum_congr rfl fun index hindex => ?_)
  rw [sum_range_blocks 2 16]
  refine sum_congr rfl fun side hside => ?_
  have hindex := mem_range.mp hindex
  have hside := mem_range.mp hside
  have hhalf : (index * 2 + side) / 2 = index := by omega
  rw [minimumTerm, h _ (by omega), hhalf, mul_comm, mul_sum]
  refine sum_congr rfl fun lane _ => ?_
  have hplace : (index * 2 + side) * 16 + lane = index * 32 + (side * 16 + lane) := by omega
  rw [hplace]

/-- The value of a lane sum. -/
def laneValue (quants weight activation : List UInt8) (lane : Nat) : Int :=
  ∑ index ∈ range 8, ∑ step ∈ range 4, laneTerm quants weight activation lane index step

theorem laneSum_eq (quants weight activation : List UInt8) (lane : Nat) :
    laneSum quants weight activation lane = some (laneValue quants weight activation lane) := by
  rw [(bounded_laneSum quants weight activation lane).answers, sum_map_range, zero_add]
  simp only [sum_map_range]
  rfl

/-- The lanes together go through every element once. -/
theorem sum_laneValue {quants : List UInt8} (small : ∀ i, (byteAt quants i).toNat < 128)
    (weight activation : List UInt8) :
    ∑ lane ∈ range 8, laneValue quants weight activation lane =
      ∑ index ∈ range 8, ∑ lane ∈ range 32, ((scaleMin (slice weight 4 12) index).1.toNat : Int) *
        activationAt activation (index * 32 + lane) *
        (byteAt quants (index * 32 + lane)).toNat := by
  have hquant (i : Nat) : asI8 (byteAt quants i) = (byteAt quants i).toNat :=
    BitVec.toInt_eq_toNat_of_lt (by have := small i; simpa using by omega)
  unfold laneValue
  rw [sum_comm]
  refine sum_congr rfl fun index _ => ?_
  rw [sum_comm, sum_range_blocks 4 8]
  refine sum_congr rfl fun step _ => sum_congr rfl fun lane _ => ?_
  have hplace : index * 32 + (step * 8 + lane) = index * 32 + step * 8 + lane :=
    (Nat.add_assoc _ _ _).symm
  rw [laneTerm, hquant, hplace]

theorem iq2sBlockSum_eq (weight activation : List UInt8) :
    iq2sBlockSum weight activation = some (∑ group ∈ range 8, ∑ laneGroup ∈ range 4,
      ∑ lane ∈ range 8,
        ((1 + 2 * nibble (byteAt weight (74 + group)) (laneGroup / 2) : Nat) : Int) *
          iq2sTerm weight activation group laneGroup lane) := by
  rw [(bounded_iq2sBlockSum weight activation).answers, sum_map_range, zero_add]
  refine congrArg some (sum_congr rfl fun group _ => ?_)
  have hhalf (half : Nat) (hhalf : half < 2) :
      ((1 + 2 * nibble (byteAt weight (74 + group)) half : Nat) : Int) *
          iq2sHalf weight activation group half =
        ∑ index ∈ range 2, ∑ lane ∈ range 8,
          ((1 + 2 * nibble (byteAt weight (74 + group)) ((half * 2 + index) / 2) : Nat) : Int) *
            iq2sTerm weight activation group (half * 2 + index) lane := by
    rw [iq2sHalf, zero_add, sum_map_range, mul_sum]
    refine sum_congr rfl fun index hindex => ?_
    have hindex := mem_range.mp hindex
    have hsame : (half * 2 + index) / 2 = half := by omega
    rw [sum_map_range, mul_sum, hsame]
  rw [iq2sGroup, hhalf 0 (by decide), hhalf 1 (by decide), sum_range_blocks 2 2]
  simp only [sum_range_succ _ 1, sum_range_one]

theorem iq3sBlockSum_eq (weight activation : List UInt8) :
    iq3sBlockSum weight activation = some (∑ group ∈ range 8, ∑ laneGroup ∈ range 4,
      ∑ side ∈ range 2, ∑ lane ∈ range 4,
        ((1 + 2 * nibble (byteAt weight (106 + group / 2)) (group % 2) : Nat) : Int) *
          iq3sTerm weight activation group laneGroup lane side) := by
  rw [(bounded_iq3sBlockSum weight activation).answers, sum_map_range, zero_add]
  refine congrArg some (sum_congr rfl fun group _ => ?_)
  rw [iq3sGroup, zero_add, sum_map_range, sum_mul]
  refine sum_congr rfl fun laneGroup _ => ?_
  rw [sum_map_range, sum_mul, sum_comm]
  refine sum_congr rfl fun lane _ => ?_
  rw [sum_map_range, sum_mul]
  refine sum_congr rfl fun side _ => ?_
  rw [mul_comm, Nat.add_comm (2 * _) 1]

/-! ### Blocks -/

theorem byteAt_flatMap_small {f : Nat → List UInt8} {bound : Nat}
    (h : ∀ group, ∀ byte ∈ f group, byte.toNat < bound) (hbound : 0 < bound) (n i : Nat) :
    (byteAt ((List.range n).flatMap f) i).toNat < bound := by
  rw [byteAt, List.getD_eq_getElem?_getD]
  cases hbyte : ((List.range n).flatMap f)[i]? with
  | none => exact hbound
  | some byte =>
      obtain ⟨group, -, hmem⟩ := List.mem_flatMap.mp (List.mem_of_getElem? hbyte)
      exact h group byte hmem

theorem q4Quants_small (encoded : List UInt8) (i : Nat) :
    (byteAt (q4Quants encoded) i).toNat < 128 := by
  refine byteAt_flatMap_small (fun group byte hbyte => ?_) (by decide) 4 i
  rcases List.mem_append.mp hbyte with hbyte | hbyte
  · obtain ⟨lane, -, rfl⟩ := List.mem_map.mp hbyte
    exact Nat.lt_of_le_of_lt (toNat_and_le _ 0x0f) (by decide)
  · obtain ⟨lane, -, rfl⟩ := List.mem_map.mp hbyte
    exact Nat.lt_of_le_of_lt (toNat_shiftRight_four_le _) (by decide)

theorem toNat_add_highBit_lt {low : UInt8} (h : low.toNat ≤ 15) (encoded : List UInt8) (lane : Nat)
    (mask : UInt8) : (low + highBit encoded lane mask).toNat < 128 := by
  have hbit : (highBit encoded lane mask).toNat ≤ 16 := by
    unfold highBit
    split <;> decide
  rw [UInt8.toNat_add]
  omega

theorem q5Quants_small (encoded : List UInt8) (i : Nat) :
    (byteAt (q5Quants encoded) i).toNat < 128 := by
  refine byteAt_flatMap_small (fun group byte hbyte => ?_) (by decide) 4 i
  rcases List.mem_append.mp hbyte with hbyte | hbyte
  · obtain ⟨lane, -, rfl⟩ := List.mem_map.mp hbyte
    exact toNat_add_highBit_lt (toNat_and_le _ 0x0f) _ _ _
  · obtain ⟨lane, -, rfl⟩ := List.mem_map.mp hbyte
    exact toNat_add_highBit_lt (toNat_shiftRight_four_le _) _ _ _

section Exact
variable (ofHalf : BitVec 16 → ℚ) (ofSingle : F32 → ℚ)

/-- The scale and the minima of a block leave its sum of products. -/
theorem pairing_decodeScaled {quants : List UInt8} (small : ∀ i, (byteAt quants i).toNat < 128)
    (encoded activation : List UInt8) (scale : ℚ) :
    pairing ((rationals ofHalf ofSingle).decodeScaled quants encoded)
        (fun i => scale * activationAt activation i) =
      ofHalf (readU16 encoded 0) * scale *
          ((∑ lane ∈ range 8, laneValue quants encoded activation lane : Int) : ℚ) -
        ofHalf (readU16 encoded 2) * scale *
          ((∑ index ∈ range 8, ∑ lane ∈ range 32,
            ((scaleMin (slice encoded 4 12) index).2.toNat : Int) *
              activationAt activation (index * 32 + lane) : Int) : ℚ) := by
  rw [sum_laneValue small, Numbers.decodeScaled,
    pairing_flatMap_range (n := 32) 8 fun index => by simp]
  push_cast
  rw [mul_sum, mul_sum, ← sum_sub_distrib]
  refine sum_congr rfl fun index _ => ?_
  rw [pairing_map_range, mul_sum, mul_sum, ← sum_sub_distrib]
  refine sum_congr rfl fun lane _ => ?_
  simp only [rationals, Numbers.readF16]
  ring

theorem pairing_decodeIq2S (encoded activation : List UInt8) (scale : ℚ) :
    pairing ((rationals ofHalf ofSingle).decodeIq2S encoded)
        (fun i => scale * activationAt activation i) =
      1 / 8 * (ofHalf (readU16 encoded 0) * scale *
        ((∑ group ∈ range 8, ∑ laneGroup ∈ range 4, ∑ lane ∈ range 8,
          ((1 + 2 * nibble (byteAt encoded (74 + group)) (laneGroup / 2) : Nat) : Int) *
            iq2sTerm encoded activation group laneGroup lane : Int) : ℚ)) := by
  have hgroup (f : Nat → Nat → ℚ) :
      ((List.range 4).flatMap fun laneGroup => (List.range 8).map (f laneGroup)).length = 32 := by
    simp [List.length_flatMap]
  rw [Numbers.decodeIq2S, pairing_flatMap_range (n := 32) 8 fun group => hgroup _]
  push_cast
  rw [mul_sum, mul_sum]
  refine sum_congr rfl fun group _ => ?_
  rw [pairing_flatMap_range (n := 8) 4 fun laneGroup => by simp, mul_sum, mul_sum]
  refine sum_congr rfl fun laneGroup _ => ?_
  rw [pairing_map_range, mul_sum, mul_sum]
  refine sum_congr rfl fun lane _ => ?_
  have hplace : group * 32 + (laneGroup * 8 + lane) = group * 32 + laneGroup * 8 + lane :=
    (Nat.add_assoc _ _ _).symm
  rw [iq2sTerm, signedValue, hplace]
  simp only [rationals, Numbers.readF16, Numbers.signOf]
  split <;> push_cast <;> ring

theorem pairing_decodeIq3S (encoded activation : List UInt8) (scale : ℚ) :
    pairing ((rationals ofHalf ofSingle).decodeIq3S encoded)
        (fun i => scale * activationAt activation i) =
      ofHalf (readU16 encoded 0) * scale *
        ((∑ group ∈ range 8, ∑ laneGroup ∈ range 4, ∑ side ∈ range 2, ∑ lane ∈ range 4,
          ((1 + 2 * nibble (byteAt encoded (106 + group / 2)) (group % 2) : Nat) : Int) *
            iq3sTerm encoded activation group laneGroup lane side : Int) : ℚ) := by
  have hside (f : Nat → Nat → ℚ) :
      ((List.range 2).flatMap fun side => (List.range 4).map (f side)).length = 8 := by
    simp [List.length_flatMap]
  have hgroup (f : Nat → Nat → Nat → ℚ) : ((List.range 4).flatMap fun laneGroup =>
      (List.range 2).flatMap fun side => (List.range 4).map (f laneGroup side)).length = 32 := by
    simp [List.length_flatMap]
  rw [Numbers.decodeIq3S, pairing_flatMap_range (n := 32) 8 fun group => hgroup _]
  push_cast
  rw [mul_sum]
  refine sum_congr rfl fun group _ => ?_
  rw [pairing_flatMap_range (n := 8) 4 fun laneGroup => hside _, mul_sum]
  refine sum_congr rfl fun laneGroup _ => ?_
  rw [pairing_flatMap_range (n := 4) 2 fun side => by simp, mul_sum]
  refine sum_congr rfl fun side _ => ?_
  rw [pairing_map_range, mul_sum]
  refine sum_congr rfl fun lane _ => ?_
  have hplace : group * 32 + (laneGroup * 8 + (side * 4 + lane)) =
      group * 32 + laneGroup * 8 + (side * 4 + lane) := (Nat.add_assoc _ _ _).symm
  rw [iq3sTerm, signedValue, hplace]
  simp only [rationals, Numbers.readF16, Numbers.signOf]
  split <;> push_cast <;> ring

/-! ### Rows -/

/-- The block of an activation row at a place. -/
def q8Block (q8 : List UInt8) (block : Nat) : List UInt8 :=
  slice q8 (block * q8KBlockBytes) q8KBlockBytes

/-- The number that an encoded activation stands for. -/
def activationValue (q8 : List UInt8) (i : Nat) : ℚ :=
  ofSingle (readF32 (q8Block q8 (i / 256)) 0) * activationAt (q8Block q8 (i / 256)) (i % 256)

/-- What a block adds to the product of a row. -/
def blockPairing (rows : Nat → List ℚ) (q8 : List UInt8) (block : Nat) : ℚ :=
  pairing (rows block) fun i =>
    ofSingle (readF32 (q8Block q8 block) 0) * activationAt (q8Block q8 block) i

theorem pairing_rows {rows : Nat → List ℚ} (hrows : ∀ block, (rows block).length = 256)
    (q8 : List UInt8) (blockCount : Nat) :
    pairing ((List.range blockCount).flatMap rows) (activationValue ofSingle q8) =
      ((List.range blockCount).map (blockPairing ofSingle rows q8)).sum := by
  rw [pairing_flatMap_range (n := 256) blockCount hrows, sum_map_range]
  refine sum_congr rfl fun block _ => pairing_congr fun i hi => ?_
  rw [hrows] at hi
  have hblock : (block * 256 + i) / 256 = block := by omega
  have hplace : (block * 256 + i) % 256 = i := by omega
  rw [activationValue, hblock, hplace]

theorem length_decodeScaled_rationals (quants encoded : List UInt8) :
    ((rationals ofHalf ofSingle).decodeScaled quants encoded).length = 256 := by
  simp [Numbers.decodeScaled, List.length_flatMap]

section Scaled
variable {quants : List UInt8 → List UInt8} (blockBytes : Nat) (weights q8 : List UInt8)

/-- The decoded row of a scaled type, block by block. -/
def scaledRows (quants : List UInt8 → List UInt8) (blockBytes : Nat) (weights : List UInt8)
    (block : Nat) : List ℚ :=
  (rationals ofHalf ofSingle).decodeScaled (quants (slice weights (block * blockBytes) blockBytes))
    (slice weights (block * blockBytes) blockBytes)

theorem dotScaledBlock_exact (small : ∀ weight i, (byteAt (quants weight) i).toNat < 128)
    {total : List ℚ × ℚ} (hlanes : total.1.length = 8) {block : Nat}
    (hsums : GroupSums (q8Block q8 block)) :
    ∃ next, (rationals ofHalf ofSingle).dotScaledBlock quants blockBytes weights q8 total block =
        some next ∧ next.1.length = 8 ∧ next.2 + next.1.sum = total.2 + total.1.sum +
      blockPairing ofSingle (scaledRows ofHalf ofSingle quants blockBytes weights) q8 block := by
  unfold Numbers.dotScaledBlock
  dsimp only
  rw [blockPairing, scaledRows, ← q8Block, pairing_decodeScaled ofHalf ofSingle (small _)]
  generalize slice weights (block * blockBytes) blockBytes = weight
  have hlaneSum : laneSum (quants weight) weight (q8Block q8 block) =
      fun lane => pure (laneValue (quants weight) weight (q8Block q8 block) lane) :=
    funext (laneSum_eq (quants weight) weight (q8Block q8 block))
  rw [minimumSum_eq weight hsums, hlaneSum, List.mapM_pure]
  refine ⟨_, rfl, by simp [hlanes], ?_⟩
  have hlength : total.1.length =
      ((List.range 8).map (laneValue (quants weight) weight (q8Block q8 block))).length := by
    simp [hlanes]
  dsimp only [rationals, Numbers.readF16]
  rw [sum_zip_add (fun lane : Int => _ * (lane : ℚ)) hlength, List.map_map, sum_map_range]
  push_cast
  simp only [Function.comp_apply, mul_sum]
  ring

/-- The lanes and the minima of all blocks, added up at the end. -/
theorem dotQ4OrQ5K_exact (small : ∀ weight i, (byteAt (quants weight) i).toNat < 128)
    {blockCount : Nat} (hsums : ∀ block < blockCount, GroupSums (q8Block q8 block)) :
    (rationals ofHalf ofSingle).dotQ4OrQ5K quants blockBytes weights q8 blockCount =
      some (pairing ((List.range blockCount).flatMap
        (scaledRows ofHalf ofSingle quants blockBytes weights)) (activationValue ofSingle q8)) := by
  have hstep (total : List ℚ × ℚ) (block : Nat) (hblock : block ∈ List.range blockCount)
      (hlanes : total.1.length = 8) :=
    dotScaledBlock_exact ofHalf ofSingle blockBytes weights q8 small hlanes
      (hsums block (List.mem_range.mp hblock))
  obtain ⟨total, hrun, -, hmeasure⟩ := foldlM_measure
    (I := fun total : List ℚ × ℚ => total.1.length = 8) (fun total => total.2 + total.1.sum)
    _ (List.range blockCount) hstep (b := (List.replicate 8 0, 0)) List.length_replicate
  have hlength (block : Nat) :
      (scaledRows ofHalf ofSingle quants blockBytes weights block).length = 256 :=
    length_decodeScaled_rationals ofHalf ofSingle _ _
  have hlast : (rationals ofHalf ofSingle).dotQ4OrQ5K quants blockBytes weights q8 blockCount =
      some (total.1.foldl (· + ·) total.2) :=
    Option.bind_eq_some_iff.mpr ⟨total, hrun, rfl⟩
  rw [hlast, foldl_add_eq, hmeasure, pairing_rows ofSingle hlength]
  simp

end Scaled

theorem dotGrid_exact {blockSum : List UInt8 → List UInt8 → Option Int}
    {rows : List UInt8 → List ℚ} (factor : ℚ) (hlength : ∀ weight, (rows weight).length = 256)
    (hblock : ∀ weight activation scale, ∃ sum, blockSum weight activation = some sum ∧
      pairing (rows weight) (fun i => scale * activationAt activation i) =
        factor * (ofHalf (readU16 weight 0) * scale * (sum : ℚ)))
    (blockBytes : Nat) (weights q8 : List UInt8) (blockCount : Nat) :
    ((rationals ofHalf ofSingle).dotGrid blockSum blockBytes weights q8 blockCount).map
        (factor * ·) =
      some (pairing ((List.range blockCount).flatMap fun block =>
        rows (slice weights (block * blockBytes) blockBytes)) (activationValue ofSingle q8)) := by
  obtain ⟨sum, hrun, -, hmeasure⟩ := foldlM_measure (I := fun _ => True) (factor * ·)
    (blockPairing ofSingle (fun block => rows (slice weights (block * blockBytes) blockBytes)) q8)
    (List.range blockCount)
    (f := fun sum block => do
      let weight := slice weights (block * blockBytes) blockBytes
      let activation := slice q8 (block * q8KBlockBytes) q8KBlockBytes
      let blockSum ← blockSum weight activation
      pure (sum + ofHalf (readU16 weight 0) * ofSingle (readF32 activation 0) * (blockSum : ℚ)))
    (fun sum block _ _ => by
      obtain ⟨value, hvalue, hpairing⟩ := hblock (slice weights (block * blockBytes) blockBytes)
        (q8Block q8 block) (ofSingle (readF32 (q8Block q8 block) 0))
      refine ⟨_, Option.bind_eq_some_iff.mpr ⟨value, hvalue, rfl⟩, trivial, ?_⟩
      rw [blockPairing, hpairing, q8Block]
      ring)
    (b := 0) trivial
  have hlast : (rationals ofHalf ofSingle).dotGrid blockSum blockBytes weights q8 blockCount =
      some sum := hrun
  rw [hlast, Option.map_some, pairing_rows ofSingle fun block => hlength _]
  refine congrArg some ?_
  rw [hmeasure, mul_zero, zero_add]

theorem length_decodeIq2S_rationals (encoded : List UInt8) :
    ((rationals ofHalf ofSingle).decodeIq2S encoded).length = 256 := by
  simp [Numbers.decodeIq2S, List.length_flatMap]

theorem length_decodeIq3S_rationals (encoded : List UInt8) :
    ((rationals ofHalf ofSingle).decodeIq3S encoded).length = 256 := by
  simp [Numbers.decodeIq3S, List.length_flatMap]

theorem decodeBlocks_eq {K : Type} {N : Numbers K} {ty : GgmlType} (rows : List UInt8 → List K)
    (h : ∀ encoded, N.decodeValidatedBlock ty encoded = .ok (rows encoded)) (encoded : List UInt8)
    (blockBytes blockCount : Nat) : N.decodeBlocks ty encoded blockBytes blockCount =
      .ok ((List.range blockCount).flatMap fun block =>
        rows (slice encoded (block * blockBytes) blockBytes)) := by
  rw [Numbers.decodeBlocks, except_mapM_of_ok fun block _ => h _]
  exact congrArg Except.ok List.flatMap_def.symm

/-- The types whose minima meet the stored sums. -/
def UsesGroupSums (ty : GgmlType) : Prop := ty = .q4K ∨ ty = .q5K

/-- The loops answer the product of the decoded row. -/
structure ExactDot (ty : GgmlType) (weights q8 : List UInt8) (blockCount : Nat) (row : List ℚ) :
    Prop where
  decodes : (rationals ofHalf ofSingle).decodeBlocks ty weights ty.typeSize blockCount = .ok row
  length : row.length = blockCount * 256
  dot : (rationals ofHalf ofSingle).dotScalar ty weights q8 blockCount =
    some (pairing row (activationValue ofSingle q8))

theorem exactDot {ty : GgmlType} {weights q8 : List UInt8} {blockCount : Nat}
    (rows : List UInt8 → List ℚ) (hlength : ∀ weight, (rows weight).length = 256)
    (hrows : ∀ weight, (rationals ofHalf ofSingle).decodeValidatedBlock ty weight =
      .ok (rows weight))
    (hdot : (rationals ofHalf ofSingle).dotScalar ty weights q8 blockCount =
      some (pairing ((List.range blockCount).flatMap fun block =>
        rows (slice weights (block * ty.typeSize) ty.typeSize)) (activationValue ofSingle q8))) :
    ExactDot ofHalf ofSingle ty weights q8 blockCount ((List.range blockCount).flatMap fun block =>
      rows (slice weights (block * ty.typeSize) ty.typeSize)) where
  decodes := decodeBlocks_eq rows hrows weights ty.typeSize blockCount
  length := by simp [List.length_flatMap, hlength]
  dot := hdot

/-- For all bytes: the product of the loops is the product of the decoded row. -/
theorem dotScalar_exact {ty : GgmlType} (hty : ty ∈ [GgmlType.q4K, .q5K, .iq2S, .iq3S])
    (weights q8 : List UInt8) {blockCount : Nat}
    (hsums : UsesGroupSums ty → ∀ block < blockCount, GroupSums (q8Block q8 block)) :
    ∃ row, ExactDot ofHalf ofSingle ty weights q8 blockCount row := by
  simp only [List.mem_cons, List.not_mem_nil, or_false] at hty
  rcases hty with rfl | rfl | rfl | rfl
  · exact ⟨_, exactDot ofHalf ofSingle
      (fun weight => (rationals ofHalf ofSingle).decodeScaled (q4Quants weight) weight)
      (fun _ => length_decodeScaled_rationals ofHalf ofSingle _ _) (fun _ => rfl)
      (dotQ4OrQ5K_exact ofHalf ofSingle 144 weights q8 q4Quants_small (hsums (.inl rfl)))⟩
  · exact ⟨_, exactDot ofHalf ofSingle
      (fun weight => (rationals ofHalf ofSingle).decodeScaled (q5Quants weight) weight)
      (fun _ => length_decodeScaled_rationals ofHalf ofSingle _ _) (fun _ => rfl)
      (dotQ4OrQ5K_exact ofHalf ofSingle 176 weights q8 q5Quants_small (hsums (.inr rfl)))⟩
  · exact ⟨_, exactDot ofHalf ofSingle (rationals ofHalf ofSingle).decodeIq2S
      (length_decodeIq2S_rationals ofHalf ofSingle) (fun _ => rfl)
      (dotGrid_exact ofHalf ofSingle (1 / 8) (length_decodeIq2S_rationals ofHalf ofSingle)
        (fun weight activation scale => ⟨_, iq2sBlockSum_eq weight activation,
          pairing_decodeIq2S ofHalf ofSingle weight activation scale⟩) 82 weights q8 blockCount)⟩
  · refine ⟨_, exactDot ofHalf ofSingle (rationals ofHalf ofSingle).decodeIq3S
      (length_decodeIq3S_rationals ofHalf ofSingle) (fun _ => rfl) ?_⟩
    have hexact := dotGrid_exact ofHalf ofSingle 1
      (length_decodeIq3S_rationals ofHalf ofSingle)
      (fun weight activation scale => ⟨_, iq3sBlockSum_eq weight activation, by
        rw [one_mul]
        exact pairing_decodeIq3S ofHalf ofSingle weight activation scale⟩) 110 weights q8 blockCount
    rwa [funext one_mul, Option.map_id'] at hexact

/-- A row that a product accepts is one that the decoder accepts. -/
theorem validateVecDotInner_decodes {K : Type} {N : Numbers K} {ty : GgmlType}
    {weights q8 : List UInt8} {logicalElements blockCount : Nat}
    (h : validateVecDotInner ty weights q8 logicalElements = .ok blockCount) :
    logicalElements = blockCount * 256 ∧
      N.decodeRow ty weights logicalElements =
        N.decodeBlocks ty weights ty.typeSize blockCount := by
  simp only [validateVecDotInner, validateLogicalElements, checkedBytes, except_bind_ok_iff,
    ensure_eq_ok, okOr_eq_ok] at h
  obtain ⟨_, hty, count, ⟨_, hpositive, _, hdivides, hcount⟩, sizes, hlayout, h⟩ := h
  obtain ⟨expectedWeights, hweights, _, hlength, expectedQ8, hq8, _, hq8Length, _, hscales, h⟩ := h
  obtain ⟨_, -, h⟩ := h
  obtain rfl : count = blockCount := Except.ok.inj h
  obtain rfl : logicalElements / 256 = count := Except.ok.inj hcount
  obtain ⟨-, rfl⟩ := layout_eq_ok.mp hlayout
  have hblock : ty.blockSize = 256 := by
    simp only [List.mem_cons, List.not_mem_nil, or_false] at hty
    rcases hty with rfl | rfl | rfl | rfl <;> rfl
  have hdivides : logicalElements % 256 = 0 := hdivides
  have hwhole : logicalElements / 256 * 256 = logicalElements :=
    Nat.div_mul_cancel (Nat.dvd_of_mod_eq_zero hdivides)
  have hfits : logicalElements / 256 * 256 ≤ usizeMax :=
    Nat.le_trans (Nat.mul_le_mul_left _ (by decide)) (checkedMul_eq_some.mp hq8).1
  have hlengths : validateLengths ty weights.length expectedWeights logicalElements
      (logicalElements / 256 * 256) = .ok () :=
    except_bind_ok_iff.mpr ⟨(), ensure_eq_ok.mpr hlength, ensure_eq_ok.mpr hwhole.symm⟩
  refine ⟨hwhole.symm, ?_⟩
  rw [Numbers.decodeRow, hlayout, except_ok_bind]
  dsimp only
  rw [hblock, (ensure_eq_ok (u := ())).mpr hpositive, except_ok_bind,
    (ensure_eq_ok (u := ())).mpr hdivides, except_ok_bind, okOr_eq_ok.mpr hweights, except_ok_bind,
    okOr_eq_ok.mpr (checkedMul_of_le hfits), except_ok_bind, hlengths, except_ok_bind, hscales]
  rfl

theorem vecDotQ8K_decoded {ty : GgmlType} {weights q8 : List UInt8}
    {logicalElements blockCount : Nat}
    (hvalid : validateVecDotInner ty weights q8 logicalElements = .ok blockCount)
    (hsums : UsesGroupSums ty → ∀ block < blockCount, GroupSums (q8Block q8 block)) :
    ∃ row, (rationals ofHalf ofSingle).decodeRow ty weights logicalElements = .ok row ∧
      row.length = logicalElements ∧
      (rationals ofHalf ofSingle).vecDotQ8K ty weights q8 logicalElements =
        .ok (∑ i ∈ range logicalElements, row.getD i 0 * activationValue ofSingle q8 i) := by
  obtain ⟨row, hrow⟩ :=
    dotScalar_exact ofHalf ofSingle (validateVecDotInner_type hvalid) weights q8 hsums
  obtain ⟨hwhole, hdecode⟩ :=
    validateVecDotInner_decodes (N := rationals ofHalf ofSingle) hvalid
  have hlength : row.length = logicalElements := hrow.length.trans hwhole.symm
  refine ⟨row, hdecode.trans hrow.decodes, hlength, ?_⟩
  rw [Numbers.vecDotQ8K, wrap_eq_ok.mpr hvalid, except_ok_bind, hrow.dot, pairing_eq_sum, hlength]
  rfl

/-- The product of packed rows, over exact numbers, is that of the row which the decoder answers;
the kernels of the source are the same ones over `f32`. -/
theorem vecDotQ8K_exact {ty : GgmlType} {weights q8 : List UInt8} {logicalElements blockCount : Nat}
    (hvalid : validateVecDotInner ty weights q8 logicalElements = .ok blockCount)
    (hsums : UsesGroupSums ty → ∀ block < blockCount, GroupSums (q8Block q8 block)) :
    (∀ A : Floats, A.numbers.vecDotQ8K = vecDotQ8K A) ∧
    (∀ (A : Floats) (output output' : List F32),
      decodeRowInto A ty weights logicalElements output = (.ok (), output') →
        A.numbers.decodeRow ty weights logicalElements = .ok output') ∧
    ∃ row, (rationals ofHalf ofSingle).decodeRow ty weights logicalElements = .ok row ∧
      row.length = logicalElements ∧
      (rationals ofHalf ofSingle).vecDotQ8K ty weights q8 logicalElements =
        .ok (∑ i ∈ range logicalElements, row.getD i 0 * activationValue ofSingle q8 i) :=
  ⟨numbers_vecDotQ8K, fun _ _ _ h => numbers_decodeRow h,
    vecDotQ8K_decoded ofHalf ofSingle hvalid hsums⟩

end Exact

/-- A block of ones against a block of `Q4_K`. -/
theorem vecDotQ8K_exact_ones :
    let weights := List.replicate 144 17
    let q8 := [0, 0, 128, 63] ++ List.replicate 256 1 ++ (List.replicate 16 [16, 0]).flatten
    ∃ row : List ℚ, row.length = 256 ∧
      (rationals (fun bits => bits.toNat) fun x => x.toBits.toNat).vecDotQ8K .q4K weights q8 256 =
        .ok (∑ i ∈ range 256, row.getD i 0 * activationValue (fun x => x.toBits.toNat) q8 i) := by
  intro weights q8
  have hvalid : validateVecDotInner .q4K weights q8 256 = .ok 1 := by decide +kernel
  have hsums (block : Nat) (hblock : block < 1) : GroupSums (q8Block q8 block) := by
    obtain rfl : block = 0 := by omega
    unfold GroupSums
    decide +kernel
  obtain ⟨-, -, row, -, hlength, hdot⟩ := vecDotQ8K_exact (fun bits => bits.toNat)
    (fun x => x.toBits.toNat) hvalid fun _ => hsums
  exact ⟨row, hlength, hdot⟩

end LightBridge.Quant
