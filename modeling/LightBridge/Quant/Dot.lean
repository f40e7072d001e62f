import LightBridge.Foundation.Checked
import LightBridge.Quant.Decode

/-! Activation rows in `Q8_K` and their products with packed weights. Integer arithmetic is
checked at every operation of the source, so an overflow shows as an answer that is missing. -/
namespace LightBridge.Quant
open Foundation Kernels

/-- How a call of this crate can fail: with its own error, or in an arithmetic check or an
`expect` that the source holds for impossible. -/
inductive Fault (ε : Type) where
  | error (e : ε)
  | panicked
  deriving DecidableEq, Repr

/-- `as i8`. -/
def asI8 (byte : UInt8) : Int := byte.toBitVec.toInt

def readI16 (bytes : List UInt8) (offset : Nat) : Int := (readU16 bytes offset).toInt

def mulI32 (a b : Int) : Option Int := signed 32 (a * b)

def addI32 (a b : Int) : Option Int := signed 32 (a + b)

/-- `sum += term` of an `i32`. -/
def accumulate (sum : Int) (term : Option Int) : Option Int := do
  let term ← term
  addI32 sum term

/-! ### Activation rows -/

/-- `12_582_912.0`. -/
def roundingMagic : F32 := .fromBits 0x4b400000
/-- `-127.0`. -/
def minus127 : F32 := .fromBits 0xc2fe0000
/-- `0.125`. -/
def eighth : F32 := .fromBits 0x3e000000

/-- `f32::abs`. -/
def absolute (value : F32) : F32 := ⟨value.toBits &&& 0x7fffffff⟩

def nearestInt (A : Floats) (value : F32) : Int :=
  ((A.add value roundingMagic).toBits.toNat % 2 ^ 23 : Nat) - 2 ^ 22

/-- `nearest_int(..).min(127) as i8 as u8`. -/
def quantByte (A : Floats) (value : F32) : UInt8 := ⟨BitVec.ofInt 8 (min (nearestInt A value) 127)⟩

/-- The lane of largest magnitude, and that magnitude. -/
def largest (A : Floats) (values : List F32) : F32 × F32 :=
  values.foldl (fun found value => if A.lt found.2 (absolute value) then (value, absolute value)
    else found)
    (F32.zero, F32.zero)

/-- The sum of sixteen lanes and its `i16::try_from(sum).expect(..)`. -/
def groupSum (quants : List UInt8) (group : Nat) : Option Int := do
  let sum ← (List.range 16).foldlM
    (fun sum lane => addI32 sum (asI8 (byteAt quants (group * 16 + lane)))) 0
  signed 16 sum

/-- The bytes of one block of activations. -/
def quantizeBlock (A : Floats) (values : List F32) : Option (List UInt8) :=
  if A.eq (largest A values).2 .zero then some (List.replicate q8KBlockBytes 0)
  else do
    let inverseScale := A.div minus127 (largest A values).1
    let quants := values.map fun value => quantByte A (A.mul inverseScale value)
    let sums ← (List.range 16).mapM (groupSum quants)
    pure (leBytes 4 (A.div one inverseScale).toBits.toNat ++ quants ++
      sums.flatMap fun sum => leBytes 2 (BitVec.ofInt 16 sum).toNat)

def validateLogicalElements (ty : GgmlType) (logicalElements : Nat) : Except QuantError Nat := do
  ensure (logicalElements ≠ 0) .zeroLogicalElements
  ensure (logicalElements % q8KBlockElements = 0)
    (.logicalElementsNotDivisible ty logicalElements q8KBlockElements)
  pure (logicalElements / q8KBlockElements)

def checkedBytes (blockCount blockBytes : Nat) (operation : String) : Except QuantError Nat :=
  okOr (checkedMul blockCount blockBytes) (.arithmeticOverflow operation)

def validateActivations : Nat → List F32 → Except QuantError Unit
  | _, [] => .ok ()
  | index, value :: values => do
      ensure value.isFinite (.nonFiniteActivation index value.toBits)
      validateActivations (index + 1) values

/-- The checks of `quantize_row_q8_k_into`; they answer the number of blocks. -/
def checkQuantize (input : List F32) (encodedLength : Nat) : Except QuantError Nat := do
  let blockCount ← validateLogicalElements .q8K input.length
  let expected ← checkedBytes blockCount q8KBlockBytes "Q8_K encoded row length"
  ensure (encodedLength = expected) (.encodedLengthMismatch .q8K expected encodedLength)
  validateActivations 0 input
  pure blockCount

def quantizeBlocks (A : Floats) (input : List F32) : List Nat → Command (List UInt8)
    (Fault QuantError) Unit
  | [] => pure ()
  | block :: blocks => do
      let bytes ← Command.lift
        (okOr (quantizeBlock A (slice input (block * q8KBlockElements) q8KBlockElements)) .panicked)
      Command.update fun encoded => overwrite encoded (block * q8KBlockBytes) bytes
      quantizeBlocks A input blocks

def quantizeRowQ8KInto (A : Floats) (input : List F32) : Command (List UInt8)
    (Fault QuantError) Unit := do
  let encoded ← Command.read
  let blockCount ← Command.lift (wrap Fault.error (checkQuantize input encoded.length))
  quantizeBlocks A input (List.range blockCount)

/-! ### Products -/

def validateQ8Scales (encoded : List UInt8) : List Nat → Except QuantError Unit
  | [] => .ok ()
  | block :: blocks => do
      let scale := readF32 encoded (block * q8KBlockBytes)
      ensure scale.isFinite (.nonFiniteQ8Scale block scale.toBits)
      validateQ8Scales encoded blocks

def validateVecDotInner (weightType : GgmlType) (weights q8 : List UInt8) (logicalElements : Nat) :
    Except QuantError Nat := do
  ensure (weightType ∈ [GgmlType.q4K, .q5K, .iq2S, .iq3S]) (.unsupportedType weightType)
  let blockCount ← validateLogicalElements weightType logicalElements
  let (_, blockBytes) ← layout weightType
  let expectedWeights ← checkedBytes blockCount blockBytes "packed dot weight row length"
  ensure (weights.length = expectedWeights)
    (.encodedLengthMismatch weightType expectedWeights weights.length)
  let expectedQ8 ← checkedBytes blockCount q8KBlockBytes "packed dot Q8_K row length"
  ensure (q8.length = expectedQ8) (.encodedLengthMismatch .q8K expectedQ8 q8.length)
  validateScales weightType weights blockBytes (List.range blockCount)
  validateQ8Scales q8 (List.range blockCount)
  pure blockCount

/-- The activation of a lane of a block. -/
def activationAt (activation : List UInt8) (lane : Nat) : Int := asI8 (byteAt activation (4 + lane))

def minimumSum (weight activation : List UInt8) : Option Int :=
  (List.range 16).foldlM (fun sum group => accumulate sum
    (mulI32 (readI16 activation (260 + group * 2))
      (scaleMin (slice weight 4 12) (group / 2)).2.toNat)) 0

/-- One of the eight lane sums of `dot_q4_or_q5_k`: four elements for each scale. -/
def laneSum (quants weight activation : List UInt8) (lane : Nat) : Option Int :=
  (List.range 8).foldlM (fun sum index => (List.range 4).foldlM (fun sum step => accumulate sum do
    let scaled ← mulI32 (scaleMin (slice weight 4 12) index).1.toNat
      (activationAt activation (index * 32 + step * 8 + lane))
    mulI32 scaled (asI8 (byteAt quants (index * 32 + step * 8 + lane)))) sum) 0

/-- One block of `dot_q4_or_q5_k`, on the lane sums and the sum. -/
def dotScaledBlock (A : Floats) (quants : List UInt8 → List UInt8) (blockBytes : Nat)
    (weights q8 : List UInt8)
    (total : List F32 × F32) (block : Nat) : Option (List F32 × F32) := do
  let weight := slice weights (block * blockBytes) blockBytes
  let activation := slice q8 (block * q8KBlockBytes) q8KBlockBytes
  let minimum ← minimumSum weight activation
  let lanes ← (List.range 8).mapM (laneSum (quants weight) weight activation)
  let activationScale := readF32 activation 0
  let scale := A.mul (readF16 A weight 0) activationScale
  let minimumScale := A.mul (readF16 A weight 2) activationScale
  pure ((total.1.zip lanes).map fun lane => A.add lane.1 (A.mul scale (A.ofInt lane.2)),
    A.sub total.2 (A.mul minimumScale (A.ofInt minimum)))

def dotQ4OrQ5K (A : Floats) (quants : List UInt8 → List UInt8) (blockBytes : Nat)
    (weights q8 : List UInt8)
    (blockCount : Nat) : Option F32 := do
  let (sums, sum) ← (List.range blockCount).foldlM (dotScaledBlock A quants blockBytes weights q8)
    (List.replicate 8 F32.zero, F32.zero)
  pure (sums.foldl A.add sum)

/-- A signed codebook value times the activation of its lane. -/
def signedTerm (activation grid : Int) (negative : Bool) : Option Int := do
  let product ← mulI32 activation grid
  mulI32 product (if negative then -1 else 1)

/-- `sums[half]` of a group of `dot_iq2_s`. -/
def iq2sHalfSum (weight activation : List UInt8) (group half : Nat) : Option Int :=
  (List.range 2).foldlM (fun sum index => (List.range 8).foldlM (fun sum lane => accumulate sum
    (signedTerm (activationAt activation (group * 32 + (half * 2 + index) * 8 + lane))
      (gridByte iq2sGrid (iq2sIndex weight group (half * 2 + index)) lane)
      (negated (iq2sSigns weight group (half * 2 + index)) lane))) sum) 0

def iq2sBlockSum (weight activation : List UInt8) : Option Int :=
  (List.range 8).foldlM (fun sum group => do
    let packedScale := byteAt weight (74 + group)
    let sum1 ← iq2sHalfSum weight activation group 0
    let sum2 ← iq2sHalfSum weight activation group 1
    accumulate sum do
      let first ← mulI32 (1 + 2 * nibble packedScale 0 : Nat) sum1
      let second ← mulI32 (1 + 2 * nibble packedScale 1 : Nat) sum2
      addI32 first second) 0

def iq3sGroupSum (weight activation : List UInt8) (group : Nat) : Option Int :=
  (List.range 4).foldlM (fun sum laneGroup =>
    (List.range 4).foldlM (fun sum lane => (List.range 2).foldlM (fun sum side =>
    accumulate sum
      (signedTerm (activationAt activation (group * 32 + laneGroup * 8 + (side * 4 + lane)))
      (gridByte iq3sGrid (iq3sIndex weight group laneGroup side) lane)
      (negated (iq3sSigns weight group laneGroup) (side * 4 + lane)))) sum) sum) 0

def iq3sBlockSum (weight activation : List UInt8) : Option Int :=
  (List.range 8).foldlM (fun sum group => do
    let groupSum ← iq3sGroupSum weight activation group
    accumulate sum
      (mulI32 groupSum (2 * nibble (byteAt weight (106 + group / 2)) (group % 2) + 1 : Nat))) 0

/-- The block loop of `dot_iq2_s` and `dot_iq3_s`. -/
def dotGrid (A : Floats) (blockSum : List UInt8 → List UInt8 → Option Int) (blockBytes : Nat)
    (weights q8 : List UInt8)
    (blockCount : Nat) : Option F32 :=
  (List.range blockCount).foldlM (fun sum block => do
    let weight := slice weights (block * blockBytes) blockBytes
    let activation := slice q8 (block * q8KBlockBytes) q8KBlockBytes
    let scale := A.mul (readF16 A weight 0) (readF32 activation 0)
    let blockSum ← blockSum weight activation
    pure (A.add sum (A.mul scale (A.ofInt blockSum)))) F32.zero

def dotIq2S (A : Floats) (weights q8 : List UInt8) (blockCount : Nat) : Option F32 :=
  (dotGrid A iq2sBlockSum 82 weights q8 blockCount).map (A.mul eighth)

def dotIq3S (A : Floats) (weights q8 : List UInt8) (blockCount : Nat) : Option F32 :=
  dotGrid A iq3sBlockSum 110 weights q8 blockCount

/-- `dot_scalar`; its last branch is the `unreachable!` of the source. -/
def dotScalar (A : Floats) (weightType : GgmlType) (weights q8 : List UInt8) (blockCount : Nat) :
    Option F32 :=
  match weightType with
  | .q4K => dotQ4OrQ5K A q4Quants 144 weights q8 blockCount
  | .q5K => dotQ4OrQ5K A q5Quants 176 weights q8 blockCount
  | .iq2S => dotIq2S A weights q8 blockCount
  | .iq3S => dotIq3S A weights q8 blockCount
  | _ => none

def vecDotQ8K (A : Floats) (weightType : GgmlType) (weights q8 : List UInt8)
    (logicalElements : Nat) :
    Except (Fault QuantError) F32 := do
  let blockCount ← wrap Fault.error (validateVecDotInner weightType weights q8 logicalElements)
  okOr (dotScalar A weightType weights q8 blockCount) .panicked

end LightBridge.Quant
