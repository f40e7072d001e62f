import LightBridge.Core.GgmlType
import LightBridge.Kv.Cache

/-! What the reference kernels share: their errors, their checks, and the `f32` and
quantisation primitives they are built from. -/
namespace LightBridge.Kernels
open Foundation

/-- `QuantError`. -/
inductive QuantError where
  | unsupportedType (ty : GgmlType)
  | zeroLogicalElements
  | logicalElementsNotDivisible (ty : GgmlType) (logicalElements blockElements : Nat)
  | arithmeticOverflow (operation : String)
  | integerConversionOverflow (field : String) (value : Nat)
  | encodedLengthMismatch (ty : GgmlType) (expected actual : Nat)
  | outputLengthMismatch (ty : GgmlType) (expected actual : Nat)
  | nonFiniteScale (ty : GgmlType) (blockIndex : Nat) (field : String) (bits : BitVec 16)
  | nonFiniteActivation (index : Nat) (bits : BitVec 32)
  | nonFiniteQ8Scale (blockIndex : Nat) (bits : BitVec 32)
  deriving DecidableEq, Repr

/-- `KernelError`. -/
inductive KernelError where
  | bigEndianPayload
  | tensorRank (expected actual : Nat)
  | zeroDimension (dimension : Nat)
  | shapeRankTooLarge (maximum actual : Nat)
  | unsupportedType (ty : GgmlType)
  | arithmeticOverflow (operation : String)
  | encodedLengthMismatch (expected actual : Nat)
  | dimensionMismatch (field : String) (expected actual : Nat)
  | scratchTooSmall (field : String) (required actual : Nat)
  | nonFiniteValue (field : String) (index : Nat) (bits : BitVec 32)
  | routedExpertOrder (previous current : Nat)
  | duplicateRoutedExpert (expertId : Nat)
  | invalidParameter (field reason : String)
  | allocationFailed (context : String) (requested : Nat)
  | routing (error : String)
  | positionOutOfRange (position contextLength : Nat)
  | quant (error : QuantError)
  | kv (error : Kv.KvError)
  deriving DecidableEq, Repr

inductive ReferenceExecutionMode where
  | dequantF32
  | llamaQ8K
  | cpuParallelQ8K
  deriving DecidableEq, Repr

/-- The `f32` operations of the kernels, each a fixed function of bit patterns. -/
structure Arithmetic where
  add : F32 → F32 → F32
  sub : F32 → F32 → F32
  mul : F32 → F32 → F32
  div : F32 → F32 → F32
  neg : F32 → F32
  sqrt : F32 → F32
  exp : F32 → F32
  ln : F32 → F32
  cos : F32 → F32
  sin : F32 → F32
  floor : F32 → F32
  ceil : F32 → F32
  powf : F32 → F32 → F32
  max : F32 → F32 → F32
  min : F32 → F32 → F32
  ofNat : Nat → F32
  lt : F32 → F32 → Bool
  le : F32 → F32 → Bool
  eq : F32 → F32 → Bool

/-- The primitives of `bridge-quant-layout`: block decoding, activation rows, and the dot
product behind its validation, which the AVX2 path shares. -/
structure Quantization where
  decodeBlock : GgmlType → List UInt8 → Except QuantError (List F32)
  decodeBlock_length : ∀ ty encoded values, decodeBlock ty encoded = .ok values →
    values.length = ty.blockSize
  quantizeRow : List F32 → Except QuantError (List UInt8)
  validateDot : GgmlType → List UInt8 → List UInt8 → Nat → Except QuantError Unit
  dotScalar : GgmlType → List UInt8 → List UInt8 → Nat → F32
  dotCpu : GgmlType → List UInt8 → List UInt8 → Nat → F32

/-- The primitives of one host. -/
structure Numerics extends Arithmetic, Quantization

/-- A host whose every product is zero. -/
def zeroNumerics : Numerics where
  add _ _ := .zero
  sub _ _ := .zero
  mul _ _ := .zero
  div _ _ := .zero
  neg _ := .zero
  sqrt _ := .zero
  exp _ := .zero
  ln _ := .zero
  cos _ := .zero
  sin _ := .zero
  floor _ := .zero
  ceil _ := .zero
  powf _ _ := .zero
  max _ _ := .zero
  min _ _ := .zero
  ofNat _ := .zero
  lt _ _ := false
  le _ _ := false
  eq _ _ := true
  decodeBlock ty _ := .ok (List.replicate ty.blockSize .zero)
  decodeBlock_length ty encoded values h := by cases h; exact List.length_replicate
  quantizeRow _ := .ok []
  validateDot _ _ _ _ := .ok ()
  dotScalar _ _ _ _ := .zero
  dotCpu _ _ _ _ := .zero

/-- `1.0_f32`. -/
def one : F32 := .fromBits 0x3f800000

def requireEqual (field : String) (expected actual : Nat) : Except KernelError Unit :=
  ensure (expected = actual) (.dimensionMismatch field expected actual)

def checkedProduct (left right : Nat) (operation : String) : Except KernelError Nat :=
  okOr (checkedMul left right) (.arithmeticOverflow operation)

def validateFiniteValue (field : String) (index : Nat) (value : F32) : Except KernelError Unit :=
  ensure value.isFinite (.nonFiniteValue field index value.toBits)

/-- `for (index, value) in values.enumerate() { validate_finite_value(field, index, value)?; }`. -/
def validateFiniteFrom (field : String) : Nat → List F32 → Except KernelError Unit
  | _, [] => .ok ()
  | index, value :: values => do
      validateFiniteValue field index value
      validateFiniteFrom field (index + 1) values

def validateFiniteSlice (field : String) (values : List F32) : Except KernelError Unit :=
  validateFiniteFrom field 0 values

theorem validateFiniteFrom_eq_ok {field : String} {index : Nat} {values : List F32} {u : Unit} :
    validateFiniteFrom field index values = .ok u ↔ ∀ value ∈ values, value.isFinite = true := by
  induction values generalizing index with
  | nil => exact ⟨fun _ => by simp, fun _ => rfl⟩
  | cons value values ih =>
      simp only [validateFiniteFrom, validateFiniteValue, except_bind_ok_iff, ensure_eq_ok, ih,
        List.forall_mem_cons]
      constructor
      · rintro ⟨_, hvalue, hvalues⟩
        exact ⟨hvalue, hvalues⟩
      · rintro ⟨hvalue, hvalues⟩
        exact ⟨(), hvalue, hvalues⟩

theorem validateFiniteSlice_eq_ok {field : String} {values : List F32} {u : Unit} :
    validateFiniteSlice field values = .ok u ↔ ∀ value ∈ values, value.isFinite = true :=
  validateFiniteFrom_eq_ok

end LightBridge.Kernels
