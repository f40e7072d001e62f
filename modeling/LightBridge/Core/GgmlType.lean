import LightBridge.Host

/-! The type descriptors of `bridge-core`. -/
namespace LightBridge
open Foundation

/-- `GgmlType`. -/
inductive GgmlType where
  | f32 | f16 | q4_0 | q4_1 | q5_0 | q5_1 | q8_0 | q8_1
  | q2K | q3K | q4K | q5K | q6K | q8K
  | iq2XXS | iq2XS | iq3XXS | iq1S | iq4NL | iq3S | iq2S | iq4XS
  | i8 | i16 | i32 | i64 | f64 | iq1M | bf16 | tq1_0 | tq2_0 | mxfp4 | nvfp4 | q1_0 | q2_0
  deriving DecidableEq, Repr

/-- The `CoreError`s of type and tensor descriptors. -/
inductive CoreError where
  | unknownGgmlType (value : Nat)
  | notBlockAligned (ty : GgmlType) (ne block : Nat)
  | invalidTensorRank (rank : Nat)
  | zeroTensorDimension (dimension : Nat)
  | arithmeticOverflow (operation : String)
  | tensorOutOfBounds (start stop fileLen : Nat)
  deriving DecidableEq, Repr

namespace GgmlType

/-- `ALL`. -/
def all : List GgmlType :=
  [f32, f16, q4_0, q4_1, q5_0, q5_1, q8_0, q8_1, q2K, q3K, q4K, q5K, q6K, q8K, iq2XXS, iq2XS,
    iq3XXS, iq1S, iq4NL, iq3S, iq2S, iq4XS, i8, i16, i32, i64, f64, iq1M, bf16, tq1_0, tq2_0, mxfp4,
    nvfp4, q1_0, q2_0]

def discriminant : GgmlType → Nat
  | f32 => 0
  | f16 => 1
  | q4_0 => 2
  | q4_1 => 3
  | q5_0 => 6
  | q5_1 => 7
  | q8_0 => 8
  | q8_1 => 9
  | q2K => 10
  | q3K => 11
  | q4K => 12
  | q5K => 13
  | q6K => 14
  | q8K => 15
  | iq2XXS => 16
  | iq2XS => 17
  | iq3XXS => 18
  | iq1S => 19
  | iq4NL => 20
  | iq3S => 21
  | iq2S => 22
  | iq4XS => 23
  | i8 => 24
  | i16 => 25
  | i32 => 26
  | i64 => 27
  | f64 => 28
  | iq1M => 29
  | bf16 => 30
  | tq1_0 => 34
  | tq2_0 => 35
  | mxfp4 => 39
  | nvfp4 => 40
  | q1_0 => 41
  | q2_0 => 42

def name : GgmlType → String
  | f32 => "F32"
  | f16 => "F16"
  | q4_0 => "Q4_0"
  | q4_1 => "Q4_1"
  | q5_0 => "Q5_0"
  | q5_1 => "Q5_1"
  | q8_0 => "Q8_0"
  | q8_1 => "Q8_1"
  | q2K => "Q2_K"
  | q3K => "Q3_K"
  | q4K => "Q4_K"
  | q5K => "Q5_K"
  | q6K => "Q6_K"
  | q8K => "Q8_K"
  | iq2XXS => "IQ2_XXS"
  | iq2XS => "IQ2_XS"
  | iq3XXS => "IQ3_XXS"
  | iq1S => "IQ1_S"
  | iq4NL => "IQ4_NL"
  | iq3S => "IQ3_S"
  | iq2S => "IQ2_S"
  | iq4XS => "IQ4_XS"
  | i8 => "I8"
  | i16 => "I16"
  | i32 => "I32"
  | i64 => "I64"
  | f64 => "F64"
  | iq1M => "IQ1_M"
  | bf16 => "BF16"
  | tq1_0 => "TQ1_0"
  | tq2_0 => "TQ2_0"
  | mxfp4 => "MXFP4"
  | nvfp4 => "NVFP4"
  | q1_0 => "Q1_0"
  | q2_0 => "Q2_0"

def fromDiscriminant (value : Nat) : Except CoreError GgmlType :=
  okOr (all.find? fun ty => ty.discriminant == value) (.unknownGgmlType value)

theorem fromDiscriminant_eq_ok {value : Nat} {ty : GgmlType} : fromDiscriminant value = .ok ty ↔
      value = ty.discriminant := by
  rw [fromDiscriminant, okOr_eq_ok]
  constructor
  · intro h
    have hfound := List.find?_some h
    exact (beq_iff_eq.mp hfound).symm
  · rintro rfl
    cases ty <;> rfl

theorem discriminant_lt (ty : GgmlType) : ty.discriminant < 2 ^ 32 := by
  cases ty <;> decide

def blockSize : GgmlType → Nat
  | f32 | f16 | bf16 | f64 | i8 | i16 | i32 | i64 => 1
  | q4_0 | q4_1 | q5_0 | q5_1 | q8_0 | q8_1 | iq4NL | mxfp4 => 32
  | q1_0 => 128
  | q2_0 | nvfp4 => 64
  | q2K | q3K | q4K | q5K | q6K | q8K | iq2XXS | iq2XS | iq3XXS | iq1S | iq3S | iq2S | iq4XS | iq1M
  | tq1_0 | tq2_0 => 256

def typeSize : GgmlType → Nat
  | f32 | i32 => 4
  | f16 | bf16 | i16 => 2
  | f64 | i64 => 8
  | i8 => 1
  | q4_0 | iq4NL => 18
  | q4_1 => 20
  | q5_0 => 22
  | q5_1 => 24
  | q8_0 => 34
  | q8_1 => 36
  | q2K => 84
  | q3K | iq3S => 110
  | q4K => 144
  | q5K => 176
  | q6K => 210
  | q8K => 292
  | iq2XXS | tq2_0 => 66
  | iq2XS => 74
  | iq2S => 82
  | iq3XXS => 98
  | iq1S => 50
  | iq4XS => 136
  | iq1M => 56
  | tq1_0 => 54
  | mxfp4 => 17
  | nvfp4 => 36
  | q1_0 | q2_0 => 18

theorem blockSize_pos (ty : GgmlType) : 0 < ty.blockSize := by
  cases ty <;> decide

/-- Encoded bytes in one row whose leading dimension is `ne0`. -/
def rowSize (ty : GgmlType) (ne0 : Nat) : Except CoreError Nat := do
  ensure (ne0 % ty.blockSize = 0) (.notBlockAligned ty ne0 ty.blockSize)
  okOr (checkedMul (ne0 / ty.blockSize) ty.typeSize) (.arithmeticOverflow "GGML row size")

theorem rowSize_eq_ok {ty : GgmlType} {ne0 bytes : Nat} :
    ty.rowSize ne0 = .ok bytes ↔
      ty.blockSize ∣ ne0 ∧ ne0 / ty.blockSize * ty.typeSize ≤ usizeMax ∧
      bytes = ne0 / ty.blockSize * ty.typeSize := by
  simp only [rowSize, except_bind_ok_iff, ensure_eq_ok, exists_const, okOr_eq_ok,
    checkedMul_eq_some, Nat.dvd_iff_mod_eq_zero]

end GgmlType
end LightBridge
