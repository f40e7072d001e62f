import LightBridge.Foundation.Cursor
import LightBridge.Gguf.Metadata

/-! The codes and the bytes of GGUF metadata, and the errors of the reader. -/
namespace LightBridge.Gguf
open Foundation

namespace Endianness

/-- `to_le_bytes` and `to_be_bytes`. -/
def toBytes (endianness : Endianness) (width n : Nat) : List UInt8 :=
  match endianness with
  | little => leBytes width n
  | big => (leBytes width n).reverse

/-- `from_le_bytes` and `from_be_bytes`. -/
def ofBytes (endianness : Endianness) (bytes : List UInt8) : Nat :=
  match endianness with
  | little => ofLeBytes bytes
  | big => ofLeBytes bytes.reverse

variable (endianness : Endianness)

@[simp] theorem length_toBytes (width n : Nat) : (endianness.toBytes width n).length = width := by
  cases endianness <;> simp [toBytes]

theorem ofBytes_toBytes {width n : Nat} (h : n < 256 ^ width) :
    endianness.ofBytes (endianness.toBytes width n) = n := by
  cases endianness <;> simp [toBytes, ofBytes, ofLeBytes_leBytes h]

theorem toBytes_ofBytes (bytes : List UInt8) :
    endianness.toBytes bytes.length (endianness.ofBytes bytes) = bytes := by
  cases endianness with
  | little => exact leBytes_ofLeBytes bytes
  | big =>
      have hreverse := leBytes_ofLeBytes bytes.reverse
      rw [List.length_reverse] at hreverse
      rw [toBytes, ofBytes, hreverse, List.reverse_reverse]

theorem ofBytes_lt (bytes : List UInt8) : endianness.ofBytes bytes < 256 ^ bytes.length := by
  cases endianness with
  | little => exact ofLeBytes_lt bytes
  | big => simpa [ofBytes] using ofLeBytes_lt bytes.reverse

end Endianness

inductive IoError where
  | unexpectedEof
  | other (message : String)
  deriving DecidableEq, Repr

inductive GgufError where
  | io (error : IoError)
  | truncated (context : String)
  | badMagic (magic : List UInt8)
  | unsupportedVersion (version : Nat)
  | limitExceeded (kind : String) (limit actual : Nat)
  | countDoesNotFit (kind : String) (value : Nat)
  | allocationFailed (kind : String)
  | invalidUtf8 (context : String)
  | invalidBoolean (value : Nat)
  | unknownValueType (value : Nat)
  | nestedArray
  | invalidDimensionCount (count : Nat)
  | invalidDimensionLimit (limit : Nat)
  | duplicateMetadataKey (key : String)
  | invalidAlignment (alignment : Nat)
  | alignmentWrongType (type : GgufValueType)
  | arithmeticOverflow (operation : String)
  | dataOffsetBeyondFile (dataOffset fileLen : Nat)
  | tensorOffsetMismatch (name : String) (actualOffset expectedOffset alignment : Nat)
  | tensorPaddingOverflow (name : String) (encodedBytes alignment : Nat)
  | tensorExtentOverflow (name : String) (expectedOffset paddedBytes : Nat)
  | tensorDataEndOverflow (dataOffset paddedExtent : Nat)
  | tensorDataSectionTruncated (dataOffset requiredEnd fileLen : Nat)
  | core (error : CoreError)
  deriving DecidableEq, Repr

/-- `from_io`. -/
def GgufError.fromIo (context : String) : IoError → GgufError
  | .unexpectedEof => .truncated context
  | error => .io error

namespace GgufValueType

/-- The discriminant. -/
def code : GgufValueType → Nat
  | u8 => 0
  | i8 => 1
  | u16 => 2
  | i16 => 3
  | u32 => 4
  | i32 => 5
  | f32 => 6
  | bool => 7
  | string => 8
  | array => 9
  | u64 => 10
  | i64 => 11
  | f64 => 12

def tryFrom : Nat → Except GgufError GgufValueType
  | 0 => .ok u8
  | 1 => .ok i8
  | 2 => .ok u16
  | 3 => .ok i16
  | 4 => .ok u32
  | 5 => .ok i32
  | 6 => .ok f32
  | 7 => .ok bool
  | 8 => .ok string
  | 9 => .ok array
  | 10 => .ok u64
  | 11 => .ok i64
  | 12 => .ok f64
  | other => .error (.unknownValueType other)

theorem tryFrom_eq_ok {value : Nat} {type : GgufValueType} : tryFrom value = .ok type ↔
      value = type.code := by
  constructor
  · intro h
    unfold tryFrom at h
    split at h <;> cases h <;> rfl
  · rintro rfl
    cases type <;> rfl

theorem code_lt (type : GgufValueType) : type.code < 256 ^ 4 := by
  cases type <;> decide

end GgufValueType

def encodeString (endianness : Endianness) (text : String) : List UInt8 :=
  endianness.toBytes 8 text.utf8ByteSize ++ text.toByteArray.data.toList

namespace GgufValue

/-- The bytes of a value that is no array. -/
def encodeScalar (endianness : Endianness) : GgufValue → List UInt8
  | u8 value => endianness.toBytes 1 value.toNat
  | i8 value => endianness.toBytes 1 value.toUInt8.toNat
  | u16 value => endianness.toBytes 2 value.toNat
  | i16 value => endianness.toBytes 2 value.toUInt16.toNat
  | u32 value => endianness.toBytes 4 value.toNat
  | i32 value => endianness.toBytes 4 value.toUInt32.toNat
  | f32 value => endianness.toBytes 4 value.toBits.toNat
  | bool value => endianness.toBytes 1 value.toNat
  | string value => encodeString endianness value
  | array .. => []
  | u64 value => endianness.toBytes 8 value.toNat
  | i64 value => endianness.toBytes 8 value.toUInt64.toNat
  | f64 value => endianness.toBytes 8 value.toBits.toNat

def encode (endianness : Endianness) : GgufValue → List UInt8
  | array elementType values =>
      endianness.toBytes 4 elementType.code ++ endianness.toBytes 8 values.length ++
        values.flatMap (encodeScalar endianness)
  | value => value.encodeScalar endianness

/-- How many array elements a value has. -/
def elements : GgufValue → Nat
  | array _ values => values.length
  | _ => 0

end GgufValue
end LightBridge.Gguf
