import LightBridge.Core.Tensor

/-! The metadata of a parsed GGUF file and its typed access. -/
namespace LightBridge.Gguf
open Foundation

inductive Endianness where
  | little
  | big
  deriving DecidableEq, Repr

inductive GgufValueType where
  | u8 | i8 | u16 | i16 | u32 | i32 | f32 | bool | string | array | u64 | i64 | f64
  deriving DecidableEq, Repr

inductive GgufValue where
  | u8 (value : UInt8)
  | i8 (value : Int8)
  | u16 (value : UInt16)
  | i16 (value : Int16)
  | u32 (value : UInt32)
  | i32 (value : Int32)
  | f32 (value : F32)
  | bool (value : Bool)
  | string (value : String)
  | array (elementType : GgufValueType) (values : List GgufValue)
  | u64 (value : UInt64)
  | i64 (value : Int64)
  | f64 (value : F64)

def GgufValue.valueType : GgufValue → GgufValueType
  | u8 _ => .u8
  | i8 _ => .i8
  | u16 _ => .u16
  | i16 _ => .i16
  | u32 _ => .u32
  | i32 _ => .i32
  | f32 _ => .f32
  | bool _ => .bool
  | string _ => .string
  | array .. => .array
  | u64 _ => .u64
  | i64 _ => .i64
  | f64 _ => .f64

inductive MetadataError where
  | missing (key : String)
  | wrongType (key : String) (expected actual : GgufValueType)
  deriving DecidableEq, Repr

structure GgufFile where
  version : Nat
  endianness : Endianness
  metadata : List (String × GgufValue)
  tensors : List TensorDesc
  alignment : Nat
  dataOffset : Nat
  fileLen : Nat

namespace GgufFile

def get (file : GgufFile) (key : String) : Except MetadataError GgufValue :=
  okOr (file.metadata.findSome? fun (candidate, value) => if candidate = key then some value
    else none) (.missing key)

def expectType (file : GgufFile) (key : String) (expected : GgufValueType) :
    Except MetadataError GgufValue := do
  let value ← file.get key
  ensure (value.valueType = expected) (.wrongType key expected value.valueType)
  pure value

/-- The last case does not occur. -/
def getU16 (file : GgufFile) (key : String) : Except MetadataError UInt16 := do
  match ← file.expectType key .u16 with
  | .u16 value => pure value
  | value => .error (.wrongType key .u16 value.valueType)

/-- The last case does not occur. -/
def getI32 (file : GgufFile) (key : String) : Except MetadataError Int32 := do
  match ← file.expectType key .i32 with
  | .i32 value => pure value
  | value => .error (.wrongType key .i32 value.valueType)

end GgufFile
end LightBridge.Gguf
