import LightBridge.Foundation.Alignment
import LightBridge.Gguf.Encoding

/-! The GGUF reader: a bounded inspection of a file up to its tensor payloads. -/
namespace LightBridge.Gguf
open Foundation

/-- The limits are `u64`. -/
structure ReaderLimits where
  maxDimensions : Nat
  maxStringBytes : Nat
  maxArrayElements : Nat
  maxTensors : Nat
  maxMetadataEntries : Nat
  maxMetadataBytes : Nat
  maxArrayElements_le : maxArrayElements ≤ usizeMax
  maxMetadataBytes_le : maxMetadataBytes ≤ usizeMax

def ReaderLimits.default : ReaderLimits where
  maxDimensions := 4
  maxStringBytes := 1024 * 1024
  maxArrayElements := 1000000
  maxTensors := 4000000
  maxMetadataEntries := 1000000
  maxMetadataBytes := 64 * 1024 * 1024
  maxArrayElements_le := by decide
  maxMetadataBytes_le := by decide

/-- The places of the reader that reserve memory. -/
inductive Reservation where
  | stringBytes | metadataKeySet | metadataKey | metadataEntries | arrayElements | tensorDimensions
    | tensorDescriptors
  deriving DecidableEq, Repr

/-- What an allocation failure is reported as. -/
def Reservation.kind : Reservation → String
  | stringBytes => "string bytes"
  | metadataKeySet | metadataKey => "metadata key set"
  | metadataEntries => "metadata entries"
  | arrayElements => "array elements"
  | tensorDimensions => "tensor dimensions"
  | tensorDescriptors => "tensor descriptors"

/-- A file, the errors of its reads by offset and length and of its two seeks, and the allocator's
answers by the offset reached. -/
structure Source where
  bytes : List UInt8
  readFault : Nat → Nat → Option IoError
  positionFault : Option IoError
  seekFault : Option IoError
  granted : Reservation → Nat → Bool
  bytes_le : bytes.length ≤ usizeMax
  readFault_empty : ∀ offset, readFault offset 0 = none

/-- Every read and every reservation succeeds. -/
structure Source.Willing (source : Source) : Prop where
  readFault : ∀ offset length, source.readFault offset length = none
  positionFault : source.positionFault = none
  seekFault : source.seekFault = none
  granted : ∀ reservation offset, source.granted reservation offset = true

/-- What a parse does: it reads bytes, charged to the metadata or not, and it lets an array of some
count through. -/
inductive Event where
  | bytes (amount : Nat) (accounted : Bool)
  | array (count : Nat)
  deriving DecidableEq, Repr

/-- An event, and the counters of the reader behind it. -/
structure Checkpoint where
  event : Event
  metadataBytes : Nat
  arrayElements : Nat
  deriving DecidableEq, Repr

/-- `GgufReader`, with the history of its parse. -/
structure GgufReader where
  source : Source
  position : Nat
  limits : ReaderLimits
  endianness : Endianness
  metadataBytes : Nat
  arrayElements : Nat
  accountMetadata : Bool
  history : List Checkpoint

namespace GgufReader

def withLimits (source : Source) (limits : ReaderLimits) : GgufReader where
  source := source
  position := 0
  limits := limits
  endianness := .little
  metadataBytes := 0
  arrayElements := 0
  accountMetadata := false
  history := []

abbrev Reader (α : Type) : Type := Command GgufReader GgufError α

def note (event : Event) (reader : GgufReader) : GgufReader :=
  { reader with history := reader.history ++ [⟨event, reader.metadataBytes, reader.arrayElements⟩] }

/-- A count inside the limit `limit` selects. -/
def checkLimit (kind : String) (limit : ReaderLimits → Nat) (actual : Nat) : Reader Unit := do
  let reader ← Command.read
  Command.lift
    (ensure (actual ≤ limit reader.limits) (.limitExceeded kind (limit reader.limits) actual))

def toUsize (kind : String) (value : Nat) : Except GgufError Nat := do
  ensure (value ≤ usizeMax) (.countDoesNotFit kind value)
  pure value

def checkedCount (kind : String) (limit : ReaderLimits → Nat) (actual : Nat) : Reader Nat := do
  checkLimit kind limit actual
  Command.lift (toUsize kind actual)

/-- `try_reserve` and `try_reserve_exact`, for `bytes` at least. -/
def reserve (reservation : Reservation) (bytes : Nat) : Reader Unit := do
  let reader ← Command.read
  Command.lift
    (ensure (tryReserve (reader.source.granted reservation reader.position) 1 bytes = true)
    (.allocationFailed reservation.kind))

/-- `read_exact`, what it charges to the metadata. -/
def account (amount : Nat) : Reader Unit := do
  let reader ← Command.read
  if reader.accountMetadata then do
    let next ← Command.lift
      (okOr (checkedAdd reader.metadataBytes amount) (.arithmeticOverflow "metadata bytes"))
    checkLimit "metadata bytes" ReaderLimits.maxMetadataBytes next
    Command.update fun reader => { reader with metadataBytes := next }
  else pure ()

/-- `Read::read_exact` of the source. -/
def fill (length : Nat) (context : String) : Reader (List UInt8) := fun reader =>
  match reader.source.readFault reader.position length with
  | some error => (.error (.fromIo context error), reader)
  | none =>
      if reader.source.bytes.length <
        reader.position + length then (.error (.truncated context), reader)
      else
        (.ok (slice reader.source.bytes reader.position length),
          { reader with position := reader.position + length }.note
          (.bytes length reader.accountMetadata))

def readExact (length : Nat) (context : String) : Reader (List UInt8) := do
  account length
  fill length context

/-- A number of `width` bytes in the reader's byte order. -/
def readNumber (width : Nat) (context : String) : Reader Nat := do
  let bytes ← readExact width context
  let reader ← Command.read
  pure (reader.endianness.ofBytes bytes)

def readU8 : String → Reader Nat := readNumber 1
def readU16 : String → Reader Nat := readNumber 2
def readU32 : String → Reader Nat := readNumber 4
def readU64 : String → Reader Nat := readNumber 8

def readString (context : String) : Reader String := do
  let length ← readU64 "string length"
  checkLimit "string bytes" ReaderLimits.maxStringBytes length
  let length ← Command.lift (toUsize "string bytes" length)
  reserve .stringBytes length
  let bytes ← readExact length context
  Command.lift (okOr (String.fromUTF8? ⟨bytes.toArray⟩) (.invalidUtf8 context))

def readBool : Reader Bool := do
  let byte ← readU8 "boolean metadata value"
  Command.lift (match byte with
    | 0 => .ok false
    | 1 => .ok true
    | other => .error (.invalidBoolean other))

/-- `read_value` of a type that is not an array. -/
def readScalar : GgufValueType → Reader GgufValue
  | .u8 => do
      let bits ← readU8 "u8 metadata value"
      pure (.u8 (.ofNat bits))
  | .i8 => do
      let bits ← readU8 "i8 metadata value"
      pure (.i8 (UInt8.ofNat bits).toInt8)
  | .u16 => do
      let bits ← readU16 "u16 metadata value"
      pure (.u16 (.ofNat bits))
  | .i16 => do
      let bits ← readU16 "i16 metadata value"
      pure (.i16 (UInt16.ofNat bits).toInt16)
  | .u32 => do
      let bits ← readU32 "u32 metadata value"
      pure (.u32 (.ofNat bits))
  | .i32 => do
      let bits ← readU32 "i32 metadata value"
      pure (.i32 (UInt32.ofNat bits).toInt32)
  | .f32 => do
      let bits ← readU32 "f32 metadata value"
      pure (.f32 (F32.fromBits bits))
  | .bool => do
      let value ← readBool
      pure (.bool value)
  | .string => do
      let value ← readString "string metadata value"
      pure (.string value)
  | .u64 => do
      let bits ← readU64 "u64 metadata value"
      pure (.u64 (.ofNat bits))
  | .i64 => do
      let bits ← readU64 "i64 metadata value"
      pure (.i64 (UInt64.ofNat bits).toInt64)
  | .f64 => do
      let bits ← readU64 "f64 metadata value"
      pure (.f64 (F64.fromBits bits))
  | .array => Command.raise .nestedArray

/-- The fewest bytes an array element takes. -/
def minimumElementBytes : GgufValueType → Except GgufError Nat
  | .u8 | .i8 | .bool => .ok 1
  | .u16 | .i16 => .ok 2
  | .u32 | .i32 | .f32 => .ok 4
  | .string | .u64 | .i64 | .f64 => .ok 8
  | .array => .error .nestedArray

/-- The elements of all arrays together, with those of one more. -/
def aggregateElements (count : Nat) : Reader Nat := do
  let reader ← Command.read
  let aggregate ← Command.lift
    (okOr (checkedAdd reader.arrayElements count) (.arithmeticOverflow "aggregate array elements"))
  checkLimit "array elements" ReaderLimits.maxArrayElements aggregate
  pure aggregate

/-- The test of `check_array_budget` that the fewest bytes of the elements are in the budget. -/
def checkMinimumBytes (elementType : GgufValueType) (count : Nat) : Reader Unit := do
  let reader ← Command.read
  let minimum ← Command.lift (minimumElementBytes elementType)
  let payload ← Command.lift
    (okOr (checkedMul count minimum) (.arithmeticOverflow "minimum encoded array bytes"))
  let bytes ← Command.lift
    (okOr (checkedAdd reader.metadataBytes payload) (.arithmeticOverflow "metadata bytes"))
  checkLimit "metadata bytes" ReaderLimits.maxMetadataBytes bytes

/-- The count of an array that is let through. -/
def admitArray (aggregate count : Nat) : Reader Nat := do
  let admitted ← Command.lift (toUsize "array elements" count)
  Command.update fun reader => { reader with arrayElements := aggregate }.note (.array count)
  pure admitted

def checkArrayBudget (elementType : GgufValueType) (count : Nat) : Reader Nat := do
  let aggregate ← aggregateElements count
  checkMinimumBytes elementType count
  admitArray aggregate count

/-- `check_array_budget` without the test of the fewest bytes. -/
def checkArrayElements (_elementType : GgufValueType) (count : Nat) : Reader Nat := do
  let aggregate ← aggregateElements count
  admitArray aggregate count

/-- One element, pushed. -/
def readElement (elementType : GgufValueType) : Reader GgufValue := do
  let value ← readScalar elementType
  reserve .arrayElements 1
  pure value

section Budget
-- What is asked before the elements of an array are read: `check_array_budget`, with or without its
-- test.
variable (budget : GgufValueType → Nat → Reader Nat)

def readArray : Reader GgufValue := do
  let code ← readU32 "array element type"
  let elementType ← Command.lift (GgufValueType.tryFrom code)
  Command.lift (ensure (elementType ≠ .array) .nestedArray)
  let count ← readU64 "array element count"
  let count ← budget elementType count
  let values ← Command.collect (fun _ => readElement elementType) 0 count
  pure (.array elementType values)

def readValue : GgufValueType → Reader GgufValue
  | .array => readArray budget
  | type => readScalar type

/-- The metadata entries still to be read, none of whose keys is in `keys`. -/
def readEntries : Nat → List String → Reader (List (String × GgufValue))
  | 0, _ => pure []
  | n + 1, keys => do
      let key ← readString "metadata key"
      let code ← readU32 "metadata value type"
      let valueType ← Command.lift (GgufValueType.tryFrom code)
      let value ← readValue budget valueType
      reserve .metadataKeySet 1
      reserve .metadataKey key.utf8ByteSize
      Command.lift (ensure (key ∉ keys) (.duplicateMetadataKey key))
      reserve .metadataEntries 1
      let entries ← readEntries n (key :: keys)
      pure ((key, value) :: entries)

/-- Reads what counts as metadata. -/
def accounted {α : Type} (c : Reader α) : Reader α := do
  Command.update fun reader => { reader with accountMetadata := true }
  let a ← c
  Command.update fun reader => { reader with accountMetadata := false }
  pure a

def readTensor : Reader TensorDesc := do
  let name ← accounted (readString "tensor name")
  let dimensions ← readU32 "tensor dimension count"
  Command.lift (ensure (1 ≤ dimensions ∧ dimensions ≤ 4) (.invalidDimensionCount dimensions))
  checkLimit "dimensions" ReaderLimits.maxDimensions dimensions
  let count ← Command.lift (toUsize "dimensions" dimensions)
  reserve .tensorDimensions (8 * count)
  let shape ← Command.collect (fun _ => readU64 "tensor dimension") 0 count
  let code ← readU32 "GGML type"
  let ty ← Command.lift (wrap .core (GgmlType.fromDiscriminant code))
  let relativeOffset ← readU64 "tensor payload offset"
  let desc ← Command.lift (wrap .core (TensorDesc.new name shape ty relativeOffset))
  reserve .tensorDescriptors 1
  pure desc

/-- The alignment the metadata asks for. -/
def alignmentOf (metadata : List (String × GgufValue)) : Except GgufError Nat :=
  match metadata.find? fun entry => entry.1 == "general.alignment" with
  | none => .ok 32
  | some (_, .u32 value) => do
      ensure (0 < value.toNat ∧ value.toNat.isPowerOfTwo) (.invalidAlignment value.toNat)
      pure value.toNat
  | some (_, value) => .error (.alignmentWrongType value.valueType)

/-- Metadata and tensor directory after the counts. -/
structure Directory where
  version : Nat
  metadata : List (String × GgufValue)
  alignment : Nat
  tensors : List TensorDesc

/-- `read`, from the version to the end of the tensor directory. -/
def readDirectory : Reader Directory := do
  let version ← readU32 "version"
  Command.lift (ensure (2 ≤ version ∧ version ≤ 3) (.unsupportedVersion version))
  let tensorCount ← readU64 "tensor count"
  let metadataCount ← readU64 "metadata count"
  let tensorCount ← checkedCount "tensors" ReaderLimits.maxTensors tensorCount
  let metadataCount ← checkedCount "metadata entries" ReaderLimits.maxMetadataEntries metadataCount
  let metadata ← accounted (readEntries budget metadataCount [])
  let alignment ← Command.lift (alignmentOf metadata)
  let tensors ← Command.collect (fun _ => readTensor) 0 tensorCount
  pure { version, metadata, alignment, tensors }

/-- The tensors stand one after the other, each padded to the alignment; the extent of all of them.
-/
def layOut (alignment dataOffset fileLen : Nat) : Nat → List TensorDesc → Except GgufError Nat
  | extent, [] => .ok extent
  | extent, tensor :: tensors => do
      ensure (tensor.relativeOffset = extent)
        (.tensorOffsetMismatch tensor.name tensor.relativeOffset extent alignment)
      let encoded ← wrap .core tensor.encodedBytes
      let padded ← okOr (alignUp 64 encoded alignment)
        (.tensorPaddingOverflow tensor.name encoded alignment)
      let next ← okOr (checkedAdd extent padded) (.tensorExtentOverflow tensor.name extent padded)
      let _ ← wrap .core (tensor.checkedAbsoluteRange dataOffset fileLen)
      layOut alignment dataOffset fileLen next tensors

/-- `read`, after the tensor directory: whether its payloads are in the file. -/
def checkLayout (directory : Directory) (dataOffset fileLen : Nat) : Except GgufError Unit := do
  ensure (dataOffset ≤ fileLen) (.dataOffsetBeyondFile dataOffset fileLen)
  let extent ← layOut directory.alignment dataOffset fileLen 0 directory.tensors
  let required ← okOr (checkedAdd dataOffset extent) (.tensorDataEndOverflow dataOffset extent)
  ensure (required ≤ fileLen) (.tensorDataSectionTruncated dataOffset required fileLen)

def magic : Endianness → List UInt8
  | .little => "GGUF".toByteArray.data.toList
  | .big => "FUGG".toByteArray.data.toList

def readMagic : Reader Unit := do
  let bytes ← readExact 4 "magic"
  if bytes = magic .little then Command.update fun reader => { reader with endianness := .little }
  else if bytes = magic .big then Command.update fun reader => { reader with endianness := .big }
  else Command.raise (.badMagic bytes)

def streamPosition : Reader Nat := fun reader =>
  match reader.source.positionFault with
  | some error => (.error (.io error), reader)
  | none => (.ok reader.position, reader)

/-- `seek(SeekFrom::End(0))`. -/
def seekEnd : Reader Nat := fun reader =>
  match reader.source.seekFault with
  | some error => (.error (.io error), reader)
  | none => (.ok reader.source.bytes.length, { reader with position := reader.source.bytes.length })

/-- `read`, with a check of the arrays. -/
def readWith : Reader GgufFile := do
  let reader ← Command.read
  Command.lift
    (ensure (reader.limits.maxDimensions ≤ 4) (.invalidDimensionLimit reader.limits.maxDimensions))
  readMagic
  let directory ← readDirectory budget
  let directoryEnd ← streamPosition
  let dataOffset ← Command.lift
    (okOr (alignUp 64 directoryEnd directory.alignment) (.arithmeticOverflow "GGUF data offset"))
  let fileLen ← seekEnd
  Command.lift (checkLayout directory dataOffset fileLen)
  let reader ← Command.read
  pure
    { version := directory.version, endianness := reader.endianness, metadata := directory.metadata,
      tensors := directory.tensors, alignment := directory.alignment, dataOffset, fileLen }

end Budget

def read : Reader GgufFile := readWith checkArrayBudget

end GgufReader
end LightBridge.Gguf
