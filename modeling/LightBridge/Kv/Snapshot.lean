import LightBridge.Foundation.Cursor
import LightBridge.Kv.Trace

/-! The checksummed snapshot of a cache: `export_snapshot` and the two restores. -/
namespace LightBridge
open Foundation

/-- `[u8; 32]`. -/
abbrev Bytes32 : Type := { bytes : List UInt8 // bytes.length = 32 }

theorem length_zeros : (List.replicate 32 (0 : UInt8)).length = 32 := rfl

/-- `Sha256::digest`. -/
abbrev Sha256 : Type := List UInt8 → Bytes32

def zeroSha : Sha256 := fun _ => ⟨List.replicate 32 0, length_zeros⟩

namespace F32

/-- `to_bits().to_le_bytes()`. -/
def toLeBytes (x : F32) : List UInt8 := leBytes 4 x.toBits.toNat

end F32

namespace Kv

/-- `b"LBKV0001"`. -/
def kvSnapshotMagic : List UInt8 := [76, 66, 75, 86, 48, 48, 48, 49]
def kvSnapshotVersion : Nat := 1
def kvSnapshotDigestBytes : Nat := 32

def usizeToU64 (value : Nat) : Except KvError Nat := do
  ensure (value < 2 ^ 64) (.arithmeticOverflow "KV snapshot integer encoding")
  pure value

def u64ToUsize (value : Nat) : Except KvError Nat := do
  ensure (value ≤ usizeMax) (.arithmeticOverflow "KV snapshot integer decoding")
  pure value

namespace SnapshotCursor

def take (length : Nat) : Command Cursor KvError (List UInt8) :=
  Cursor.take usizeMax (.arithmeticOverflow "KV snapshot cursor") .snapshotTruncated length

def u32 : Command Cursor KvError Nat := do
  let bytes ← take 4
  pure (ofLeBytes bytes)

def u64 : Command Cursor KvError Nat := do
  let bytes ← take 8
  pure (ofLeBytes bytes)

def f32 : Command Cursor KvError F32 := do
  let bits ← u32
  pure (F32.fromBits bits)

end SnapshotCursor

namespace PagedKvCache

/-! ### Export -/

def snapshotHeaderBytes (cache : PagedKvCache) : Option Nat :=
  ((((checkedAdd kvSnapshotMagic.length 4).bind (checkedAdd · 32)).bind (checkedAdd · (6 * 8))).bind
    fun value => (checkedMul cache.layerCount 8).bind (checkedAdd value)).bind
      (checkedAdd · kvSnapshotDigestBytes)

def snapshotPayloadBytes (valuesPerToken : Nat) (lengths : List Nat) : Except KvError Nat :=
  lengths.foldlM (fun total tokens => do
    let bytes ← okOr ((checkedMul tokens valuesPerToken).bind (checkedMul · 4))
      (.arithmeticOverflow "KV snapshot payload bytes")
    okOr (checkedAdd total bytes) (.arithmeticOverflow "KV snapshot payload bytes")) 0

def exportUsize (value : Nat) : Except KvError (List UInt8) := leBytes 8 <$> usizeToU64 value

def exportHead (cache : PagedKvCache) (layer token head : Nat) : Except KvError (List UInt8) := do
  let key ← cache.key layer token head
  let value ← cache.value layer token head
  pure (key.flatMap F32.toLeBytes ++ value.flatMap F32.toLeBytes)

def exportToken (cache : PagedKvCache) (layer token : Nat) : Except KvError (List UInt8) :=
  List.flatten <$> (List.range cache.kvHeadCount).mapM (cache.exportHead layer token)

def exportLayer (cache : PagedKvCache) (layer : Nat) : Except KvError (List UInt8) :=
  List.flatten <$> (List.range (cache.storedLength layer)).mapM (cache.exportToken layer)

def exportSnapshot (sha : Sha256) (alloc : Allocator) (cache : PagedKvCache)
    (modelBinding : Bytes32)
    (maximumBytes : Nat) : Except KvError (List UInt8) := do
  ensure (maximumBytes ≠ 0) .zeroSnapshotLimit
  let headerBytes ← okOr cache.snapshotHeaderBytes (.arithmeticOverflow "KV snapshot header bytes")
  let dimensions ← okOr (checkedAdd cache.keyDimension cache.valueDimension)
    (.arithmeticOverflow "KV snapshot dimensions")
  let valuesPerToken ← okOr (checkedMul cache.kvHeadCount dimensions)
    (.arithmeticOverflow "KV snapshot values per token")
  let payloadBytes ← snapshotPayloadBytes valuesPerToken cache.lengths
  let snapshotBytes ← okOr (checkedAdd headerBytes payloadBytes)
    (.arithmeticOverflow "KV snapshot total bytes")
  ensure (snapshotBytes ≤ maximumBytes) (.snapshotTooLarge snapshotBytes maximumBytes)
  ensure (tryReserve (alloc .snapshotBytes) 1 snapshotBytes)
    (.allocationFailed "KV snapshot bytes" snapshotBytes)
  let parameters ← cache.parameters.mapM fun parameter => exportUsize parameter.2
  let lengths ← cache.lengths.mapM exportUsize
  let rows ← (List.range cache.layerCount).mapM cache.exportLayer
  let output := kvSnapshotMagic ++ leBytes 4 kvSnapshotVersion ++ modelBinding.1 ++
    parameters.flatten ++
    lengths.flatten ++ rows.flatten
  pure (output ++ (sha output).1)

/-! ### Restore -/

def readMagic : Command Cursor KvError Unit := do
  let magic ← SnapshotCursor.take kvSnapshotMagic.length
  Command.lift (ensure (magic = kvSnapshotMagic) .snapshotMagic)

def readVersion : Command Cursor KvError Unit := do
  let version ← SnapshotCursor.u32
  Command.lift (ensure (version = kvSnapshotVersion) (.snapshotVersion kvSnapshotVersion version))

def readBinding (expectedModelBinding : Bytes32) : Command Cursor KvError Unit := do
  let binding ← SnapshotCursor.take 32
  Command.lift (ensure (binding = expectedModelBinding.1) .snapshotBinding)

def readUsize : Command Cursor KvError Nat := do
  let value ← SnapshotCursor.u64
  Command.lift (u64ToUsize value)

def readParameter (parameter : String × Nat) : Command Cursor KvError Unit := do
  let actual ← readUsize
  Command.lift
    (ensure (actual = parameter.2) (.snapshotConfiguration parameter.1 parameter.2 actual))

/-- The loop over the configuration fields. -/
def readParameters : List (String × Nat) → Command Cursor KvError Unit
  | [] => pure ()
  | parameter :: parameters => do
    readParameter parameter
    readParameters parameters

def readLength (config : KvConfig) (layer : Nat) : Command Cursor KvError Nat := do
  let length ← readUsize
  Command.lift do
    ensure (length ≤ config.tokenCapacity) (.capacityExhausted layer 0 length config.tokenCapacity)
    pure length

def checkUniform (lengths : List Nat) : Except KvError Unit :=
  let expected := lengths.head?.getD 0
  match lengths.findIdx? (fun length => length != expected) with
  | some layer => .error (.snapshotLayerLength layer expected (lengths.getD layer 0))
  | none => .ok ()

def readHead (config : KvConfig) : Command Cursor KvError (List F32 × List F32) := do
  let key ← Command.collect (fun _ => SnapshotCursor.f32) 0 config.keyDimension
  let value ← Command.collect (fun _ => SnapshotCursor.f32) 0 config.valueDimension
  pure (key, value)

/-- The rows of one token. Every lane of the two row buffers is overwritten for each token. -/
def readToken (config : KvConfig) : Command Cursor KvError TokenRows := do
  let heads ← Command.collect (fun _ => readHead config) 0 config.kvHeadCount
  pure { keys := heads.map Prod.fst, values := heads.map Prod.snd }

/-- The body of the token loop; `token` only names the allocation sites of its append. -/
def restoreToken (alloc : Allocator) (config : KvConfig) (layer token : Nat)
    (restored : PagedKvCache) :
    Command Cursor KvError PagedKvCache := do
  let rows ← readToken config
  Command.lift (Command.exec
    (append (fun site => alloc (.restored layer token site)) layer rows.keys.flatten
    rows.values.flatten)
    restored)

def restoreTokens (alloc : Allocator) (config : KvConfig) (layer : Nat) :
    Nat → Nat → PagedKvCache → Command Cursor KvError PagedKvCache
  | _, 0, restored => pure restored
  | token, count + 1, restored => do
    let next ← restoreToken alloc config layer token restored
    restoreTokens alloc config layer (token + 1) count next

def restoreLayers (alloc : Allocator) (config : KvConfig) :
    Nat → List Nat → PagedKvCache → Command Cursor KvError PagedKvCache
  | _, [], restored => pure restored
  | layer, length :: lengths, restored => do
    let next ← restoreTokens alloc config layer 0 length restored
    restoreLayers alloc config (layer + 1) lengths next

/-- The part of the payload that must match the destination. -/
def readHeader (config : KvConfig) (expectedModelBinding : Bytes32) :
    Command Cursor KvError Unit := do
  readMagic
  readVersion
  readBinding expectedModelBinding
  readParameters config.parameters

def readLengths (alloc : Allocator) (config : KvConfig) (requireUniformLengths : Bool) :
    Command Cursor KvError (List Nat) := do
  Command.lift (ensure (tryReserve (alloc .snapshotLengths) 8 config.layerCount)
    (.allocationFailed "KV snapshot layer lengths" config.layerCount))
  let lengths ← Command.collect (readLength config) 0 config.layerCount
  Command.lift (if requireUniformLengths then checkUniform lengths else .ok ())
  pure lengths

/-- The empty cache and the row buffers the token loop fills. -/
def emptyRestored (alloc : Allocator) (config : KvConfig) : Except KvError PagedKvCache := do
  let restored ← newLazy alloc config
  let keysPerToken ← okOr (checkedMul config.kvHeadCount config.keyDimension)
    (.arithmeticOverflow "KV snapshot keys per token")
  let valuesPerToken ← okOr (checkedMul config.kvHeadCount config.valueDimension)
    (.arithmeticOverflow "KV snapshot values per token")
  let _ ← zeroedVec (alloc .tokenKeys) 4 F32.zero keysPerToken "KV snapshot token keys"
  let _ ← zeroedVec (alloc .tokenValues) 4 F32.zero valuesPerToken "KV snapshot token values"
  pure restored

/-- Everything `restore_snapshot_internal` reads from the payload. -/
def restorePayload (alloc : Allocator) (config : KvConfig) (expectedModelBinding : Bytes32)
    (requireUniformLengths : Bool) : Command Cursor KvError PagedKvCache := do
  readHeader config expectedModelBinding
  let lengths ← readLengths alloc config requireUniformLengths
  let empty ← Command.lift (emptyRestored alloc config)
  let restored ← restoreLayers alloc config 0 lengths empty
  let cursor ← Command.read
  Command.lift (ensure (cursor.remaining = 0) (.snapshotTrailingBytes cursor.remaining))
  pure restored

/-- The cache a snapshot stands for, before it replaces the destination. -/
def restoredCache (sha : Sha256) (alloc : Allocator) (config : KvConfig)
    (expectedModelBinding : Bytes32) (bytes : List UInt8) (maximumBytes : Nat)
    (requireUniformLengths : Bool) :
    Except KvError PagedKvCache := do
  ensure (maximumBytes ≠ 0) .zeroSnapshotLimit
  ensure (bytes.length ≤ maximumBytes) (.snapshotTooLarge bytes.length maximumBytes)
  ensure (kvSnapshotDigestBytes ≤ bytes.length)
    (.snapshotTruncated bytes.length (kvSnapshotDigestBytes - bytes.length))
  let payloadEnd := bytes.length - kvSnapshotDigestBytes
  ensure ((sha (bytes.take payloadEnd)).1 = bytes.drop payloadEnd) .snapshotChecksum
  (restorePayload alloc config expectedModelBinding requireUniformLengths
    ⟨bytes.take payloadEnd, 0⟩).1

def restoreSnapshotInternal (sha : Sha256) (alloc : Allocator) (expectedModelBinding : Bytes32)
    (bytes : List UInt8) (maximumBytes : Nat) (requireUniformLengths : Bool) :
    Command PagedKvCache KvError Unit := do
  let cache ← Command.read
  let restored ← Command.lift
    (restoredCache sha alloc cache.toKvConfig expectedModelBinding bytes maximumBytes
      requireUniformLengths)
  Command.update fun _ => restored

def restoreSnapshot (sha : Sha256) (alloc : Allocator) (expectedModelBinding : Bytes32)
    (bytes : List UInt8) (maximumBytes : Nat) : Command PagedKvCache KvError Unit :=
  restoreSnapshotInternal sha alloc expectedModelBinding bytes maximumBytes false

def restoreUniformSnapshot (sha : Sha256) (alloc : Allocator) (expectedModelBinding : Bytes32)
    (bytes : List UInt8) (maximumBytes : Nat) : Command PagedKvCache KvError Unit :=
  restoreSnapshotInternal sha alloc expectedModelBinding bytes maximumBytes true

end PagedKvCache
end Kv
end LightBridge
