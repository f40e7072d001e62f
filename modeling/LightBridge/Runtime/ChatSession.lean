import LightBridge.Kv.Snapshot
import LightBridge.Runtime.Generation

/-! The stored form of a chat session: `export_session` and `restore_session`. -/
namespace LightBridge.Runtime
open Foundation

/-- A `CausalModel` whose sessions can be stored. -/
structure SnapshotModel (Ω S E : Type) extends CausalModel Ω S E where
  modelFingerprint : Bytes32
  exportKvSnapshot : Ω → S → Nat → Except E (List UInt8)
  restoreKvSnapshot : Ω → List UInt8 → Nat → Command S E Unit

/-- `ChatEngineError` over the errors of the model and of the tokenizer, less those of
opening a model. -/
inductive ChatEngineError (E T : Type) where
  | tokenizer (error : T)
  | model (error : E)
  | generation (error : GenerationError E)
  | incrementalDecodeDiverged
  | emptyStopSequence (index : Nat)
  | zeroSessionLimit
  | unhealthySessionSnapshot
  | sessionPositionMismatch (history position : Nat)
  | sessionLogitLength (expected actual : Nat)
  | nonFiniteSessionLogit (index bits : Nat)
  | sessionArithmeticOverflow
  | sessionTooLarge (actual maximum : Nat)
  | sessionAllocationFailed (requested : Nat)
  | truncatedSessionSnapshot
  | sessionChecksum
  | sessionFormat
  | sessionVersion (expected actual : Nat)
  | sessionModelBinding
  | sessionFlags (actual : Nat)
  | sessionReservedBytes
  | sessionHistoryLength (actual maximum : Nat)
  | sessionLogitState (history : Nat) (hasLogits : Bool)
  | sessionTokenOutOfRange (token vocabularySize : Nat)
  | sessionTrailingBytes (actual : Nat)
  deriving DecidableEq, Repr

/-- `b"LBGS0001"`. -/
def chatSessionMagic : List UInt8 := [76, 66, 71, 83, 48, 48, 48, 49]
def chatSessionVersion : Nat := 1
def chatSessionDigestBytes : Nat := 32

/-- The places where a snapshot asks the allocator for memory. -/
inductive SnapshotSite where
  | output
  | history
  | logits
  deriving DecidableEq, Repr

/-- What storing or restoring a session meets. -/
structure SnapshotEnvironment (Ω : Type) where
  alloc : SnapshotSite → Bool
  session : GenerationSite → Bool
  world : Ω

namespace Hy3ChatEngine
variable {Ω S E T : Type}

/-! ### Export -/

def checkLogits (logits : List F32) : Except (ChatEngineError E T) Unit :=
  match logits.zipIdx.find? fun entry => !entry.1.isFinite with
  | some (value, index) => .error (.nonFiniteSessionLogit index value.toBits.toNat)
  | none => .ok ()

def sessionFixedBytes : Option Nat :=
  ((((checkedAdd chatSessionMagic.length 4).bind (checkedAdd · 32)).bind
    (checkedAdd · (8 * 3))).bind
    (checkedAdd · 4)).bind (checkedAdd · chatSessionDigestBytes)

def sessionTotalBytes (history logits kv : Nat) : Except (ChatEngineError E T) Nat := do
  let fixedBytes ← okOr sessionFixedBytes .sessionArithmeticOverflow
  let historyBytes ← okOr (checkedMul history 4) .sessionArithmeticOverflow
  okOr (((checkedAdd fixedBytes historyBytes).bind fun value =>
    (checkedMul logits 4).bind (checkedAdd value)).bind
    (checkedAdd · kv)) .sessionArithmeticOverflow

def exportLength (value : Nat) : Except (ChatEngineError E T) (List UInt8) := do
  ensure (value < 2 ^ 64) .sessionArithmeticOverflow
  pure (leBytes 8 value)

def exportSession (sha : Sha256) (env : SnapshotEnvironment Ω) (model : SnapshotModel Ω S E)
    (session : GenerationSession S) (maximumBytes : Nat) :
    Except (ChatEngineError E T) (List UInt8) := do
  ensure (maximumBytes ≠ 0) .zeroSessionLimit
  ensure (session.healthy = true) .unhealthySessionSnapshot
  let position := model.position session.model
  ensure (session.history.length = position)
    (.sessionPositionMismatch session.history.length position)
  ensure (session.logits.length = model.vocabularySize)
    (.sessionLogitLength model.vocabularySize session.logits.length)
  checkLogits session.logits
  let kv ← wrap .model (model.exportKvSnapshot env.world session.model maximumBytes)
  let totalBytes ← sessionTotalBytes session.history.length session.logits.length kv.length
  ensure (totalBytes ≤ maximumBytes) (.sessionTooLarge totalBytes maximumBytes)
  ensure (tryReserve (env.alloc .output) 1 totalBytes) (.sessionAllocationFailed totalBytes)
  let historyLength ← exportLength session.history.length
  let logitsLength ← exportLength session.logits.length
  let kvLength ← exportLength kv.length
  let output := chatSessionMagic ++ leBytes 4 chatSessionVersion ++ model.modelFingerprint.1 ++
    historyLength ++
    logitsLength ++ kvLength ++ [if session.hasLogits then 1 else 0] ++ [0, 0, 0] ++
    session.history.flatMap (leBytes 4) ++ session.logits.flatMap F32.toLeBytes ++ kv
  pure (output ++ (sha output).1)

/-! ### Restore -/

namespace SessionCursor

def take (length : Nat) : Command Cursor (ChatEngineError E T) (List UInt8) :=
  Cursor.take usizeMax .sessionArithmeticOverflow (fun _ _ => .truncatedSessionSnapshot) length

def number (width : Nat) : Command Cursor (ChatEngineError E T) Nat := do
  let bytes ← take width
  pure (ofLeBytes bytes)

def u8 : Command Cursor (ChatEngineError E T) Nat := number 1

def u32 : Command Cursor (ChatEngineError E T) Nat := number 4

def usize : Command Cursor (ChatEngineError E T) Nat := do
  let value ← number 8
  Command.lift do
    ensure (value ≤ usizeMax) .sessionArithmeticOverflow
    pure value

end SessionCursor

/-- Magic, version and binding. -/
def readBinding (model : SnapshotModel Ω S E) : Command Cursor (ChatEngineError E T) Unit := do
  let magic ← SessionCursor.take chatSessionMagic.length
  Command.lift (ensure (magic = chatSessionMagic) .sessionFormat)
  let version ← SessionCursor.u32
  Command.lift (ensure (version = chatSessionVersion) (.sessionVersion chatSessionVersion version))
  let binding ← SessionCursor.take 32
  Command.lift (ensure (binding = model.modelFingerprint.1) .sessionModelBinding)

def flagOf : Nat → Except (ChatEngineError E T) Bool
  | 0 => .ok false
  | 1 => .ok true
  | actual => .error (.sessionFlags actual)

def readFlag : Command Cursor (ChatEngineError E T) Bool := do
  let flag ← SessionCursor.u8
  Command.lift (flagOf flag)

def readReserved : Command Cursor (ChatEngineError E T) Unit := do
  let reserved ← SessionCursor.take 3
  Command.lift (ensure (reserved = [0, 0, 0]) .sessionReservedBytes)

/-- The lengths and the flag of a stored session. -/
structure SessionHeader where
  historyLength : Nat
  logitsLength : Nat
  kvLength : Nat
  hasLogits : Bool
  deriving DecidableEq, Repr

def readLengths : Command Cursor (ChatEngineError E T) SessionHeader := do
  let historyLength ← SessionCursor.usize
  let logitsLength ← SessionCursor.usize
  let kvLength ← SessionCursor.usize
  let hasLogits ← readFlag
  readReserved
  pure { historyLength, logitsLength, kvLength, hasLogits }

def checkHeader (model : SnapshotModel Ω S E) (header : SessionHeader) :
    Except (ChatEngineError E T) Unit := do
  ensure (header.historyLength ≤ model.contextLength)
    (.sessionHistoryLength header.historyLength model.contextLength)
  ensure (header.logitsLength = model.vocabularySize)
    (.sessionLogitLength model.vocabularySize header.logitsLength)
  ensure (header.hasLogits = decide (0 < header.historyLength))
    (.sessionLogitState header.historyLength header.hasLogits)

def readToken (model : SnapshotModel Ω S E) : Command Cursor (ChatEngineError E T) Nat := do
  let token ← SessionCursor.u32
  Command.lift do
    ensure (token < model.vocabularySize) (.sessionTokenOutOfRange token model.vocabularySize)
    pure token

def readLogit (index : Nat) : Command Cursor (ChatEngineError E T) F32 := do
  let bits ← SessionCursor.u32
  Command.lift do
    ensure ((F32.fromBits bits).isFinite = true)
      (.nonFiniteSessionLogit index (F32.fromBits bits).toBits.toNat)
    pure (F32.fromBits bits)

/-- What a stored session holds. -/
structure SessionRecord where
  history : List Nat
  logits : List F32
  kv : List UInt8
  hasLogits : Bool
  deriving DecidableEq, Repr

def readBody (alloc : SnapshotSite → Bool) (model : SnapshotModel Ω S E) (header : SessionHeader) :
    Command Cursor (ChatEngineError E T) SessionRecord := do
  Command.lift (ensure (tryReserve (alloc .history) 4 header.historyLength)
    (.sessionAllocationFailed header.historyLength))
  let history ← Command.collect (fun _ => readToken model) 0 header.historyLength
  Command.lift (ensure (tryReserve (alloc .logits) 4 header.logitsLength)
    (.sessionAllocationFailed header.logitsLength))
  let logits ← Command.collect readLogit 0 header.logitsLength
  let kv ← SessionCursor.take header.kvLength
  pure { history, logits, kv, hasLogits := header.hasLogits }

def readFields (alloc : SnapshotSite → Bool) (model : SnapshotModel Ω S E) :
    Command Cursor (ChatEngineError E T) SessionRecord := do
  readBinding model
  let header ← readLengths
  Command.lift (checkHeader model header)
  readBody alloc model header

def readRecord (alloc : SnapshotSite → Bool) (model : SnapshotModel Ω S E) :
    Command Cursor (ChatEngineError E T) SessionRecord := do
  let record ← readFields alloc model
  let cursor ← Command.read
  Command.lift (ensure (cursor.remaining = 0) (.sessionTrailingBytes cursor.remaining))
  pure record

/-- The checks of `restore_session` on the bytes, and what they hold. -/
def decodeRecord (sha : Sha256) (alloc : SnapshotSite → Bool) (model : SnapshotModel Ω S E)
    (bytes : List UInt8)
    (maximumBytes : Nat) : Except (ChatEngineError E T) SessionRecord := do
  ensure (maximumBytes ≠ 0) .zeroSessionLimit
  ensure (bytes.length ≤ maximumBytes) (.sessionTooLarge bytes.length maximumBytes)
  ensure (chatSessionDigestBytes ≤ bytes.length) .truncatedSessionSnapshot
  let payloadEnd := bytes.length - chatSessionDigestBytes
  ensure ((sha (bytes.take payloadEnd)).1 = bytes.drop payloadEnd) .sessionChecksum
  (readRecord alloc model ⟨bytes.take payloadEnd, 0⟩).1

def restoreSession (sha : Sha256) (env : SnapshotEnvironment Ω) (model : SnapshotModel Ω S E)
    (bytes : List UInt8)
    (maximumBytes : Nat) : Except (ChatEngineError E T) (GenerationSession S) := do
  let record ← decodeRecord sha env.alloc model bytes maximumBytes
  let session ← wrap .generation (Generator.newSession model.toCausalModel env.session env.world)
  let state ← wrap .model
    ((model.restoreKvSnapshot env.world record.kv maximumBytes).exec session.model)
  let position := model.position state
  ensure (position = record.history.length)
    (.sessionPositionMismatch record.history.length position)
  pure { model := state, history := record.history, logits := record.logits,
         hasLogits := record.hasLogits
         healthy := true }

end Hy3ChatEngine
end LightBridge.Runtime
