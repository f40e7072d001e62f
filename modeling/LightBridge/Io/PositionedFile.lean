import LightBridge.Foundation.Slices
import LightBridge.Host

/-! `PositionedFile` of `bridge-io-windows`: reads at an offset, of ranges that lie in the file. -/
namespace LightBridge.Io
open Foundation

/-- `ReadError`. An I/O error stands for its text. -/
inductive ReadError where
  | zeroRequestLimit
  | open (path source : String)
  | metadata (path source : String)
  | notAFile (path : String)
  | invertedRange (start stop : Nat)
  | rangeOutOfBounds (start stop fileLength : Nat)
  | requestTooLarge (requested maximum : Nat)
  | read (path : String) (offset : Nat) (source : String)
  | unexpectedEof (path : String) (offset expected actual : Nat)
  | cancelled
  | arithmeticOverflow
  | allocationFailed (requested : Nat)
  deriving DecidableEq, Repr

/-- A file of the length it had when it was opened, the errors that stop its reads by offset and
length, and the allocator's answers by length. -/
structure PositionedFile where
  content : List UInt8
  maxRequestBytes : Nat
  fault : Nat → Nat → Option ReadError
  granted : Nat → Bool

namespace PositionedFile

/-- `validate_range`: the length of the range. -/
def validateRange (file : PositionedFile) (start stop : Nat) : Except ReadError Nat := do
  ensure (start ≤ stop) (.invertedRange start stop)
  ensure (stop ≤ file.content.length) (.rangeOutOfBounds start stop file.content.length)
  ensure (stop - start ≤ usizeMax) .arithmeticOverflow
  ensure (stop - start ≤ file.maxRequestBytes)
    (.requestTooLarge (stop - start) file.maxRequestBytes)
  pure (stop - start)

def readExactAt (file : PositionedFile) (start stop : Nat) : Except ReadError (List UInt8) := do
  let length ← file.validateRange start stop
  ensure (tryReserve (file.granted length) 1 length) (.allocationFailed length)
  match file.fault start length with
  | some error => .error error
  | none => .ok (slice file.content start length)

/-- `read_exact_at_into`, of a buffer of `length` bytes. -/
def readExactAtInto (file : PositionedFile) (offset length : Nat) :
    Except ReadError (List UInt8) := do
  let stop ← okOr (checkedAdd offset length) .arithmeticOverflow
  let _ ← file.validateRange offset stop
  match file.fault offset length with
  | some error => .error error
  | none => .ok (slice file.content offset length)

theorem validateRange_eq_ok {file : PositionedFile} {start stop length : Nat}
    (h : file.validateRange start stop = .ok length) :
    start ≤ stop ∧ stop ≤ file.content.length ∧ length = stop - start := by
  simp only [validateRange, except_bind_ok_iff, ensure_eq_ok, exists_const] at h
  obtain ⟨hordered, hinside, -, -, hlength⟩ := h
  exact ⟨hordered, hinside, (Except.ok.inj hlength).symm⟩

/-- A read answers the bytes of the range. -/
theorem readExactAt_eq_ok {file : PositionedFile} {start stop : Nat} {bytes : List UInt8}
    (h : file.readExactAt start stop = .ok bytes) :
    bytes = slice file.content start (stop - start) := by
  obtain ⟨length, hrange, h⟩ := except_bind_ok_iff.mp h
  obtain ⟨_, -, h⟩ := except_bind_ok_iff.mp h
  obtain ⟨-, -, rfl⟩ := validateRange_eq_ok hrange
  split at h
  · cases h
  · exact (Except.ok.inj h).symm

theorem readExactAtInto_eq_ok {file : PositionedFile} {offset length : Nat} {bytes : List UInt8}
    (h : file.readExactAtInto offset length = .ok bytes) :
    bytes = slice file.content offset length := by
  obtain ⟨stop, -, h⟩ := except_bind_ok_iff.mp h
  obtain ⟨_, -, h⟩ := except_bind_ok_iff.mp h
  split at h
  · cases h
  · exact (Except.ok.inj h).symm

/-- A read answers as many bytes as the range has. -/
theorem length_readExactAt {file : PositionedFile} {start stop : Nat} {bytes : List UInt8}
    (h : file.readExactAt start stop = .ok bytes) : bytes.length = stop - start := by
  obtain ⟨length, hrange, h⟩ := except_bind_ok_iff.mp h
  obtain ⟨_, -, h⟩ := except_bind_ok_iff.mp h
  obtain ⟨hordered, hinside, rfl⟩ := validateRange_eq_ok hrange
  split at h
  · cases h
  · cases h
    exact length_slice (by omega)

end PositionedFile
end LightBridge.Io
