import Mathlib.Data.List.MinMax
import LightBridge.Foundation.Ledger
import LightBridge.Host

/-! The state behind the lock of `bridge-cache` and the lock regions of its public
calls. A region that fails keeps what it changed before the failure. -/
namespace LightBridge.ExpertCache
open Foundation

/-- The places that raise `CacheError::ArithmeticOverflow`; the source's error carries no data. -/
inductive OverflowSite where
  | pins
  | committed
  | record
  | complete
  | evict
  | clear
  deriving DecidableEq, Repr

/-- `CacheError`. No lock region panics, so the lock is never poisoned. -/
inductive CacheError where
  | zeroCapacity
  | zeroAdmissionThreshold
  | emptyEntry
  | entryTooLarge (requested capacity : Nat)
  | capacityPinned (requested : Nat)
  | loadedSizeMismatch (expected actual : Nat)
  | reservationLost
  | arithmeticOverflow (site : OverflowSite)
  deriving DecidableEq, Repr

/-- `LoadError`. -/
inductive LoadError (ε : Type) where
  | loader (error : ε)
  | cache (error : CacheError)
  deriving DecidableEq, Repr

structure CacheConfig where
  capacityBytes : Nat
  admitAfterRequests : Nat
  deriving DecidableEq, Repr

def CacheConfig.validate (config : CacheConfig) : Except CacheError Unit := do
  ensure (config.capacityBytes ≠ 0) .zeroCapacity
  ensure (config.admitAfterRequests ≠ 0) .zeroAdmissionThreshold

inductive Entry where
  | loading (expectedBytes : Nat) (resident : Bool)
  | ready (bytes : List UInt8) (pins lastUsed : Nat) (resident : Bool)
  deriving DecidableEq, Repr

namespace Entry

def readyBytes : Entry → Nat
  | .loading _ _ => 0
  | .ready bytes _ _ _ => bytes.length

def loadingBytes : Entry → Nat
  | .loading expectedBytes _ => expectedBytes
  | .ready _ _ _ _ => 0

end Entry

structure State (K : Type) where
  entries : Table K Entry
  heat : Table K Nat
  usedBytes : Nat
  reservedBytes : Nat
  tick : Nat
  hits : Nat
  misses : Nat
  loads : Nat
  waits : Nat
  evictions : Nat

/-- What the lock region at the head of the loop of `get_or_try_insert` decides. -/
inductive Examined where
  | hit (bytes : List UInt8)
  | wait
  | reserved
  deriving DecidableEq, Repr

namespace State
variable {K ε : Type} [DecidableEq K]

def empty : State K :=
  { entries := ∅, heat := ∅, usedBytes := 0, reservedBytes := 0, tick := 0, hits := 0, misses := 0,
    loads := 0, waits := 0, evictions := 0 }

def nextTick : Command (State K) ε Nat := fun state =>
  (.ok (saturatingAdd state.tick 1), { state with tick := saturatingAdd state.tick 1 })

/-- The hit arm of `get` and `get_or_try_insert`. -/
def pin (key : K) (tick : Nat) (bytes : List UInt8) (pins : Nat) (resident : Bool) :
    Command (State K) CacheError (List UInt8) := fun state =>
  match checkedAdd pins 1 with
  | none => (.error (.arithmeticOverflow .pins), state)
  | some pins =>
      (.ok bytes, { state with
        entries := state.entries.insert key (.ready bytes pins tick resident)
        hits := saturatingAdd state.hits 1 })

def get (key : K) : Command (State K) CacheError (Option (List UInt8)) := do
  let tick ← nextTick
  let state ← Command.read
  match state.entries.lookup key with
  | none => do
      Command.update fun state => { state with misses := saturatingAdd state.misses 1 }
      pure none
  | some (.loading _ _) => pure none
  | some (.ready bytes pins _ resident) => do
      let bytes ← pin key tick bytes pins resident
      pure (some bytes)

/-- `state.entries.remove(&key)`, answering the bytes of a ready entry. -/
def removeEntry (key : K) : Command (State K) CacheError (Option (List UInt8)) := fun state =>
  match state.entries.lookup key with
  | some (.ready bytes _ _ _) =>
      (.ok (some bytes), { state with entries := state.entries.erase key })
  | _ => (.ok none, { state with entries := state.entries.erase key })

/-- `used_bytes.checked_sub(..).ok_or(ArithmeticOverflow)`. -/
def subtractUsed (site : OverflowSite) (bytes : Nat) :
    Command (State K) CacheError Unit := fun state =>
  match checkedSub state.usedBytes bytes with
  | none => (.error (.arithmeticOverflow site), state)
  | some usedBytes => (.ok (), { state with usedBytes })

/-- The key of an unpinned entry, with the tick of its last use. -/
def unpinned (entry : Sigma fun _ : K => Entry) : Option (K × Nat) :=
  match entry.2 with
  | .ready _ 0 lastUsed _ => some (entry.1, lastUsed)
  | _ => none

/-- The first least recently used unpinned entry in iteration order. -/
def candidate (state : State K) : Option K :=
  ((state.entries.entries.filterMap unpinned).argmin Prod.snd).map Prod.fst

def evict (key : K) : Command (State K) CacheError Unit := do
  match ← removeEntry key with
  | some bytes => do
      subtractUsed .evict bytes.length
      Command.update fun state => { state with evictions := saturatingAdd state.evictions 1 }
  | none => pure ()

/-- The loop of `reserve_capacity`. Every pass but the last removes an entry. -/
def reserveLoop (capacity requested : Nat) : Nat → Command (State K) CacheError Unit
  | 0 => pure ()
  | passes + 1 => do
      let state ← Command.read
      match (checkedAdd state.usedBytes state.reservedBytes).bind (checkedAdd · requested) with
      | none => Command.raise (.arithmeticOverflow .committed)
      | some committed =>
          if committed ≤ capacity then pure ()
          else match state.candidate with
            | none => Command.raise (.capacityPinned requested)
            | some key => do
                evict key
                reserveLoop capacity requested passes

def reserveCapacity (capacity requested : Nat) : Command (State K) CacheError Unit := do
  let state ← Command.read
  reserveLoop capacity requested (state.entries.entries.length + 1)

/-- `reserved_bytes.checked_add(expected_bytes)` and the insertion of the `Loading` entry. -/
def record (key : K) (expectedBytes : Nat) (resident : Bool) : Command (State K) CacheError Unit :=
  fun state =>
    match checkedAdd state.reservedBytes expectedBytes with
    | none => (.error (.arithmeticOverflow .record), state)
    | some reservedBytes =>
        (.ok (), { state with
          reservedBytes
          loads := saturatingAdd state.loads 1
          entries := state.entries.insert key (.loading expectedBytes resident) })

/-- Counts a miss of a key and the requests it has had. -/
def warm (key : K) : Command (State K) CacheError Nat := fun state =>
  let requests := saturatingAdd ((state.heat.lookup key).getD 0) 1
  (.ok requests, { state with
    misses := saturatingAdd state.misses 1
    heat := state.heat.insert key requests })

/-- The lock region at the head of the loop of `get_or_try_insert`. -/
def examine (config : CacheConfig) (key : K) (expectedBytes : Nat) :
    Command (State K) CacheError Examined := do
  let tick ← nextTick
  let state ← Command.read
  match state.entries.lookup key with
  | some (.ready bytes pins _ resident) => do
      let bytes ← pin key tick bytes pins resident
      pure (.hit bytes)
  | some (.loading _ _) => do
      Command.update fun state => { state with waits := saturatingAdd state.waits 1 }
      pure .wait
  | none => do
      let requests ← warm key
      reserveCapacity config.capacityBytes expectedBytes
      record key expectedBytes (decide (config.admitAfterRequests ≤ requests))
      pure .reserved

/-- The second lock region of a load: the reservation becomes a ready entry. -/
def complete (key : K) (expectedBytes : Nat) (bytes : List UInt8) :
    Command (State K) CacheError (List UInt8) := fun state =>
  match state.entries.lookup key with
  | some (.loading reserved resident) =>
      if reserved = expectedBytes then
        match checkedSub state.reservedBytes expectedBytes,
          checkedAdd state.usedBytes expectedBytes with
        | some reservedBytes, some usedBytes =>
            let tick := saturatingAdd state.tick 1
            (.ok bytes, { state with
              reservedBytes
              usedBytes
              tick
              entries := state.entries.insert key (.ready bytes 1 tick resident) })
        | _, _ => (.error (.arithmeticOverflow .complete), state)
      else (.error .reservationLost, state)
  | _ => (.error .reservationLost, state)

/-- `Drop for CacheLease`. -/
def dropLease (key : K) (state : State K) : State K :=
  match state.entries.lookup key with
  | some (.ready bytes pins lastUsed resident) =>
      if saturatingSub pins 1 = 0 ∧ resident = false then
        { state with
          entries := state.entries.erase key
          usedBytes := saturatingSub state.usedBytes bytes.length }
      else
        { state with
          entries := state.entries.insert key
            (.ready bytes (saturatingSub pins 1) lastUsed resident) }
  | _ => state

/-- `Drop for LoadReservation` while it is armed. -/
def dropReservation (key : K) (expectedBytes : Nat) (state : State K) : State K :=
  match state.entries.lookup key with
  | some (.loading reserved _) =>
      if reserved = expectedBytes then
        { state with
          entries := state.entries.erase key
          reservedBytes := saturatingSub state.reservedBytes expectedBytes }
      else state
  | _ => state

/-- The removal loop of `clear_unpinned`, with the number of entries removed so far. -/
def clearKeys : List K → Nat → Command (State K) CacheError Nat
  | [], removed => pure removed
  | key :: keys, removed => do
      match ← removeEntry key with
      | some bytes => do
          subtractUsed .clear bytes.length
          clearKeys keys (removed + 1)
      | none => clearKeys keys removed

def clearUnpinned : Command (State K) CacheError Nat := do
  let state ← Command.read
  clearKeys (state.entries.entries.filterMap fun entry => (unpinned entry).map Prod.fst) 0

end State
end LightBridge.ExpertCache
