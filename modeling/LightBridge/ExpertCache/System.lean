import LightBridge.ExpertCache.Accounting

/-! Any number of callers on one cache. A step is one lock region, one event outside the
lock, or a reordering of the table; calls and leases are followed to their end. -/
namespace LightBridge.ExpertCache
open Foundation

/-- Where a call of `get_or_try_insert` stands between its lock regions. -/
inductive Phase (ε : Type) where
  | polling
  | waiting (notified : Bool)
  | reserved
  | loading
  | loaded (bytes : List UInt8)
  | releasing (error : LoadError ε)
  | returned (result : Except (LoadError ε) Nat)
  | panicked
  deriving DecidableEq, Repr

/-- The call owns a `Loading` entry and its armed reservation. -/
def Phase.inFlight {ε : Type} : Phase ε → Bool
  | .reserved | .loading | .loaded _ | .releasing _ => true
  | _ => false

/-- One call: its arguments, whether its loader is still there, and two ghosts, how often
the loader was invoked and what it returned. -/
structure Call (K ε : Type) where
  key : K
  expectedBytes : Nat
  phase : Phase ε
  loader : Bool
  invocations : Nat
  outcome : Option (Except ε (List UInt8))

def Call.move {K ε : Type} (call : Call K ε) (phase : Phase ε) : Call K ε := { call with phase }

/-- A notified waiter. -/
def Call.notify {K ε : Type} (call : Call K ε) : Call K ε :=
  match call.phase with
  | .waiting _ => call.move (.waiting true)
  | _ => call

/-- A live `CacheLease`; `origin` is the ghost of the call whose loader made the bytes. -/
structure Lease (K : Type) where
  id : Nat
  key : K
  bytes : List UInt8
  origin : Nat
  deriving DecidableEq

structure System (K ε : Type) where
  config : CacheConfig
  shared : State K
  calls : Nat → Option (Call K ε)
  leases : List (Lease K)
  nextLease : Nat
  origin : K → Nat

namespace System
variable {K ε : Type} [DecidableEq K]

/-- `CompressedCache::new`, before any call. -/
def initial (config : CacheConfig) : System K ε :=
  { config, shared := State.empty, calls := fun _ => none, leases := [], nextLease := 0,
    origin := fun _ => 0 }

def setCall (σ : System K ε) (id : Nat) (call : Call K ε) : System K ε :=
  { σ with calls := Function.update σ.calls id (some call) }

def setShared (σ : System K ε) (shared : State K) : System K ε := { σ with shared }

def setLeases (σ : System K ε) (leases : List (Lease K)) : System K ε := { σ with leases }

def setOrigin (σ : System K ε) (key : K) (id : Nat) : System K ε :=
  { σ with origin := Function.update σ.origin key id }

/-- A new lease on a key's ready entry. -/
def grant (σ : System K ε) (key : K) (bytes : List UInt8) : System K ε :=
  { σ with
    leases := { id := σ.nextLease, key, bytes, origin := σ.origin key } :: σ.leases
    nextLease := σ.nextLease + 1 }

/-- `changed.notify_all()`. -/
def notifyAll (σ : System K ε) : System K ε :=
  { σ with calls := fun id => (σ.calls id).map Call.notify }

/-- The checks of `get_or_try_insert` before its loop. -/
def enter (σ : System K ε) (expectedBytes : Nat) : Phase ε :=
  if expectedBytes = 0 then .returned (.error (.cache .emptyEntry))
  else if expectedBytes > σ.config.capacityBytes then
    .returned (.error (.cache (.entryTooLarge expectedBytes σ.config.capacityBytes)))
  else .polling

def gotten (σ : System K ε) (key : K) : Except CacheError (Option (List UInt8)) → System K ε
  | .ok (some bytes) => σ.grant key bytes
  | _ => σ

def examined (σ : System K ε) (id : Nat) (call : Call K ε) : Except CacheError Examined → System K ε
  | .ok (.hit bytes) =>
      (σ.grant call.key bytes).setCall id (call.move (.returned (.ok σ.nextLease)))
  | .ok .wait => σ.setCall id (call.move (.waiting false))
  | .ok .reserved => σ.setCall id (call.move .reserved)
  | .error e => σ.setCall id (call.move (.returned (.error (.cache e))))

/-- `loader.take().expect(..)()`. -/
def invoked (call : Call K ε) : Call K ε :=
  if call.loader then
    { call with loader := false, invocations := call.invocations + 1, phase := .loading }
  else call.move .panicked

/-- The loader has returned; its bytes are counted before the lock is taken. -/
def finished (call : Call K ε) (outcome : Except ε (List UInt8)) : Call K ε :=
  { call with
    outcome := some outcome
    phase := match outcome with
      | .error e => .releasing (.loader e)
      | .ok bytes =>
          if bytes.length ≠ call.expectedBytes then
            .releasing (.cache (.loadedSizeMismatch call.expectedBytes bytes.length))
          else .loaded bytes }

def completed (σ : System K ε) (id : Nat) (call : Call K ε) :
    Except CacheError (List UInt8) → System K ε
  | .ok bytes =>
      (((σ.setOrigin call.key id).grant call.key bytes).setCall id
        (call.move (.returned (.ok σ.nextLease)))).notifyAll
  | .error e => σ.setCall id (call.move (.releasing (.cache e)))

/-- `Drop for LoadReservation` of a call that failed, which then returns its error. -/
def released (σ : System K ε) (id : Nat) (call : Call K ε) (e : LoadError ε) : System K ε :=
  ((σ.setShared (State.dropReservation call.key call.expectedBytes σ.shared)).setCall id
    (call.move (.returned (.error e)))).notifyAll

/-- `Drop for CacheLease`. -/
def dropped (σ : System K ε) (lease : Lease K) : System K ε :=
  ((σ.setShared (State.dropLease lease.key σ.shared)).setLeases (σ.leases.erase lease)).notifyAll

/-- A step of a call under way, or a reordering of the hash table. -/
inductive Advance (σ : System K ε) : System K ε → Prop where
  | examine (id : Nat) (call : Call K ε) (r : Except CacheError Examined) (shared : State K)
      (called : σ.calls id = some call) (phase : call.phase = .polling)
      (region : State.examine σ.config call.key call.expectedBytes σ.shared = (r, shared)) :
      Advance σ ((σ.setShared shared).examined id call r)
  | wake (id : Nat) (call : Call K ε) (notified : Bool) (called : σ.calls id = some call)
      (phase : call.phase = .waiting notified) : Advance σ (σ.setCall id (call.move .polling))
  | invoke (id : Nat) (call : Call K ε) (called : σ.calls id = some call)
      (phase : call.phase = .reserved) : Advance σ (σ.setCall id (invoked call))
  | finish (id : Nat) (call : Call K ε) (outcome : Except ε (List UInt8))
      (called : σ.calls id = some call) (phase : call.phase = .loading) :
      Advance σ (σ.setCall id (finished call outcome))
  | complete (id : Nat) (call : Call K ε) (bytes : List UInt8) (r : Except CacheError (List UInt8))
      (shared : State K) (called : σ.calls id = some call) (phase : call.phase = .loaded bytes)
      (region : State.complete call.key call.expectedBytes bytes σ.shared = (r, shared)) :
      Advance σ ((σ.setShared shared).completed id call r)
  | release (id : Nat) (call : Call K ε) (e : LoadError ε) (called : σ.calls id = some call)
      (phase : call.phase = .releasing e) : Advance σ (σ.released id call e)
  | reorder (entries : Table K Entry) (perm : entries.entries.Perm σ.shared.entries.entries) :
      Advance σ (σ.setShared { σ.shared with entries })

/-- A call as it enters `get_or_try_insert`. -/
def entering (σ : System K ε) (key : K) (expectedBytes : Nat) : Call K ε :=
  { key, expectedBytes, phase := σ.enter expectedBytes, loader := true, invocations := 0,
    outcome := none }

/-- One step of one party. -/
inductive Step (σ : System K ε) : System K ε → Prop where
  | start (id : Nat) (key : K) (expectedBytes : Nat) (fresh : σ.calls id = none) :
      Step σ (σ.setCall id (σ.entering key expectedBytes))
  | get (key : K) (r : Except CacheError (Option (List UInt8))) (shared : State K)
      (region : State.get key σ.shared = (r, shared)) : Step σ ((σ.setShared shared).gotten key r)
  | advance {σ' : System K ε} (advance : Advance σ σ') : Step σ σ'
  | dropLease (lease : Lease K) (live : lease ∈ σ.leases) : Step σ (σ.dropped lease)
  | clear (r : Except CacheError Nat) (shared : State K)
      (region : State.clearUnpinned σ.shared = (r, shared)) : Step σ (σ.setShared shared)

/-- States of a cache built by `CompressedCache::new` with a `usize` capacity. -/
inductive Reachable (config : CacheConfig) : System K ε → Prop where
  | init (valid : config.validate = .ok ()) (limit : config.capacityBytes ≤ usizeMax) :
      Reachable config (initial config)
  | step {σ σ' : System K ε} (before : Reachable config σ) (step : Step σ σ') : Reachable config σ'

/-- Any number of further steps. -/
inductive Steps : System K ε → System K ε → Prop where
  | refl (σ : System K ε) : Steps σ σ
  | step {σ σ' σ'' : System K ε} (steps : Steps σ σ') (step : Step σ' σ'') : Steps σ σ''

theorem Steps.trans {σ σ' σ'' : System K ε} (h : Steps σ σ') (h' : Steps σ' σ'') : Steps σ σ'' := by
  induction h' with
  | refl => exact h
  | step _ hs ih => exact .step ih hs

theorem Steps.reachable {config : CacheConfig} {σ σ' : System K ε} (h : Steps σ σ')
    (hr : Reachable config σ) : Reachable config σ' := by
  induction h with
  | refl => exact hr
  | step _ hs ih => exact .step ih hs

/-! ### What a state says about one key -/

def InFlight (σ : System K ε) (key : K) (id : Nat) : Prop :=
  ∃ call, σ.calls id = some call ∧ call.key = key ∧ call.phase.inFlight = true

/-- The call waits for a change nobody has signalled to it. -/
def Blocked (σ : System K ε) (key : K) (id : Nat) : Prop :=
  ∃ call, σ.calls id = some call ∧ call.key = key ∧ call.phase = .waiting false

def leasesOf (σ : System K ε) (key : K) : List (Lease K) :=
  σ.leases.filter fun lease => lease.key = key

/-- The bytes are what the loader of a call for this key returned, of the size it was asked for. -/
def Loaded (σ : System K ε) (key : K) (id : Nat) (bytes : List UInt8) : Prop :=
  ∃ call, σ.calls id = some call ∧ call.key = key ∧ call.outcome = some (.ok bytes) ∧
    bytes.length = call.expectedBytes

/-- The parties that stand behind an entry, or behind its absence. -/
inductive Slot (σ : System K ε) (key : K) : Option Entry → Prop where
  | vacant (free : σ.leasesOf key = []) (idle : ∀ id, ¬ σ.InFlight key id)
      (awake : ∀ id, ¬ σ.Blocked key id) : Slot σ key none
  | loading (resident : Bool) (id : Nat) (call : Call K ε) (free : σ.leasesOf key = [])
      (called : σ.calls id = some call) (keyed : call.key = key)
      (flying : call.phase.inFlight = true) (only : ∀ id', σ.InFlight key id' → id' = id) :
      Slot σ key (some (.loading call.expectedBytes resident))
  | ready (bytes : List UInt8) (lastUsed : Nat) (resident : Bool)
      (held : ∀ lease ∈ σ.leasesOf key, lease.bytes = bytes ∧ lease.origin = σ.origin key)
      (idle : ∀ id, ¬ σ.InFlight key id) (awake : ∀ id, ¬ σ.Blocked key id)
      (loaded : σ.Loaded key (σ.origin key) bytes) :
      Slot σ key (some (.ready bytes (σ.leasesOf key).length lastUsed resident))

end System
end LightBridge.ExpertCache
