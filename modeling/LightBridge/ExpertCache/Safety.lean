import LightBridge.ExpertCache.Invariant

/-! What every interleaving of clients can rely on: the byte accounting, the leases and
single-flight loading. -/
namespace LightBridge.ExpertCache
open Foundation
namespace System
variable {K ε : Type} [DecidableEq K]

/-! ### Accounting -/

/-- The error paths and the saturating subtractions that no party can reach. -/
structure Unfailing (σ : System K ε) : Prop where
  examine : ∀ key expected e shared,
    State.examine σ.config key expected σ.shared = (.error e, shared) → ¬ e.Internal
  complete : ∀ id call bytes, σ.calls id = some call → call.phase = .loaded bytes →
    ∃ shared, State.complete call.key call.expectedBytes bytes σ.shared = (.ok bytes, shared)
  clear : ∃ removed shared, State.clearUnpinned σ.shared = (.ok removed, shared)
  unpin : ∀ lease ∈ σ.leases, ∃ pins lastUsed resident,
    σ.shared.entries.lookup lease.key = some (.ready lease.bytes pins lastUsed resident) ∧
      1 ≤ pins ∧ lease.bytes.length ≤ σ.shared.usedBytes
  unreserve : ∀ id call e, σ.calls id = some call → call.phase = .releasing e →
    (∃ resident, σ.shared.entries.lookup call.key = some (.loading call.expectedBytes resident)) ∧
      call.expectedBytes ≤ σ.shared.reservedBytes
  answers : ∀ id call e, σ.calls id = some call →
    call.phase = .releasing e ∨ call.phase = .returned (.error e) → ¬ e.Internal

omit [DecidableEq K] in
theorem failed_not_internal {call : Call K ε} {e : LoadError ε} (h : call.Failed e) :
    ¬ e.Internal := by
  rcases h with ⟨error, -, rfl⟩ | ⟨bytes, -, -, rfl⟩
  · intro hi
    exact hi
  · intro hi
    cases hi

theorem Inv.examine_error {σ : System K ε} (h : σ.Inv) {key : K} {expected : Nat} {e : CacheError}
    {shared : State K}
    (region : State.examine σ.config key expected σ.shared = (.error e, shared)) :
    ¬ e.Internal := by
  obtain ⟨r, s', hrun, hexamines, -⟩ := h.accounted.examine h.limit key expected
  rw [region] at hrun
  cases hrun
  intro hi
  cases hexamines with
  | overflow _ _ _ _ _ found wide same => cases hi
  | full _ _ absent drops ends => cases ends <;> cases hi

theorem Inv.unfailing {σ : System K ε} (h : σ.Inv) : σ.Unfailing where
  examine := fun _ _ _ _ region => h.examine_error region
  complete := by
    intro id call bytes called phase
    have hsound := h.sound id call called
    simp only [Call.Sound, phase] at hsound
    obtain ⟨⟨resident, hl⟩, -, -⟩ := (h.slot call.key).of_inFlight called rfl (by rw [phase]; rfl)
    obtain ⟨shared, tick, hrun, -, -, -, -⟩ := h.accounted.complete h.limit hl hsound.2.2
    exact ⟨shared, hrun⟩
  clear := by
    obtain ⟨removed, shared, hrun, -, -⟩ := h.accounted.clearUnpinned
    exact ⟨removed, shared, hrun⟩
  unpin := by
    intro lease live
    obtain ⟨pins, lastUsed, resident, hl⟩ := h.lease_ready live
    exact ⟨pins + 1, lastUsed, resident, hl, Nat.succ_pos pins, h.accounted.bytes_le hl⟩
  unreserve := by
    intro id call e called phase
    obtain ⟨⟨resident, hl⟩, -, -⟩ := (h.slot call.key).of_inFlight called rfl (by rw [phase]; rfl)
    exact ⟨⟨resident, hl⟩, h.accounted.expected_le hl⟩
  answers := by
    intro id call e called phase
    have hsound := h.sound id call called
    rcases phase with phase | phase
    · simp only [Call.Sound, phase] at hsound
      exact failed_not_internal hsound.2
    · simp only [Call.Sound, phase] at hsound
      exact hsound.2 e rfl

/-- In every state that any interleaving reaches, the counters are the sums they stand
for, and no internal error or saturation can occur next. -/
theorem accounting {config : CacheConfig} {σ : System K ε} (h : Reachable config σ) :
    σ.shared.usedBytes = σ.shared.entries.total Entry.readyBytes ∧
      σ.shared.reservedBytes = σ.shared.entries.total Entry.loadingBytes ∧
      σ.shared.usedBytes + σ.shared.reservedBytes ≤ config.capacityBytes ∧
      (∀ key bytes lastUsed resident,
        σ.shared.entries.lookup key = some (.ready bytes 0 lastUsed resident) → resident = true) ∧
      σ.Unfailing := by
  obtain ⟨hinv, hconfig⟩ := h.inv
  rw [← hconfig]
  exact ⟨hinv.accounted.used, hinv.accounted.reserved, hinv.accounted.within,
    hinv.accounted.resident, hinv.unfailing⟩

/-- The cache of the runs below while a two-byte entry loads. -/
def loadingState : State Nat :=
  { entries := AList.insert 7 (.loading 2 false) ∅, heat := AList.insert 7 1 ∅, usedBytes := 0,
    reservedBytes := 2, tick := 1, hits := 0, misses := 1, loads := 1, waits := 0, evictions := 0 }

/-- The same cache once the entry is there. -/
def loadedState : State Nat :=
  { loadingState with
    entries := loadingState.entries.insert 7 (.ready [5, 6] 1 2 false), usedBytes := 2,
    reservedBytes := 0, tick := 2 }

/-- One client loads a two-byte entry and holds its lease. -/
theorem loaded_run : ∃ σ : System Nat Unit, Reachable ⟨3, 2⟩ σ ∧ σ.leases = [⟨0, 7, [5, 6], 0⟩] ∧
    σ.shared = loadedState ∧ σ.nextLease = 1 ∧ σ.origin 7 = 0 := by
  have started : Reachable ⟨3, 2⟩
      ((initial ⟨3, 2⟩ : System Nat Unit).setCall 0 ⟨7, 2, .polling, true, 0, none⟩) :=
    .step (.init rfl (by decide)) (.start 0 7 2 rfl)
  have reserved :=
    Reachable.step started
      (.advance (.examine 0 ⟨7, 2, .polling, true, 0, none⟩ (.ok .reserved) loadingState
    rfl rfl rfl))
  have invoked :=
    Reachable.step reserved (.advance (.invoke 0 ⟨7, 2, .reserved, true, 0, none⟩ rfl rfl))
  have finished :=
    Reachable.step invoked
      (.advance (.finish 0 ⟨7, 2, .loading, false, 1, none⟩ (.ok [5, 6]) rfl rfl))
  have completed :=
    Reachable.step finished
      (.advance (.complete 0 ⟨7, 2, .loaded [5, 6], false, 1, some (.ok [5, 6])⟩ [5, 6]
    (.ok [5, 6]) loadedState rfl rfl rfl))
  exact ⟨_, completed, rfl, rfl, rfl, rfl⟩

/-- The accounting on that run. -/
theorem accounting_loaded : ∃ σ : System Nat Unit, σ.leases = [⟨0, 7, [5, 6], 0⟩] ∧
      σ.shared.usedBytes = 2 ∧
    σ.shared.entries.total Entry.readyBytes = 2 ∧ σ.Unfailing := by
  obtain ⟨σ, h, hleases, hshared, -, -⟩ := loaded_run
  obtain ⟨hused, -, -, -, hunfailing⟩ := accounting h
  have htwo : σ.shared.usedBytes = 2 := by rw [hshared]; rfl
  exact ⟨σ, hleases, htwo, hused.symm.trans htwo, hunfailing⟩

/-! ### Leases -/

/-- The entry of the lease is ready, pinned, and the one its own load created. -/
def Holds (σ : System K ε) (lease : Lease K) : Prop :=
  (∃ pins lastUsed resident,
      σ.shared.entries.lookup lease.key = some (.ready lease.bytes (pins + 1) lastUsed resident)) ∧
    σ.origin lease.key = lease.origin

/-- What a lease is good for, as long as it is held. -/
structure LeaseSafe (σ : System K ε) : Prop where
  pins : ∀ key bytes pins lastUsed resident,
    σ.shared.entries.lookup key = some (.ready bytes pins lastUsed resident) →
      pins = (σ.leasesOf key).length
  held : ∀ lease ∈ σ.leases, σ.Holds lease
  kept : ∀ σ₁ σ₂, Steps σ σ₁ → Steps σ₁ σ₂ → ∀ lease ∈ σ.leases, lease ∈ σ₂.leases →
    lease ∈ σ₁.leases ∧ σ₁.Holds lease
  loaded : ∀ lease ∈ σ.leases, σ.Loaded lease.key lease.origin lease.bytes
  sized : ∀ size : K → Nat,
    (∀ id call, σ.calls id = some call → call.expectedBytes = size call.key) →
    ∀ lease ∈ σ.leases, lease.bytes.length = size lease.key

theorem Inv.pins_eq {σ : System K ε} (h : σ.Inv) {key : K} {bytes : List UInt8}
    {pins lastUsed : Nat} {resident : Bool}
    (hl : σ.shared.entries.lookup key = some (.ready bytes pins lastUsed resident)) :
    pins = (σ.leasesOf key).length := by
  have hslot := h.slot key
  rw [hl] at hslot
  generalize he : some (Entry.ready bytes pins lastUsed resident) = e at hslot
  cases hslot with
  | vacant => cases he
  | loading => cases he
  | ready _ _ _ held idle awake loaded =>
      cases he
      rfl

theorem Inv.lease_origin {σ : System K ε} (h : σ.Inv) {lease : Lease K} (live : lease ∈ σ.leases) :
    σ.origin lease.key = lease.origin ∧ σ.Loaded lease.key lease.origin lease.bytes := by
  have hmem : lease ∈ σ.leasesOf lease.key := List.mem_filter.mpr ⟨live, by simp⟩
  have hslot := h.slot lease.key
  generalize σ.shared.entries.lookup lease.key = e at hslot
  cases hslot with
  | vacant free idle awake =>
      rw [free] at hmem
      cases hmem
  | loading resident id call free called keyed flying only =>
      rw [free] at hmem
      cases hmem
  | ready bytes lastUsed resident held idle awake loaded =>
      obtain ⟨hbytes, horigin⟩ := held lease hmem
      rw [hbytes, horigin]
      exact ⟨rfl, loaded⟩

theorem Inv.holds {σ : System K ε} (h : σ.Inv) {lease : Lease K} (live : lease ∈ σ.leases) :
    σ.Holds lease :=
  ⟨h.lease_ready live, (h.lease_origin live).1⟩

omit [DecidableEq K] in
theorem granted_back {σ : System K ε} {lease : Lease K} {key : K} {bytes : List UInt8}
    {origin : Nat} (live : lease ∈ (⟨σ.nextLease, key, bytes, origin⟩ : Lease K) :: σ.leases)
    (old : lease.id < σ.nextLease) :
    lease ∈ σ.leases := by
  rcases List.mem_cons.mp live with rfl | hmem
  · exact absurd old (Nat.lt_irrefl _)
  · exact hmem

theorem Advance.leases_back {σ σ' : System K ε} (hs : Advance σ σ') {lease : Lease K}
    (live : lease ∈ σ'.leases) (old : lease.id < σ.nextLease) : lease ∈ σ.leases := by
  cases hs with
  | examine id call r shared called phase region =>
      rcases r with e | bytes | _ | _
      · exact live
      · exact granted_back live old
      · exact live
      · exact live
  | complete id call bytes r shared called phase region =>
      cases r with
      | error e => exact live
      | ok bytes => exact granted_back live old
  | _ => exact live

/-- A step takes no new lease under an identity that was given out before. -/
theorem Step.leases_back {σ σ' : System K ε} (hs : Step σ σ') {lease : Lease K}
    (live : lease ∈ σ'.leases)
    (old : lease.id < σ.nextLease) : lease ∈ σ.leases := by
  cases hs with
  | get key r shared region =>
      rcases r with e | _ | bytes
      · exact live
      · exact live
      · exact granted_back live old
  | advance ha => exact ha.leases_back live old
  | dropLease dropped hlive => exact List.mem_of_mem_erase live
  | _ => exact live

theorem Advance.nextLease_le {σ σ' : System K ε} (hs : Advance σ σ') :
    σ.nextLease ≤ σ'.nextLease := by
  cases hs with
  | examine id call r shared called phase region =>
      rcases r with e | bytes | _ | _
      · exact Nat.le_refl _
      · exact Nat.le_succ _
      · exact Nat.le_refl _
      · exact Nat.le_refl _
  | complete id call bytes r shared called phase region =>
      cases r with
      | error e => exact Nat.le_refl _
      | ok bytes => exact Nat.le_succ _
  | _ => exact Nat.le_refl _

theorem Step.nextLease_le {σ σ' : System K ε} (hs : Step σ σ') : σ.nextLease ≤ σ'.nextLease := by
  cases hs with
  | get key r shared region =>
      rcases r with e | _ | bytes
      · exact Nat.le_refl _
      · exact Nat.le_refl _
      · exact Nat.le_succ _
  | advance ha => exact ha.nextLease_le
  | _ => exact Nat.le_refl _

theorem Steps.nextLease_le {σ σ' : System K ε} (hs : Steps σ σ') : σ.nextLease ≤ σ'.nextLease := by
  induction hs with
  | refl => exact Nat.le_refl _
  | step _ step ih => exact ih.trans step.nextLease_le

/-- A lease that was out before a run and is held after it was held throughout. -/
theorem Steps.leases_back {σ σ' : System K ε} (hs : Steps σ σ') {lease : Lease K}
    (live : lease ∈ σ'.leases) (old : lease.id < σ.nextLease) : lease ∈ σ.leases := by
  induction hs with
  | refl => exact live
  | step before step ih =>
      have hle := before.nextLease_le
      exact ih (step.leases_back live (by omega))

/-- Leases are safe in every state that any interleaving reaches, and from there on. -/
theorem lease_safe {config : CacheConfig} {σ : System K ε} (h : Reachable config σ) :
    σ.LeaseSafe := by
  have hinv := h.inv.1
  refine ⟨fun key bytes pins lastUsed resident hl => hinv.pins_eq hl, fun lease live =>
    hinv.holds live, ?_, fun lease live => (hinv.lease_origin live).2, ?_⟩
  · intro σ₁ σ₂ before after lease live still
    have hreached := before.reachable h
    have hid : lease.id < σ.nextLease := hinv.fresh lease live
    have hmono : σ.nextLease ≤ σ₁.nextLease := before.nextLease_le
    have hlive : lease ∈ σ₁.leases := after.leases_back still (by omega)
    exact ⟨hlive, hreached.inv.1.holds hlive⟩
  · intro size hsize lease live
    obtain ⟨call, called, keyed, -, hlen⟩ := (hinv.lease_origin live).2
    rw [hlen, hsize _ call called, keyed]

/-- A second client gets the entry and the first lease is dropped: the second still holds. -/
theorem lease_safe_shared : ∃ σ σ' : System Nat Unit,
      σ.leases = [⟨1, 7, [5, 6], 0⟩, ⟨0, 7, [5, 6], 0⟩] ∧
    σ'.leases = [⟨1, 7, [5, 6], 0⟩] ∧ σ.LeaseSafe ∧ σ'.Holds ⟨1, 7, [5, 6], 0⟩ := by
  obtain ⟨σ, h, hleases, hshared, hnext, horigin⟩ := loaded_run
  have hget : State.get 7 σ.shared = (.ok (some [5, 6]), { loadedState with
      entries := loadedState.entries.insert 7 (.ready [5, 6] 2 3 false), tick := 3,
      hits := 1 }) := by
    rw [hshared]
    rfl
  have hgotten := Step.get 7 _ _ hget
  generalize hσ₁ : ((σ.setShared _).gotten 7 _) = σ₁ at hgotten
  have htwo : σ₁.leases = [⟨1, 7, [5, 6], 0⟩, ⟨0, 7, [5, 6], 0⟩] := by
    rw [← hσ₁]
    simp only [gotten, grant, setShared, hleases, hnext, horigin]
  have hsafe := lease_safe (h.step hgotten)
  have hdropped := Step.dropLease (σ := σ₁) ⟨0, 7, [5, 6], 0⟩ (by rw [htwo]; decide)
  have hone : (σ₁.dropped ⟨0, 7, [5, 6], 0⟩).leases = [⟨1, 7, [5, 6], 0⟩] := by
    show σ₁.leases.erase _ = _
    rw [htwo]
    decide
  have hsteps : Steps σ₁ (σ₁.dropped ⟨0, 7, [5, 6], 0⟩) := .step (.refl σ₁) hdropped
  have hkept := hsafe.kept _ _ hsteps (.refl _) ⟨1, 7, [5, 6], 0⟩ (by rw [htwo]; decide)
      (by rw [hone]; decide)
  exact ⟨σ₁, _, htwo, hone, hsafe, hkept.2⟩

/-! ### Single flight -/

/-- At most one load per key, and nobody waits for a load that is not there. -/
structure SingleFlight (σ : System K ε) : Prop where
  once : ∀ key id id', σ.InFlight key id → σ.InFlight key id' → id = id'
  alive : ∀ key expected resident, σ.shared.entries.lookup key = some (.loading expected resident) →
    ∃ id, σ.InFlight key id
  awaited : ∀ key id, σ.Blocked key id → ∃ id', σ.InFlight key id'
  released : ∀ id call e, σ.calls id = some call → call.phase = .releasing e →
    call.Failed e ∧ State.Puts σ.shared (σ.released id call e).shared call.key none ∧
      (σ.released id call e).shared.reservedBytes + call.expectedBytes = σ.shared.reservedBytes ∧
      (σ.released id call e).shared.usedBytes = σ.shared.usedBytes ∧
      (∀ key id', ¬ (σ.released id call e).Blocked key id') ∧
      ∀ expected, expected ≤ call.expectedBytes → ∃ shared,
        State.examine σ.config call.key expected (σ.released id call e).shared =
          (.ok .reserved, shared)
  retried : ∀ id call, σ.calls id = some call → call.phase = .polling →
    σ.shared.entries.lookup call.key = none →
    ∃ r shared, State.examine σ.config call.key call.expectedBytes σ.shared = (r, shared) ∧
      (r = .ok .reserved ∨ r = .error (.capacityPinned call.expectedBytes) ∨
        r = .error (.arithmeticOverflow .committed))
  genuine : ∀ lease ∈ σ.leases, σ.Loaded lease.key lease.origin lease.bytes
  invoked : ∀ id call, σ.calls id = some call → call.invocations ≤ 1 ∧ call.phase ≠ .panicked

theorem Inv.once {σ : System K ε} (h : σ.Inv) {key : K} {id id' : Nat} (hf : σ.InFlight key id)
    (hf' : σ.InFlight key id') : id = id' := by
  obtain ⟨call, called, keyed, flying⟩ := hf
  obtain ⟨-, -, only⟩ := (h.slot key).of_inFlight called keyed flying
  exact (only id' hf').symm

theorem Inv.awaited {σ : System K ε} (h : σ.Inv) {key : K} {id : Nat} (hb : σ.Blocked key id) :
    ∃ id', σ.InFlight key id' := by
  have hslot := h.slot key
  generalize σ.shared.entries.lookup key = e at hslot
  cases hslot with
  | vacant free idle awake => exact absurd hb (awake id)
  | loading resident id' call free called keyed flying only =>
      exact ⟨id', call, called, keyed, flying⟩
  | ready bytes lastUsed resident held idle awake loaded => exact absurd hb (awake id)

theorem Inv.alive {σ : System K ε} (h : σ.Inv) {key : K} {expected : Nat} {resident : Bool}
    (hl : σ.shared.entries.lookup key = some (.loading expected resident)) :
    ∃ id, σ.InFlight key id := by
  have hslot := h.slot key
  rw [hl] at hslot
  generalize he : some (Entry.loading expected resident) = e at hslot
  cases hslot with
  | vacant => cases he
  | loading resident id call free called keyed flying only =>
      exact ⟨id, call, called, keyed, flying⟩
  | ready => cases he

theorem Inv.retried {σ : System K ε} (h : σ.Inv) {key : K} (expected : Nat)
    (hl : σ.shared.entries.lookup key = none) :
    ∃ r shared, State.examine σ.config key expected σ.shared = (r, shared) ∧
      (r = .ok .reserved ∨ r = .error (.capacityPinned expected) ∨
        r = .error (.arithmeticOverflow .committed)) := by
  obtain ⟨r, shared, hrun, hexamines, -⟩ := h.accounted.examine h.limit key expected
  refine ⟨r, shared, hrun, ?_⟩
  cases hexamines with
  | hit _ bytes pins lastUsed resident found pinned =>
      rw [hl] at found
      cases found
  | overflow _ bytes pins lastUsed resident found wide same =>
      rw [hl] at found
      cases found
  | wait _ reserved resident found same =>
      rw [hl] at found
      cases found
  | reserved _ _ resident absent drops puts => exact Or.inl rfl
  | full _ e absent drops ends =>
      cases ends with
      | overflow _ wide => exact Or.inr (Or.inr rfl)
      | pinned _ full counted all => exact Or.inr (Or.inl rfl)

/-- A failed load leaves room for the next caller. -/
theorem Inv.released {σ : System K ε} (h : σ.Inv) {id : Nat} {call : Call K ε} {e : LoadError ε}
    (called : σ.calls id = some call) (phase : call.phase = .releasing e) :
    State.Puts σ.shared (σ.released id call e).shared call.key none ∧
      (σ.released id call e).shared.reservedBytes + call.expectedBytes = σ.shared.reservedBytes ∧
      (σ.released id call e).shared.usedBytes = σ.shared.usedBytes ∧
      ∀ expected, expected ≤ call.expectedBytes → ∃ shared,
        State.examine σ.config call.key expected (σ.released id call e).shared =
        (.ok .reserved, shared) := by
  obtain ⟨⟨resident, hl⟩, -, -⟩ := (h.slot call.key).of_inFlight called rfl (by rw [phase]; rfl)
  obtain ⟨hacc, hputs, hreserved, hused⟩ := h.accounted.dropReservation hl
  refine ⟨hputs, hreserved, hused, fun expected hle => ?_⟩
  have hnone : (State.dropReservation call.key call.expectedBytes σ.shared).entries.lookup
      call.key = none := by
    rw [hputs call.key, if_pos rfl]
  have hwithin := h.accounted.within
  obtain ⟨shared, resident, hrun, -, -, -⟩ := hacc.examine_room h.limit expected hnone (by omega)
  exact ⟨shared, hrun⟩

/-- Loading is single-flight in every state that any interleaving reaches. -/
theorem single_flight {config : CacheConfig} {σ : System K ε} (h : Reachable config σ) :
    σ.SingleFlight := by
  have hinv := h.inv.1
  refine ⟨fun key id id' => hinv.once, fun key expected resident => hinv.alive, fun key id =>
    hinv.awaited, ?_, fun id call called phase hl => hinv.retried call.expectedBytes hl,
    fun lease live => (hinv.lease_origin live).2, ?_⟩
  · intro id call e called phase
    have hsound := hinv.sound id call called
    simp only [Call.Sound, phase] at hsound
    obtain ⟨hputs, hreserved, hused, hroom⟩ := hinv.released called phase
    exact ⟨hsound.2, hputs, hreserved, hused, notifyAll_awake _, hroom⟩
  · intro id call called
    have hsound := hinv.sound id call called
    unfold Call.Sound at hsound
    cases hphase : call.phase with
    | panicked => simp only [hphase] at hsound
    | _ =>
        simp only [hphase] at hsound
        refine ⟨by omega, by simp⟩

/-- A client waits for a load that has failed: its release wakes the waiter, which has room. -/
theorem single_flight_failed : ∃ σ : System Nat Unit, σ.Blocked 7 1 ∧ σ.InFlight 7 0 ∧
    (∃ call, σ.calls 0 = some call ∧ call.phase = .releasing (.loader ())) ∧ σ.SingleFlight := by
  have started : Reachable ⟨3, 2⟩
      ((initial ⟨3, 2⟩ : System Nat Unit).setCall 0 ⟨7, 2, .polling, true, 0, none⟩) :=
    .step (.init rfl (by decide)) (.start 0 7 2 rfl)
  have reserved :=
    Reachable.step started
      (.advance (.examine 0 ⟨7, 2, .polling, true, 0, none⟩ (.ok .reserved) loadingState
    rfl rfl rfl))
  have entered := Reachable.step reserved (.start 1 7 2 rfl)
  have waiting :=
    Reachable.step entered (.advance (.examine 1 ⟨7, 2, .polling, true, 0, none⟩ (.ok .wait)
    { loadingState with tick := 2, waits := 1 } rfl rfl rfl))
  have invoked :=
    Reachable.step waiting (.advance (.invoke 0 ⟨7, 2, .reserved, true, 0, none⟩ rfl rfl))
  have failed :=
    Reachable.step invoked
      (.advance (.finish 0 ⟨7, 2, .loading, false, 1, none⟩ (.error ()) rfl rfl))
  exact ⟨_, ⟨_, rfl, rfl, rfl⟩, ⟨_, rfl, rfl, rfl⟩, ⟨_, rfl, rfl⟩, single_flight failed⟩

end System
end LightBridge.ExpertCache
