import LightBridge.ExpertCache.Supply

/-! What the clients that share a cache get from it: whoever holds leases has the payloads of the
source, whatever the other clients do. -/
namespace LightBridge.ExpertCache
open Foundation
namespace System
variable {K ε : Type} [DecidableEq K]

/-- A call was turned away at the door, or asks for a size the cache can hold. -/
def Served (capacity : Nat) (call : Call K ε) : Prop :=
  (call.outcome = none ∧ ∃ r, call.phase = .returned r) ∨
    0 < call.expectedBytes ∧ call.expectedBytes ≤ capacity

omit [DecidableEq K] in
theorem Served.notify {capacity : Nat} {call : Call K ε} (h : Served capacity call) :
    Served capacity call.notify := by
  rcases h with ⟨hnone, r, hr⟩ | hsize
  · have hsame : call.notify = call := by
      unfold Call.notify
      rw [hr]
    rw [hsame]
    exact .inl ⟨hnone, r, hr⟩
  · exact .inr (by rwa [Call.notify_expectedBytes])

omit [DecidableEq K] in
theorem served_entering (σ : System K ε) (key : K) (size : Nat) :
    Served σ.config.capacityBytes (σ.entering key size) := by
  rcases entered_entering σ key size with ⟨-, hphase⟩ | ⟨-, -, hphase⟩ | ⟨positive, fits⟩
  · exact .inl ⟨rfl, _, hphase⟩
  · exact .inl ⟨rfl, _, hphase⟩
  · exact .inr ⟨positive, fits⟩

/-- No step serves a call of another size. -/
theorem Step.served {σ σ' : System K ε} (hs : Step σ σ') {capacity : Nat}
    (hcapacity : σ.config.capacityBytes = capacity)
    (h : ∀ id call, σ.calls id = some call → Served capacity call) :
    ∀ id call, σ'.calls id = some call → Served capacity call := by
  intro id call called
  cases hs with
  | start id' key size fresh =>
      rcases calls_setCall.mp called with ⟨rfl, rfl⟩ | ⟨-, hold⟩
      · rw [← hcapacity]
        exact served_entering σ key size
      · exact h id call hold
  | get key r shared region =>
      refine h id call ?_
      rcases r with e | _ | bytes
      · exact called
      · exact called
      · exact called
  | advance ha =>
      obtain ⟨before, hbefore, hmoved⟩ := ha.moved called
      rcases h id before hbefore with ⟨hnone, r, hr⟩ | hsize
      · rw [hmoved.settled r hr]
        exact .inl ⟨hnone, r, hr⟩
      · exact .inr (by rwa [hmoved.expected])
  | dropLease lease live =>
      obtain ⟨before, hbefore, rfl⟩ := calls_notifyAll.mp called
      exact (h id before hbefore).notify
  | clear r shared region => exact h id call called

theorem Reachable.served {config : CacheConfig} {σ : System K ε} (h : Reachable config σ) :
    ∀ id call, σ.calls id = some call → Served config.capacityBytes call := by
  induction h with
  | init valid limit =>
      intro id call called
      cases called
  | step before step ih => exact step.served (by rw [before.inv.2]) ih

/-- Leases that a client holds on `keys` in a state that any number of clients have brought about,
over a source with one payload for a key. -/
structure Held (ε : Type) (config : CacheConfig) (source : K → List UInt8) (keys : List K)
    (size : Nat) (leases : List (Lease K)) : Prop where
  state : ∃ σ : System K ε, Reachable config σ ∧ σ.Sized keys size ∧
    (∀ id call bytes, σ.calls id = some call → call.outcome = some (.ok bytes) →
      bytes = source call.key) ∧ ∀ lease ∈ leases, lease ∈ σ.leases
  keyed : leases.map Lease.key = keys

/-- Whoever holds leases has what a client alone would get. -/
theorem Held.payloads {config : CacheConfig} {source : K → List UInt8} {keys : List K} {size : Nat}
    {leases : List (Lease K)} (h : Held ε config source keys size leases) (nodup : keys.Nodup)
    (nonempty : keys ≠ []) :
    System.payloads (ε := ε) (.ok leases) = supplied ε config.capacityBytes size source keys := by
  obtain ⟨σ, hreachable, hsized, hpayload, hlive⟩ := h.state
  obtain ⟨hinv, hconfig⟩ := hreachable.inv
  have hsourced : Sourced source σ σ := by
    refine ⟨hpayload, ?_⟩
    intro id call e hnew hcalled
    rw [hnew] at hcalled
    cases hcalled
  have hmem : ∀ lease ∈ leases, lease.key ∈ keys := by
    intro lease hlease
    rw [← h.keyed]
    exact List.mem_map_of_mem hlease
  have hbytes : ∀ lease ∈ leases, lease.bytes = source lease.key ∧ lease.bytes.length = size :=
    fun lease hlease => hinv.lease_payload hsized hsourced (hlive lease hlease) (hmem lease hlease)
  obtain ⟨positive, fits⟩ : 0 < size ∧ size ≤ config.capacityBytes := by
    obtain ⟨lease, hlease⟩ := List.exists_mem_of_ne_nil leases fun hnil =>
      nonempty (by rw [← h.keyed, hnil]; rfl)
    obtain ⟨pins, lastUsed, resident, hl⟩ := hinv.lease_ready (hlive lease hlease)
    have hslot := hinv.slot lease.key
    rw [hl] at hslot
    generalize he : some (Entry.ready lease.bytes (pins + 1) lastUsed resident) = e at hslot
    cases hslot with
    | vacant => cases he
    | loading => cases he
    | ready _ _ _ _ _ _ loaded =>
        obtain ⟨call, called, keyed, houtcome, -⟩ := loaded
        have hsize := hsized _ call called (keyed ▸ hmem lease hlease)
        rcases hreachable.served _ call called with ⟨hnone, -⟩ | hserved
        · rw [hnone] at houtcome
          cases houtcome
        · rwa [hsize] at hserved
  have hroom : keys.length * size ≤ config.capacityBytes := by
    have hsum : keys.length * size ≤ σ.shared.entries.total Entry.readyBytes := by
      refine Table.le_total_of_nodup nodup fun key hkey => ?_
      rw [← h.keyed] at hkey
      obtain ⟨lease, hlease, rfl⟩ := List.mem_map.mp hkey
      obtain ⟨pins, lastUsed, resident, hl⟩ := hinv.lease_ready (hlive lease hlease)
      exact ⟨_, hl, (hbytes lease hlease).2.ge⟩
    have hused := hinv.accounted.used
    have hwithin := hinv.accounted.within
    rw [hconfig] at hwithin
    omega
  rw [supplied, if_neg (Nat.ne_of_gt positive), if_neg (Nat.not_lt.mpr fits), if_pos hroom,
    System.payloads, ← h.keyed, List.map_map]
  exact congrArg Except.ok (List.map_congr_left fun lease hlease => (hbytes lease hlease).1)

end System
end LightBridge.ExpertCache
