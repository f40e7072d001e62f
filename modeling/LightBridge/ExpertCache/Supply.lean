import LightBridge.ExpertCache.Residency

/-! What one client alone gets from the cache when the source is healthy: an answer that
depends on the source and the capacity and on nothing the cache went through before. -/
namespace LightBridge.ExpertCache
open Foundation
namespace System
variable {K ε : Type} [DecidableEq K]

/-- What the client ends with: a lease for every key, or the error of one of its calls. -/
inductive Acquired (keys : List K) (σ₀ σ : System K ε) : Except (LoadError ε)
    (List (Lease K)) → Prop where
  | held (leases : List (Lease K)) (live : ∀ lease ∈ leases, lease ∈ σ.leases)
      (keyed : leases.map Lease.key = keys) : Acquired keys σ₀ σ (.ok leases)
  | refused (id : Nat) (call : Call K ε) (e : LoadError ε) (new : σ₀.calls id = none)
      (called : σ.calls id = some call) (phase : call.phase = .returned (.error e)) :
      Acquired keys σ₀ σ (.error e)

/-- A deterministic source: whenever a loader answered, it answered the payload of its key,
and since `σ₀` none has failed. -/
structure Sourced (source : K → List UInt8) (σ₀ σ : System K ε) : Prop where
  payload : ∀ id call bytes, σ.calls id = some call → call.outcome = some (.ok bytes) →
    bytes = source call.key
  healthy : ∀ id call e, σ₀.calls id = none → σ.calls id = some call →
    call.outcome ≠ some (.error e)

/-- What a healthy source supplies through a cache of this capacity. -/
def supplied (ε : Type) (capacity size : Nat) (source : K → List UInt8) (keys : List K) :
    Except (LoadError ε) (List (List UInt8)) :=
  if size = 0 then .error (.cache .emptyEntry)
  else if capacity < size then .error (.cache (.entryTooLarge size capacity))
  else if keys.length * size ≤ capacity then .ok (keys.map source)
  else .error (.cache (.capacityPinned size))

/-- The bytes behind an answer. -/
def payloads (outcome : Except (LoadError ε) (List (Lease K))) : Except (LoadError ε)
    (List (List UInt8)) :=
  match outcome with
  | .ok leases => .ok (leases.map Lease.bytes)
  | .error e => .error e

/-- A call of the client was turned away at the door, or asks for a size the cache can hold. -/
inductive Entered (capacity size : Nat) (phase : Phase ε) : Prop where
  | empty (zero : size = 0) (phase : phase = .returned (.error (.cache .emptyEntry)))
  | tooLarge (positive : 0 < size) (large : capacity < size)
      (phase : phase = .returned (.error (.cache (.entryTooLarge size capacity))))
  | admitted (positive : 0 < size) (fits : size ≤ capacity)

omit [DecidableEq K] in
theorem entered_entering (σ : System K ε) (key : K) (size : Nat) :
    Entered σ.config.capacityBytes size (σ.entering key size).phase := by
  by_cases hzero : size = 0
  · exact .empty hzero (by simp [entering, enter, hzero])
  · by_cases hlarge : σ.config.capacityBytes < size
    · exact .tooLarge (by omega) hlarge (by simp [entering, enter, hzero, hlarge])
    · exact .admitted (by omega) (by omega)

theorem Fetch.config {keys : List K} {size : Nat} {σ₀ σ : System K ε} (h : Fetch keys size σ₀ σ) :
    σ.config = σ₀.config := by
  induction h with
  | refl => rfl
  | start run id key fresh mem ih => exact ih
  | advance run ha ih => exact ha.config.trans ih

theorem Fetch.entered {keys : List K} {size : Nat} {σ₀ σ : System K ε}
    (h : Fetch keys size σ₀ σ) {id : Nat} {call : Call K ε} (new : σ₀.calls id = none)
    (called : σ.calls id = some call) :
    Entered σ₀.config.capacityBytes size call.phase := by
  induction h generalizing call with
  | refl =>
      rw [new] at called
      cases called
  | start run id' key fresh mem ih =>
      rcases calls_setCall.mp called with ⟨rfl, rfl⟩ | ⟨-, hc⟩
      · rw [← run.config]
        exact entered_entering _ key size
      · exact ih hc
  | advance run ha ih =>
      obtain ⟨call₀, called₀, hmoved⟩ := ha.moved called
      have hbefore := ih called₀
      cases hbefore with
      | empty zero phase => exact .empty zero (by rw [hmoved.settled _ phase, phase])
      | tooLarge positive large phase =>
          exact .tooLarge positive large (by rw [hmoved.settled _ phase, phase])
      | admitted positive fits => exact .admitted positive fits

/-- The ways a call of the client can fail. -/
inductive Refusal (capacity size : Nat) (call : Call K ε) : LoadError ε → Prop where
  | empty (zero : size = 0) : Refusal capacity size call (.cache .emptyEntry)
  | tooLarge (positive : 0 < size) (large : capacity < size) :
      Refusal capacity size call (.cache (.entryTooLarge size capacity))
  | overflow (site : OverflowSite) : Refusal capacity size call (.cache (.arithmeticOverflow site))
  | pinned (positive : 0 < size) (fits : size ≤ capacity) :
      Refusal capacity size call (.cache (.capacityPinned size))
  | failed (e : LoadError ε) (failed : call.Failed e) : Refusal capacity size call e

theorem Fetch.refusal {keys : List K} {size : Nat} {σ₀ σ : System K ε} (h : Fetch keys size σ₀ σ)
    (quiet : σ₀.Quiet) (hinv : σ₀.Inv) {id : Nat} {call : Call K ε} (new : σ₀.calls id = none)
    (called : σ.calls id = some call) {e : LoadError ε}
    (phase : call.phase = .returned (.error e)) :
    Refusal σ₀.config.capacityBytes size call e := by
  induction h generalizing call with
  | refl =>
      rw [new] at called
      cases called
  | @start σ run id' key fresh mem ih =>
      rcases calls_setCall.mp called with ⟨rfl, rfl⟩ | ⟨-, hc⟩
      · have hentered := entered_entering σ key size
        rw [run.config, phase] at hentered
        cases hentered with
        | empty zero hphase =>
            cases hphase
            exact .empty zero
        | tooLarge positive large hphase =>
            cases hphase
            exact .tooLarge positive large
        | admitted positive fits =>
            simp only [entering, enter, run.config, Nat.ne_of_gt positive, Nat.not_lt.mpr fits,
              if_false] at phase
            cases phase
      · exact ih hc phase
  | @advance σ σ' run ha ih =>
      have hreached := run.steps.inv hinv
      obtain ⟨call₀, called₀, hmoved⟩ := ha.moved called
      rcases hmoved.failed e phase with hret | ⟨hrel, houtcome⟩ | ⟨hpolling, error,
        shared, rfl, hrun⟩
      · have hsame := hmoved.settled _ hret
        subst hsame
        exact ih called₀ hret
      · have hsound := hreached.1.sound id call₀ called₀
        simp only [Call.Sound, hrel] at hsound
        refine .failed e ?_
        rw [Call.Failed, houtcome, hmoved.expected]
        exact hsound.2
      · obtain ⟨positive, fits⟩ : 0 < size ∧ size ≤ σ₀.config.capacityBytes := by
          have hbefore := run.entered new called₀
          rw [hpolling] at hbefore
          cases hbefore with
          | empty zero hphase => cases hphase
          | tooLarge positive large hphase => cases hphase
          | admitted positive fits => exact ⟨positive, fits⟩
        have hsize : call₀.expectedBytes = size := by
          rcases (run.confined quiet).calls id call₀ called₀ with ⟨hold, -⟩ | ⟨-, -, hsize⟩
          · rw [new] at hold
            cases hold
          · exact hsize
        obtain ⟨r, s', hexamine, hexamines, -⟩ :=
          hreached.1.accounted.examine hreached.1.limit call₀.key
          call₀.expectedBytes
        rw [hrun] at hexamine
        cases hexamine
        cases hexamines with
        | overflow => exact .overflow _
        | full _ _ absent drops ends =>
            cases ends with
            | overflow => exact .overflow _
            | pinned =>
                rw [hsize]
                exact .pinned positive fits

/-- Whoever holds a lease asked for a size the cache can hold. -/
theorem Fetch.admitted {keys : List K} {size : Nat} {σ₀ σ : System K ε} (h : Fetch keys size σ₀ σ)
    (quiet : σ₀.Quiet) {lease : Lease K} (live : lease ∈ σ.leases) :
    0 < size ∧ size ≤ σ₀.config.capacityBytes := by
  induction h with
  | refl =>
      rw [quiet.leases] at live
      cases live
  | start run id key fresh mem ih => exact ih live
  | advance run ha ih =>
      rcases ha.granted live with hold | ⟨id, call, called, hrunning, -⟩
      · exact ih hold
      · have hnew : σ₀.calls id = none := by
          rcases (run.confined quiet).calls id call called with ⟨-, r, hr⟩ | ⟨hnew, -, -⟩
          · exact absurd hr (hrunning r)
          · exact hnew
        cases run.entered hnew called with
        | empty zero phase => exact absurd phase (hrunning _)
        | tooLarge positive large phase => exact absurd phase (hrunning _)
        | admitted positive fits => exact ⟨positive, fits⟩

/-- The bytes of a live lease are the payload of its key, of the size the client asked for. -/
theorem Inv.lease_payload {σ₀ σ : System K ε} (h : σ.Inv) {keys : List K} {size : Nat}
    (hsized : σ.Sized keys size) {source : K → List UInt8} (sourced : Sourced source σ₀ σ)
    {lease : Lease K} (live : lease ∈ σ.leases)
    (mem : lease.key ∈ keys) : lease.bytes = source lease.key ∧ lease.bytes.length = size := by
  obtain ⟨pins, lastUsed, resident, hl⟩ := h.lease_ready live
  have hslot := h.slot lease.key
  rw [hl] at hslot
  generalize he : some (Entry.ready lease.bytes (pins + 1) lastUsed resident) = e at hslot
  cases hslot with
  | vacant => cases he
  | loading => cases he
  | ready bytes _ _ _ _ _ loaded =>
      simp only [Option.some.injEq, Entry.ready.injEq] at he
      obtain ⟨rfl, -, -, -⟩ := he
      obtain ⟨call, called, keyed, houtcome, hlen⟩ := loaded
      rw [hsized _ call called (keyed ▸ mem)] at hlen
      exact ⟨(sourced.payload _ call _ called houtcome).trans (by rw [keyed]), hlen⟩

/-- A client alone on a healthy source gets what the source and the capacity say, unless a
count of bytes overflows. -/
theorem Fetch.acquired {keys : List K} {size : Nat} {σ₀ σ : System K ε} (h : Fetch keys size σ₀ σ)
    (quiet : σ₀.Quiet) (hinv : σ₀.Inv) (hsized : σ₀.Sized keys size) (nodup : keys.Nodup)
    (nonempty : keys ≠ []) {source : K → List UInt8} (sourced : Sourced source σ₀ σ)
    (length : ∀ key ∈ keys, (source key).length = size)
    {outcome : Except (LoadError ε) (List (Lease K))} (acquired : Acquired keys σ₀ σ outcome)
    (counted : ∀ site, outcome ≠ .error (.cache (.arithmeticOverflow site))) :
    payloads outcome = supplied ε σ₀.config.capacityBytes size source keys := by
  have hreached := h.steps.inv hinv
  have hconfined := h.confined quiet
  cases acquired with
  | held leases live keyed =>
      have hpayload : ∀ lease ∈ leases, lease.bytes = source lease.key ∧
          lease.bytes.length = size := by
        intro lease mem
        refine hreached.1.lease_payload (hconfined.sized hsized) sourced (live lease mem) ?_
        rw [← keyed]
        exact List.mem_map_of_mem mem
      obtain ⟨positive, fits⟩ : 0 < size ∧ size ≤ σ₀.config.capacityBytes := by
        obtain ⟨lease, mem⟩ := List.exists_mem_of_ne_nil leases fun hnil =>
          nonempty (by rw [← keyed, hnil]; rfl)
        exact h.admitted quiet (live lease mem)
      have hroom : keys.length * size ≤ σ₀.config.capacityBytes := by
        have hsum : keys.length * size ≤ σ.shared.entries.total Entry.readyBytes := by
          refine Table.le_total_of_nodup nodup fun key mem => ?_
          rw [← keyed] at mem
          obtain ⟨lease, hmem, rfl⟩ := List.mem_map.mp mem
          obtain ⟨pins, lastUsed, resident, hl⟩ := hreached.1.lease_ready (live lease hmem)
          exact ⟨_, hl, (hpayload lease hmem).2.ge⟩
        have hused := hreached.1.accounted.used
        have hwithin := hreached.1.accounted.within
        rw [hreached.2] at hwithin
        omega
      rw [supplied, if_neg (Nat.ne_of_gt positive), if_neg (Nat.not_lt.mpr fits), if_pos hroom,
        payloads, ← keyed, List.map_map]
      exact congrArg Except.ok (List.map_congr_left fun lease mem => (hpayload lease mem).1)
  | refused id call e new called phase =>
      cases h.refusal quiet hinv new called phase with
      | empty zero => rw [supplied, if_pos zero, payloads]
      | tooLarge positive large =>
          rw [supplied, if_neg (Nat.ne_of_gt positive), if_pos large, payloads]
      | overflow site => exact absurd rfl (counted site)
      | pinned positive fits =>
          have hfull : ¬ keys.length * size ≤ σ₀.config.capacityBytes := fun hroom =>
            h.not_pinned quiet hinv hsized (Or.inl hroom) new called size phase
          rw [supplied, if_neg (Nat.ne_of_gt positive), if_neg (Nat.not_lt.mpr fits),
            if_neg hfull, payloads]
      | failed _ failed =>
          rcases failed with ⟨error, houtcome, -⟩ | ⟨bytes, houtcome, hlen, -⟩
          · exact absurd houtcome (sourced.healthy id call error new called)
          · obtain ⟨mem, hsize⟩ : call.key ∈ keys ∧ call.expectedBytes = size := by
              rcases hconfined.calls id call called with ⟨hold, -⟩ | ⟨-, mem, hsize⟩
              · rw [new] at hold
                cases hold
              · exact ⟨mem, hsize⟩
            rw [sourced.payload id call bytes called houtcome, length _ mem, hsize] at hlen
            exact absurd rfl hlen

/-- A client of an empty cache with room for its keys ends with a lease for each of them. -/
theorem exists_supplied {source : K → List UInt8} {keys : List K} {size : Nat}
    {config : CacheConfig} (limit : config.capacityBytes ≤ usizeMax) (nodup : keys.Nodup)
    (length : ∀ key ∈ keys, (source key).length = size) (hsize : 0 < size)
    (room : keys.length * size ≤ config.capacityBytes) :
    ∃ σ : System K ε, Fetch keys size (initial config) σ ∧
      Acquired keys (initial config) σ (.ok (leasesFor source keys)) ∧
      Sourced source (initial config) σ := by
  obtain ⟨σ, run, hfilled⟩ :=
    exists_filled (ε := ε) limit nodup length hsize keys.length (Nat.le_refl _) room
  have hleases := hfilled.leases
  rw [List.take_length] at hleases
  refine ⟨σ, run, .held _ (fun lease mem => ?_) ?_, ⟨?_, ?_⟩⟩
  · rw [hleases]
    exact List.mem_reverse.mpr mem
  · rw [leasesFor, List.map_map]
    exact List.zipIdx_map_fst 0 keys
  · intro id call bytes called houtcome
    exact Except.ok.inj (hfilled.answered id call _ called houtcome)
  · intro id call e _ called houtcome
    cases hfilled.answered id call _ called houtcome

end System
end LightBridge.ExpertCache
