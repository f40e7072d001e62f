import LightBridge.ExpertCache.System

/-! The invariant of the cache under any interleaving, one key at a time. -/
namespace LightBridge.ExpertCache
open Foundation

/-- The errors that would mean the cache lost track of its own entries. -/
inductive CacheError.Internal : CacheError → Prop where
  | reservationLost : Internal .reservationLost
  | record : Internal (.arithmeticOverflow .record)
  | complete : Internal (.arithmeticOverflow .complete)
  | evict : Internal (.arithmeticOverflow .evict)
  | clear : Internal (.arithmeticOverflow .clear)

def LoadError.Internal {ε : Type} : LoadError ε → Prop
  | .loader _ => False
  | .cache e => e.Internal

/-- A loader that failed or returned the wrong number of bytes. -/
def Call.Failed {K ε : Type} (call : Call K ε) (e : LoadError ε) : Prop :=
  (∃ error, call.outcome = some (.error error) ∧ e = .loader error) ∨
    ∃ bytes, call.outcome = some (.ok bytes) ∧ bytes.length ≠ call.expectedBytes ∧
      e = .cache (.loadedSizeMismatch call.expectedBytes bytes.length)

/-- What holds of a call in each phase. -/
def Call.Sound {K ε : Type} (call : Call K ε) : Prop :=
  match call.phase with
  | .polling | .waiting _ | .reserved =>
      call.loader = true ∧ call.invocations = 0 ∧ call.outcome = none
  | .loading => call.invocations = 1 ∧ call.outcome = none
  | .loaded bytes =>
      call.invocations = 1 ∧ call.outcome = some (.ok bytes) ∧ bytes.length = call.expectedBytes
  | .releasing e => call.invocations = 1 ∧ call.Failed e
  | .returned r => call.invocations ≤ 1 ∧ ∀ e, r = .error e → ¬ e.Internal
  | .panicked => False

namespace Call
variable {K ε : Type} (call : Call K ε)

@[simp] theorem notify_key : call.notify.key = call.key := by
  unfold notify
  split <;> rfl

@[simp] theorem notify_expectedBytes : call.notify.expectedBytes = call.expectedBytes := by
  unfold notify
  split <;> rfl

@[simp] theorem notify_outcome : call.notify.outcome = call.outcome := by
  unfold notify
  split <;> rfl

@[simp] theorem notify_inFlight : call.notify.phase.inFlight = call.phase.inFlight := by
  unfold notify
  split
  · rename_i hp
    rw [hp]
    rfl
  · rfl

theorem notify_phase_ne : call.notify.phase ≠ .waiting false := by
  unfold notify
  split
  · simp [move]
  · rename_i hnot
    exact hnot false

theorem Sound.notify {call : Call K ε} (h : call.Sound) : call.notify.Sound := by
  unfold Call.notify
  split
  · rename_i hp
    simp only [Sound, hp] at h ⊢
    exact h
  · exact h

end Call

namespace System
variable {K ε : Type} [DecidableEq K]

/-- The parties of `key` are the same in both states, up to being notified. -/
structure Agrees (σ σ' : System K ε) (key : K) : Prop where
  inFlight : ∀ id, σ'.InFlight key id → σ.InFlight key id
  blocked : ∀ id, σ'.Blocked key id → σ.Blocked key id
  kept : ∀ id call, σ.calls id = some call → call.key = key → ∃ call', σ'.calls id = some call' ∧
    call'.key = key ∧ call'.expectedBytes = call.expectedBytes ∧
    call'.phase.inFlight = call.phase.inFlight ∧
    ∀ o, call.outcome = some o → call'.outcome = some o
  leases : σ'.leasesOf key = σ.leasesOf key
  origin : σ'.origin key = σ.origin key

theorem Agrees.refl (σ : System K ε) (key : K) : Agrees σ σ key where
  inFlight := fun _ h => h
  blocked := fun _ h => h
  kept := fun _ call h hk => ⟨call, h, hk, rfl, rfl, fun _ ho => ho⟩
  leases := rfl
  origin := rfl

theorem Agrees.trans {a b c : System K ε} {key : K} (h : Agrees a b key) (h' : Agrees b c key) :
    Agrees a c key where
  inFlight := fun id hi => h.inFlight id (h'.inFlight id hi)
  blocked := fun id hi => h.blocked id (h'.blocked id hi)
  kept := fun id call hc hk => by
    obtain ⟨call₁, hc₁, hk₁, he₁, hf₁, ho₁⟩ := h.kept id call hc hk
    obtain ⟨call₂, hc₂, hk₂, he₂, hf₂, ho₂⟩ := h'.kept id call₁ hc₁ hk₁
    exact ⟨call₂, hc₂, hk₂, he₂.trans he₁, hf₂.trans hf₁, fun o ho => ho₂ o (ho₁ o ho)⟩
  leases := h'.leases.trans h.leases
  origin := h'.origin.trans h.origin

theorem Agrees.setShared (σ : System K ε) (shared : State K) (key : K) :
    Agrees σ (σ.setShared shared) key := ⟨fun _ h => h, fun _ h => h,
  fun _ call h hk => ⟨call, h, hk, rfl, rfl, fun _ ho => ho⟩, rfl, rfl⟩

/-- A call that moves on agrees with what other keys and its own entry rest on. -/
theorem Agrees.setCall (σ : System K ε) {id : Nat} {call call' : Call K ε} {key : K}
    (called : σ.calls id = some call) (hkey : call'.key = call.key)
    (hexpected : call'.expectedBytes = call.expectedBytes)
    (houtcome : ∀ o, call.outcome = some o → call'.outcome = some o)
    (hphase : call.key ≠ key ∨
      (call'.phase.inFlight = call.phase.inFlight ∧ call'.phase ≠ .waiting false)) :
    Agrees σ (σ.setCall id call') key where
  inFlight := by
    rintro id' ⟨c, hc, hk, hf⟩
    by_cases hid : id' = id
    · subst hid
      simp only [System.setCall, Function.update_self, Option.some.injEq] at hc
      subst hc
      rw [hkey] at hk
      rcases hphase with hne | ⟨hsame, -⟩
      · exact absurd hk hne
      · exact ⟨call, called, hk, by rw [← hsame]; exact hf⟩
    · simp only [System.setCall, Function.update_of_ne hid] at hc
      exact ⟨c, hc, hk, hf⟩
  blocked := by
    rintro id' ⟨c, hc, hk, hw⟩
    by_cases hid : id' = id
    · subst hid
      simp only [System.setCall, Function.update_self, Option.some.injEq] at hc
      subst hc
      rw [hkey] at hk
      rcases hphase with hne | ⟨-, hnot⟩
      · exact absurd hk hne
      · exact absurd hw hnot
    · simp only [System.setCall, Function.update_of_ne hid] at hc
      exact ⟨c, hc, hk, hw⟩
  kept := by
    intro id' c hc hk
    by_cases hid : id' = id
    · subst hid
      rw [called] at hc
      cases hc
      refine ⟨call', by simp only [System.setCall, Function.update_self], hkey.trans hk, hexpected,
        ?_, houtcome⟩
      rcases hphase with hne | ⟨hsame, -⟩
      · exact absurd hk hne
      · exact hsame
    · exact ⟨c, by simpa only [System.setCall, Function.update_of_ne hid] using hc, hk, rfl, rfl,
        fun _ ho => ho⟩
  leases := rfl
  origin := rfl

/-- A new call is not in flight and waits for nothing. -/
theorem Agrees.newCall {σ : System K ε} {id : Nat} {call' : Call K ε} (key : K)
    (fresh : σ.calls id = none) (hfly : call'.phase.inFlight = false)
    (hwait : call'.phase ≠ .waiting false) :
    Agrees σ (σ.setCall id call') key where
  inFlight := by
    rintro id' ⟨c, hc, hk, hf⟩
    by_cases hid : id' = id
    · subst hid
      simp only [System.setCall, Function.update_self, Option.some.injEq] at hc
      subst hc
      rw [hfly] at hf
      cases hf
    · simp only [System.setCall, Function.update_of_ne hid] at hc
      exact ⟨c, hc, hk, hf⟩
  blocked := by
    rintro id' ⟨c, hc, hk, hw⟩
    by_cases hid : id' = id
    · subst hid
      simp only [System.setCall, Function.update_self, Option.some.injEq] at hc
      subst hc
      exact absurd hw hwait
    · simp only [System.setCall, Function.update_of_ne hid] at hc
      exact ⟨c, hc, hk, hw⟩
  kept := by
    intro id' c hc hk
    have hid : id' ≠ id := by
      rintro rfl
      rw [fresh] at hc
      cases hc
    exact ⟨c, by simpa only [System.setCall, Function.update_of_ne hid] using hc, hk, rfl, rfl,
      fun _ ho => ho⟩
  leases := rfl
  origin := rfl

theorem leasesOf_grant_self (σ : System K ε) (key : K) (bytes : List UInt8) :
    (σ.grant key bytes).leasesOf key =
      { id := σ.nextLease, key, bytes, origin := σ.origin key } :: σ.leasesOf key := by
  simp [leasesOf, grant]

theorem Agrees.grant {σ : System K ε} {key granted : K} (bytes : List UInt8) (hne : granted ≠ key) :
    Agrees σ (σ.grant granted bytes) key := ⟨fun _ h => h, fun _ h => h,
  fun _ call h hk => ⟨call, h, hk, rfl, rfl, fun _ ho => ho⟩, by
      simp [leasesOf, System.grant, hne], rfl⟩

omit [DecidableEq K] in
theorem calls_notifyAll {σ : System K ε} {id : Nat} {call' : Call K ε} :
    σ.notifyAll.calls id = some call' ↔ ∃ call, σ.calls id = some call ∧ call.notify = call' :=
  Option.map_eq_some_iff

omit [DecidableEq K] in
theorem notifyAll_awake (σ : System K ε) (key : K) (id : Nat) : ¬ σ.notifyAll.Blocked key id := by
  rintro ⟨call', hc, -, hw⟩
  obtain ⟨call, -, rfl⟩ := calls_notifyAll.mp hc
  exact call.notify_phase_ne hw

theorem Agrees.notifyAll (σ : System K ε) (key : K) : Agrees σ σ.notifyAll key where
  inFlight := by
    rintro id ⟨call', hc, hk, hf⟩
    obtain ⟨call, hcall, rfl⟩ := calls_notifyAll.mp hc
    rw [call.notify_key] at hk
    rw [call.notify_inFlight] at hf
    exact ⟨call, hcall, hk, hf⟩
  blocked := fun id h => absurd h (notifyAll_awake σ key id)
  kept := by
    intro id call hc hk
    exact ⟨call.notify, calls_notifyAll.mpr ⟨call, hc, rfl⟩, call.notify_key.trans hk,
      call.notify_expectedBytes, call.notify_inFlight, fun o ho => by rw [call.notify_outcome, ho]⟩
  leases := rfl
  origin := rfl

theorem Loaded.agrees {σ σ' : System K ε} {key : K} {id : Nat} {bytes : List UInt8}
    (h : σ.Loaded key id bytes) (ha : Agrees σ σ' key) : σ'.Loaded key id bytes := by
  obtain ⟨call, hc, hk, ho, hlen⟩ := h
  obtain ⟨call', hc', hk', he', -, ho'⟩ := ha.kept id call hc hk
  exact ⟨call', hc', hk', ho' _ ho, hlen.trans he'.symm⟩

/-- An untouched entry keeps its parties. -/
theorem Slot.agrees {σ σ' : System K ε} {key : K} {e : Option Entry} (h : Slot σ key e)
    (ha : Agrees σ σ' key) : Slot σ' key e := by
  cases h with
  | vacant free idle awake =>
      exact .vacant (ha.leases.trans free) (fun id hi => idle id (ha.inFlight id hi))
        fun id hb => awake id (ha.blocked id hb)
  | loading resident id call free called keyed flying only =>
      obtain ⟨call', hc', hk', he', hf', -⟩ := ha.kept id call called keyed
      rw [← he']
      exact .loading resident id call' (ha.leases.trans free) hc' hk' (hf'.trans flying)
        fun id' hi => only id' (ha.inFlight id' hi)
  | ready bytes lastUsed resident held idle awake loaded =>
      rw [← ha.leases]
      refine .ready bytes lastUsed resident (fun l hl => ?_)
        (fun id hi => idle id (ha.inFlight id hi))
        (fun id hb => awake id (ha.blocked id hb)) ?_
      · rw [ha.leases] at hl
        rw [ha.origin]
        exact held l hl
      · rw [ha.origin]
        exact loaded.agrees ha

/-- An unpinned entry has no lease and leaves nobody behind. -/
theorem Slot.dropped {σ : System K ε} {key : K} {bytes : List UInt8} {lastUsed : Nat}
    {resident : Bool}
    (h : Slot σ key (some (.ready bytes 0 lastUsed resident))) : Slot σ key none := by
  generalize he : some (Entry.ready bytes 0 lastUsed resident) = e at h
  cases h with
  | vacant free idle awake => exact .vacant free idle awake
  | loading => cases he
  | ready _ _ _ held idle awake loaded =>
      simp only [Option.some.injEq, Entry.ready.injEq] at he
      exact .vacant (List.length_eq_zero_iff.mp he.2.1.symm) idle awake

/-- Only a loading entry has a call in flight, and only one. -/
theorem Slot.of_inFlight {σ : System K ε} {key : K} {e : Option Entry} (h : Slot σ key e) {id : Nat}
    {call : Call K ε} (called : σ.calls id = some call) (keyed : call.key = key)
    (flying : call.phase.inFlight = true) :
    (∃ resident, e = some (.loading call.expectedBytes resident)) ∧ σ.leasesOf key = [] ∧
      ∀ id', σ.InFlight key id' → id' = id := by
  have hfly : σ.InFlight key id := ⟨call, called, keyed, flying⟩
  cases h with
  | vacant free idle awake => exact absurd hfly (idle id)
  | loading resident id₀ call₀ free called₀ keyed₀ flying₀ only =>
      obtain rfl := only id hfly
      rw [called] at called₀
      cases called₀
      exact ⟨⟨resident, rfl⟩, free, only⟩
  | ready bytes lastUsed resident held idle awake loaded => exact absurd hfly (idle id)

/-- A granted lease is the new pin. -/
theorem Slot.granted {σ : System K ε} {key : K} {bytes : List UInt8} {pins lastUsed : Nat}
    {resident : Bool} (h : Slot σ key (some (.ready bytes pins lastUsed resident))) (tick : Nat) :
    Slot (σ.grant key bytes) key (some (.ready bytes (pins + 1) tick resident)) := by
  cases h with
  | ready _ _ _ held idle awake loaded =>
      have hlen : (σ.leasesOf key).length + 1 = ((σ.grant key bytes).leasesOf key).length := by
        rw [leasesOf_grant_self, List.length_cons]
      rw [hlen]
      refine .ready bytes tick resident (fun l hl => ?_) idle awake loaded
      rw [leasesOf_grant_self, List.mem_cons] at hl
      rcases hl with rfl | hl
      · exact ⟨rfl, rfl⟩
      · exact held l hl

/-- A caller that finds the key loading waits for that load. -/
theorem Slot.waited {σ : System K ε} {id : Nat} {call : Call K ε} {expected : Nat} {resident : Bool}
    (h : Slot σ call.key (some (.loading expected resident))) (called : σ.calls id = some call)
    (phase : call.phase = .polling) :
    Slot (σ.setCall id (call.move (.waiting false))) call.key
      (some (.loading expected resident)) := by
  cases h with
  | loading _ id₀ call₀ free called₀ keyed₀ flying₀ only =>
      have hne : id₀ ≠ id := by
        rintro rfl
        rw [called] at called₀
        cases called₀
        rw [phase] at flying₀
        cases flying₀
      refine .loading resident id₀ call₀ free ?_ keyed₀ flying₀ ?_
      · simpa only [setCall, Function.update_of_ne hne] using called₀
      · rintro id' ⟨c, hc, hk, hf⟩
        by_cases hid : id' = id
        · subst hid
          simp only [setCall, Function.update_self, Option.some.injEq] at hc
          subst hc
          cases hf
        · simp only [setCall, Function.update_of_ne hid] at hc
          exact only id' ⟨c, hc, hk, hf⟩

/-- The caller that finds no entry owns the new one. -/
theorem Slot.reserve {σ : System K ε} {id : Nat} {call : Call K ε} (h : Slot σ call.key none)
    (resident : Bool) :
    Slot (σ.setCall id (call.move .reserved)) call.key
      (some (.loading call.expectedBytes resident)) := by
  cases h with
  | vacant free idle awake =>
      refine .loading resident id (call.move .reserved) free ?_ rfl rfl ?_
      · simp only [setCall, Function.update_self]
      · rintro id' ⟨c, hc, hk, hf⟩
        by_contra hid
        simp only [setCall, Function.update_of_ne hid] at hc
        exact idle id' ⟨c, hc, hk, hf⟩

omit [DecidableEq K] in
/-- When the one call in flight for a key has returned, nothing is in flight for it. -/
theorem idle_returned {σ : System K ε} {id : Nat} {call : Call K ε}
    (only : ∀ id', σ.InFlight call.key id' → id' = id) (result : Except (LoadError ε) Nat)
    (id' : Nat) :
    ¬ (σ.setCall id (call.move (.returned result))).InFlight call.key id' := by
  rintro ⟨c, hc, hk, hf⟩
  by_cases hid : id' = id
  · subst hid
    simp only [setCall, Function.update_self, Option.some.injEq] at hc
    subst hc
    cases hf
  · simp only [setCall, Function.update_of_ne hid] at hc
    exact hid (only id' ⟨c, hc, hk, hf⟩)

/-- A completed load turns its reservation into a ready entry with one lease. -/
theorem Slot.completed {σ : System K ε} {id : Nat} {call : Call K ε} {e : Option Entry}
    {bytes : List UInt8} (h : Slot σ call.key e) (called : σ.calls id = some call)
    (phase : call.phase = .loaded bytes) (sound : call.Sound) (tick : Nat) (resident : Bool) :
    Slot (σ.completed id call (.ok bytes)) call.key (some (.ready bytes 1 tick resident)) := by
  obtain ⟨-, free, only⟩ := h.of_inFlight called rfl (by rw [phase]; rfl)
  simp only [Call.Sound, phase] at sound
  obtain ⟨-, houtcome, hlen⟩ := sound
  let σ₁ : System K ε := σ.setOrigin call.key id
  have hleases : (σ.completed id call (.ok bytes)).leasesOf call.key =
      [{ id := σ.nextLease, key := call.key, bytes, origin := id }] := by
    have hgrant := leasesOf_grant_self σ₁ call.key bytes
    have hfree : σ₁.leasesOf call.key = [] := free
    rw [hfree] at hgrant
    simp only [σ₁, setOrigin, Function.update_self] at hgrant
    exact hgrant
  have horigin : (σ.completed id call (.ok bytes)).origin call.key = id := by
    simp only [System.completed, notifyAll, setCall, grant, setOrigin, Function.update_self]
  have hone : 1 = ((σ.completed id call (.ok bytes)).leasesOf call.key).length := by
    rw [hleases]; rfl
  rw [hone]
  have hidle : ∀ id', ¬ (σ.completed id call (.ok bytes)).InFlight call.key id' := fun id' hi =>
    idle_returned (σ := σ₁.grant call.key bytes) only (.ok σ.nextLease) id'
      ((Agrees.notifyAll _ call.key).inFlight id' hi)
  refine .ready bytes tick resident (fun l hl => ?_) hidle (notifyAll_awake _ _) ?_
  · rw [hleases, List.mem_singleton] at hl
    rw [hl, horigin]
    exact ⟨rfl, rfl⟩
  · rw [horigin]
    refine ⟨(call.move (.returned (.ok σ.nextLease))).notify,
      calls_notifyAll.mpr ⟨_, ?_, rfl⟩, ?_, ?_, ?_⟩
    · simp only [setCall, Function.update_self]
    · exact Call.notify_key _
    · rw [Call.notify_outcome]
      exact houtcome
    · rw [Call.notify_expectedBytes]
      exact hlen

/-- A released reservation leaves nothing behind and wakes every waiter. -/
theorem Slot.released {σ : System K ε} {id : Nat} {call : Call K ε} {e : Option Entry}
    (h : Slot σ call.key e) (called : σ.calls id = some call) (flying : call.phase.inFlight = true)
    (result : Except (LoadError ε) Nat) :
    Slot (σ.setCall id (call.move (.returned result))).notifyAll call.key none := by
  obtain ⟨-, free, only⟩ := h.of_inFlight called rfl flying
  exact .vacant free (fun id' hi =>
    idle_returned only result id' ((Agrees.notifyAll _ call.key).inFlight id' hi))
    (notifyAll_awake _ _)

theorem leasesOf_erase (σ : System K ε) (lease : Lease K) (key : K) :
    (σ.setLeases (σ.leases.erase lease)).leasesOf key =
      if lease.key = key then (σ.leasesOf key).erase lease else σ.leasesOf key := by
  simp only [leasesOf, setLeases]
  rw [← List.erase_filter]
  split
  · rfl
  · rename_i hk
    refine List.erase_of_not_mem fun hmem => hk ?_
    simpa using (List.mem_filter.mp hmem).2

/-- Dropping one of a key's leases takes one pin away. -/
theorem Slot.unpinned {σ : System K ε} {lease : Lease K} {bytes : List UInt8} {pins lastUsed : Nat}
    {resident : Bool} (h : Slot σ lease.key (some (.ready bytes (pins + 1) lastUsed resident)))
    (live : lease ∈ σ.leases) :
    Slot (σ.setLeases (σ.leases.erase lease)) lease.key
      (some (.ready bytes pins lastUsed resident)) := by
  have hleases := leasesOf_erase σ lease lease.key
  rw [if_pos rfl] at hleases
  have hmem : lease ∈ σ.leasesOf lease.key := List.mem_filter.mpr ⟨live, by simp⟩
  generalize he : some (Entry.ready bytes (pins + 1) lastUsed resident) = e at h
  cases h with
  | vacant => cases he
  | loading => cases he
  | ready _ _ _ held idle awake loaded =>
      simp only [Option.some.injEq, Entry.ready.injEq] at he
      obtain ⟨rfl, hpins, rfl, rfl⟩ := he
      have hlen : pins = ((σ.setLeases (σ.leases.erase lease)).leasesOf lease.key).length := by
        rw [hleases, List.length_erase_of_mem hmem]
        omega
      rw [hlen]
      refine .ready bytes lastUsed resident (fun l hl => ?_) idle awake loaded
      rw [hleases] at hl
      exact held l (List.mem_of_mem_erase hl)

/-- The invariant: counters, the parties behind every key, every call, and lease identities. -/
structure Inv (σ : System K ε) : Prop where
  limit : σ.config.capacityBytes ≤ usizeMax
  accounted : State.Accounted σ.config.capacityBytes σ.shared
  slot : ∀ key, Slot σ key (σ.shared.entries.lookup key)
  sound : ∀ id call, σ.calls id = some call → call.Sound
  fresh : ∀ lease ∈ σ.leases, lease.id < σ.nextLease
  distinct : (σ.leases.map Lease.id).Nodup

theorem Slot.of_drops {σ : System K ε} {s s' : State K} {key : K}
    (h : Slot σ key (s.entries.lookup key))
    (hd : State.Drops s s') : Slot σ key (s'.entries.lookup key) := by
  rcases hd key with he | ⟨he, _, _, _, hl⟩
  · rw [he]
    exact h
  · rw [he]
    rw [hl] at h
    exact h.dropped

omit [DecidableEq K] in
theorem sound_setCall {σ : System K ε} (h : ∀ id call, σ.calls id = some call → call.Sound)
    {id : Nat} {call' : Call K ε} (hs : call'.Sound) :
    ∀ id' c, (σ.setCall id call').calls id' = some c → c.Sound := by
  intro id' c hc
  by_cases hid : id' = id
  · subst hid
    simp only [setCall, Function.update_self, Option.some.injEq] at hc
    subst hc
    exact hs
  · simp only [setCall, Function.update_of_ne hid] at hc
    exact h id' c hc

omit [DecidableEq K] in
theorem sound_notifyAll {σ : System K ε} (h : ∀ id call, σ.calls id = some call → call.Sound) :
    ∀ id c, σ.notifyAll.calls id = some c → c.Sound := by
  intro id c hc
  obtain ⟨call, hcall, rfl⟩ := calls_notifyAll.mp hc
  exact (h id call hcall).notify

theorem Inv.initial {config : CacheConfig} (limit : config.capacityBytes ≤ usizeMax) :
    (System.initial config : System K ε).Inv where
  limit := limit
  accounted := ⟨rfl, rfl, Nat.zero_le _, fun key _ _ _ h => by cases h⟩
  slot := fun key => .vacant rfl (fun id => by rintro ⟨c, hc, -⟩; cases hc) fun id => by
    rintro ⟨c, hc, -⟩; cases hc
  sound := fun _ _ h => by cases h
  fresh := fun _ h => by cases h
  distinct := List.nodup_nil

/-- Lease identities after a grant. -/
theorem Inv.granted_leases {σ : System K ε} (h : σ.Inv) (key : K) (bytes : List UInt8) :
    (∀ lease ∈ (σ.grant key bytes).leases, lease.id < (σ.grant key bytes).nextLease) ∧
      ((σ.grant key bytes).leases.map Lease.id).Nodup := by
  constructor
  · intro lease hl
    rcases List.mem_cons.mp hl with rfl | hl
    · exact Nat.lt_succ_self _
    · exact Nat.lt_succ_of_lt (h.fresh lease hl)
  · refine List.nodup_cons.mpr ⟨fun hmem => ?_, h.distinct⟩
    obtain ⟨lease, hl, hid⟩ := List.mem_map.mp hmem
    have hlt := h.fresh lease hl
    rw [hid] at hlt
    exact Nat.lt_irrefl _ hlt

/-- The state of a key away from the one a region touched. -/
theorem Inv.slot_away {σ σ' : System K ε} (h : σ.Inv) {s₁ : State K} {key₀ : K} {e : Option Entry}
    (hd : State.Drops σ.shared s₁) (hp : State.Puts s₁ σ'.shared key₀ e)
    (hself : Slot σ' key₀ e) (haway : ∀ key, key ≠ key₀ → Agrees σ σ' key) (key : K) :
    Slot σ' key (σ'.shared.entries.lookup key) := by
  rw [hp key]
  by_cases hk : key = key₀
  · subst hk
    rw [if_pos rfl]
    exact hself
  · rw [if_neg hk]
    exact ((h.slot key).of_drops hd).agrees (haway key hk)

theorem drops_of_same {s s' : State K} (h : State.Same s s') : State.Drops s s' :=
  fun k => Or.inl (h k)

/-- A step that leaves all parties as they are, whatever it evicts. -/
theorem Inv.slot_all {σ σ' : System K ε} (h : σ.Inv) (hd : State.Drops σ.shared σ'.shared)
    (hagree : ∀ key, Agrees σ σ' key) (key : K) : Slot σ' key (σ'.shared.entries.lookup key) :=
  ((h.slot key).of_drops hd).agrees (hagree key)

/-! ### Steps -/

theorem Inv.get {σ : System K ε} (h : σ.Inv) {key : K} {r : Except CacheError (Option (List UInt8))}
    {shared : State K} (region : State.get key σ.shared = (r, shared)) :
    ((σ.setShared shared).gotten key r).Inv := by
  obtain ⟨r', s', hrun, hgets, hacc⟩ := h.accounted.get key
  rw [region] at hrun
  cases hrun
  have hstill : State.Same σ.shared shared → (σ.setShared shared).Inv := fun hsame =>
    ⟨h.limit, hacc, h.slot_all (drops_of_same hsame) (Agrees.setShared σ shared), h.sound,
      h.fresh, h.distinct⟩
  cases hgets with
  | absent _ same => exact hstill same
  | overflow _ same => exact hstill same
  | hit _ bytes pins lastUsed resident found pinned =>
      cases pinned with
      | pinned _ tick puts =>
          obtain ⟨hfresh, hdistinct⟩ := Inv.granted_leases (σ := σ) h key bytes
          refine ⟨h.limit, hacc, h.slot_away (.refl σ.shared) puts ?_ fun k hk => ?_, h.sound,
            hfresh, hdistinct⟩
          · have hs := h.slot key
            rw [found] at hs
            exact (hs.agrees (Agrees.setShared σ shared key)).granted tick
          · exact (Agrees.setShared σ shared k).trans (Agrees.grant bytes hk.symm)

/-- A polling call that returns. -/
theorem Agrees.returned (σ : System K ε) {id : Nat} {call : Call K ε}
    (called : σ.calls id = some call) (phase : call.phase = .polling)
    (result : Except (LoadError ε) Nat) (key : K) :
    Agrees σ (σ.setCall id (call.move (.returned result))) key :=
  Agrees.setCall σ called rfl rfl (fun _ ho => ho)
    (Or.inr ⟨by rw [phase]; rfl, by simp [Call.move]⟩)

/-- A call's move is not seen by other keys. -/
theorem Agrees.moved (σ : System K ε) {id : Nat} {call : Call K ε} (called : σ.calls id = some call)
    (phase : Phase ε) {key : K} (hk : key ≠ call.key) :
    Agrees σ (σ.setCall id (call.move phase)) key :=
  Agrees.setCall σ called rfl rfl (fun _ ho => ho) (Or.inl hk.symm)

omit [DecidableEq K] in
theorem sound_returned {call : Call K ε} (hinvoked : call.invocations ≤ 1)
    {result : Except (LoadError ε) Nat} (hresult : ∀ e, result = .error e → ¬ e.Internal) :
    (call.move (.returned result)).Sound := ⟨hinvoked, hresult⟩

theorem Inv.examine {σ : System K ε} (h : σ.Inv) {id : Nat} {call : Call K ε}
    {r : Except CacheError Examined} {shared : State K} (called : σ.calls id = some call)
    (phase : call.phase = .polling)
    (region : State.examine σ.config call.key call.expectedBytes σ.shared = (r, shared)) :
    ((σ.setShared shared).examined id call r).Inv := by
  obtain ⟨r', s', hrun, hexamines, hacc⟩ := h.accounted.examine h.limit call.key call.expectedBytes
  rw [region] at hrun
  cases hrun
  have hsound := h.sound id call called
  simp only [Call.Sound, phase] at hsound
  have hinvoked : call.invocations ≤ 1 := by omega
  have hshared := Agrees.setShared σ shared
  have hslot := h.slot call.key
  have herror : ∀ e : CacheError, ¬ e.Internal → State.Drops σ.shared shared →
      ((σ.setShared shared).setCall id (call.move (.returned (.error (.cache e))))).Inv := by
    intro e he hd
    refine ⟨h.limit, hacc, h.slot_all hd fun key =>
      (hshared key).trans (Agrees.returned (σ.setShared shared) called phase _ key),
      sound_setCall h.sound (sound_returned hinvoked fun e' he' => ?_), h.fresh, h.distinct⟩
    cases he'
    exact he
  cases hexamines with
  | hit _ bytes pins lastUsed resident found pinned =>
      cases pinned with
      | pinned _ tick puts =>
          obtain ⟨hfresh, hdistinct⟩ := Inv.granted_leases h call.key bytes
          have hreturned :=
            fun key => Agrees.returned ((σ.setShared shared).grant call.key bytes) called phase
            (.ok (σ.setShared shared).nextLease) key
          rw [found] at hslot
          refine ⟨h.limit, hacc, h.slot_away (.refl σ.shared) puts ?_ fun k hk => ?_,
            sound_setCall h.sound (sound_returned hinvoked fun e he => (by cases he)),
            hfresh, hdistinct⟩
          · exact ((hslot.agrees (hshared call.key)).granted tick).agrees (hreturned call.key)
          · exact ((hshared k).trans (Agrees.grant bytes hk.symm)).trans (hreturned k)
  | overflow _ _ _ _ _ found wide same =>
      exact herror _ (fun he => by cases he) (drops_of_same same)
  | wait _ reserved resident found same =>
      rw [found] at hslot
      have hputs : State.Puts σ.shared shared call.key (some (.loading reserved resident)) := by
        intro k
        rw [same k]
        split
        · subst_vars
          exact found
        · rfl
      refine ⟨h.limit, hacc, h.slot_away (.refl σ.shared) hputs ?_ fun k hk => ?_,
        sound_setCall h.sound hsound, h.fresh, h.distinct⟩
      · exact (hslot.agrees (hshared call.key)).waited called phase
      · exact (hshared k).trans (Agrees.moved (σ.setShared shared) called _ hk)
  | reserved s₁ _ resident absent drops puts =>
      rw [absent] at hslot
      refine ⟨h.limit, hacc, h.slot_away drops puts ?_ fun k hk => ?_,
        sound_setCall h.sound hsound, h.fresh, h.distinct⟩
      · exact (hslot.agrees (hshared call.key)).reserve resident
      · exact (hshared k).trans (Agrees.moved (σ.setShared shared) called _ hk)
  | full _ e absent drops ends =>
      refine herror e (fun he => ?_) drops
      cases ends <;> cases he

theorem Inv.complete {σ : System K ε} (h : σ.Inv) {id : Nat} {call : Call K ε} {bytes : List UInt8}
    {r : Except CacheError (List UInt8)} {shared : State K} (called : σ.calls id = some call)
    (phase : call.phase = .loaded bytes)
    (region : State.complete call.key call.expectedBytes bytes σ.shared = (r, shared)) :
    ((σ.setShared shared).completed id call r).Inv := by
  have hcall := h.sound id call called
  have hsound := hcall
  simp only [Call.Sound, phase] at hsound
  obtain ⟨hinvoked, -, hlen⟩ := hsound
  obtain ⟨⟨resident, hl⟩, -, -⟩ := (h.slot call.key).of_inFlight called rfl (by rw [phase]; rfl)
  obtain ⟨s', tick, hrun, hputs, hacc, -, -⟩ := h.accounted.complete h.limit hl hlen
  rw [region] at hrun
  cases hrun
  have hshared := Agrees.setShared σ shared
  obtain ⟨hfresh, hdistinct⟩ := Inv.granted_leases h call.key bytes
  refine ⟨h.limit, hacc, h.slot_away (.refl σ.shared) hputs ?_ fun k hk => ?_,
    sound_notifyAll (sound_setCall h.sound (sound_returned hinvoked.le fun e he => (by cases he))),
    ?_, hdistinct⟩
  · exact ((h.slot call.key).agrees (hshared call.key)).completed called phase hcall tick resident
  · have horigin : Agrees (σ.setShared shared) ((σ.setShared shared).setOrigin call.key id) k :=
      ⟨fun _ hi => hi, fun _ hb => hb, fun _ c hc hk => ⟨c, hc, hk, rfl, rfl, fun _ ho => ho⟩, rfl,
        Function.update_of_ne hk _ _⟩
    refine (((hshared k).trans horigin).trans (Agrees.grant bytes hk.symm)).trans ?_
    exact (Agrees.moved (((σ.setShared shared).setOrigin call.key id).grant call.key bytes)
      called _ hk).trans
      (Agrees.notifyAll _ k)
  · intro lease hl
    rcases List.mem_cons.mp hl with rfl | hl
    · exact Nat.lt_succ_self _
    · exact Nat.lt_succ_of_lt (h.fresh lease hl)

theorem Inv.release {σ : System K ε} (h : σ.Inv) {id : Nat} {call : Call K ε} {e : LoadError ε}
    (called : σ.calls id = some call) (phase : call.phase = .releasing e) :
    (σ.released id call e).Inv := by
  have hsound := h.sound id call called
  simp only [Call.Sound, phase] at hsound
  obtain ⟨hinvoked, hfailed⟩ := hsound
  obtain ⟨⟨resident, hl⟩, -, -⟩ := (h.slot call.key).of_inFlight called rfl (by rw [phase]; rfl)
  obtain ⟨hacc, hputs, -, -⟩ := h.accounted.dropReservation hl
  have hshared := Agrees.setShared σ (State.dropReservation call.key call.expectedBytes σ.shared)
  refine ⟨h.limit, hacc, h.slot_away (.refl σ.shared) hputs ?_ fun k hk => ?_,
    sound_notifyAll (sound_setCall h.sound (sound_returned hinvoked.le fun e' he' => ?_)),
    h.fresh, h.distinct⟩
  · exact ((h.slot call.key).agrees (hshared call.key)).released called (by rw [phase]; rfl) _
  · exact ((hshared k).trans (Agrees.moved (σ.setShared
      (State.dropReservation call.key call.expectedBytes σ.shared)) called _ hk)).trans
        (Agrees.notifyAll _ k)
  · cases he'
    rcases hfailed with ⟨error, -, rfl⟩ | ⟨bytes, -, -, rfl⟩
    · exact fun hi => hi
    · exact fun hi => by cases hi

/-- The entry of a live lease is ready and pinned. -/
theorem Inv.lease_ready {σ : System K ε} (h : σ.Inv) {lease : Lease K} (live : lease ∈ σ.leases) :
    ∃ pins lastUsed resident, σ.shared.entries.lookup lease.key =
      some (.ready lease.bytes (pins + 1) lastUsed resident) := by
  have hmem : lease ∈ σ.leasesOf lease.key := List.mem_filter.mpr ⟨live, by simp⟩
  have hslot := h.slot lease.key
  generalize he : σ.shared.entries.lookup lease.key = e at hslot
  cases hslot with
  | vacant free idle awake => rw [free] at hmem; cases hmem
  | loading resident id call free called keyed flying only => rw [free] at hmem; cases hmem
  | ready bytes lastUsed resident held idle awake loaded =>
      obtain ⟨n, hn⟩ := Nat.exists_eq_succ_of_ne_zero (Nat.ne_of_gt (List.length_pos_of_mem hmem))
      rw [(held lease hmem).1, hn]
      exact ⟨n, lastUsed, resident, rfl⟩

theorem Inv.dropLease {σ : System K ε} (h : σ.Inv) {lease : Lease K} (live : lease ∈ σ.leases) :
    (σ.dropped lease).Inv := by
  obtain ⟨pins, lastUsed, resident, hl⟩ := h.lease_ready live
  obtain ⟨hacc, hputs⟩ := h.accounted.dropLease hl
  have hshared := Agrees.setShared σ (State.dropLease lease.key σ.shared)
  have hslot := h.slot lease.key
  rw [hl] at hslot
  have hself := ((hslot.agrees (hshared lease.key)).unpinned live).agrees
      (Agrees.notifyAll _ lease.key)
  refine ⟨h.limit, hacc, h.slot_away (.refl σ.shared) hputs ?_ fun k hk => ?_,
    sound_notifyAll h.sound, fun l hmem => h.fresh l (List.mem_of_mem_erase hmem),
    h.distinct.sublist (List.erase_sublist.map _)⟩
  · split
    · rename_i hgone
      obtain ⟨rfl, -⟩ := hgone
      exact hself.dropped
    · exact hself
  · have hleases := leasesOf_erase (σ.setShared (State.dropLease lease.key σ.shared)) lease k
    rw [if_neg hk.symm] at hleases
    have herase : Agrees (σ.setShared (State.dropLease lease.key σ.shared))
        ((σ.setShared (State.dropLease lease.key σ.shared)).setLeases (σ.leases.erase lease)) k :=
      ⟨fun _ hi => hi, fun _ hb => hb, fun _ c hc hk => ⟨c, hc, hk, rfl, rfl, fun _ ho => ho⟩,
        hleases, rfl⟩
    exact ((hshared k).trans herase).trans (Agrees.notifyAll _ k)

omit [DecidableEq K] in
/-- A new call returns at once or starts polling. -/
theorem sound_entering (σ : System K ε) (key : K) (expectedBytes : Nat) :
    (σ.entering key expectedBytes).phase.inFlight = false ∧
      (σ.entering key expectedBytes).phase ≠ .waiting false ∧
      (σ.entering key expectedBytes).Sound := by
  unfold entering enter
  split
  · exact ⟨rfl, by simp, Nat.zero_le 1, fun e he => by cases he; exact fun hi => by cases hi⟩
  · split
    · exact ⟨rfl, by simp, Nat.zero_le 1, fun e he => by cases he; exact fun hi => by cases hi⟩
    · exact ⟨rfl, by simp, rfl, rfl, rfl⟩

omit [DecidableEq K] in
/-- A loader that returned leaves its call in flight. -/
theorem sound_finished {call : Call K ε} (hinvoked : call.invocations = 1)
    (outcome : Except ε (List UInt8)) :
    (finished call outcome).phase.inFlight = true ∧ (finished call outcome).phase ≠ .waiting false ∧
      (finished call outcome).Sound := by
  unfold finished
  cases outcome with
  | error e => exact ⟨rfl, by simp, hinvoked, Or.inl ⟨e, rfl, rfl⟩⟩
  | ok bytes =>
      by_cases hlen : bytes.length = call.expectedBytes
      · simp only [hlen, ne_eq, not_true_eq_false, if_false]
        exact ⟨rfl, by simp, hinvoked, rfl, hlen⟩
      · simp only [ne_eq, hlen, not_false_eq_true, if_true]
        exact ⟨rfl, by simp, hinvoked, Or.inr ⟨bytes, rfl, hlen, rfl⟩⟩

theorem Inv.advance {σ σ' : System K ε} (h : σ.Inv) (hs : Advance σ σ') : σ'.Inv := by
  cases hs with
  | examine id call r shared called phase region => exact h.examine called phase region
  | wake id call notified called phase =>
      have hsound := h.sound id call called
      simp only [Call.Sound, phase] at hsound
      exact ⟨h.limit, h.accounted,
        h.slot_all (.refl σ.shared) (fun k => Agrees.setCall σ called rfl rfl
        (fun _ ho => ho) (Or.inr ⟨by rw [phase]; rfl, by simp [Call.move]⟩)),
          sound_setCall h.sound hsound, h.fresh, h.distinct⟩
  | invoke id call called phase =>
      have hsound := h.sound id call called
      simp only [Call.Sound, phase] at hsound
      obtain ⟨hloader, hinvoked, houtcome⟩ := hsound
      have hcall : invoked call =
          { call with
            loader := false, invocations := call.invocations + 1, phase := .loading } := by
        rw [invoked, if_pos hloader]
      rw [hcall]
      exact ⟨h.limit, h.accounted,
        h.slot_all (.refl σ.shared) (fun k => Agrees.setCall σ called rfl rfl
        (fun _ ho => ho) (Or.inr ⟨by rw [phase]; rfl, by simp⟩)),
        sound_setCall h.sound ⟨by rw [hinvoked], houtcome⟩, h.fresh, h.distinct⟩
  | finish id call outcome called phase =>
      have hsound := h.sound id call called
      simp only [Call.Sound, phase] at hsound
      obtain ⟨hinvoked, houtcome⟩ := hsound
      obtain ⟨hfly, hwait, hsound⟩ := sound_finished hinvoked outcome
      exact ⟨h.limit, h.accounted,
        h.slot_all (.refl σ.shared) (fun k => Agrees.setCall σ called rfl rfl
        (fun o ho => by rw [houtcome] at ho; cases ho) (Or.inr ⟨by rw [hfly, phase]; rfl, hwait⟩)),
        sound_setCall h.sound hsound, h.fresh, h.distinct⟩
  | complete id call bytes r shared called phase region => exact h.complete called phase region
  | release id call e called phase => exact h.release called phase
  | reorder entries perm =>
      have hsame : State.Same σ.shared { σ.shared with entries } := fun k => AList.perm_lookup perm
      refine ⟨h.limit, ⟨?_, ?_, h.accounted.within, fun k b lu r hk => ?_⟩,
        h.slot_all (drops_of_same hsame) (Agrees.setShared σ _), h.sound, h.fresh, h.distinct⟩
      · exact h.accounted.used.trans (Table.total_perm _ perm).symm
      · exact h.accounted.reserved.trans (Table.total_perm _ perm).symm
      · exact h.accounted.resident k b lu r ((hsame k).symm.trans hk)

/-- Every step of every party keeps the invariant. -/
theorem Inv.step {σ σ' : System K ε} (h : σ.Inv) (hs : Step σ σ') : σ'.Inv := by
  cases hs with
  | start id key expectedBytes fresh =>
      obtain ⟨hfly, hwait, hsound⟩ := sound_entering σ key expectedBytes
      exact ⟨h.limit, h.accounted,
        h.slot_all (.refl σ.shared) (fun k => Agrees.newCall k fresh hfly hwait),
        sound_setCall h.sound hsound, h.fresh, h.distinct⟩
  | get key r shared region => exact h.get region
  | advance ha => exact h.advance ha
  | dropLease lease live => exact h.dropLease live
  | clear r shared region =>
      obtain ⟨n, s', hrun, hacc, hdrops⟩ := h.accounted.clearUnpinned
      rw [region] at hrun
      cases hrun
      exact ⟨h.limit, hacc, h.slot_all hdrops (Agrees.setShared σ shared), h.sound,
        h.fresh, h.distinct⟩

theorem Advance.config {σ σ' : System K ε} (hs : Advance σ σ') : σ'.config = σ.config := by
  cases hs with
  | examine id call r shared called phase region =>
      rcases r with e | bytes | _ | _ <;> rfl
  | complete id call bytes r shared called phase region =>
      cases r <;> rfl
  | _ => rfl

theorem Step.config {σ σ' : System K ε} (hs : Step σ σ') : σ'.config = σ.config := by
  cases hs with
  | get key r shared region =>
      rcases r with e | _ | bytes <;> rfl
  | advance ha => exact ha.config
  | _ => rfl

theorem Steps.inv {σ σ' : System K ε} (h : Steps σ σ') (hinv : σ.Inv) :
    σ'.Inv ∧ σ'.config = σ.config := by
  induction h with
  | refl => exact ⟨hinv, rfl⟩
  | step _ hs ih => exact ⟨ih.1.step hs, hs.config.trans ih.2⟩

/-- The invariant holds in every state any interleaving reaches. -/
theorem Reachable.inv {config : CacheConfig} {σ : System K ε} (h : Reachable config σ) :
    σ.Inv ∧ σ.config = config := by
  induction h with
  | init valid limit => exact ⟨Inv.initial limit, rfl⟩
  | step before step ih => exact ⟨ih.1.step step, step.config.trans ih.2⟩

end System
end LightBridge.ExpertCache
