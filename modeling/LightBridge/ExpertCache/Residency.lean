import LightBridge.ExpertCache.Safety

/-! One client that takes leases on a list of keys and holds them all, nobody else moving:
when the capacity refuses it. -/
namespace LightBridge.ExpertCache
open Foundation
namespace System
variable {K ε : Type} [DecidableEq K]

/-- Nobody holds a lease and every call has returned. -/
structure Quiet (σ : System K ε) : Prop where
  leases : σ.leases = []
  returned : ∀ id call, σ.calls id = some call → ∃ r, call.phase = .returned r

/-- From `σ₀`, one client asks for `keys` with one size, in any order and interleaving. -/
inductive Fetch (keys : List K) (size : Nat) (σ₀ : System K ε) : System K ε → Prop where
  | refl : Fetch keys size σ₀ σ₀
  | start {σ : System K ε} (run : Fetch keys size σ₀ σ) (id : Nat) (key : K)
      (fresh : σ.calls id = none) (mem : key ∈ keys) :
      Fetch keys size σ₀ (σ.setCall id (σ.entering key size))
  | advance {σ σ' : System K ε} (run : Fetch keys size σ₀ σ)
    (advance : Advance σ σ') : Fetch keys size σ₀ σ'

theorem Fetch.steps {keys : List K} {size : Nat} {σ₀ σ : System K ε} (h : Fetch keys size σ₀ σ) :
    Steps σ₀ σ := by
  induction h with
  | refl => exact .refl σ₀
  | start run id key fresh mem ih => exact .step ih (.start id key size fresh)
  | advance run advance ih => exact .step ih (.advance advance)

/-! ### What the client's steps do to calls and leases -/

omit [DecidableEq K] in
theorem calls_setCall {σ : System K ε} {id id' : Nat} {call call' : Call K ε} :
    (σ.setCall id call).calls id' = some call' ↔
      (id' = id ∧ call' = call) ∨ (id' ≠ id ∧ σ.calls id' = some call') := by
  by_cases hid : id' = id
  · subst hid
    simp [setCall, eq_comm]
  · simp [setCall, hid]

/-- How a call may have come out of one step. -/
structure Moved (σ : System K ε) (call call' : Call K ε) : Prop where
  key : call'.key = call.key
  expected : call'.expectedBytes = call.expectedBytes
  settled : ∀ r, call.phase = .returned r → call' = call
  failed : ∀ e, call'.phase = .returned (.error e) → call.phase = .returned (.error e) ∨
    (call.phase = .releasing e ∧ call'.outcome = call.outcome) ∨
      (call.phase = .polling ∧ ∃ error shared, e = .cache error ∧
        State.examine σ.config call.key call.expectedBytes σ.shared = (.error error, shared))

theorem Moved.refl (σ : System K ε) (call : Call K ε) : Moved σ call call :=
  ⟨rfl, rfl, fun _ _ => rfl, fun _ h => Or.inl h⟩

/-- A call that was not returned and is not returned with an error now. -/
theorem Moved.of_move {σ : System K ε} {call call' : Call K ε} (key : call'.key = call.key)
    (expected : call'.expectedBytes = call.expectedBytes) (running : ∀ r, call.phase ≠ .returned r)
    (unfailed : ∀ e, call'.phase ≠ .returned (.error e)) : Moved σ call call' :=
  ⟨key, expected, fun r h => absurd h (running r), fun e h => absurd h (unfailed e)⟩

theorem Moved.notify {σ : System K ε} {call call' : Call K ε} (h : Moved σ call call') :
    Moved σ call call'.notify where
  key := call'.notify_key.trans h.key
  expected := call'.notify_expectedBytes.trans h.expected
  settled := by
    intro r hr
    have hsame := h.settled r hr
    rw [hsame]
    unfold Call.notify
    rw [hr]
  failed := by
    intro e he
    rw [call'.notify_outcome]
    refine h.failed e ?_
    unfold Call.notify at he
    split at he
    · cases he
    · exact he

theorem Moved.setCall {σ : System K ε} {id : Nat} {call next : Call K ε}
    (called : σ.calls id = some call) (h : Moved σ call next) {id' : Nat} {call' : Call K ε}
    (called' : (σ.setCall id next).calls id' = some call') :
    ∃ call, σ.calls id' = some call ∧ Moved σ call call' := by
  rcases calls_setCall.mp called' with ⟨rfl, rfl⟩ | ⟨-, hc⟩
  · exact ⟨call, called, h⟩
  · exact ⟨call', hc, .refl σ call'⟩

theorem Moved.examined {σ : System K ε} {call : Call K ε} (phase : call.phase = .polling)
    {r : Except CacheError Examined} {shared : State K}
    (region : State.examine σ.config call.key call.expectedBytes σ.shared = (r, shared)) :
    ∃ next, Moved σ call next ∧ ∀ id, ((σ.setShared shared).examined id call r).calls =
      (σ.setCall id next).calls := by
  have hrunning : ∀ r, call.phase ≠ .returned r := by simp [phase]
  rcases r with e | bytes | _ | _
  · refine ⟨call.move (.returned (.error (.cache e))),
      ⟨rfl, rfl, fun r h => absurd h (hrunning r), ?_⟩, fun _ => rfl⟩
    intro e' he'
    simp only [Call.move, Phase.returned.injEq, Except.error.injEq] at he'
    exact Or.inr (Or.inr ⟨phase, e, shared, he'.symm, region⟩)
  · exact ⟨call.move (.returned (.ok σ.nextLease)), .of_move rfl rfl hrunning (by simp [Call.move]),
      fun _ => rfl⟩
  · exact ⟨call.move (.waiting false), .of_move rfl rfl hrunning (by simp [Call.move]),
      fun _ => rfl⟩
  · exact ⟨call.move .reserved, .of_move rfl rfl hrunning (by simp [Call.move]), fun _ => rfl⟩

theorem Moved.invoked (σ : System K ε) {call : Call K ε} (phase : call.phase = .reserved) :
    Moved σ call (invoked call) := by
  unfold System.invoked
  split
  · exact .of_move rfl rfl (by simp [phase]) (by simp)
  · exact .of_move rfl rfl (by simp [phase]) (by simp [Call.move])

theorem Moved.finished (σ : System K ε) {call : Call K ε} (phase : call.phase = .loading)
    (outcome : Except ε (List UInt8)) : Moved σ call (finished call outcome) := by
  refine .of_move rfl rfl (by simp [phase]) ?_
  intro e
  cases outcome with
  | error _ => simp [System.finished]
  | ok bytes =>
      simp only [System.finished]
      split <;> simp

/-- Every call of the new state is a call of the old one that moved, or stood still. -/
theorem Advance.moved {σ σ' : System K ε} (hs : Advance σ σ') {id' : Nat} {call' : Call K ε}
    (called' : σ'.calls id' = some call') : ∃ call, σ.calls id' = some call ∧
      Moved σ call call' := by
  cases hs with
  | examine id call r shared called phase region =>
      obtain ⟨next, hmoved, hcalls⟩ := Moved.examined phase region
      rw [hcalls] at called'
      exact hmoved.setCall called called'
  | wake id call notified called phase =>
      have hmoved : Moved σ call (call.move .polling) :=
        .of_move rfl rfl (by simp [phase]) (by simp [Call.move])
      exact hmoved.setCall called called'
  | invoke id call called phase => exact (Moved.invoked σ phase).setCall called called'
  | finish id call outcome called phase =>
      exact (Moved.finished σ phase outcome).setCall called called'
  | complete id call bytes r shared called phase region =>
      cases r with
      | error e =>
          have hmoved : Moved σ call (call.move (.releasing (.cache e))) :=
            .of_move rfl rfl (by simp [phase]) (by simp [Call.move])
          exact hmoved.setCall called called'
      | ok bytes =>
          have hmoved : Moved σ call (call.move (.returned (.ok σ.nextLease))) :=
            .of_move rfl rfl (by simp [phase]) (by simp [Call.move])
          obtain ⟨call₁, hc₁, rfl⟩ := calls_notifyAll.mp called'
          obtain ⟨call₀, hc₀, h₀⟩ := hmoved.setCall called hc₁
          exact ⟨call₀, hc₀, h₀.notify⟩
  | release id call e called phase =>
      have hmoved : Moved σ call (call.move (.returned (.error e))) := by
        refine ⟨rfl, rfl, fun r h => (by rw [phase] at h; cases h), fun e' he' => ?_⟩
        simp only [Call.move, Phase.returned.injEq, Except.error.injEq] at he'
        exact Or.inr (Or.inl ⟨he' ▸ phase, rfl⟩)
      obtain ⟨call₁, hc₁, rfl⟩ := calls_notifyAll.mp called'
      obtain ⟨call₀, hc₀, h₀⟩ := hmoved.setCall called hc₁
      exact ⟨call₀, hc₀, h₀.notify⟩
  | reorder entries perm => exact ⟨call', called', .refl σ call'⟩

omit [DecidableEq K] in
theorem fresh_setCall {σ : System K ε} {id id' : Nat} {call : Call K ε}
    (fresh : (σ.setCall id call).calls id' = none) : σ.calls id' = none := by
  by_cases hid : id' = id
  · subst hid
    simp [System.setCall] at fresh
  · simpa [System.setCall, hid] using fresh

omit [DecidableEq K] in
theorem fresh_notifyAll {σ : System K ε} {id : Nat} (fresh : σ.notifyAll.calls id = none) :
    σ.calls id = none :=
  Option.map_eq_none_iff.mp fresh

/-- No step forgets a call. -/
theorem Advance.fresh {σ σ' : System K ε} (hs : Advance σ σ') {id : Nat}
    (fresh : σ'.calls id = none) :
    σ.calls id = none := by
  cases hs with
  | examine id' call r shared called phase region =>
      obtain ⟨next, -, hcalls⟩ := Moved.examined phase region
      rw [hcalls] at fresh
      exact fresh_setCall fresh
  | complete id' call bytes r shared called phase region =>
      cases r with
      | error e => exact fresh_setCall (σ := σ) fresh
      | ok bytes => exact fresh_setCall (σ := σ) (fresh_notifyAll fresh)
  | release id' call e called phase => exact fresh_setCall (σ := σ) (fresh_notifyAll fresh)
  | reorder entries perm => exact fresh
  | _ => exact fresh_setCall fresh

theorem Fetch.fresh {keys : List K} {size : Nat} {σ₀ σ : System K ε}
    (h : Fetch keys size σ₀ σ) {id : Nat}
    (fresh : σ.calls id = none) : σ₀.calls id = none := by
  induction h with
  | refl => exact fresh
  | start run id' key hfresh mem ih => exact ih (fresh_setCall fresh)
  | advance run ha ih => exact ih (ha.fresh fresh)

/-- A lease of the new state is old, or was granted to a running call for its key. -/
theorem Advance.granted {σ σ' : System K ε} (hs : Advance σ σ') {lease : Lease K}
    (live : lease ∈ σ'.leases) :
    lease ∈ σ.leases ∨ ∃ id call, σ.calls id = some call ∧ (∀ r, call.phase ≠ .returned r) ∧
      lease.key = call.key := by
  cases hs with
  | examine id call r shared called phase region =>
      rcases r with e | bytes | _ | _
      · exact Or.inl live
      · rcases List.mem_cons.mp live with rfl | hmem
        · exact Or.inr ⟨id, call, called, by simp [phase], rfl⟩
        · exact Or.inl hmem
      · exact Or.inl live
      · exact Or.inl live
  | complete id call bytes r shared called phase region =>
      cases r with
      | error e => exact Or.inl live
      | ok bytes =>
          rcases List.mem_cons.mp live with rfl | hmem
          · exact Or.inr ⟨id, call, called, by simp [phase], rfl⟩
          · exact Or.inl hmem
  | _ => exact Or.inl live

/-- Since `σ₀`, only the client's keys were asked for, with its size. -/
structure Confined (keys : List K) (size : Nat) (σ₀ σ : System K ε) : Prop where
  calls : ∀ id call, σ.calls id = some call →
    (σ₀.calls id = some call ∧ ∃ r, call.phase = .returned r) ∨
      (σ₀.calls id = none ∧ call.key ∈ keys ∧ call.expectedBytes = size)
  leases : ∀ lease ∈ σ.leases, lease.key ∈ keys

theorem Fetch.confined {keys : List K} {size : Nat} {σ₀ σ : System K ε} (h : Fetch keys size σ₀ σ)
    (quiet : σ₀.Quiet) : Confined keys size σ₀ σ := by
  induction h with
  | refl =>
      refine ⟨fun id call called => Or.inl ⟨called, quiet.returned id call called⟩,
        fun lease live => ?_⟩
      rw [quiet.leases] at live
      cases live
  | start run id key fresh mem ih =>
      refine ⟨fun id' call' called' => ?_, ih.leases⟩
      rcases calls_setCall.mp called' with ⟨rfl, rfl⟩ | ⟨-, hc⟩
      · exact Or.inr ⟨run.fresh fresh, mem, rfl⟩
      · exact ih.calls id' call' hc
  | @advance σ σ' run ha ih =>
      refine ⟨fun id' call' called' => ?_, fun lease live => ?_⟩
      · obtain ⟨call, called, hmoved⟩ := ha.moved called'
        rcases ih.calls id' call called with ⟨hold, r, hr⟩ | ⟨hnew, hkey, hsize⟩
        · rw [hmoved.settled r hr]
          exact Or.inl ⟨hold, r, hr⟩
        · exact Or.inr ⟨hnew, hmoved.key ▸ hkey, hmoved.expected.trans hsize⟩
      · rcases ha.granted live with hold | ⟨id, call, called, hrunning, hkey⟩
        · exact ih.leases lease hold
        · rcases ih.calls id call called with ⟨-, r, hr⟩ | ⟨-, hmem, -⟩
          · exact absurd hr (hrunning r)
          · exact hkey ▸ hmem

/-! ### When there is room for every key -/

/-- One size per key, as when the layer of a key fixes the layout of its expert. -/
def Sized (σ : System K ε) (keys : List K) (size : Nat) : Prop :=
  ∀ id call, σ.calls id = some call → call.key ∈ keys → call.expectedBytes = size

omit [DecidableEq K] in
theorem Confined.sized {keys : List K} {size : Nat} {σ₀ σ : System K ε}
    (h : Confined keys size σ₀ σ)
    (hsized : σ₀.Sized keys size) : σ.Sized keys size := by
  intro id call called mem
  rcases h.calls id call called with ⟨hold, -⟩ | ⟨-, -, hsize⟩
  · exact hsized id call hold mem
  · exact hsize

/-- What can not be evicted belongs to the client's keys and has its size. -/
theorem Confined.entry {keys : List K} {size : Nat} {σ₀ σ : System K ε}
    (h : Confined keys size σ₀ σ) (hinv : σ.Inv) (hsized : σ.Sized keys size) {key : K} {e : Entry}
    (hl : σ.shared.entries.lookup key = some e)
    (held : ∀ bytes lastUsed resident, e ≠ .ready bytes 0 lastUsed resident) :
    key ∈ keys ∧ e.readyBytes + e.loadingBytes = size := by
  have hslot := hinv.slot key
  rw [hl] at hslot
  generalize he : some e = found at hslot
  cases hslot with
  | vacant => cases he
  | loading resident id call free called keyed flying only =>
      cases he
      rcases h.calls id call called with ⟨-, r, hr⟩ | ⟨-, hmem, hsize⟩
      · rw [hr] at flying
        cases flying
      · exact ⟨keyed ▸ hmem,
          by simp only [Entry.readyBytes, Entry.loadingBytes, hsize, Nat.zero_add]⟩
  | ready bytes lastUsed resident holders idle awake loaded =>
      cases he
      cases hleases : σ.leasesOf key with
      | nil =>
          refine absurd ?_ (held bytes lastUsed resident)
          rw [hleases]
          rfl
      | cons lease leases =>
          have hlease : lease ∈ σ.leasesOf key := by
            rw [hleases]
            exact List.mem_cons_self
          have hlive : lease ∈ σ.leases ∧ lease.key = key := by
            simpa [leasesOf] using hlease
          have hmem : key ∈ keys := hlive.2 ▸ h.leases lease hlive.1
          obtain ⟨call, called, keyed, -, hlen⟩ := loaded
          refine ⟨hmem, ?_⟩
          simp only [Entry.readyBytes, Entry.loadingBytes, Nat.add_zero]
          rw [hlen, hsized _ call called (keyed ▸ hmem)]

/-- When eviction can free no more, the bytes are those of at most the other keys. -/
theorem Confined.committed {keys : List K} {size : Nat} {σ₀ σ : System K ε}
    (h : Confined keys size σ₀ σ) (hinv : σ.Inv) (hsized : σ.Sized keys size) {key : K}
    (mem : key ∈ keys) {s' : State K} (hacc : State.Accounted σ.config.capacityBytes s')
    (hdrops : State.Drops σ.shared s') (all : s'.candidate = none)
    (absent : s'.entries.lookup key = none) :
    ∃ others, others + 1 ≤ keys.length ∧ s'.usedBytes + s'.reservedBytes = others * size := by
  have hentry : ∀ entry ∈ s'.entries.entries, entry.1 ∈ keys.erase key ∧
      entry.2.readyBytes + entry.2.loadingBytes = size := by
    rintro ⟨k, e⟩ hmem
    have hk : s'.entries.lookup k = some e := Table.mem_entries_iff.mp hmem
    have hold : σ.shared.entries.lookup k = some e := by
      rcases hdrops k with hsame | ⟨hgone, -⟩
      · exact hsame.symm.trans hk
      · rw [hgone] at hk
        cases hk
    have hheld : ∀ bytes lastUsed resident, e ≠ .ready bytes 0 lastUsed resident := by
      rintro bytes lastUsed resident rfl
      exact State.candidate_eq_none all k bytes lastUsed resident hk
    obtain ⟨hkeys, hbytes⟩ := h.entry hinv hsized hold hheld
    have hne : k ≠ key := by
      rintro rfl
      rw [absent] at hk
      cases hk
    exact ⟨(List.mem_erase_of_ne hne).mpr hkeys, hbytes⟩
  refine ⟨s'.entries.entries.length, ?_, ?_⟩
  · have hle := Table.length_entries_le fun entry hmem => (hentry entry hmem).1
    rw [List.length_erase_of_mem mem] at hle
    have := List.length_pos_of_mem mem
    omega
  · rw [hacc.used, hacc.reserved, ← Table.total_add]
    exact Table.total_of_forall fun entry hmem => (hentry entry hmem).2

/-- The capacity holds all keys, or the sum that would show that it does not cannot be counted. -/
def Holdable (capacity size count : Nat) : Prop :=
  count * size ≤ capacity ∨ usizeMax < (capacity / size + 1) * size

theorem not_refused {capacity size count others : Nat} (h : Holdable capacity size count)
    (hcount : others + 1 ≤ count) (hcounted : others * size + size ≤ usizeMax) :
    others * size + size ≤ capacity := by
  have hsucc : (others + 1) * size = others * size + size := Nat.succ_mul others size
  rcases h with hfits | hwide
  · have := Nat.mul_le_mul_right size hcount
    omega
  · by_contra hfull
    have hlt : capacity / size < others + 1 := by
      rcases Nat.eq_zero_or_pos size with rfl | hpos
      · omega
      · exact (Nat.div_lt_iff_lt_mul hpos).mpr (by omega)
    have hle := Nat.mul_le_mul_right size (Nat.succ_le_of_lt hlt)
    simp only [Nat.succ_eq_add_one] at hle
    omega

/-- The client is never refused for want of capacity. -/
theorem Fetch.not_pinned {keys : List K} {size : Nat} {σ₀ σ : System K ε} (h : Fetch keys size σ₀ σ)
    (quiet : σ₀.Quiet) (hinv : σ₀.Inv) (hsized : σ₀.Sized keys size)
    (hold : Holdable σ₀.config.capacityBytes size keys.length) {id : Nat} {call : Call K ε}
    (new : σ₀.calls id = none) (called : σ.calls id = some call) (requested : Nat) :
    call.phase ≠ .returned (.error (.cache (.capacityPinned requested))) := by
  induction h generalizing id call with
  | refl =>
      rw [new] at called
      cases called
  | start run id' key fresh mem ih =>
      rcases calls_setCall.mp called with ⟨rfl, rfl⟩ | ⟨-, hc⟩
      · simp only [entering, enter]
        split
        · simp
        · split <;> simp
      · exact ih new hc
  | @advance σ σ' run ha ih =>
      intro hphase
      have hreached := run.steps.inv hinv
      obtain ⟨call₀, called₀, hmoved⟩ := ha.moved called
      rcases hmoved.failed _ hphase with hret | ⟨hrel, -⟩ | ⟨-, error, shared, heq, hrun⟩
      · exact ih new called₀ hret
      · have hsound := hreached.1.sound id call₀ called₀
        simp only [Call.Sound, hrel] at hsound
        rcases hsound.2 with ⟨e, -, he⟩ | ⟨bytes, -, -, he⟩ <;> cases he
      · cases heq
        have hconfined := run.confined quiet
        obtain ⟨hmem, hsize⟩ : call₀.key ∈ keys ∧ call₀.expectedBytes = size := by
          rcases hconfined.calls id call₀ called₀ with ⟨hold, -⟩ | ⟨-, hmem, hsize⟩
          · rw [new] at hold
            cases hold
          · exact ⟨hmem, hsize⟩
        obtain ⟨r, s', hexamine, hexamines, hacc⟩ :=
          hreached.1.accounted.examine hreached.1.limit call₀.key
          call₀.expectedBytes
        rw [hrun] at hexamine
        cases hexamine
        cases hexamines with
        | full _ _ absent drops ends =>
            cases ends with
            | pinned _ full counted all =>
                obtain ⟨others, hcount, hsum⟩ :=
                  hconfined.committed hreached.1 (hconfined.sized hsized) hmem hacc drops
                  all (drops.lookup_none absent)
                rw [hsum, hsize] at full counted
                rw [hreached.2] at full
                exact absurd (not_refused hold hcount counted) (Nat.not_le.mpr full)

/-! ### When there is not -/

/-- The leases of a client that has loaded its keys one after the other. -/
def leasesFor (source : K → List UInt8) (keys : List K) : List (Lease K) :=
  keys.zipIdx.map fun entry => ⟨entry.2, entry.1, source entry.1, entry.2⟩

/-- The first `n` keys are loaded from the source and held, and there is nothing else. -/
structure Filled (source : K → List UInt8) (keys : List K) (size : Nat) (config : CacheConfig)
    (n : Nat) (σ : System K ε) : Prop where
  config : σ.config = config
  fresh : ∀ id, n ≤ id → σ.calls id = none
  answered : ∀ id call outcome, σ.calls id = some call → call.outcome = some outcome →
    outcome = .ok (source call.key)
  leases : σ.leases = (leasesFor source (keys.take n)).reverse
  nextLease : σ.nextLease = n
  used : σ.shared.usedBytes = n * size
  reserved : σ.shared.reservedBytes = 0
  absent : ∀ key, key ∉ keys.take n → σ.shared.entries.lookup key = none
  pinned : ∀ key bytes lastUsed resident,
    σ.shared.entries.lookup key ≠ some (.ready bytes 0 lastUsed resident)

theorem Filled.initial (source : K → List UInt8) (keys : List K) (size : Nat)
    (config : CacheConfig) : Filled source keys size config 0 (initial config : System K ε) where
  config := rfl
  fresh := fun _ _ => rfl
  answered := fun _ _ _ called => by cases called
  leases := rfl
  nextLease := rfl
  used := (Nat.zero_mul size).symm
  reserved := rfl
  absent := fun key _ => AList.lookup_empty key
  pinned := fun key bytes lastUsed resident hl => by
    have hnone := AList.lookup_empty (β := fun _ : K => Entry) key
    rw [show (System.initial config : System K ε).shared.entries = ∅ from rfl, hnone] at hl
    cases hl

omit [DecidableEq K] in
theorem entering_polling {σ : System K ε} {key : K} {size : Nat} (hsize : 0 < size)
    (hle : size ≤ σ.config.capacityBytes) :
    σ.entering key size = ⟨key, size, .polling, true, 0, none⟩ := by
  unfold entering enter
  rw [if_neg (Nat.ne_of_gt hsize), if_neg (Nat.not_lt.mpr hle)]

omit [DecidableEq K] in
theorem getElem_notMem_take {keys : List K} (nodup : keys.Nodup) {n : Nat} (hn : n < keys.length) :
    keys[n] ∉ keys.take n := by
  have hnodup := nodup.sublist (List.take_sublist (n + 1) keys)
  rw [← List.take_concat_get' keys n hn] at hnodup
  exact fun hmem => (List.disjoint_of_nodup_append hnodup) hmem (List.mem_singleton_self _)

/-- One more key is loaded while there is room. -/
theorem Filled.load {source : K → List UInt8} {keys : List K} {size : Nat} {config : CacheConfig}
    {n : Nat} {σ₀ σ : System K ε} (h : Filled source keys size config n σ)
    (run : Fetch keys size σ₀ σ) (hinv₀ : σ₀.Inv) (nodup : keys.Nodup) (hn : n < keys.length)
    (length : ∀ key ∈ keys, (source key).length = size) (hsize : 0 < size)
    (room : (n + 1) * size ≤ config.capacityBytes) :
    ∃ σ', Fetch keys size σ₀ σ' ∧ Filled source keys size config (n + 1) σ' := by
  have hsucc : (n + 1) * size = n * size + size := Nat.succ_mul n size
  have hconfig := h.config
  have hinv := (run.steps.inv hinv₀).1
  let key := keys[n]
  have htake : keys.take (n + 1) = keys.take n ++ [key] := (List.take_concat_get' keys n hn).symm
  have hkey : key ∉ keys.take n := getElem_notMem_take nodup hn
  let call : Call K ε := ⟨key, size, .polling, true, 0, none⟩
  have hstart := Fetch.start run n key (h.fresh n (Nat.le_refl n)) (List.getElem_mem hn)
  rw [entering_polling hsize (by rw [hconfig]; omega)] at hstart
  obtain ⟨s₁, resident, hrun₁, hputs₁, hused₁, hreserved₁⟩ :=
    hinv.accounted.examine_room hinv.limit size
    (h.absent key hkey) (by rw [h.used, h.reserved, hconfig]; omega)
  have hexamine :=
    hstart.advance (.examine n call (.ok .reserved) s₁ (by simp [setCall, call]) rfl hrun₁)
  have hinvoke := hexamine.advance (.invoke n (call.move .reserved)
    (by simp [setCall, examined]) rfl)
  let bytes : List UInt8 := source key
  have hbytes : bytes.length = size := length key (List.getElem_mem hn)
  have hfinish := hinvoke.advance (.finish n ⟨key, size, .loading, false, 1, none⟩ (.ok bytes)
    (by simp [setCall, invoked, Call.move, call]) rfl)
  have hinv₄ := (hfinish.steps.inv hinv₀).1
  obtain ⟨s₂, tick, hrun₂, hputs₂, -, hused₂, hreserved₂⟩ := hinv₄.accounted.complete hinv₄.limit
    (show s₁.entries.lookup key = some (.loading size resident) by
      rw [hputs₁ key, if_pos rfl]) hbytes
  change State.complete key size bytes s₁ = (.ok bytes, s₂) at hrun₂
  change s₂.usedBytes = s₁.usedBytes + size at hused₂
  change s₂.reservedBytes + size = s₁.reservedBytes at hreserved₂
  have hcomplete :=
    hfinish.advance (.complete n ⟨key, size, .loaded bytes, false, 1, some (.ok bytes)⟩ bytes
    (.ok bytes) s₂ (by simp [setCall, finished, hbytes]) rfl hrun₂)
  refine ⟨_, hcomplete, hconfig, fun id hid => ?_, ?_, ?_, ?_, ?_, ?_, fun k hk => ?_,
    fun k b lu r hk => ?_⟩
  · have hne : id ≠ n := by omega
    have hold : σ.calls id = none := h.fresh id (by omega)
    simp [completed, notifyAll, setCall, grant, setOrigin, setShared, examined, hne, hold]
  · intro id call outcome called houtcome
    obtain ⟨before, hbefore, rfl⟩ := calls_notifyAll.mp called
    rw [Call.notify_outcome] at houtcome
    rw [Call.notify_key]
    rcases calls_setCall.mp hbefore with ⟨rfl, rfl⟩ | ⟨hne, hold⟩
    · cases houtcome
      rfl
    · have hcalled : σ.calls id = some before := by
        simpa [completed, setCall, grant, setOrigin, setShared, examined, hne] using hold
      exact h.answered id before outcome hcalled houtcome
  · show (⟨σ.nextLease, key, bytes, _⟩ : Lease K) :: σ.leases = _
    rw [htake, leasesFor, List.zipIdx_append, List.map_append, List.reverse_append, h.leases,
      h.nextLease]
    have hlength : (keys.take n).length = n := List.length_take_of_le (Nat.le_of_lt hn)
    simp [leasesFor, hlength, setOrigin, bytes]
  · show σ.nextLease + 1 = n + 1
    rw [h.nextLease]
  · show s₂.usedBytes = _
    rw [hused₂, hused₁, h.used, hsucc]
  · show s₂.reservedBytes = 0
    rw [hreserved₁, h.reserved] at hreserved₂
    omega
  · rw [htake, List.mem_append, List.mem_singleton, not_or] at hk
    show s₂.entries.lookup k = none
    rw [hputs₂ k, if_neg hk.2]
    show s₁.entries.lookup k = none
    rw [hputs₁ k, if_neg hk.2]
    exact h.absent k hk.1
  · change s₂.entries.lookup k = _ at hk
    rw [hputs₂ k] at hk
    split at hk
    · cases hk
    · change s₁.entries.lookup k = _ at hk
      rw [hputs₁ k, if_neg (by assumption)] at hk
      exact h.pinned k b lu r hk

theorem exists_filled {source : K → List UInt8} {keys : List K} {size : Nat}
    {config : CacheConfig} (limit : config.capacityBytes ≤ usizeMax) (nodup : keys.Nodup)
    (length : ∀ key ∈ keys, (source key).length = size) (hsize : 0 < size) (n : Nat)
    (hn : n ≤ keys.length) (room : n * size ≤ config.capacityBytes) :
    ∃ σ : System K ε, Fetch keys size (initial config) σ ∧
      Filled source keys size config n σ := by
  induction n with
  | zero => exact ⟨initial config, .refl, .initial source keys size config⟩
  | succ n ih =>
      have hle : n * size ≤ (n + 1) * size := Nat.mul_le_mul_right size (Nat.le_succ n)
      obtain ⟨σ, run, hfilled⟩ := ih (by omega) (by omega)
      exact hfilled.load run (Inv.initial limit) nodup (by omega) length hsize room

/-- A client that wants more keys than there is room for is refused, starting from an empty cache.
-/
theorem exists_pinned {keys : List K} {size : Nat} {config : CacheConfig}
    (limit : config.capacityBytes ≤ usizeMax) (nodup : keys.Nodup) (hsize : 0 < size)
    (hfits : size ≤ config.capacityBytes)
    (hold : ¬ Holdable config.capacityBytes size keys.length) :
    ∃ (σ : System K ε) (id : Nat) (call : Call K ε), Fetch keys size (initial config) σ ∧
      σ.calls id = some call ∧
      call.phase = .returned (.error (.cache (.capacityPinned size))) := by
  rw [Holdable, not_or, Nat.not_le, Nat.not_lt] at hold
  obtain ⟨hmany, hcounted⟩ := hold
  let n := config.capacityBytes / size
  have hroom : n * size ≤ config.capacityBytes := Nat.div_mul_le_self _ _
  have hn : n < keys.length := (Nat.div_lt_iff_lt_mul hsize).mpr hmany
  have hsucc : (n + 1) * size = n * size + size := Nat.succ_mul n size
  have hfull : config.capacityBytes < (n + 1) * size :=
    (Nat.div_lt_iff_lt_mul hsize).mp (Nat.lt_succ_self n)
  change (n + 1) * size ≤ usizeMax at hcounted
  have hlength : ∀ key ∈ keys, (List.replicate size (0 : UInt8)).length = size :=
    fun _ _ => List.length_replicate
  obtain ⟨σ, run, hfilled⟩ :=
    exists_filled (ε := ε) limit nodup hlength hsize n (Nat.le_of_lt hn) hroom
  have hinv := (run.steps.inv (Inv.initial limit)).1
  have hconfig := hfilled.config
  let key := keys[n]
  have hkey : key ∉ keys.take n := getElem_notMem_take nodup hn
  have hstart := Fetch.start run n key (hfilled.fresh n (Nat.le_refl n)) (List.getElem_mem hn)
  rw [entering_polling hsize (by rw [hconfig]; exact hfits)] at hstart
  obtain ⟨s₁, hrun⟩ := State.examine_full σ.config size (hfilled.absent key hkey)
    (by rw [hfilled.used, hfilled.reserved, hconfig]; omega)
    (by rw [hfilled.used, hfilled.reserved]; omega) hfilled.pinned
  have hexamine :=
    hstart.advance
      (.examine n ⟨key, size, .polling, true, 0, none⟩ (.error (.capacityPinned size)) s₁
    (by simp [setCall]) rfl hrun)
  exact ⟨_, n, _, hexamine, by simp only [examined, setCall, Function.update_self]; rfl, rfl⟩

end System
end LightBridge.ExpertCache
