import LightBridge.ExpertCache.State

/-! What each lock region does to the entries and to the byte counters. -/
namespace LightBridge.ExpertCache
open Foundation

namespace State
variable {K : Type} [DecidableEq K]

/-- The counters are the sums they stand for, within the capacity, and an unpinned entry
is one that may stay. -/
structure Accounted (capacity : Nat) (s : State K) : Prop where
  used : s.usedBytes = s.entries.total Entry.readyBytes
  reserved : s.reservedBytes = s.entries.total Entry.loadingBytes
  within : s.usedBytes + s.reservedBytes ≤ capacity
  resident : ∀ key bytes lastUsed resident,
    s.entries.lookup key = some (.ready bytes 0 lastUsed resident) → resident = true

/-- `s'` has entry `e` at `key` and is `s` elsewhere. -/
def Puts (s s' : State K) (key : K) (e : Option Entry) : Prop :=
  ∀ k, s'.entries.lookup k = if k = key then e else s.entries.lookup k

/-- Entries that are gone in `s'` were ready and unpinned; nothing else changed. -/
def Drops (s s' : State K) : Prop :=
  ∀ k, s'.entries.lookup k = s.entries.lookup k ∨
    (s'.entries.lookup k = none ∧ ∃ bytes lastUsed resident,
      s.entries.lookup k = some (.ready bytes 0 lastUsed resident))

theorem Drops.refl (s : State K) : Drops s s := fun _ => Or.inl rfl

theorem Drops.trans {a b c : State K} (h : Drops a b) (h' : Drops b c) : Drops a c := by
  intro k
  rcases h' k with hk' | ⟨hnone, hready⟩
  · rw [hk']
    exact h k
  · rcases h k with hk | ⟨hgone, -⟩
    · rw [hk] at hready
      exact Or.inr ⟨hnone, hready⟩
    · rw [hgone] at hready
      obtain ⟨_, _, _, h⟩ := hready
      cases h

theorem Drops.of_puts {s s' : State K} {key : K} {bytes : List UInt8} {lastUsed : Nat}
    {resident : Bool} (h : Puts s s' key none)
    (hl : s.entries.lookup key = some (.ready bytes 0 lastUsed resident)) :
    Drops s s' := by
  intro k
  rw [h k]
  by_cases hk : k = key
  · subst hk
    rw [if_pos rfl]
    exact Or.inr ⟨rfl, bytes, lastUsed, resident, hl⟩
  · rw [if_neg hk]
    exact Or.inl rfl

theorem Accounted.congr {capacity : Nat} {s s' : State K} (h : Accounted capacity s)
    (hentries : s'.entries = s.entries) (hused : s'.usedBytes = s.usedBytes)
    (hreserved : s'.reservedBytes = s.reservedBytes) : Accounted capacity s' where
  used := by rw [hused, hentries]; exact h.used
  reserved := by rw [hreserved, hentries]; exact h.reserved
  within := by rw [hused, hreserved]; exact h.within
  resident := by rw [hentries]; exact h.resident

theorem puts_insert {s s' : State K} {key : K} {e : Entry}
    (h : s'.entries = s.entries.insert key e) :
    Puts s s' key (some e) := by
  intro k
  rw [h, Table.lookup_insert_eq]

theorem puts_erase {s s' : State K} {key : K} (h : s'.entries = s.entries.erase key) :
    Puts s s' key none := by
  intro k
  rw [h, Table.lookup_erase_eq]

/-- A ready entry keeps its bytes while its pins change. -/
theorem Accounted.repin {capacity : Nat} {s s' : State K} (h : Accounted capacity s) {key : K}
    {bytes : List UInt8} {pins lastUsed : Nat} {resident : Bool}
    (hl : s.entries.lookup key = some (.ready bytes pins lastUsed resident)) {pins' lastUsed' : Nat}
    (hentries : s'.entries = s.entries.insert key (.ready bytes pins' lastUsed' resident))
    (hused : s'.usedBytes = s.usedBytes) (hreserved : s'.reservedBytes = s.reservedBytes)
    (hstay : pins' = 0 → resident = true) : Accounted capacity s' where
  used := by
    have hw := Table.total_replace Entry.readyBytes hl (.ready bytes pins' lastUsed' resident)
    have := h.used
    simp only [Entry.readyBytes] at hw
    rw [hused, hentries]
    omega
  reserved := by
    have hw := Table.total_replace Entry.loadingBytes hl (.ready bytes pins' lastUsed' resident)
    have := h.reserved
    simp only [Entry.loadingBytes] at hw
    rw [hreserved, hentries]
    omega
  within := by rw [hused, hreserved]; exact h.within
  resident := by
    intro k b lu r hk
    rw [puts_insert hentries k] at hk
    split at hk
    · cases hk
      exact hstay rfl
    · exact h.resident k b lu r hk

/-- A ready entry leaves with its bytes. -/
theorem Accounted.remove {capacity : Nat} {s s' : State K} (h : Accounted capacity s) {key : K}
    {bytes : List UInt8} {pins lastUsed : Nat} {resident : Bool}
    (hl : s.entries.lookup key = some (.ready bytes pins lastUsed resident))
    (hentries : s'.entries = s.entries.erase key)
    (hused : s'.usedBytes + bytes.length = s.usedBytes)
    (hreserved : s'.reservedBytes = s.reservedBytes) : Accounted capacity s' where
  used := by
    have hw := Table.total_erase Entry.readyBytes hl
    have := h.used
    simp only [Entry.readyBytes] at hw
    rw [hentries]
    omega
  reserved := by
    have hw := Table.total_erase Entry.loadingBytes hl
    have := h.reserved
    simp only [Entry.loadingBytes] at hw
    rw [hentries]
    omega
  within := by
    have := h.within
    omega
  resident := by
    intro k b lu r hk
    rw [puts_erase hentries k] at hk
    split at hk
    · cases hk
    · exact h.resident k b lu r hk

/-- The bytes of a ready entry are counted. -/
theorem Accounted.bytes_le {capacity : Nat} {s : State K} (h : Accounted capacity s) {key : K}
    {bytes : List UInt8} {pins lastUsed : Nat} {resident : Bool}
    (hl : s.entries.lookup key = some (.ready bytes pins lastUsed resident)) :
    bytes.length ≤ s.usedBytes := by
  rw [h.used]
  exact Table.le_total Entry.readyBytes hl

/-- The reservation of a loading entry is counted. -/
theorem Accounted.expected_le {capacity : Nat} {s : State K} (h : Accounted capacity s) {key : K}
    {expected : Nat} {resident : Bool}
    (hl : s.entries.lookup key = some (.loading expected resident)) :
    expected ≤ s.reservedBytes := by
  rw [h.reserved]
  exact Table.le_total Entry.loadingBytes hl

/-! ### Eviction -/

omit [DecidableEq K] in
theorem unpinned_eq_some {entry : Sigma fun _ : K => Entry} {k : K} {lastUsed : Nat} :
    unpinned entry = some (k, lastUsed) ↔
      ∃ bytes resident, entry = ⟨k, .ready bytes 0 lastUsed resident⟩ := by
  obtain ⟨key, value⟩ := entry
  cases value with
  | loading expected resident => simp [unpinned]
  | ready bytes pins last resident =>
      cases pins with
      | zero => simp [unpinned]
      | succ pins => simp [unpinned]

theorem candidate_eq_some {s : State K} {key : K} (h : s.candidate = some key) :
    ∃ bytes lastUsed resident, s.entries.lookup key = some (.ready bytes 0 lastUsed resident) := by
  obtain ⟨⟨k, lastUsed⟩, hmin, rfl⟩ := Option.map_eq_some_iff.mp h
  obtain ⟨entry, hentry, hun⟩ := List.mem_filterMap.mp (List.argmin_mem hmin)
  obtain ⟨bytes, resident, rfl⟩ := unpinned_eq_some.mp hun
  exact ⟨bytes, lastUsed, resident, Table.mem_entries_iff.mp hentry⟩

theorem candidate_eq_none {s : State K} (h : s.candidate = none) (key : K) (bytes : List UInt8)
    (lastUsed : Nat) (resident : Bool) :
    s.entries.lookup key ≠ some (.ready bytes 0 lastUsed resident) := by
  intro hl
  have hnil := List.argmin_eq_none.mp (Option.map_eq_none_iff.mp h)
  have hmem : (key, lastUsed) ∈ s.entries.entries.filterMap unpinned :=
    List.mem_filterMap.mpr ⟨_, Table.mem_entries_iff.mpr hl, rfl⟩
  rw [hnil] at hmem
  cases hmem

theorem candidate_of_pinned {s : State K} (h : ∀ key bytes lastUsed resident,
    s.entries.lookup key ≠ some (.ready bytes 0 lastUsed resident)) : s.candidate = none := by
  cases hc : s.candidate with
  | none => rfl
  | some key =>
      obtain ⟨bytes, lastUsed, resident, hl⟩ := candidate_eq_some hc
      exact absurd hl (h key bytes lastUsed resident)

/-- Removing an unpinned entry and its bytes never fails. -/
theorem Accounted.removeUnpinned {capacity : Nat} {s : State K} (h : Accounted capacity s) {key : K}
    {bytes : List UInt8} {pins lastUsed : Nat} {resident : Bool} (site : OverflowSite)
    (hl : s.entries.lookup key = some (.ready bytes pins lastUsed resident)) :
    ∃ s', (removeEntry key >>= fun _ => subtractUsed site bytes.length) s = (.ok (), s') ∧
      Accounted capacity s' ∧ s'.entries = s.entries.erase key ∧
      s'.reservedBytes = s.reservedBytes ∧
      s'.usedBytes + bytes.length = s.usedBytes := by
  have hle := h.bytes_le hl
  refine ⟨{ s with entries := s.entries.erase key, usedBytes := s.usedBytes - bytes.length }, ?_,
    h.remove hl rfl (Nat.sub_add_cancel hle) rfl, rfl, rfl, Nat.sub_add_cancel hle⟩
  simp only [removeEntry, subtractUsed, Command.bind_run, hl, checkedSub_of_le hle]

theorem removeEntry_ready {s : State K} {key : K} {bytes : List UInt8} {pins lastUsed : Nat}
    {resident : Bool} (hl : s.entries.lookup key = some (.ready bytes pins lastUsed resident)) :
    removeEntry key s = (.ok (some bytes), { s with entries := s.entries.erase key }) := by
  simp only [removeEntry, hl]

theorem Accounted.evict {capacity : Nat} {s : State K} (h : Accounted capacity s) {key : K}
    {bytes : List UInt8} {lastUsed : Nat} {resident : Bool}
    (hl : s.entries.lookup key = some (.ready bytes 0 lastUsed resident)) :
    ∃ s', State.evict key s = (.ok (), s') ∧ Accounted capacity s' ∧ Drops s s' ∧
      s'.entries = s.entries.erase key ∧ s'.reservedBytes = s.reservedBytes := by
  obtain ⟨s₁, hrun, hacc, hentries, hreserved, -⟩ := h.removeUnpinned .evict hl
  rw [Command.bind_of_ok (removeEntry_ready hl)] at hrun
  refine ⟨{ s₁ with evictions := saturatingAdd s₁.evictions 1 }, ?_, hacc.congr rfl rfl rfl,
    Drops.of_puts (puts_erase hentries) hl, hentries, hreserved⟩
  rw [State.evict, Command.bind_of_ok (removeEntry_ready hl)]
  exact Command.bind_of_ok hrun

/-- How `reserve_capacity` ends. -/
inductive Reserves (capacity requested : Nat) (s : State K) :
    Except CacheError Unit → State K → Prop where
  | room (s' : State K) (room : s'.usedBytes + s'.reservedBytes + requested ≤ capacity) :
      Reserves capacity requested s (.ok ()) s'
  | overflow (s' : State K) (wide : usizeMax < s'.usedBytes + s'.reservedBytes + requested) :
      Reserves capacity requested s (.error (.arithmeticOverflow .committed)) s'
  | pinned (s' : State K) (full : capacity < s'.usedBytes + s'.reservedBytes + requested)
      (counted : s'.usedBytes + s'.reservedBytes + requested ≤ usizeMax)
        (all : s'.candidate = none) :
      Reserves capacity requested s (.error (.capacityPinned requested)) s'

omit [DecidableEq K] in
theorem committed_eq (s : State K) (requested : Nat) :
    (checkedAdd s.usedBytes s.reservedBytes).bind (checkedAdd · requested) =
      if s.usedBytes + s.reservedBytes + requested ≤ usizeMax then
        some (s.usedBytes + s.reservedBytes + requested) else none := by
  unfold checkedAdd
  by_cases h : s.usedBytes + s.reservedBytes ≤ usizeMax
  · rw [if_pos h]
    rfl
  · rw [if_neg h, if_neg (by omega)]
    rfl

/-- More passes than entries: the loop ends by itself, having dropped only unpinned entries. -/
theorem Accounted.reserveLoop {capacity requested passes : Nat} {s : State K}
    (h : Accounted capacity s) (hpasses : s.entries.entries.length < passes) :
    ∃ r s', State.reserveLoop capacity requested passes s = (r, s') ∧
      Reserves capacity requested s r s' ∧
      Accounted capacity s' ∧ Drops s s' ∧ s'.reservedBytes = s.reservedBytes := by
  induction passes generalizing s with
  | zero => exact absurd hpasses (Nat.not_lt_zero _)
  | succ passes ih =>
      rw [State.reserveLoop, Command.bind_of_ok (Command.read_run s), committed_eq]
      by_cases hwide : s.usedBytes + s.reservedBytes + requested ≤ usizeMax
      · rw [if_pos hwide]
        dsimp only
        by_cases hroom : s.usedBytes + s.reservedBytes + requested ≤ capacity
        · rw [if_pos hroom]
          exact ⟨_, s, rfl, .room s hroom, h, .refl s, rfl⟩
        · rw [if_neg hroom]
          cases hc : s.candidate with
          | none => exact ⟨_, s, rfl, .pinned s (by omega) hwide hc, h, .refl s, rfl⟩
          | some key =>
              obtain ⟨bytes, lastUsed, resident, hl⟩ := candidate_eq_some hc
              obtain ⟨s₁, hrun, hacc, hdrops, hentries, hreserved⟩ := h.evict hl
              have hlen := Table.length_erase_lt hl
              rw [← hentries] at hlen
              obtain ⟨r, s', hrun', hends, hacc', hdrops', hreserved'⟩ := ih hacc (by omega)
              refine ⟨r, s', (Command.bind_of_ok hrun).trans hrun', ?_, hacc', hdrops.trans hdrops',
                hreserved'.trans hreserved⟩
              cases hends with
              | room _ room => exact .room s' room
              | overflow _ wide => exact .overflow s' wide
              | pinned _ full counted all => exact .pinned s' full counted all
      · rw [if_neg hwide]
        exact ⟨_, s, rfl, .overflow s (by omega), h, .refl s, rfl⟩

theorem Accounted.reserveCapacity {capacity : Nat} {s : State K} (h : Accounted capacity s)
    (requested : Nat) :
    ∃ r s', State.reserveCapacity capacity requested s = (r, s') ∧
      Reserves capacity requested s r s' ∧
      Accounted capacity s' ∧ Drops s s' ∧ s'.reservedBytes = s.reservedBytes := by
  rw [State.reserveCapacity, Command.bind_of_ok (Command.read_run s)]
  exact h.reserveLoop (Nat.lt_succ_self _)

/-! ### The regions of a call -/

/-- `s'` has the entries of `s`. -/
def Same (s s' : State K) : Prop := ∀ k, s'.entries.lookup k = s.entries.lookup k

/-- A hit adds one pin, or fails because `usize` counts no further. -/
inductive Pins (s : State K) (key : K) (bytes : List UInt8) (pins : Nat) (resident : Bool) :
    Except CacheError (List UInt8) → State K → Prop where
  | pinned (s' : State K) (tick : Nat)
    (puts : Puts s s' key (some (.ready bytes (pins + 1) tick resident))) :
      Pins s key bytes pins resident (.ok bytes) s'
  | overflow (s' : State K) (same : Same s s') (wide : usizeMax < pins + 1) :
      Pins s key bytes pins resident (.error (.arithmeticOverflow .pins)) s'

theorem Accounted.pin {capacity : Nat} {s : State K} (h : Accounted capacity s)
    (tick : Nat) {key : K} {bytes : List UInt8} {pins lastUsed : Nat} {resident : Bool}
    (hl : s.entries.lookup key = some (.ready bytes pins lastUsed resident)) :
    ∃ r s', State.pin key tick bytes pins resident s = (r, s') ∧
      Pins s key bytes pins resident r s' ∧
      Accounted capacity s' := by
  unfold State.pin
  cases hp : checkedAdd pins 1 with
  | none =>
      have hwide : usizeMax < pins + 1 := by
        by_contra hle
        rw [checkedAdd_of_le (by omega)] at hp
        cases hp
      exact ⟨_, s, rfl, .overflow s (fun _ => rfl) hwide, h⟩
  | some pins' =>
      obtain ⟨-, rfl⟩ := checkedAdd_eq_some.mp hp
      exact ⟨_, _, rfl, .pinned _ tick (puts_insert rfl),
        h.repin hl rfl rfl rfl fun hzero => absurd hzero (Nat.succ_ne_zero pins)⟩

/-- `get` answers a lease on a ready entry and nothing otherwise. -/
inductive Gets (s : State K) (key : K) : Except CacheError (Option (List UInt8)) →
      State K → Prop where
  | absent (s' : State K) (same : Same s s') : Gets s key (.ok none) s'
  | hit (s' : State K) (bytes : List UInt8) (pins lastUsed : Nat) (resident : Bool)
      (found : s.entries.lookup key = some (.ready bytes pins lastUsed resident))
      (pinned : Pins s key bytes pins resident (.ok bytes) s') : Gets s key (.ok (some bytes)) s'
  | overflow (s' : State K) (same : Same s s') : Gets s key (.error (.arithmeticOverflow .pins)) s'

theorem Accounted.get {capacity : Nat} {s : State K} (h : Accounted capacity s) (key : K) :
    ∃ r s', State.get key s = (r, s') ∧ Gets s key r s' ∧ Accounted capacity s' := by
  have hticked : Accounted capacity { s with tick := saturatingAdd s.tick 1 } := h.congr rfl rfl rfl
  unfold State.get
  rw [Command.bind_of_ok (show nextTick s = (.ok _, _) from rfl),
    Command.bind_of_ok (Command.read_run _)]
  dsimp only
  cases hl : s.entries.lookup key with
  | none => exact ⟨_, _, rfl, .absent _ fun _ => rfl, hticked.congr rfl rfl rfl⟩
  | some entry =>
      cases entry with
      | loading expected resident => exact ⟨_, _, rfl, .absent _ fun _ => rfl, hticked⟩
      | ready bytes pins lastUsed resident =>
          obtain ⟨r, s', hrun, hpins, hacc⟩ := hticked.pin (saturatingAdd s.tick 1) hl
          cases hpins with
          | pinned _ tick puts =>
              exact ⟨.ok (some bytes), s', Command.bind_of_ok hrun,
                .hit s' bytes pins lastUsed resident hl (.pinned s' tick puts), hacc⟩
          | overflow _ same wide =>
              exact ⟨_, s', Command.bind_of_error hrun, .overflow s' same, hacc⟩

/-- What the region at the head of the loop of `get_or_try_insert` can do. -/
inductive Examines (config : CacheConfig) (s : State K) (key : K) (expected : Nat) :
    Except CacheError Examined → State K → Prop where
  | hit (s' : State K) (bytes : List UInt8) (pins lastUsed : Nat) (resident : Bool)
      (found : s.entries.lookup key = some (.ready bytes pins lastUsed resident))
      (pinned : Pins s key bytes pins resident (.ok bytes) s') :
      Examines config s key expected (.ok (.hit bytes)) s'
  | overflow (s' : State K) (bytes : List UInt8) (pins lastUsed : Nat) (resident : Bool)
      (found : s.entries.lookup key = some (.ready bytes pins lastUsed resident))
        (wide : usizeMax < pins + 1)
      (same : Same s s') : Examines config s key expected (.error (.arithmeticOverflow .pins)) s'
  | wait (s' : State K) (reserved : Nat) (resident : Bool)
      (found : s.entries.lookup key = some (.loading reserved resident)) (same : Same s s') :
      Examines config s key expected (.ok .wait) s'
  | reserved (s₁ s' : State K) (resident : Bool) (absent : s.entries.lookup key = none)
    (drops : Drops s s₁)
      (puts : Puts s₁ s' key (some (.loading expected resident))) :
      Examines config s key expected (.ok .reserved) s'
  | full (s' : State K) (e : CacheError) (absent : s.entries.lookup key = none) (drops : Drops s s')
      (ends : Reserves config.capacityBytes expected s (.error e) s') :
      Examines config s key expected (.error e) s'

theorem Drops.lookup_none {s s' : State K} (h : Drops s s') {k : K}
    (hk : s.entries.lookup k = none) :
    s'.entries.lookup k = none := by
  rcases h k with he | ⟨he, -⟩
  · rw [he, hk]
  · exact he

theorem Accounted.record {capacity : Nat} {s : State K} (h : Accounted capacity s) {key : K}
    {expected : Nat} (resident : Bool) (hl : s.entries.lookup key = none)
    (room : s.usedBytes + s.reservedBytes + expected ≤ capacity) (limit : capacity ≤ usizeMax) :
    ∃ s', State.record key expected resident s = (.ok (), s') ∧
      Puts s s' key (some (.loading expected resident)) ∧ Accounted capacity s' ∧
      s'.usedBytes = s.usedBytes ∧ s'.reservedBytes = s.reservedBytes + expected := by
  unfold State.record
  rw [checkedAdd_of_le (by omega)]
  refine ⟨_, rfl, puts_insert rfl, ⟨?_, ?_, ?_, ?_⟩, rfl, rfl⟩
  · show s.usedBytes = Table.total Entry.readyBytes (s.entries.insert key _)
    rw [Table.total_insert_of_none _ hl, h.used]
    exact (Nat.zero_add _).symm
  · show s.reservedBytes + expected = Table.total Entry.loadingBytes (s.entries.insert key _)
    rw [Table.total_insert_of_none _ hl, h.reserved, Nat.add_comm]
    rfl
  · show s.usedBytes + (s.reservedBytes + expected) ≤ capacity
    omega
  · intro k b lu r hk
    change (s.entries.insert key _).lookup k = _ at hk
    rw [Table.lookup_insert_eq] at hk
    split at hk
    · cases hk
    · exact h.resident k b lu r hk

/-- What is left of the region when the key has no entry. -/
theorem examine_absent (config : CacheConfig) (expected : Nat) {s : State K} {key : K}
    (hl : s.entries.lookup key = none) :
    ∃ requests s₁, s₁.entries = s.entries ∧ s₁.usedBytes = s.usedBytes ∧
      s₁.reservedBytes = s.reservedBytes ∧
      State.examine config key expected s = (do
        State.reserveCapacity config.capacityBytes expected
        State.record key expected (decide (config.admitAfterRequests ≤ requests))
        pure .reserved : Command (State K) CacheError Examined) s₁ := by
  have hwarm : ∃ requests s₁, warm key ({ s with tick := saturatingAdd s.tick 1 } : State K) =
      (.ok requests, s₁) ∧ s₁.entries = s.entries ∧ s₁.usedBytes = s.usedBytes ∧
        s₁.reservedBytes = s.reservedBytes := ⟨_, _, rfl, rfl, rfl, rfl⟩
  obtain ⟨requests, s₁, hrun, hentries, hused, hreserved⟩ := hwarm
  refine ⟨requests, s₁, hentries, hused, hreserved, ?_⟩
  unfold State.examine
  rw [Command.bind_of_ok (show nextTick s = (.ok _, _) from rfl),
    Command.bind_of_ok (Command.read_run _)]
  dsimp only
  rw [hl]
  exact Command.bind_of_ok hrun

theorem Accounted.examine {config : CacheConfig} {s : State K}
    (h : Accounted config.capacityBytes s) (limit : config.capacityBytes ≤ usizeMax) (key : K)
    (expected : Nat) :
    ∃ r s', State.examine config key expected s = (r, s') ∧ Examines config s key expected r s' ∧
      Accounted config.capacityBytes s' := by
  cases hl : s.entries.lookup key with
  | none =>
      obtain ⟨requests, s₁, hentries, hused, hreserved, hexamine⟩ :=
        examine_absent config expected hl
      obtain ⟨r, s₂, hrun, hends, hacc₂, hdrops, -⟩ :=
        (h.congr hentries hused hreserved).reserveCapacity expected
      have hdrops' : Drops s s₂ := fun k => by rw [← hentries]; exact hdrops k
      have hnone : s₂.entries.lookup key = none := hdrops'.lookup_none hl
      cases hends with
      | room _ room =>
          obtain ⟨s', hrecord, hputs, hacc, -, -⟩ := hacc₂.record
            (decide (config.admitAfterRequests ≤ requests)) hnone room limit
          exact ⟨.ok .reserved, s',
            hexamine.trans ((Command.bind_of_ok hrun).trans (Command.bind_of_ok hrecord)),
            .reserved s₂ s' _ hl hdrops' hputs, hacc⟩
      | overflow _ wide =>
          exact ⟨_, s₂, hexamine.trans (Command.bind_of_error hrun),
            .full s₂ _ hl hdrops' (.overflow s₂ wide), hacc₂⟩
      | pinned _ full counted all =>
          exact ⟨_, s₂, hexamine.trans (Command.bind_of_error hrun),
            .full s₂ _ hl hdrops' (.pinned s₂ full counted all), hacc₂⟩
  | some entry =>
      have hticked : Accounted config.capacityBytes { s with tick := saturatingAdd s.tick 1 } :=
        h.congr rfl rfl rfl
      unfold State.examine
      rw [Command.bind_of_ok (show nextTick s = (.ok _, _) from rfl),
        Command.bind_of_ok (Command.read_run _)]
      dsimp only
      rw [hl]
      cases entry with
      | loading reserved resident =>
          exact ⟨_, _, rfl, .wait _ reserved resident hl fun _ => rfl, hticked.congr rfl rfl rfl⟩
      | ready bytes pins lastUsed resident =>
          obtain ⟨r, s', hrun, hpins, hacc⟩ := hticked.pin (saturatingAdd s.tick 1) hl
          cases hpins with
          | pinned _ tick puts =>
              exact ⟨.ok (.hit bytes), s', Command.bind_of_ok hrun,
                .hit s' bytes pins lastUsed resident hl (.pinned s' tick puts), hacc⟩
          | overflow _ same wide =>
              exact ⟨_, s', Command.bind_of_error hrun,
                .overflow s' bytes pins lastUsed resident hl wide same, hacc⟩

/-- Where there is room, a caller that finds no entry becomes the loader. -/
theorem Accounted.examine_room {config : CacheConfig} {s : State K}
    (h : Accounted config.capacityBytes s) (limit : config.capacityBytes ≤ usizeMax) {key : K}
    (expected : Nat) (hl : s.entries.lookup key = none)
    (room : s.usedBytes + s.reservedBytes + expected ≤ config.capacityBytes) :
    ∃ s' resident, State.examine config key expected s = (.ok .reserved, s') ∧
      Puts s s' key (some (.loading expected resident)) ∧ s'.usedBytes = s.usedBytes ∧
      s'.reservedBytes = s.reservedBytes + expected := by
  obtain ⟨requests, s₁, hentries, hused, hreserved, hexamine⟩ := examine_absent config expected hl
  rw [← hused, ← hreserved] at room
  have hreserve : State.reserveCapacity config.capacityBytes expected s₁ = (.ok (), s₁) := by
    rw [State.reserveCapacity, Command.bind_of_ok (Command.read_run s₁), State.reserveLoop,
      Command.bind_of_ok (Command.read_run s₁), committed_eq, if_pos (room.trans limit)]
    dsimp only
    rw [if_pos room]
    rfl
  obtain ⟨s', hrecord, hputs, -, hused', hreserved'⟩ := (h.congr hentries hused hreserved).record
    (decide (config.admitAfterRequests ≤ requests)) (by rw [hentries, hl]) room limit
  exact ⟨s', _, hexamine.trans ((Command.bind_of_ok hreserve).trans (Command.bind_of_ok hrecord)),
    fun k => by rw [← hentries]; exact hputs k, hused'.trans hused, by rw [hreserved', hreserved]⟩

/-- Where every entry is pinned or loading and there is no room, the caller is refused. -/
theorem examine_full (config : CacheConfig) (expected : Nat) {s : State K} {key : K}
    (hl : s.entries.lookup key = none)
    (full : config.capacityBytes < s.usedBytes + s.reservedBytes + expected)
    (counted : s.usedBytes + s.reservedBytes + expected ≤ usizeMax)
    (all : ∀ key bytes lastUsed resident,
      s.entries.lookup key ≠ some (.ready bytes 0 lastUsed resident)) :
    ∃ s', State.examine config key expected s = (.error (.capacityPinned expected), s') := by
  obtain ⟨requests, s₁, hentries, hused, hreserved, hexamine⟩ := examine_absent config expected hl
  rw [← hused, ← hreserved] at full counted
  have hnone : s₁.candidate = none := candidate_of_pinned (by rw [hentries]; exact all)
  have hreserve : State.reserveCapacity config.capacityBytes expected s₁ =
      (.error (.capacityPinned expected), s₁) := by
    rw [State.reserveCapacity, Command.bind_of_ok (Command.read_run s₁), State.reserveLoop,
      Command.bind_of_ok (Command.read_run s₁), committed_eq, if_pos counted]
    dsimp only
    rw [if_neg (Nat.not_le.mpr full), hnone]
    rfl
  exact ⟨s₁, hexamine.trans (Command.bind_of_error hreserve)⟩

/-- A held reservation completes. -/
theorem Accounted.complete {capacity : Nat} {s : State K} (h : Accounted capacity s)
    (limit : capacity ≤ usizeMax) {key : K} {expected : Nat} {resident : Bool} {bytes : List UInt8}
    (hl : s.entries.lookup key = some (.loading expected resident))
    (hbytes : bytes.length = expected) :
    ∃ s' tick, State.complete key expected bytes s = (.ok bytes, s') ∧
      Puts s s' key (some (.ready bytes 1 tick resident)) ∧ Accounted capacity s' ∧
      s'.usedBytes = s.usedBytes + expected ∧ s'.reservedBytes + expected = s.reservedBytes := by
  have hle := h.expected_le hl
  have hwithin := h.within
  have hused := h.used
  have hreserved := h.reserved
  simp only [State.complete, hl, if_true, checkedSub_of_le hle,
    checkedAdd_of_le (show s.usedBytes + expected ≤ usizeMax by omega)]
  refine ⟨_, saturatingAdd s.tick 1, rfl, puts_insert rfl, ⟨?_, ?_, ?_, ?_⟩, rfl,
    Nat.sub_add_cancel hle⟩
  · have hw :=
      Table.total_replace Entry.readyBytes hl (.ready bytes 1 (saturatingAdd s.tick 1) resident)
    simp only [Entry.readyBytes] at hw
    show s.usedBytes + expected = Table.total Entry.readyBytes (s.entries.insert key _)
    omega
  · have hw :=
      Table.total_replace Entry.loadingBytes hl (.ready bytes 1 (saturatingAdd s.tick 1) resident)
    simp only [Entry.loadingBytes] at hw
    show s.reservedBytes - expected = Table.total Entry.loadingBytes (s.entries.insert key _)
    omega
  · show s.usedBytes + expected + (s.reservedBytes - expected) ≤ capacity
    omega
  · intro k b lu r hk
    change (s.entries.insert key _).lookup k = _ at hk
    rw [Table.lookup_insert_eq] at hk
    split at hk
    · cases hk
    · exact h.resident k b lu r hk

/-- Dropping a lease takes one pin away, and the entry with it when it was the last pin
of an ephemeral entry. -/
theorem Accounted.dropLease {capacity : Nat} {s : State K} (h : Accounted capacity s) {key : K}
    {bytes : List UInt8} {pins lastUsed : Nat} {resident : Bool}
    (hl : s.entries.lookup key = some (.ready bytes (pins + 1) lastUsed resident)) :
    Accounted capacity (State.dropLease key s) ∧
      Puts s (State.dropLease key s) key
        (if pins = 0 ∧ resident = false then none
          else some (.ready bytes pins lastUsed resident)) := by
  have hle := h.bytes_le hl
  simp only [State.dropLease, hl, saturatingSub, Nat.add_sub_cancel]
  split
  · exact ⟨h.remove hl rfl (Nat.sub_add_cancel hle) rfl, puts_erase rfl⟩
  · rename_i hstay
    refine ⟨h.repin hl rfl rfl rfl fun hzero => ?_, puts_insert rfl⟩
    cases resident with
    | true => rfl
    | false => exact absurd ⟨hzero, rfl⟩ hstay

/-- Dropping an armed reservation removes its entry and exactly its bytes. -/
theorem Accounted.dropReservation {capacity : Nat} {s : State K}
    (h : Accounted capacity s) {key : K} {expected : Nat} {resident : Bool}
    (hl : s.entries.lookup key = some (.loading expected resident)) :
    Accounted capacity (State.dropReservation key expected s) ∧
      Puts s (State.dropReservation key expected s) key none ∧
      (State.dropReservation key expected s).reservedBytes + expected = s.reservedBytes ∧
      (State.dropReservation key expected s).usedBytes = s.usedBytes := by
  have hle := h.expected_le hl
  have hwithin := h.within
  simp only [State.dropReservation, hl, if_true, saturatingSub]
  refine ⟨⟨?_, ?_, ?_, ?_⟩, puts_erase rfl, Nat.sub_add_cancel hle, trivial⟩
  · have hw := Table.total_erase Entry.readyBytes hl
    simp only [Entry.readyBytes, Nat.zero_add] at hw
    show s.usedBytes = Table.total Entry.readyBytes (s.entries.erase key)
    rw [hw, h.used]
  · have hw := Table.total_erase Entry.loadingBytes hl
    have hreserved := h.reserved
    simp only [Entry.loadingBytes] at hw
    show s.reservedBytes - expected = Table.total Entry.loadingBytes (s.entries.erase key)
    omega
  · show s.usedBytes + (s.reservedBytes - expected) ≤ capacity
    omega
  · intro k b lu r hk
    change (s.entries.erase key).lookup k = _ at hk
    rw [Table.lookup_erase_eq] at hk
    split at hk
    · cases hk
    · exact h.resident k b lu r hk

/-- The removal loop of `clear_unpinned` over keys of unpinned entries. -/
theorem Accounted.clearKeys {capacity : Nat} {s : State K} (h : Accounted capacity s)
    {keys : List K} (hkeys : ∀ k ∈ keys, s.entries.lookup k = none ∨
      ∃ bytes lastUsed resident, s.entries.lookup k = some (.ready bytes 0 lastUsed resident))
    (n : Nat) :
    ∃ n' s', State.clearKeys keys n s = (.ok n', s') ∧ Accounted capacity s' ∧ Drops s s' := by
  induction keys generalizing s n with
  | nil => exact ⟨n, s, rfl, h, .refl s⟩
  | cons key keys ih =>
      rcases hkeys key List.mem_cons_self with hl | ⟨bytes, lastUsed, resident, hl⟩
      · have hrun : removeEntry key s = (.ok none, { s with entries := s.entries.erase key }) := by
          simp only [removeEntry, hl]
        have herase : s.entries.erase key = s.entries := by
          apply AList.ext
          exact List.kerase_of_notMem_keys (AList.lookup_eq_none.mp hl)
        have herased : Accounted capacity { s with entries := s.entries.erase key } :=
          h.congr herase rfl rfl
        obtain ⟨n', s', hrest, hacc, hdrops⟩ := ih herased (fun k hk => by
            show (s.entries.erase key).lookup k = none ∨ ∃ b lu r,
              (s.entries.erase key).lookup k = _
            rw [herase]
            exact hkeys k (List.mem_cons_of_mem key hk)) n
        refine ⟨n', s', (Command.bind_of_ok hrun).trans hrest, hacc, fun k => ?_⟩
        have := hdrops k
        rwa [herase] at this
      · obtain ⟨s₁, hrun, hacc₁, hentries, -, -⟩ := h.removeUnpinned .clear hl
        rw [Command.bind_of_ok (removeEntry_ready hl)] at hrun
        have hdrops₁ : Drops s s₁ := Drops.of_puts (puts_erase hentries) hl
        obtain ⟨n', s', hrest, hacc, hdrops⟩ := ih hacc₁ (fun k hk => by
          rcases hdrops₁ k with he | ⟨he, -⟩
          · rw [he]
            exact hkeys k (List.mem_cons_of_mem key hk)
          · exact Or.inl he) (n + 1)
        exact ⟨n', s', (Command.bind_of_ok (removeEntry_ready hl)).trans
          ((Command.bind_of_ok hrun).trans hrest), hacc, hdrops₁.trans hdrops⟩

/-- `clear_unpinned` always answers and drops only unpinned entries. -/
theorem Accounted.clearUnpinned {capacity : Nat} {s : State K} (h : Accounted capacity s) :
    ∃ n s', State.clearUnpinned s = (.ok n, s') ∧ Accounted capacity s' ∧ Drops s s' := by
  rw [State.clearUnpinned, Command.bind_of_ok (Command.read_run s)]
  refine h.clearKeys (fun k hk => Or.inr ?_) 0
  obtain ⟨entry, hentry, hsome⟩ := List.mem_filterMap.mp hk
  obtain ⟨⟨k', lastUsed⟩, hun, rfl⟩ := Option.map_eq_some_iff.mp hsome
  obtain ⟨bytes, resident, rfl⟩ := unpinned_eq_some.mp hun
  exact ⟨bytes, lastUsed, resident, Table.mem_entries_iff.mp hentry⟩

end State
end LightBridge.ExpertCache
