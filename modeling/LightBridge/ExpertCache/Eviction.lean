import Mathlib.Data.List.Sort
import LightBridge.ExpertCache.Heat
import LightBridge.ExpertCache.Residency

/-! What a reservation evicts: the least recently used unpinned entries, no more than it needs. -/
namespace LightBridge.ExpertCache
open Foundation

namespace State
variable {K : Type} [DecidableEq K]

/-! ### The ticks of the ready entries -/

def LastUsed (s : State K) (key : K) (lastUsed : Nat) : Prop :=
  ∃ bytes pins resident, s.entries.lookup key = some (.ready bytes pins lastUsed resident)

/-- Every ready entry carries a tick of the past, and each its own. -/
structure Stamped (s : State K) : Prop where
  past : ∀ key lastUsed, LastUsed s key lastUsed → lastUsed ≤ s.tick
  distinct : ∀ key key' lastUsed, LastUsed s key lastUsed → LastUsed s key' lastUsed → key = key'

/-- Stamped for as long as ticks grow. -/
def Timely (s : State K) : Prop := s.tick < usizeMax → Stamped s

/-- Ready entries may go, and stay with the tick they have. -/
theorem Timely.fade {s s' : State K} (h : Timely s) (tick : s.tick ≤ s'.tick)
    (kept : ∀ key lastUsed, LastUsed s' key lastUsed → LastUsed s key lastUsed) : Timely s' := by
  intro hbelow
  obtain ⟨past, distinct⟩ := h (tick.trans_lt hbelow)
  constructor
  · intro key lastUsed hl
    exact (past key lastUsed (kept key lastUsed hl)).trans tick
  · intro key key' lastUsed hl hl'
    exact distinct key key' lastUsed (kept key lastUsed hl) (kept key' lastUsed hl')

/-- One entry may take the next tick. -/
theorem Timely.stamp {s s' : State K} (h : Timely s) (tick : s'.tick = saturatingAdd s.tick 1)
    {key : K} (kept : ∀ key' lastUsed, LastUsed s' key' lastUsed →
      key' = key ∧ lastUsed = s'.tick ∨ key' ≠ key ∧ LastUsed s key' lastUsed) : Timely s' := by
  intro hbelow
  have hgrown : s'.tick = s.tick + 1 := by
    unfold saturatingAdd at tick
    omega
  obtain ⟨past, distinct⟩ := h (by omega)
  constructor
  · intro key' lastUsed hl
    rcases kept key' lastUsed hl with ⟨_, rfl⟩ | ⟨_, hold⟩
    · exact Nat.le_refl _
    · have := past key' lastUsed hold
      omega
  · intro key₁ key₂ lastUsed hl₁ hl₂
    rcases kept key₁ lastUsed hl₁ with ⟨rfl, rfl⟩ | ⟨_, hold₁⟩
    · rcases kept key₂ _ hl₂ with ⟨rfl, _⟩ | ⟨_, hold₂⟩
      · rfl
      · have := past key₂ _ hold₂
        omega
    · rcases kept key₂ lastUsed hl₂ with ⟨_, rfl⟩ | ⟨_, hold₂⟩
      · have := past key₁ _ hold₁
        omega
      · exact distinct key₁ key₂ lastUsed hold₁ hold₂

theorem lastUsed_insert {s s' : State K} {key : K} {e : Entry}
    (h : s'.entries = s.entries.insert key e) {key' : K} {lastUsed : Nat}
    (hl : LastUsed s' key' lastUsed) :
    (key' = key ∧ ∃ bytes pins resident, e = .ready bytes pins lastUsed resident) ∨ key' ≠ key ∧
      LastUsed s key' lastUsed := by
  obtain ⟨bytes, pins, resident, hl⟩ := hl
  rw [h, Table.lookup_insert_eq] at hl
  by_cases hk : key' = key
  · rw [if_pos hk] at hl
    exact Or.inl ⟨hk, bytes, pins, resident, Option.some.inj hl⟩
  · rw [if_neg hk] at hl
    exact Or.inr ⟨hk, bytes, pins, resident, hl⟩

theorem lastUsed_erase {s s' : State K} {key : K} (h : s'.entries = s.entries.erase key) {key' : K}
    {lastUsed : Nat}
    (hl : LastUsed s' key' lastUsed) : LastUsed s key' lastUsed := by
  obtain ⟨bytes, pins, resident, hl⟩ := hl
  rw [h, Table.lookup_erase_eq] at hl
  by_cases hk : key' = key
  · rw [if_pos hk] at hl
    cases hl
  · rw [if_neg hk] at hl
    exact ⟨bytes, pins, resident, hl⟩

/-! ### The regions keep it -/

theorem removeEntry_timely (key : K) : (removeEntry key).Keeps (Timely (K := K)) := by
  intro s h
  unfold removeEntry
  split
  · exact h.fade (Nat.le_refl _) fun _ _ hl => lastUsed_erase rfl hl
  · exact h.fade (Nat.le_refl _) fun _ _ hl => lastUsed_erase rfl hl

theorem subtractUsed_timely (site : OverflowSite) (bytes : Nat) :
    (subtractUsed site bytes).Keeps (Timely (K := K)) := by
  intro s h
  unfold subtractUsed
  split
  · exact h
  · exact h.fade (Nat.le_refl _) fun _ _ hl => hl

theorem evict_timely (key : K) : (evict key).Keeps (Timely (K := K)) := by
  unfold evict
  refine (removeEntry_timely key).bind fun removed => ?_
  cases removed with
  | none => exact fun _ h => h
  | some bytes =>
      refine (subtractUsed_timely .evict bytes.length).bind fun _ => ?_
      exact fun _ h => h.fade (Nat.le_refl _) fun _ _ hl => hl

theorem reserveLoop_timely (capacity requested passes : Nat) :
    (reserveLoop capacity requested passes).Keeps (Timely (K := K)) := by
  induction passes with
  | zero => exact fun _ h => h
  | succ passes ih =>
      unfold reserveLoop
      refine (Command.Keeps.read _).bind fun state => ?_
      split
      · exact fun _ h => h
      · split
        · exact fun _ h => h
        · split
          · exact fun _ h => h
          · exact (evict_timely _).bind fun _ => ih

theorem clearKeys_timely (keys : List K) (removed : Nat) :
    (clearKeys keys removed).Keeps (Timely (K := K)) := by
  induction keys generalizing removed with
  | nil => exact fun _ h => h
  | cons key keys ih =>
      unfold clearKeys
      refine (removeEntry_timely key).bind fun gone => ?_
      cases gone with
      | none => exact ih removed
      | some bytes => exact (subtractUsed_timely .clear bytes.length).bind fun _ => ih (removed + 1)

theorem Timely.ticked {s : State K} (h : Timely s) :
    Timely { s with tick := saturatingAdd s.tick 1 } := by
  intro (hbelow : min (s.tick + 1) usizeMax < usizeMax)
  obtain ⟨past, distinct⟩ := h (by omega)
  refine ⟨?_, distinct⟩
  intro key lastUsed hl
  have := past key lastUsed hl
  change lastUsed ≤ min (s.tick + 1) usizeMax
  omega

/-- A hit stamps its entry with the tick just taken. -/
theorem Timely.pin {s : State K} (h : Timely s) (key : K) (bytes : List UInt8) (pins : Nat)
    (resident : Bool) :
    Timely (State.pin key (saturatingAdd s.tick 1) bytes pins resident
      { s with tick := saturatingAdd s.tick 1 }).2 := by
  unfold State.pin
  split
  · exact h.ticked
  · apply h.stamp rfl
    intro key' lastUsed hl
    rcases lastUsed_insert rfl hl with ⟨hk, _, _, _, he⟩ | hold
    · cases he
      exact Or.inl ⟨hk, rfl⟩
    · exact Or.inr hold

theorem get_timely (key : K) : (State.get key).Keeps (Timely (K := K)) := by
  intro s h
  have htick : nextTick s =
      ((.ok (saturatingAdd s.tick 1), { s with tick := saturatingAdd s.tick 1 }) :
    Except CacheError Nat × State K) := rfl
  unfold State.get
  rw [Command.bind_of_ok htick, Command.bind_of_ok (Command.read_run _)]
  dsimp only
  cases s.entries.lookup key with
  | none => exact h.ticked.fade (Nat.le_refl _) fun _ _ hl => hl
  | some entry =>
      cases entry with
      | loading expected resident => exact h.ticked
      | ready bytes pins lastUsed resident =>
          dsimp only
          have hpin := h.pin key bytes pins resident
          rcases hrun : State.pin key (saturatingAdd s.tick 1) bytes pins resident
            { s with tick := saturatingAdd s.tick 1 } with ⟨r, s'⟩
          rw [hrun] at hpin
          cases r with
          | ok bytes' => rwa [Command.bind_of_ok hrun]
          | error e => rwa [Command.bind_of_error hrun]

theorem examine_timely (config : CacheConfig) (key : K) (expected : Nat) :
    (State.examine config key expected).Keeps (Timely (K := K)) := by
  intro s h
  have htick : nextTick s =
      ((.ok (saturatingAdd s.tick 1), { s with tick := saturatingAdd s.tick 1 }) :
    Except CacheError Nat × State K) := rfl
  unfold State.examine
  rw [Command.bind_of_ok htick, Command.bind_of_ok (Command.read_run _)]
  dsimp only
  cases s.entries.lookup key with
  | none =>
      have habsent : (warm key >>= fun requests => do
          reserveCapacity config.capacityBytes expected
          record key expected (decide (config.admitAfterRequests ≤ requests))
          pure .reserved : Command (State K) CacheError Examined).Keeps Timely := by
        refine Command.Keeps.bind ?_ fun requests => Command.Keeps.bind ?_ fun _ =>
          Command.Keeps.bind ?_ fun _ => ?_
        · exact fun _ h => h.fade (Nat.le_refl _) fun _ _ hl => hl
        · exact (Command.Keeps.read _).bind fun state => reserveLoop_timely _ _ _
        · intro s h
          unfold record
          split
          · exact h
          · refine h.fade (Nat.le_refl _) ?_
            intro key' lastUsed hl
            rcases lastUsed_insert rfl hl with ⟨_, _, _, _, he⟩ | ⟨_, hold⟩
            · cases he
            · exact hold
        · exact fun _ h => h
      exact habsent _ h.ticked
  | some entry =>
      cases entry with
      | loading expected resident => exact h.ticked.fade (Nat.le_refl _) fun _ _ hl => hl
      | ready bytes pins lastUsed resident =>
          dsimp only
          have hpin := h.pin key bytes pins resident
          rcases hrun : State.pin key (saturatingAdd s.tick 1) bytes pins resident
            { s with tick := saturatingAdd s.tick 1 } with ⟨r, s'⟩
          rw [hrun] at hpin
          cases r with
          | ok bytes' => rwa [Command.bind_of_ok hrun]
          | error e => rwa [Command.bind_of_error hrun]

theorem complete_timely (key : K) (expected : Nat) (bytes : List UInt8) :
    (State.complete key expected bytes).Keeps (Timely (K := K)) := by
  intro s h
  unfold State.complete
  split
  · split
    · split
      · apply h.stamp rfl
        intro key' lastUsed hl
        rcases lastUsed_insert rfl hl with ⟨hk, _, _, _, he⟩ | hold
        · cases he
          exact Or.inl ⟨hk, rfl⟩
        · exact Or.inr hold
      · exact h
    · exact h
  · exact h

theorem Timely.dropLease {s : State K} (h : Timely s) (key : K) :
    Timely (State.dropLease key s) := by
  unfold State.dropLease
  split
  · rename_i bytes pins lastUsed resident hfound
    split
    · exact h.fade (Nat.le_refl _) fun _ _ hl => lastUsed_erase rfl hl
    · refine h.fade (Nat.le_refl _) ?_
      intro key' lastUsed' hl
      rcases lastUsed_insert rfl hl with ⟨rfl, _, _, _, he⟩ | ⟨_, hold⟩
      · cases he
        exact ⟨bytes, pins, resident, hfound⟩
      · exact hold
  · exact h

theorem Timely.dropReservation {s : State K} (h : Timely s) (key : K) (expected : Nat) :
    Timely (State.dropReservation key expected s) := by
  unfold State.dropReservation
  split
  · split
    · exact h.fade (Nat.le_refl _) fun _ _ hl => lastUsed_erase rfl hl
    · exact h
  · exact h

end State

namespace System
variable {K ε J : Type} [DecidableEq K]
open State

theorem Advance.timely {σ σ' : System K ε} (hs : Advance σ σ') (h : Timely σ.shared) :
    Timely σ'.shared := by
  cases hs with
  | examine id call r shared called phase region =>
      have hshared := examine_timely σ.config call.key call.expectedBytes σ.shared h
      rw [region] at hshared
      rcases r with e | bytes | _ | _ <;> exact hshared
  | complete id call bytes r shared called phase region =>
      have hshared := complete_timely call.key call.expectedBytes bytes σ.shared h
      rw [region] at hshared
      cases r <;> exact hshared
  | release id call e called phase => exact h.dropReservation call.key call.expectedBytes
  | reorder entries perm =>
      refine h.fade (Nat.le_refl _) ?_
      rintro key lastUsed ⟨bytes, pins, resident, hl⟩
      exact ⟨bytes, pins, resident, (AList.perm_lookup perm).symm.trans hl⟩
  | wake => exact h
  | invoke => exact h
  | finish => exact h

theorem Step.timely {σ σ' : System K ε} (hs : Step σ σ') (h : Timely σ.shared) :
    Timely σ'.shared := by
  cases hs with
  | start => exact h
  | get key r shared region =>
      have hshared := get_timely key σ.shared h
      rw [region] at hshared
      rcases r with e | _ | bytes <;> exact hshared
  | advance ha => exact ha.timely h
  | dropLease lease live => exact h.dropLease lease.key
  | clear r shared region =>
      have hkeeps : (clearUnpinned (K := K)).Keeps Timely := (Command.Keeps.read _).bind fun _ =>
          clearKeys_timely _ _
      have hshared := hkeeps σ.shared h
      rw [region] at hshared
      exact hshared

theorem Heated.timely {config : CacheConfig} {σ : System K ε} (h : Heated J config σ) :
    Timely σ.shared := by
  induction h with
  | init valid limit =>
      intro _
      constructor
      · rintro key lastUsed ⟨_, _, _, hl⟩
        cases hl
      · rintro key key' lastUsed ⟨_, _, _, hl⟩
        cases hl
  | step before step ih => exact step.timely ih
  | @imported σ before fromSlice bytes maximumJsonBytes maximumEntries r shared region ih =>
      obtain ⟨heat, hheats⟩ :=
        importHeatJson_heats fromSlice bytes maximumJsonBytes maximumEntries σ.shared
      rw [region] at hheats
      cases hheats
      exact ih.fade (Nat.le_refl _) fun _ _ hl => hl

end System

/-! ### The order of eviction -/

/-- An unpinned ready entry, as an eviction sees it. -/
structure Victim (K : Type) where
  key : K
  lastUsed : Nat
  bytes : Nat
  deriving DecidableEq, Repr

namespace State
variable {K : Type} [DecidableEq K]

def victimOf (entry : Sigma fun _ : K => Entry) : Option (Victim K) :=
  match entry.2 with
  | .ready bytes 0 lastUsed _ => some ⟨entry.1, lastUsed, bytes.length⟩
  | _ => none

/-- The unpinned ready entries, the least recently used first. -/
def evictionOrder (s : State K) : List (Victim K) :=
  (s.entries.entries.filterMap victimOf).insertionSort fun first second =>
    first.lastUsed ≤ second.lastUsed

/-- The bytes of some entries. -/
def freed (victims : List (Victim K)) : Nat := (victims.map Victim.bytes).sum

/-- The request fits when these entries are gone. -/
def Fits (capacity requested : Nat) (s : State K) (victims : List (Victim K)) : Prop :=
  s.usedBytes + s.reservedBytes + requested ≤ capacity + freed victims

/-- Exactly these entries are gone in `s'`, with their bytes. -/
structure Evicted (s s' : State K) (victims : List (Victim K)) : Prop where
  gone : ∀ victim ∈ victims, s'.entries.lookup victim.key = none
  kept : ∀ key, key ∉ victims.map Victim.key → s'.entries.lookup key = s.entries.lookup key
  used : s'.usedBytes + freed victims = s.usedBytes
  reserved : s'.reservedBytes = s.reservedBytes

theorem Evicted.refl (s : State K) : Evicted s s [] where
  gone _ hmem := absurd hmem List.not_mem_nil
  kept _ _ := rfl
  used := rfl
  reserved := rfl

/-- Later in the order is used later. -/
def Ordered (victims : List (Victim K)) : Prop :=
  victims.Pairwise fun first second => first.lastUsed < second.lastUsed

omit [DecidableEq K] in
theorem unpinned_eq_map (entry : Sigma fun _ : K => Entry) :
    unpinned entry = (victimOf entry).map fun victim => (victim.key, victim.lastUsed) := by
  obtain ⟨key, value⟩ := entry
  cases value with
  | loading expected resident => rfl
  | ready bytes pins lastUsed resident => cases pins <;> rfl

omit [DecidableEq K] in
theorem victimOf_eq_some {entry : Sigma fun _ : K => Entry} {victim : Victim K} :
    victimOf entry = some victim ↔ ∃ bytes resident,
      entry = ⟨victim.key, .ready bytes 0 victim.lastUsed resident⟩ ∧
      victim.bytes = bytes.length := by
  obtain ⟨key, value⟩ := entry
  obtain ⟨vkey, lastUsed, size⟩ := victim
  cases value with
  | loading expected resident => simp [victimOf]
  | ready bytes pins last resident =>
      cases pins with
      | zero =>
          constructor
          · intro h
            cases h
            exact ⟨bytes, resident, rfl, rfl⟩
          · rintro ⟨_, _, h, hsize⟩
            cases h
            change size = bytes.length at hsize
            rw [hsize]
            rfl
      | succ pins => simp [victimOf]

theorem mem_evictionOrder {s : State K} {victim : Victim K} :
    victim ∈ evictionOrder s ↔ ∃ bytes resident,
      s.entries.lookup victim.key = some (.ready bytes 0 victim.lastUsed resident) ∧
      victim.bytes = bytes.length := by
  unfold evictionOrder
  rw [List.mem_insertionSort, List.mem_filterMap]
  constructor
  · rintro ⟨entry, hmem, hvictim⟩
    obtain ⟨bytes, resident, rfl, hbytes⟩ := victimOf_eq_some.mp hvictim
    exact ⟨bytes, resident, Table.mem_entries_iff.mp hmem, hbytes⟩
  · rintro ⟨bytes, resident, hl, hbytes⟩
    exact ⟨_, Table.mem_entries_iff.mpr hl, victimOf_eq_some.mpr ⟨bytes, resident, rfl, hbytes⟩⟩

theorem Stamped.ordered {s : State K} (h : Stamped s) : Ordered (evictionOrder s) := by
  have hsorted :=
    List.pairwise_insertionSort (fun first second : Victim K => first.lastUsed ≤ second.lastUsed)
    (s.entries.entries.filterMap victimOf)
  have hkeys : (evictionOrder s).Pairwise fun first second => first.key ≠ second.key := by
    unfold evictionOrder
    apply (List.perm_insertionSort _ _).symm.pairwise _ fun h => h.symm
    rw [List.pairwise_filterMap]
    apply (List.nodupKeys_iff_pairwise.mp s.entries.nodupKeys).imp
    intro entry entry' hne first hfirst second hsecond
    obtain ⟨_, _, rfl, _⟩ := victimOf_eq_some.mp hfirst
    obtain ⟨_, _, rfl, _⟩ := victimOf_eq_some.mp hsecond
    exact hne
  apply (hsorted.and hkeys).imp_of_mem
  rintro first second hfirst hsecond ⟨hle, hne⟩
  obtain ⟨bytes, resident, hl, _⟩ := mem_evictionOrder.mp hfirst
  obtain ⟨bytes', resident', hl', _⟩ := mem_evictionOrder.mp hsecond
  apply lt_of_le_of_ne hle
  intro hsame
  rw [← hsame] at hl'
  exact hne (h.distinct _ _ _ ⟨bytes, 0, resident, hl⟩ ⟨bytes', 0, resident', hl'⟩)

/-- The candidate is the first of the order. -/
theorem candidate_eq_head {s : State K} (h : Ordered (evictionOrder s)) :
    s.candidate = (evictionOrder s).head?.map Victim.key := by
  have hmin : s.candidate =
      (((s.entries.entries.filterMap victimOf).map fun victim =>
        (victim.key, victim.lastUsed)).argmin
        Prod.snd).map Prod.fst := by
    unfold candidate
    rw [List.map_filterMap]
    congr 2
    exact List.filterMap_congr fun entry _ => unpinned_eq_map entry
  have hperm :=
    List.perm_insertionSort (fun first second : Victim K => first.lastUsed ≤ second.lastUsed)
    (s.entries.entries.filterMap victimOf)
  change (evictionOrder s).Perm _ at hperm
  rw [hmin]
  cases horder : evictionOrder s with
  | nil =>
      rw [horder] at hperm
      rw [hperm.nil_eq.symm]
      rfl
  | cons first rest =>
      rw [horder] at hperm h
      have hfirst := hperm.subset List.mem_cons_self
      cases hargmin : ((s.entries.entries.filterMap victimOf).map fun victim =>
        (victim.key, victim.lastUsed)).argmin
        Prod.snd with
      | none =>
          rw [List.argmin_eq_none, List.map_eq_nil_iff] at hargmin
          rw [hargmin] at hfirst
          cases hfirst
      | some least =>
          obtain ⟨victim, hvictim, rfl⟩ := List.mem_map.mp (List.argmin_mem hargmin)
          have hkeyed : (first.key, first.lastUsed) ∈
              (s.entries.entries.filterMap victimOf).map fun victim =>
                (victim.key, victim.lastUsed) :=
            List.mem_map.mpr ⟨first, hfirst, rfl⟩
          have hle := List.le_of_mem_argmin hkeyed hargmin
          rcases List.mem_cons.mp (hperm.symm.subset hvictim) with rfl | hrest
          · rfl
          · have hlt := (List.pairwise_cons.mp h).1 victim hrest
            omega

theorem evictionOrder_erase {s s' : State K} {victim : Victim K} {rest : List (Victim K)}
    (horder : evictionOrder s = victim :: rest) (h : Ordered (victim :: rest))
    (hentries : s'.entries = s.entries.erase victim.key) : evictionOrder s' = rest := by
  have hmem : victim ∈ evictionOrder s := by
    rw [horder]
    exact List.mem_cons_self
  obtain ⟨bytes, resident, hl, hbytes⟩ := mem_evictionOrder.mp hmem
  have hperm := (Table.perm_erase hl).filterMap victimOf
  rw [List.filterMap_cons_some
    (victimOf_eq_some.mpr ⟨bytes, resident, rfl, hbytes⟩), ← hentries] at hperm
  have hrest : rest.Perm (evictionOrder s') := by
    have hsorted :=
      (List.perm_insertionSort (fun first second : Victim K => first.lastUsed ≤ second.lastUsed)
        _).trans hperm
    change (evictionOrder s).Perm _ at hsorted
    rw [horder] at hsorted
    exact (List.Perm.cons_inv hsorted).trans (List.perm_insertionSort _ _).symm
  -- two orders of the same entries by distinct ticks are one
  have hlater := (List.pairwise_cons.mp h).2
  apply Eq.symm
  apply List.Perm.eq_of_pairwise _ (hlater.imp Nat.le_of_lt) (List.pairwise_insertionSort _ _) hrest
  intro first second hfirst hsecond hle hge
  have hsecond := hrest.symm.subset hsecond
  have hnodup : (rest.map Victim.lastUsed).Nodup := List.pairwise_map.mpr (hlater.imp Nat.ne_of_lt)
  exact List.inj_on_of_nodup_map hnodup hfirst hsecond (Nat.le_antisymm hle hge)

omit [DecidableEq K] in
theorem freed_cons (victim : Victim K) (victims : List (Victim K)) :
    freed (victim :: victims) = victim.bytes + freed victims := rfl

/-- One entry goes, then others. -/
theorem Evicted.cons {s s₁ s' : State K} {victim : Victim K} {victims : List (Victim K)}
    (h : Evicted s₁ s' victims) (used : victim.bytes + s₁.usedBytes = s.usedBytes)
    (reserved : s₁.reservedBytes = s.reservedBytes)
    (entries : s₁.entries = s.entries.erase victim.key) : Evicted s s' (victim :: victims) where
  gone := by
    intro other hother
    rcases List.mem_cons.mp hother with rfl | hlater
    · by_cases hagain : other.key ∈ victims.map Victim.key
      · obtain ⟨same, hsame, hkey⟩ := List.mem_map.mp hagain
        rw [← hkey]
        exact h.gone same hsame
      · rw [h.kept other.key hagain, entries, AList.lookup_erase]
    · exact h.gone other hlater
  kept := by
    intro key hkey
    obtain ⟨hne, hlater⟩ := not_or.mp (mt List.mem_cons.mpr hkey)
    rw [h.kept key hlater, entries, AList.lookup_erase_ne hne]
  used := by
    have := h.used
    rw [freed_cons]
    omega
  reserved := h.reserved.trans reserved

/-- The loop evicts the shortest front of the order that makes room. -/
theorem Accounted.reserveLoop_evicts {capacity requested passes : Nat} {s s' : State K}
    (h : Accounted capacity s) (ordered : Ordered (evictionOrder s))
    (hpasses : s.entries.entries.length < passes)
    (hrun : State.reserveLoop capacity requested passes s = (.ok (), s')) :
    ∃ count, count ≤ (evictionOrder s).length ∧ Evicted s s' ((evictionOrder s).take count) ∧
      Fits capacity requested s ((evictionOrder s).take count) ∧
      ∀ fewer, fewer < count → ¬ Fits capacity requested s ((evictionOrder s).take fewer) := by
  induction passes generalizing s with
  | zero => exact absurd hpasses (Nat.not_lt_zero _)
  | succ passes ih =>
      rw [State.reserveLoop, Command.bind_of_ok (Command.read_run s), committed_eq] at hrun
      by_cases hwide : s.usedBytes + s.reservedBytes + requested ≤ usizeMax
      · rw [if_pos hwide] at hrun
        dsimp only at hrun
        by_cases hroom : s.usedBytes + s.reservedBytes + requested ≤ capacity
        · rw [if_pos hroom] at hrun
          cases hrun
          refine ⟨0, Nat.zero_le _, Evicted.refl _, hroom, ?_⟩
          intro fewer hfewer
          exact absurd hfewer (Nat.not_lt_zero _)
        · rw [if_neg hroom, candidate_eq_head ordered] at hrun
          cases horder : evictionOrder s with
          | nil =>
              rw [horder] at hrun
              cases hrun
          | cons victim rest =>
              rw [horder] at hrun ordered
              have hmem : victim ∈ evictionOrder s := by
                rw [horder]
                exact List.mem_cons_self
              obtain ⟨bytes, resident, hl, hbytes⟩ := mem_evictionOrder.mp hmem
              obtain ⟨s₁, hevict, hacc, hdrops, hentries, hreserved⟩ := h.evict hl
              have hlen := Table.length_erase_lt hl
              rw [← hentries] at hlen
              have hnext := evictionOrder_erase horder ordered hentries
              rw [List.head?_cons, Option.map_some] at hrun
              dsimp only at hrun
              rw [Command.bind_of_ok hevict] at hrun
              have hrest := (List.pairwise_cons.mp ordered).2
              rw [← hnext] at hrest
              obtain ⟨count, hcount, hevicted, hfits, hleast⟩ := ih hacc hrest (by omega) hrun
              rw [hnext] at hcount hevicted hfits hleast
              have hused : victim.bytes + s₁.usedBytes = s.usedBytes := by
                have htotal := Table.total_erase Entry.readyBytes hl
                rw [h.used, hacc.used, hbytes, hentries]
                exact htotal
              have hfit : ∀ victims, Fits capacity requested s₁ victims ↔
                  Fits capacity requested s (victim :: victims) := by
                intro victims
                unfold Fits
                rw [freed_cons, hreserved]
                omega
              refine ⟨count + 1, Nat.succ_le_succ hcount, hevicted.cons hused hreserved hentries,
                (hfit _).mp hfits, ?_⟩
              intro fewer hfewer
              cases fewer with
              | zero => exact hroom
              | succ fewer =>
                  exact fun hfits => hleast fewer (Nat.lt_of_succ_lt_succ hfewer)
                    ((hfit _).mpr hfits)
      · rw [if_neg hwide] at hrun
        cases hrun

/-- A refused loop has evicted every unpinned entry. -/
theorem Accounted.reserveLoop_refused {capacity requested passes refused : Nat} {s s' : State K}
    (h : Accounted capacity s)
    (hrun : State.reserveLoop capacity requested passes s =
      (.error (.capacityPinned refused), s')) :
    ∃ victims, victims.Perm (evictionOrder s) ∧ Evicted s s' victims := by
  induction passes generalizing s with
  | zero => cases hrun
  | succ passes ih =>
      rw [State.reserveLoop, Command.bind_of_ok (Command.read_run s), committed_eq] at hrun
      by_cases hwide : s.usedBytes + s.reservedBytes + requested ≤ usizeMax
      · rw [if_pos hwide] at hrun
        dsimp only at hrun
        by_cases hroom : s.usedBytes + s.reservedBytes + requested ≤ capacity
        · rw [if_pos hroom] at hrun
          cases hrun
        · rw [if_neg hroom] at hrun
          cases hcandidate : s.candidate with
          | none =>
              have hempty : evictionOrder s = [] := by
                rw [List.eq_nil_iff_forall_not_mem]
                intro victim hvictim
                obtain ⟨bytes, resident, hl, _⟩ := mem_evictionOrder.mp hvictim
                exact candidate_eq_none hcandidate _ _ _ _ hl
              rw [hcandidate] at hrun
              cases hrun
              exact ⟨[], by rw [hempty], Evicted.refl _⟩
          | some key =>
              rw [hcandidate] at hrun
              obtain ⟨bytes, lastUsed, resident, hl⟩ := candidate_eq_some hcandidate
              obtain ⟨s₁, hevict, hacc, hdrops, hentries, hreserved⟩ := h.evict hl
              dsimp only at hrun
              rw [Command.bind_of_ok hevict] at hrun
              obtain ⟨victims, hperm, hevicted⟩ := ih hacc hrun
              have hused : bytes.length + s₁.usedBytes = s.usedBytes := by
                have htotal := Table.total_erase Entry.readyBytes hl
                rw [h.used, hacc.used, hentries]
                exact htotal
              refine ⟨⟨key, lastUsed, bytes.length⟩ :: victims, ?_,
                hevicted.cons hused hreserved hentries⟩
              have hrest := (Table.perm_erase hl).filterMap victimOf
              rw [List.filterMap_cons_some (rfl : victimOf ⟨key, .ready bytes 0 lastUsed resident⟩ =
                some ⟨key, lastUsed, bytes.length⟩), ← hentries] at hrest
              exact ((hperm.trans (List.perm_insertionSort _ _)).cons _).trans
                (hrest.symm.trans (List.perm_insertionSort _ _).symm)
      · rw [if_neg hwide] at hrun
        cases hrun

/-- A call that is refused for lack of room has lost every unpinned entry, and no other. -/
theorem Accounted.examine_refused {config : CacheConfig} {s s' : State K}
    (h : Accounted config.capacityBytes s) (limit : config.capacityBytes ≤ usizeMax) {key : K}
    {expected refused : Nat}
    (hrun : State.examine config key expected s = (.error (.capacityPinned refused), s')) :
    Evicted s s' (evictionOrder s) := by
  cases hl : s.entries.lookup key with
  | none =>
      obtain ⟨requests, s₁, hentries, hused, hreserved, hexamine⟩ :=
        examine_absent config expected hl
      rw [hexamine] at hrun
      have hacc : Accounted config.capacityBytes s₁ := h.congr hentries hused hreserved
      have hfailed : State.reserveCapacity config.capacityBytes expected s₁ =
          (.error (.capacityPinned refused), s') := by
        rcases Command.bind_error_iff.mp hrun with hreserve | ⟨_, s₂, hreserve, hrecord⟩
        · exact hreserve
        · rcases Command.bind_error_iff.mp hrecord with hfull | ⟨_, _, _, hpure⟩
          · unfold State.record at hfull
            split at hfull <;> cases hfull
          · cases hpure
      rw [State.reserveCapacity, Command.bind_of_ok (Command.read_run _)] at hfailed
      obtain ⟨victims, hperm, hevicted⟩ := hacc.reserveLoop_refused hfailed
      have horder : evictionOrder s₁ = evictionOrder s := by
        unfold evictionOrder
        rw [hentries]
      rw [horder] at hperm
      have hfreed : freed (evictionOrder s) = freed victims := (hperm.symm.map Victim.bytes).sum_nat
      constructor
      · intro victim hvictim
        exact hevicted.gone victim (hperm.symm.subset hvictim)
      · intro k hk
        rw [hevicted.kept k fun hmem => hk ((hperm.map Victim.key).subset hmem), hentries]
      · rw [hfreed, hevicted.used, hused]
      · rw [hevicted.reserved, hreserved]
  | some entry =>
      obtain ⟨r, s₁, hexamine, hexamines, _⟩ := h.examine limit key expected
      rw [hrun] at hexamine
      cases hexamine
      cases hexamines with
      | full _ _ absent =>
          rw [hl] at absent
          cases absent

end State

namespace System
variable {K ε J : Type} [DecidableEq K]
open State

/-- A successful reservation evicts the shortest front of the unpinned entries in the order of their
last use, which is unique, and nothing else. The caller has taken a tick and counted its request. -/
theorem reserve_evicts_least {config : CacheConfig} {σ : System K ε} (h : Heated J config σ)
    (below : σ.shared.tick < usizeMax) :
    (∀ key key' lastUsed, LastUsed σ.shared key lastUsed → LastUsed σ.shared key' lastUsed →
      key = key') ∧
      Ordered (evictionOrder σ.shared) ∧
      (∀ victim, victim ∈ evictionOrder σ.shared ↔ ∃ bytes resident,
        σ.shared.entries.lookup victim.key = some (.ready bytes 0 victim.lastUsed resident) ∧
        victim.bytes = bytes.length) ∧
      ∀ tick misses heat requested shared,
        reserveCapacity config.capacityBytes requested { σ.shared with tick, misses, heat } =
        (.ok (), shared) →
          ∃ count, count ≤ (evictionOrder σ.shared).length ∧
            Evicted σ.shared shared ((evictionOrder σ.shared).take count) ∧
            Fits config.capacityBytes requested σ.shared ((evictionOrder σ.shared).take count) ∧
            ∀ fewer, fewer < count →
              ¬ Fits config.capacityBytes requested σ.shared
                ((evictionOrder σ.shared).take fewer) := by
  obtain ⟨hinv, hconfig⟩ := h.inv
  have hstamped := h.timely below
  refine ⟨hstamped.distinct, hstamped.ordered, fun victim => mem_evictionOrder, ?_⟩
  intro tick misses heat requested shared hrun
  rw [reserveCapacity, Command.bind_of_ok (Command.read_run _)] at hrun
  have hacc : Accounted config.capacityBytes { σ.shared with tick, misses, heat } := by
    rw [← hconfig]
    exact hinv.accounted.congr rfl rfl rfl
  obtain ⟨count, hcount, hevicted, hfits, hleast⟩ :=
    hacc.reserveLoop_evicts hstamped.ordered (Nat.lt_succ_self _) hrun
  exact ⟨count, hcount, ⟨hevicted.gone, hevicted.kept, hevicted.used, hevicted.reserved⟩,
    hfits, hleast⟩

/-- A caller alone loads an entry. -/
theorem Reachable.load {config : CacheConfig} {σ : System K ε} (h : Reachable config σ)
    (id : Nat) (key : K) (bytes : List UInt8) (fresh : σ.calls id = none) (nonempty : bytes ≠ [])
    (within : bytes.length ≤ σ.config.capacityBytes) {s₁ s₂ : State K}
    (hexamine : State.examine σ.config key bytes.length σ.shared = (.ok .reserved, s₁))
    (hcomplete : State.complete key bytes.length bytes s₁ = (.ok bytes, s₂)) :
    ∃ σ' : System K ε, Reachable config σ' ∧ σ'.shared = s₂ ∧ σ'.config = σ.config ∧
      σ'.leases = ⟨σ.nextLease, key, bytes, id⟩ :: σ.leases ∧
      ∀ id', id' ≠ id → σ.calls id' = none → σ'.calls id' = none := by
  have hpolling : σ.entering key bytes.length = ⟨key, bytes.length, .polling, true, 0, none⟩ :=
    entering_polling (List.length_pos_iff.mpr nonempty) within
  have hstart := h.step (.start id key bytes.length fresh)
  rw [hpolling] at hstart
  let call : Call K ε := ⟨key, bytes.length, .polling, true, 0, none⟩
  have hexamine :=
    hstart.step
      (.advance (.examine id call (.ok .reserved) s₁ (by simp [setCall, call]) rfl hexamine))
  have hinvoke :=
    hexamine.step (.advance (.invoke id (call.move .reserved) (by simp [setCall, examined]) rfl))
  have hfinish :=
    hinvoke.step (.advance (.finish id ⟨key, bytes.length, .loading, false, 1, none⟩ (.ok bytes)
    (by simp [setCall, invoked, Call.move, call]) rfl))
  have hcomplete :=
    hfinish.step
      (.advance (.complete id ⟨key, bytes.length, .loaded bytes, false, 1, some (.ok bytes)⟩ bytes
    (.ok bytes) s₂ (by simp [setCall, finished]) rfl hcomplete))
  refine ⟨_, hcomplete, rfl, rfl, ?_, ?_⟩
  · simp [completed, notifyAll, setCall, grant, setOrigin, setShared, examined]
  · intro id' hne hold
    simp [completed, notifyAll, setCall, grant, setOrigin, setShared, examined, hne, hold]

/-- A cache of four bytes while its first entry loads, once that is free, while the second loads,
and then. -/
def firstLoading : State Nat :=
  { entries := AList.insert 1 (.loading 2 true) ∅, heat := AList.insert 1 1 ∅, usedBytes := 0,
    reservedBytes := 2
    tick := 1, hits := 0, misses := 1, loads := 1, waits := 0, evictions := 0 }

def firstFree : State Nat :=
  { firstLoading with
    entries := AList.insert 1 (.ready [1, 2] 0 2 true) ∅, usedBytes := 2,
    reservedBytes := 0, tick := 2 }

def secondLoading : State Nat :=
  { firstFree with
    entries := firstFree.entries.insert 2 (.loading 2 true), heat := firstFree.heat.insert 2 1,
    reservedBytes := 2
    tick := 3, misses := 2, loads := 2 }

def crowdedState : State Nat :=
  { secondLoading with
    entries := firstFree.entries.insert 2 (.ready [3, 4] 1 4 true), usedBytes := 4,
    reservedBytes := 0, tick := 4 }

/-- The first entry is loaded and let go, the second is loaded and held. -/
theorem crowded_run : ∃ σ : System Nat Unit, Reachable ⟨4, 1⟩ σ ∧ σ.shared = crowdedState := by
  have hready : State.complete 1 2 [1, 2] firstLoading =
      (.ok [1, 2], { firstFree with entries := AList.insert 1 (.ready [1, 2] 1 2 true) ∅ }) := rfl
  obtain ⟨σ, hσ, hshared, hconfig, hleases, hfresh⟩ := Reachable.load
    (.init rfl (by decide) : Reachable ⟨4, 1⟩ (initial ⟨4, 1⟩ : System Nat Unit)) 0 1 [1, 2] rfl
      (by decide) (by decide)
    (rfl : State.examine ⟨4, 1⟩ 1 2 State.empty = (.ok .reserved, firstLoading)) hready
  have hdropped := hσ.step (.dropLease _ (by rw [hleases]; exact List.mem_cons_self))
  generalize hσ₁ : σ.dropped _ = σ₁ at hdropped
  have hshared₁ : σ₁.shared = firstFree := by
    rw [← hσ₁]
    change State.dropLease 1 σ.shared = _
    rw [hshared]
    rfl
  have hconfig₁ : σ₁.config = ⟨4, 1⟩ := by
    rw [← hσ₁]
    exact hconfig
  have hfresh₁ : σ₁.calls 1 = none := by
    have hold := hfresh 1 (by decide) rfl
    rw [← hσ₁]
    change (σ.calls 1).map Call.notify = none
    rw [hold]
    rfl
  have hexamine : State.examine σ₁.config 2 2 σ₁.shared = (.ok .reserved, secondLoading) := by
    rw [hconfig₁, hshared₁]
    rfl
  obtain ⟨σ₂, hσ₂, hshared₂, -⟩ :=
    hdropped.load 1 2 [3, 4] hfresh₁ (by decide) (by rw [hconfig₁]; decide) hexamine
    (rfl : State.complete 2 2 [3, 4] secondLoading = (.ok [3, 4], crowdedState))
  exact ⟨σ₂, hσ₂, hshared₂⟩

theorem Reachable.heated {config : CacheConfig} {σ : System K ε} (h : Reachable config σ) :
    Heated J config σ := by
  induction h with
  | init valid limit => exact .init valid limit
  | step before step ih => exact .step ih step

/-- Two more bytes cost the crowded cache the entry nobody holds. -/
theorem reserve_evicts_least_crowded : ∃ shared : State Nat,
    reserveCapacity 4 2 crowdedState = (.ok (), shared) ∧
      ∃ count, Evicted crowdedState shared ((evictionOrder crowdedState).take count) ∧
        ∀ fewer, fewer < count →
        ¬ Fits 4 2 crowdedState ((evictionOrder crowdedState).take fewer) := by
  obtain ⟨σ, h, hshared⟩ := crowded_run
  have hleast := reserve_evicts_least (h.heated (J := Unit)) (by rw [hshared]; decide)
  rw [hshared] at hleast
  obtain ⟨_, _, _, hevicts⟩ := hleast
  have hrun : reserveCapacity 4 2 crowdedState =
      (.ok (), (reserveCapacity (K := Nat) 4 2 crowdedState).2) := rfl
  obtain ⟨count, _, hevicted, _, hfewest⟩ :=
    hevicts crowdedState.tick crowdedState.misses crowdedState.heat 2 _ hrun
  exact ⟨_, hrun, count, hevicted, hfewest⟩

/-! ### A refused reservation -/

/-- A call that is refused because of pins has lost the unpinned entries, all of them, and their
bytes; every other entry is as it was. So nothing is lost exactly when no entry was unpinned. -/
theorem refused_evicts_unpinned {config : CacheConfig} {σ : System K ε}
    (h : Heated J config σ) {key : K} {expected refused : Nat} {shared : State K}
    (hrun : State.examine config key expected σ.shared =
      (.error (.capacityPinned refused), shared)) :
    (∀ k bytes lastUsed resident, σ.shared.entries.lookup k =
      some (.ready bytes 0 lastUsed resident) →
        shared.entries.lookup k = none) ∧
      (∀ k, (∀ bytes lastUsed resident,
        σ.shared.entries.lookup k ≠ some (.ready bytes 0 lastUsed resident)) →
        shared.entries.lookup k = σ.shared.entries.lookup k) ∧
      shared.usedBytes + freed (evictionOrder σ.shared) = σ.shared.usedBytes ∧
      shared.reservedBytes = σ.shared.reservedBytes ∧
      ((∀ k, shared.entries.lookup k = σ.shared.entries.lookup k) ↔
        ∀ k bytes lastUsed resident, σ.shared.entries.lookup k ≠
        some (.ready bytes 0 lastUsed resident)) := by
  obtain ⟨hinv, rfl⟩ := h.inv
  have hevicted := hinv.accounted.examine_refused hinv.limit hrun
  have hgone : ∀ k bytes lastUsed resident,
      σ.shared.entries.lookup k = some (.ready bytes 0 lastUsed resident) →
      shared.entries.lookup k = none := by
    intro k bytes lastUsed resident hl
    exact hevicted.gone ⟨k, lastUsed, bytes.length⟩
      (mem_evictionOrder.mpr ⟨bytes, resident, hl, rfl⟩)
  have hkept : ∀ k, (∀ bytes lastUsed resident,
      σ.shared.entries.lookup k ≠ some (.ready bytes 0 lastUsed resident)) →
        shared.entries.lookup k = σ.shared.entries.lookup k := by
    intro k hpinned
    apply hevicted.kept
    intro hmem
    obtain ⟨victim, hvictim, rfl⟩ := List.mem_map.mp hmem
    obtain ⟨bytes, resident, hl, _⟩ := mem_evictionOrder.mp hvictim
    exact hpinned bytes victim.lastUsed resident hl
  refine ⟨hgone, hkept, hevicted.used, hevicted.reserved, ?_, fun hpinned k => hkept k (hpinned k)⟩
  intro hsame k bytes lastUsed resident hl
  have hlost := hgone k bytes lastUsed resident hl
  rw [hsame k, hl] at hlost
  cases hlost

/-- The crowded cache refuses three more bytes. -/
theorem refused_evicts_unpinned_crowded :
    (State.examine ⟨4, 1⟩ 3 3 crowdedState).2.usedBytes +
      freed (evictionOrder crowdedState) = 4 := by
  obtain ⟨σ, h, hshared⟩ := crowded_run
  have hrun : State.examine ⟨4, 1⟩ 3 3 σ.shared =
      (.error (.capacityPinned 3), (State.examine ⟨4, 1⟩ 3 3 crowdedState).2) := by
    rw [hshared]
    rfl
  have hused := (refused_evicts_unpinned (h.heated (J := Unit)) hrun).2.2.1
  rw [hshared] at hused
  exact hused

/-- The third key asked for is refused, and the entry nobody holds is lost. -/
theorem not_refused_unchanged : ∃ σ : System Nat Unit, Reachable ⟨4, 1⟩ σ ∧ ∃ shared : State Nat,
    State.examine ⟨4, 1⟩ 3 3 σ.shared = (.error (.capacityPinned 3), shared) ∧
      σ.shared.entries.lookup 1 = some (.ready [1, 2] 0 2 true) ∧ shared.entries.lookup 1 = none ∧
      σ.shared.usedBytes = 4 ∧ shared.usedBytes = 2 := by
  obtain ⟨σ, h, hshared⟩ := crowded_run
  refine ⟨σ, h, (State.examine ⟨4, 1⟩ 3 3 crowdedState).2, ?_⟩
  rw [hshared]
  exact ⟨rfl, rfl, rfl, rfl, rfl⟩

end System
end LightBridge.ExpertCache
