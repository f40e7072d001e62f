import LightBridge.ExpertCache.Heat
import Mathlib.Data.List.TakeWhile
import Mathlib.Data.Prod.Lex
import Mathlib.Order.Lattice.Nat

/-! What an import does to the counts of a cache, and that a cache takes back what it exports. -/
namespace LightBridge.ExpertCache
open Foundation

/-! ### Imports -/

namespace State
variable {K J : Type} [DecidableEq K]

/-- The requests counted for a key; `⊥` for a key without any. -/
def count (state : State K) (key : K) : WithBot Nat := state.heat.lookup key

/-- The most requests the entries give a key. -/
def imported (entries : List (HeatEntry K)) (key : K) : WithBot Nat :=
  ((entries.filter fun entry => entry.key = key).map HeatEntry.requests).maximum

/-- One entry, merged. -/
def merge (state : State K) (entry : HeatEntry K) : State K :=
  { state with heat := state.heat.insert entry.key
                 (max ((state.heat.lookup entry.key).getD 0) entry.requests) }

theorem imported_cons (entry : HeatEntry K) (entries : List (HeatEntry K)) (key : K) :
    imported (entry :: entries) key =
      (if entry.key = key then (WithBot.some entry.requests) else ⊥) ⊔ imported entries key := by
  by_cases h : entry.key = key
  · simp only [imported, List.filter_cons, h, decide_true, if_true, List.map_cons]
    exact List.maximum_cons _ _
  · simp [imported, h]

theorem imported_le {entries : List (HeatEntry K)} {key : K} {bound : WithBot Nat}
    (h : ∀ entry ∈ entries, entry.key = key → (WithBot.some entry.requests) ≤ bound) :
    imported entries key ≤ bound := by
  apply List.maximum_le_of_forall_le
  intro requests hrequests
  obtain ⟨entry, hentry, rfl⟩ := List.mem_map.mp hrequests
  obtain ⟨hmem, hkey⟩ := List.mem_filter.mp hentry
  exact h entry hmem (of_decide_eq_true hkey)

theorem le_imported {entries : List (HeatEntry K)} {entry : HeatEntry K} (h : entry ∈ entries) :
    (WithBot.some entry.requests) ≤ imported entries entry.key :=
  List.le_maximum_of_mem' (List.mem_map_of_mem (List.mem_filter.mpr ⟨h, decide_eq_true rfl⟩))

theorem count_merge (state : State K) (entry : HeatEntry K) (key : K) :
    (state.merge entry).count key = state.count key ⊔ if entry.key =
      key then (WithBot.some entry.requests) else ⊥ := by
  unfold count merge
  rw [Table.lookup_insert_eq]
  by_cases h : entry.key = key
  · subst h
    rw [if_pos rfl, if_pos rfl]
    cases hcount : state.heat.lookup entry.key with
    | none => exact (bot_sup_eq (WithBot.some entry.requests)).symm
    | some requests => exact WithBot.coe_max requests entry.requests
  · rw [if_neg (Ne.symm h), if_neg h]
    exact (sup_bot_eq (state.count key)).symm

theorem count_mergeAll (state : State K) (entries : List (HeatEntry K)) (key : K) :
    (entries.foldl merge state).count key = state.count key ⊔ imported entries key := by
  induction entries generalizing state with
  | nil => exact (sup_bot_eq (state.count key)).symm
  | cons entry entries ih => rw [List.foldl_cons, ih, count_merge, imported_cons, sup_assoc]

/-- The entries before the first one without requests are merged, whether or not there is one. -/
theorem importEntries_run (entries : List (HeatEntry K)) (state : State K) :
    importEntries (J := J) entries state =
      (if ∀ entry ∈ entries, entry.requests ≠ 0 then .ok () else .error .zeroRequests,
        (entries.takeWhile fun entry => entry.requests ≠ 0).foldl merge state) := by
  induction entries generalizing state with
  | nil => simp [importEntries]
  | cons entry entries ih =>
      by_cases h : entry.requests = 0
      · simp [importEntries, h, ensure, Command.bind_run]
      · have hfirst : importEntries (J := J) (entry :: entries) state =
            importEntries entries (state.merge entry) := by
          simp [importEntries, h, ensure, Command.bind_run, merge]
        rw [hfirst, ih]
        simp [h]

/-- The checks of `import_heat_json` before the lock. -/
def readHeat (fromSlice : List UInt8 → Except J (HeatSnapshot K)) (bytes : List UInt8)
    (maximumJsonBytes maximumEntries : Nat) :
    Except (HeatError J) (List (HeatEntry K)) := do
  ensure (bytes.length ≤ maximumJsonBytes) (.inputTooLarge bytes.length maximumJsonBytes)
  let snapshot ← wrap .json (fromSlice bytes)
  ensure (snapshot.format = heatFormat ∧ snapshot.version = heatVersion)
    (.wrongFormat snapshot.format snapshot.version)
  ensure (snapshot.entries.length ≤ maximumEntries)
    (.tooManyEntries snapshot.entries.length maximumEntries)
  pure snapshot.entries

section Runs
variable {fromSlice : List UInt8 → Except J (HeatSnapshot K)} {bytes : List UInt8}
    {maximumJsonBytes maximumEntries : Nat}

theorem importHeatJson_eq :
    importHeatJson fromSlice bytes maximumJsonBytes maximumEntries = (do
      let entries ← Command.lift (readHeat fromSlice bytes maximumJsonBytes maximumEntries)
      importEntries entries
      let state ← Command.read
      pure state.heat.entries.length) := by
  funext state
  unfold importHeatJson readHeat
  by_cases hbytes : bytes.length ≤ maximumJsonBytes
  · cases fromSlice bytes with
    | error error => simp [ensure, wrap, hbytes, Command.bind_run]
    | ok snapshot =>
        by_cases hformat : snapshot.format = heatFormat ∧ snapshot.version = heatVersion
        · by_cases hentries : snapshot.entries.length ≤ maximumEntries
          · simp [ensure, wrap, hbytes, hformat, hentries, Command.bind_run]
          · simp [ensure, wrap, hbytes, hformat, hentries, Command.bind_run]
        · simp [ensure, wrap, hbytes, hformat, Command.bind_run]
  · simp [ensure, hbytes, Command.bind_run]

omit [DecidableEq K] in
theorem readHeat_eq_ok {entries : List (HeatEntry K)} :
    readHeat fromSlice bytes maximumJsonBytes maximumEntries = .ok entries ↔
      bytes.length ≤ maximumJsonBytes ∧ entries.length ≤ maximumEntries ∧
        fromSlice bytes = .ok { format := heatFormat, version := heatVersion, entries } := by
  simp only [readHeat, except_bind_ok_iff, ensure_eq_ok, wrap_eq_ok]
  constructor
  · rintro ⟨_, hbytes, snapshot, hjson, _, ⟨hformat, hversion⟩, _, hentries, hlast⟩
    cases hlast
    cases snapshot
    cases hformat
    cases hversion
    exact ⟨hbytes, hentries, hjson⟩
  · rintro ⟨hbytes, hentries, hjson⟩
    exact ⟨(), hbytes, _, hjson, (), ⟨rfl, rfl⟩, (), hentries, rfl⟩

theorem importHeatJson_of_error {state : State K} {error : HeatError J}
    (h : readHeat fromSlice bytes maximumJsonBytes maximumEntries = .error error) :
    importHeatJson fromSlice bytes maximumJsonBytes maximumEntries state =
      (.error error, state) := by
  rw [importHeatJson_eq, h]
  rfl

/-- The entries that passed the checks, up to the first one without requests, are merged. -/
theorem importHeatJson_of_ok {state : State K} {entries : List (HeatEntry K)}
    (h : readHeat fromSlice bytes maximumJsonBytes maximumEntries = .ok entries) :
    importHeatJson fromSlice bytes maximumJsonBytes maximumEntries state =
      if ∀ entry ∈ entries, entry.requests ≠ 0 then
        (.ok (entries.foldl merge state).heat.entries.length, entries.foldl merge state)
      else (.error .zeroRequests,
        (entries.takeWhile fun entry => entry.requests ≠ 0).foldl merge state) := by
  rw [importHeatJson_eq, h, Command.bind_of_ok (Command.lift_run _ _)]
  split
  · rename_i hall
    have hrun := importEntries_run (J := J) entries state
    rw [if_pos hall, List.takeWhile_eq_self_iff.mpr fun entry hentry =>
      decide_eq_true (hall entry hentry)] at hrun
    rw [Command.bind_of_ok hrun]
    rfl
  · rename_i hzero
    have hrun := importEntries_run (J := J) entries state
    rw [if_neg hzero] at hrun
    exact Command.bind_of_error hrun

theorem importHeatJson_eq_ok {n : Nat} {state state' : State K} :
    importHeatJson fromSlice bytes maximumJsonBytes maximumEntries state = (.ok n, state') ↔
      ∃ entries, readHeat fromSlice bytes maximumJsonBytes maximumEntries = .ok entries ∧
        (∀ entry ∈ entries, entry.requests ≠ 0) ∧ state' = entries.foldl merge state ∧
        n = state'.heat.entries.length := by
  cases hread : readHeat fromSlice bytes maximumJsonBytes maximumEntries with
  | error error =>
      rw [importHeatJson_of_error hread]
      simp
  | ok entries =>
      rw [importHeatJson_of_ok hread]
      split
      · rename_i hpos
        constructor
        · intro h
          cases h
          exact ⟨entries, rfl, hpos, rfl, rfl⟩
        · rintro ⟨_, hentries, -, rfl, rfl⟩
          cases hentries
          rfl
      · rename_i hzero
        constructor
        · intro h
          cases h
        · rintro ⟨_, hentries, hpos, -⟩
          cases hentries
          exact absurd hpos hzero

/-- A failed import leaves every count as it was when, and only when, the entries in front of the
first one without requests ask for no more than the cache has counted. -/
theorem failed_import_unchanged_iff (fromSlice : List UInt8 → Except J (HeatSnapshot K))
    (bytes : List UInt8) (maximumJsonBytes maximumEntries : Nat) (state : State K) :
    (∀ error state', importHeatJson fromSlice bytes maximumJsonBytes maximumEntries state =
      (.error error, state') →
        ∀ key, state'.heat.lookup key = state.heat.lookup key) ↔
      ∀ entries, readHeat fromSlice bytes maximumJsonBytes maximumEntries = .ok entries →
        (∃ entry ∈ entries, entry.requests = 0) →
          ∀ entry ∈ entries.takeWhile fun entry => entry.requests ≠ 0,
            WithBot.some entry.requests ≤ state.count entry.key := by
  constructor
  · intro h entries hread hzero entry hentry
    have hrun : importHeatJson fromSlice bytes maximumJsonBytes maximumEntries state = _ :=
      importHeatJson_of_ok hread
    rw [if_neg (by simpa only [not_forall, not_not, exists_prop] using hzero)] at hrun
    have hcount : State.count _ entry.key = state.count entry.key := h _ _ hrun entry.key
    rw [count_mergeAll] at hcount
    refine le_trans ?_ (sup_eq_left.mp hcount)
    exact le_imported hentry
  · intro h error state' hrun key
    cases hread : readHeat fromSlice bytes maximumJsonBytes maximumEntries with
    | error e =>
        rw [importHeatJson_of_error hread] at hrun
        cases hrun
        rfl
    | ok entries =>
        rw [importHeatJson_of_ok hread] at hrun
        split at hrun
        · cases hrun
        · rename_i hzero
          cases hrun
          simp only [not_forall, not_not] at hzero
          obtain ⟨entry, hmem, hzero⟩ := hzero
          have hle := h entries hread ⟨entry, hmem, hzero⟩
          change State.count _ key = state.count key
          rw [count_mergeAll]
          exact sup_eq_left.mpr (imported_le fun entry hentry hkey => hkey ▸ hle entry hentry)

end Runs

/-- Key 7 is counted though key 8 has no requests. -/
theorem failed_import_counts :
    ¬ ∀ (fromSlice : List UInt8 → Except Unit (HeatSnapshot Nat)) (bytes : List UInt8)
        (maximumJsonBytes maximumEntries : Nat) (state : State Nat) (error : HeatError Unit)
        (state' : State Nat),
        importHeatJson fromSlice bytes maximumJsonBytes maximumEntries state =
            (.error error, state') →
          ∀ key, state'.heat.lookup key = state.heat.lookup key := by
  intro h
  have hrun : importHeatJson (J := Unit)
      (fun _ => .ok { format := heatFormat, version := heatVersion, entries := [⟨7, 3⟩, ⟨8, 0⟩] })
        [] 4096 8 (State.empty (K := Nat)) = (.error .zeroRequests, State.empty.merge ⟨7, 3⟩) := rfl
  have hcount := h _ [] 4096 8 State.empty _ _ hrun 7
  exact absurd hcount (by decide)

end State

/-! ### Exports -/

section Exports
variable {K J : Type} [LinearOrder K]

/-- Requests descending, then keys ascending. -/
def HeatEntry.rank (entry : HeatEntry K) : Natᵒᵈ ×ₗ K :=
  toLex (OrderDual.toDual entry.requests, entry.key)

omit [LinearOrder K] in
theorem HeatEntry.rank_injective : Function.Injective (HeatEntry.rank (K := K)) := by
  rintro ⟨key, requests⟩ ⟨key', requests'⟩ h
  obtain ⟨hrequests, hkey⟩ := Prod.mk.inj (toLex.injective h)
  cases hkey
  cases OrderDual.toDual.injective hrequests
  rfl

/-- The comparison of the sort. -/
def HeatEntry.order (left right : HeatEntry K) : Ordering :=
  (compare right.requests left.requests).then (compare left.key right.key)

theorem HeatEntry.order_isLE {left right : HeatEntry K} : (left.order right).isLE = true ↔
      left.rank ≤ right.rank := by
  rw [rank, rank, Prod.Lex.toLex_le_toLex, OrderDual.toDual_lt_toDual, OrderDual.toDual_inj, order,
    Ordering.isLE_then_iff_or, compare_lt_iff_lt, compare_eq_iff_eq, Ordering.isLE_iff_ne_gt,
    compare_gt_iff_gt, not_lt,
    eq_comm (a := right.requests)]

namespace State

def heatEntries (state : State K) : List (HeatEntry K) :=
  state.heat.entries.map fun entry => ⟨entry.1, entry.2⟩

/-- `sort_unstable_by` and `truncate`. -/
def exportEntries (maximumEntries : Nat) (state : State K) : List (HeatEntry K) :=
  (state.heatEntries.mergeSort fun left right => (left.order right).isLE).take maximumEntries

def exportHeatJson (toVecPretty : HeatSnapshot K → Except J (List UInt8)) (maximumEntries : Nat)
    (state : State K) :
    Except (HeatError J) (List UInt8) :=
  wrap .json
    (toVecPretty
      { format := heatFormat, version := heatVersion
        entries := state.exportEntries maximumEntries })

/-- The entries are the `maximumEntries` hottest keys of the cache with their counts, all of them
when it has fewer. -/
structure Hottest (state : State K) (maximumEntries : Nat)
    (entries : List (HeatEntry K)) : Prop where
  listed : ∀ entry ∈ entries, state.heat.lookup entry.key = some entry.requests
  length : entries.length = min maximumEntries state.heat.entries.length
  ordered : entries.Pairwise fun left right => left.rank < right.rank
  hottest : ∀ key requests, state.heat.lookup key = some requests → ⟨key, requests⟩ ∉ entries →
    ∀ entry ∈ entries, entry.rank < (⟨key, requests⟩ : HeatEntry K).rank

variable (state : State K) (maximumEntries : Nat)

theorem mem_heatEntries {state : State K} {entry : HeatEntry K} :
    entry ∈ state.heatEntries ↔ state.heat.lookup entry.key = some entry.requests := by
  rw [heatEntries, List.mem_map, ← Table.mem_entries_iff]
  constructor
  · rintro ⟨_, hmem, rfl⟩
    exact hmem
  · exact fun hmem => ⟨_, hmem, rfl⟩

omit [LinearOrder K] in
theorem nodup_heatEntries : (state.heatEntries.map HeatEntry.key).Nodup := by
  rw [heatEntries, List.map_map]
  exact state.heat.nodupKeys

/-- All entries of the cache, the hottest first. -/
def sortedEntries : List (HeatEntry K) :=
  state.heatEntries.mergeSort fun left right => (left.order right).isLE

theorem sortedEntries_perm : state.sortedEntries.Perm state.heatEntries := List.mergeSort_perm _ _

theorem sortedEntries_sorted :
    state.sortedEntries.Pairwise fun left right => left.rank ≤ right.rank := by
  have htrans (a b c : HeatEntry K) (hab : (a.order b).isLE = true)
      (hbc : (b.order c).isLE = true) : (a.order c).isLE = true :=
    HeatEntry.order_isLE.mpr (le_trans (HeatEntry.order_isLE.mp hab) (HeatEntry.order_isLE.mp hbc))
  have htotal (a b : HeatEntry K) : ((a.order b).isLE || (b.order a).isLE) = true := by
    rw [Bool.or_eq_true, HeatEntry.order_isLE, HeatEntry.order_isLE]
    exact le_total a.rank b.rank
  exact (List.pairwise_mergeSort htrans htotal state.heatEntries).imp HeatEntry.order_isLE.mp

theorem sortedEntries_strict :
    state.sortedEntries.Pairwise fun left right => left.rank < right.rank := by
  have hnodup : state.sortedEntries.Nodup :=
    (sortedEntries_perm state).nodup_iff.mpr (nodup_heatEntries state).of_map
  exact (state.sortedEntries_sorted.and hnodup).imp fun h => lt_of_le_of_ne h.1 fun heq =>
    h.2 (HeatEntry.rank_injective heq)

/-- There is one order of the entries. -/
theorem sortedEntries_of_perm {entries : List (HeatEntry K)} (h : state.heatEntries.Perm entries)
    (ordered : entries.Pairwise fun left right => left.rank < right.rank) :
    state.sortedEntries = entries :=
  ((sortedEntries_perm state).trans h).eq_of_pairwise
    (fun _ _ _ _ hab hba => HeatEntry.rank_injective (le_antisymm hab hba))
    state.sortedEntries_sorted (ordered.imp le_of_lt)

theorem exportEntries_hottest :
    state.Hottest maximumEntries (state.exportEntries maximumEntries) where
  listed entry hentry :=
    mem_heatEntries.mp ((sortedEntries_perm state).mem_iff.mp (List.mem_of_mem_take hentry))
  length := by
    rw [exportEntries, List.length_take, List.length_mergeSort, heatEntries, List.length_map]
  ordered := state.sortedEntries_strict.take
  hottest key requests hlookup hnot entry hentry := by
    have hmem : (⟨key, requests⟩ : HeatEntry K) ∈ state.sortedEntries :=
      (sortedEntries_perm state).mem_iff.mpr (mem_heatEntries.mpr hlookup)
    have hsplit := state.sortedEntries_strict
    rw [← List.take_append_drop maximumEntries state.sortedEntries] at hmem hsplit
    exact (List.pairwise_append.mp hsplit).2.2 entry hentry _
      ((List.mem_append.mp hmem).resolve_left hnot)

/-- Entries of distinct keys, merged into a cache that has counted nothing, are what it has counted.
-/
theorem heatEntries_mergeAll {entries : List (HeatEntry K)}
    (hnodup : (entries.map HeatEntry.key).Nodup) {state : State K}
    (hempty : state.heat = ∅) : (entries.foldl merge state).heatEntries.Perm entries := by
  rw [List.perm_ext_iff_of_nodup (nodup_heatEntries _).of_map hnodup.of_map]
  intro entry
  rw [mem_heatEntries]
  change State.count _ entry.key = (WithBot.some entry.requests) ↔ _
  have hcount : state.count entry.key = ⊥ := by rw [count, hempty]; rfl
  rw [count_mergeAll, hcount, bot_sup_eq, imported]
  refine List.maximum_eq_coe_iff.trans ?_
  constructor
  · rintro ⟨hmem, -⟩
    obtain ⟨entry', hentry', hrequests⟩ := List.mem_map.mp hmem
    obtain ⟨hmem', hkey⟩ := List.mem_filter.mp hentry'
    have heq : entry' = entry :=
      HeatEntry.rank_injective
        (by rw [HeatEntry.rank, HeatEntry.rank, hrequests, of_decide_eq_true hkey])
    exact heq ▸ hmem'
  · intro hmem
    refine ⟨List.mem_map_of_mem (List.mem_filter.mpr ⟨hmem, decide_eq_true rfl⟩), ?_⟩
    intro requests hrequests
    obtain ⟨entry', hentry', rfl⟩ := List.mem_map.mp hrequests
    obtain ⟨hmem', hkey⟩ := List.mem_filter.mp hentry'
    rw [List.inj_on_of_nodup_map hnodup hmem' hmem (of_decide_eq_true hkey)]

/-- What was exported is what an empty cache exports after taking it in. -/
theorem exportEntries_mergeAll {empty : State K} (hempty : empty.heat = ∅) :
    ((state.exportEntries maximumEntries).foldl merge empty).exportEntries maximumEntries =
      state.exportEntries maximumEntries := by
  have hhottest := state.exportEntries_hottest maximumEntries
  have hnodup : ((state.exportEntries maximumEntries).map HeatEntry.key).Nodup :=
    (((sortedEntries_perm state).map _).nodup_iff.mpr (nodup_heatEntries state)).sublist
      ((List.take_sublist _ _).map _)
  have hsorted : sortedEntries ((state.exportEntries maximumEntries).foldl merge empty) =
      state.exportEntries maximumEntries :=
    sortedEntries_of_perm _ (heatEntries_mergeAll hnodup hempty) hhottest.ordered
  rw [exportEntries, ← sortedEntries, hsorted, List.take_of_length_le]
  rw [hhottest.length]
  exact min_le_left _ _

end State
end Exports

/-! ### No key is counted zero times -/

namespace State
variable {K ε : Type} [DecidableEq K]

/-- Every key of the heat was asked for. -/
def Warm (state : State K) : Prop := ∀ key, state.heat.lookup key ≠ some 0

theorem Warm.congr {state state' : State K} (h : Warm state) (heat : state'.heat = state.heat) :
    Warm state' := by
  unfold Warm
  rw [heat]
  exact h

theorem Warm.insert {state state' : State K} (h : Warm state) {key : K} {requests : Nat}
    (hpos : requests ≠ 0)
    (heat : state'.heat = state.heat.insert key requests) : Warm state' := by
  intro key'
  rw [heat, Table.lookup_insert_eq]
  split
  · rw [ne_eq, Option.some.injEq]
    exact hpos
  · exact h key'

theorem nextTick_warm : (nextTick : Command (State K) ε Nat).Keeps Warm := fun _ h => h

theorem pin_warm (key : K) (tick : Nat) (bytes : List UInt8) (pins : Nat) (resident : Bool) :
    (pin key tick bytes pins resident).Keeps (Warm (K := K)) := by
  intro state h
  unfold pin
  split <;> exact h

theorem get_warm (key : K) : (State.get key).Keeps (Warm (K := K)) := by
  unfold State.get
  refine nextTick_warm.bind fun tick => (Command.Keeps.read _).bind fun state => ?_
  split
  · exact Command.Keeps.bind (fun _ h => h) fun _ _ h => h
  · exact fun _ h => h
  · exact (pin_warm key tick _ _ _).bind fun _ _ h => h

theorem removeEntry_warm (key : K) : (removeEntry key).Keeps (Warm (K := K)) := by
  intro state h
  unfold removeEntry
  split <;> exact h

theorem subtractUsed_warm (site : OverflowSite) (bytes : Nat) :
    (subtractUsed site bytes).Keeps (Warm (K := K)) := by
  intro state h
  unfold subtractUsed
  split <;> exact h

theorem evict_warm (key : K) : (evict key).Keeps (Warm (K := K)) := by
  unfold evict
  refine (removeEntry_warm key).bind fun removed => ?_
  cases removed with
  | none => exact fun _ h => h
  | some bytes => exact (subtractUsed_warm .evict bytes.length).bind fun _ _ h => h

theorem reserveLoop_warm (capacity requested passes : Nat) :
    (reserveLoop capacity requested passes).Keeps (Warm (K := K)) := by
  induction passes with
  | zero => exact fun _ h => h
  | succ passes ih =>
      unfold reserveLoop
      refine (Command.Keeps.read _).bind fun state => ?_
      split
      · exact fun _ h => h
      · split
        · exact fun _ h => h
        · split
          · exact fun _ h => h
          · exact (evict_warm _).bind fun _ => ih

theorem warm_warm (key : K) : (warm key).Keeps (Warm (K := K)) := by
  intro state h
  have hpos : saturatingAdd ((state.heat.lookup key).getD 0) 1 ≠ 0 := by
    unfold saturatingAdd usizeMax
    omega
  exact h.insert hpos rfl

theorem examine_warm (config : CacheConfig) (key : K) (expected : Nat) :
    (State.examine config key expected).Keeps (Warm (K := K)) := by
  unfold State.examine
  refine nextTick_warm.bind fun tick => (Command.Keeps.read _).bind fun state => ?_
  split
  · exact (pin_warm key tick _ _ _).bind fun _ _ h => h
  · exact Command.Keeps.bind (fun _ h => h) fun _ _ h => h
  · refine (warm_warm key).bind fun requests => ?_
    refine Command.Keeps.bind ((Command.Keeps.read _).bind fun _ => reserveLoop_warm _ _ _)
      fun _ => ?_
    refine Command.Keeps.bind ?_ fun _ _ h => h
    intro state h
    unfold record
    split <;> exact h

theorem complete_warm (key : K) (expected : Nat) (bytes : List UInt8) :
    (State.complete key expected bytes).Keeps (Warm (K := K)) := by
  intro state h
  unfold State.complete
  repeat' split
  all_goals exact h

theorem clearKeys_warm (keys : List K) (removed : Nat) :
    (clearKeys keys removed).Keeps (Warm (K := K)) := by
  induction keys generalizing removed with
  | nil => exact fun _ h => h
  | cons key keys ih =>
      unfold clearKeys
      refine (removeEntry_warm key).bind fun gone => ?_
      cases gone with
      | none => exact ih removed
      | some bytes => exact (subtractUsed_warm .clear bytes.length).bind fun _ => ih (removed + 1)

theorem Warm.mergeAll {entries : List (HeatEntry K)} (hpos : ∀ entry ∈ entries, entry.requests ≠ 0)
    {state : State K}
    (h : Warm state) : Warm (entries.foldl merge state) := by
  induction entries generalizing state with
  | nil => exact h
  | cons entry entries ih =>
      apply ih fun entry' hentry => hpos entry' (List.mem_cons_of_mem entry hentry)
      have hentry := hpos entry List.mem_cons_self
      exact h.insert (by omega) rfl

theorem importHeatJson_warm {J : Type} (fromSlice : List UInt8 → Except J (HeatSnapshot K))
    (bytes : List UInt8) (maximumJsonBytes maximumEntries : Nat) :
    (importHeatJson fromSlice bytes maximumJsonBytes maximumEntries).Keeps Warm := by
  intro state h
  cases hread : readHeat fromSlice bytes maximumJsonBytes maximumEntries with
  | error error =>
      rw [importHeatJson_of_error hread]
      exact h
  | ok entries =>
      rw [importHeatJson_of_ok hread]
      split
      · rename_i hpos
        exact h.mergeAll hpos
      · apply h.mergeAll
        intro entry hentry
        have htaken :=
          List.mem_takeWhile_imp (p := fun entry : HeatEntry K => entry.requests ≠ 0) hentry
        exact of_decide_eq_true htaken

end State

namespace System
variable {K ε J : Type} [DecidableEq K]
open State

theorem Advance.warm {σ σ' : System K ε} (hs : Advance σ σ') (h : Warm σ.shared) :
    Warm σ'.shared := by
  cases hs with
  | examine id call r shared called phase region =>
      have hshared := examine_warm σ.config call.key call.expectedBytes σ.shared h
      rw [region] at hshared
      rcases r with e | bytes | _ | _ <;> exact hshared
  | complete id call bytes r shared called phase region =>
      have hshared := complete_warm call.key call.expectedBytes bytes σ.shared h
      rw [region] at hshared
      cases r <;> exact hshared
  | release id call e called phase =>
      refine h.congr ?_
      change (dropReservation call.key call.expectedBytes σ.shared).heat = σ.shared.heat
      unfold dropReservation
      repeat' split
      all_goals rfl
  | reorder => exact h
  | wake => exact h
  | invoke => exact h
  | finish => exact h

theorem Step.warm {σ σ' : System K ε} (hs : Step σ σ') (h : Warm σ.shared) : Warm σ'.shared := by
  cases hs with
  | start => exact h
  | get key r shared region =>
      have hshared := get_warm key σ.shared h
      rw [region] at hshared
      rcases r with e | _ | bytes <;> exact hshared
  | advance ha => exact ha.warm h
  | dropLease lease live =>
      refine h.congr ?_
      change (State.dropLease lease.key σ.shared).heat = σ.shared.heat
      unfold State.dropLease
      repeat' split
      all_goals rfl
  | clear r shared region =>
      have hkeeps : (clearUnpinned (K := K)).Keeps Warm := (Command.Keeps.read _).bind fun _ =>
          clearKeys_warm _ _
      have hshared := hkeeps σ.shared h
      rw [region] at hshared
      exact hshared

theorem Heated.warm {config : CacheConfig} {σ : System K ε} (h : Heated J config σ) :
    Warm σ.shared := by
  induction h with
  | init valid limit =>
      intro key h
      cases h
  | step before step ih => exact step.warm ih
  | @imported σ before fromSlice bytes maximumJsonBytes maximumEntries r shared region ih =>
      have hshared :=
        importHeatJson_warm fromSlice bytes maximumJsonBytes maximumEntries σ.shared ih
      rw [region] at hshared
      exact hshared

end System

/-! ### The laws -/

section Laws
variable {K ε J : Type} [LinearOrder K]
open State

/-- Exports list the hottest keys; imports raise each count to the most that was imported for it, so
that they may be repeated and reordered; and what a cache exports, an empty one takes in and exports
again, byte for byte. -/
theorem heat_laws (fromSlice : List UInt8 → Except J (HeatSnapshot K))
    (toVecPretty : HeatSnapshot K → Except J (List UInt8))
    (lossless : ∀ snapshot bytes, toVecPretty snapshot = .ok bytes →
      fromSlice bytes = .ok snapshot) :
    (∀ state maximumEntries bytes, exportHeatJson toVecPretty maximumEntries state = .ok bytes →
      ∃ entries, fromSlice bytes = .ok { format := heatFormat, version := heatVersion, entries } ∧
        Hottest state maximumEntries entries) ∧
    (∀ bytes maximumJsonBytes maximumEntries n state state',
      importHeatJson fromSlice bytes maximumJsonBytes maximumEntries state = (.ok n, state') →
        (∃ entries,
          fromSlice bytes = .ok { format := heatFormat, version := heatVersion, entries } ∧
            ∀ key, state'.count key = state.count key ⊔ imported entries key) ∧
        (∀ key, state.count key ≤ state'.count key) ∧
        ∃ again state'',
          importHeatJson fromSlice bytes maximumJsonBytes maximumEntries state' =
            (.ok again, state'') ∧
          ∀ key, state''.count key = state'.count key) ∧
    (∀ bytes bytes' maximumJsonBytes maximumJsonBytes' maximumEntries maximumEntries' n n' state
        state' state'',
      importHeatJson fromSlice bytes maximumJsonBytes maximumEntries state = (.ok n, state') →
      importHeatJson fromSlice bytes' maximumJsonBytes' maximumEntries' state' = (.ok n', state'') →
        ∃ m m' other other',
          importHeatJson fromSlice bytes' maximumJsonBytes' maximumEntries' state = (.ok m, other) ∧
          importHeatJson fromSlice bytes maximumJsonBytes maximumEntries other = (.ok m', other') ∧
          ∀ key, other'.count key = state''.count key) ∧
    (∀ (config : CacheConfig) (σ : System K ε), System.Heated J config σ →
      ∀ maximumEntries bytes maximumJsonBytes maximumImported empty,
        exportHeatJson toVecPretty maximumEntries σ.shared = .ok bytes →
        bytes.length ≤ maximumJsonBytes →
        min maximumEntries σ.shared.heat.entries.length ≤ maximumImported → empty.heat = ∅ →
          ∃ n state,
            importHeatJson fromSlice bytes maximumJsonBytes maximumImported empty = (.ok n, state) ∧
            exportHeatJson toVecPretty maximumEntries state = .ok bytes) := by
  refine ⟨?_, ?_, ?_, ?_⟩
  · intro state maximumEntries bytes h
    exact ⟨_, lossless _ _ (wrap_eq_ok.mp h), state.exportEntries_hottest maximumEntries⟩
  · intro bytes maximumJsonBytes maximumEntries n state state' h
    obtain ⟨entries, hread, hpos, rfl, -⟩ := importHeatJson_eq_ok.mp h
    have hcount := count_mergeAll state entries
    refine ⟨⟨entries, (readHeat_eq_ok.mp hread).2.2, hcount⟩, fun key => ?_, ?_⟩
    · rw [hcount]
      exact le_sup_left
    · refine ⟨_, _, importHeatJson_eq_ok.mpr ⟨entries, hread, hpos, rfl, rfl⟩, fun key => ?_⟩
      rw [count_mergeAll, hcount, sup_assoc, sup_idem]
  · intro bytes bytes' maximumJsonBytes maximumJsonBytes' maximumEntries maximumEntries' n n' state
      state' state'' h h'
    obtain ⟨entries, hread, hpos, rfl, -⟩ := importHeatJson_eq_ok.mp h
    obtain ⟨entries', hread', hpos', rfl, -⟩ := importHeatJson_eq_ok.mp h'
    refine ⟨_, _, _, _, importHeatJson_eq_ok.mpr ⟨entries', hread', hpos', rfl, rfl⟩,
      importHeatJson_eq_ok.mpr ⟨entries, hread, hpos, rfl, rfl⟩, fun key => ?_⟩
    rw [count_mergeAll, count_mergeAll, count_mergeAll, count_mergeAll, sup_right_comm]
  · intro config σ hσ maximumEntries bytes maximumJsonBytes maximumImported empty hexport hbytes
      himported hempty
    have hhottest := σ.shared.exportEntries_hottest maximumEntries
    have hpos : ∀ entry ∈ σ.shared.exportEntries maximumEntries, entry.requests ≠ 0 := by
      intro entry hentry hzero
      exact hσ.warm entry.key (hzero ▸ hhottest.listed entry hentry)
    have hread : readHeat fromSlice bytes maximumJsonBytes maximumImported =
        .ok (σ.shared.exportEntries maximumEntries) :=
      readHeat_eq_ok.mpr ⟨hbytes, hhottest.length ▸ himported, lossless _ _ (wrap_eq_ok.mp hexport)⟩
    refine ⟨_, _, importHeatJson_eq_ok.mpr ⟨_, hread, hpos, rfl, rfl⟩, ?_⟩
    rw [exportHeatJson, exportEntries_mergeAll _ _ hempty]
    exact hexport

end Laws

/-- Entries as they are written. -/
def heatJson (snapshot : HeatSnapshot Nat) : List UInt8 :=
  ("\x7b\n  \"format\": \"" ++ snapshot.format ++ "\",\n  \"version\": " ++
    toString snapshot.version ++ ",\n  \"entries\": [\n" ++
    ",\n".intercalate (snapshot.entries.map fun entry =>
      "    \x7b\n      \"key\": " ++ toString entry.key ++ ",\n      \"requests\": " ++
        toString entry.requests ++ "\n    \x7d") ++ "\n  ]\n\x7d").toByteArray.data.toList

/-- Three keys, two of them asked for as often. -/
def threeKeys : HeatSnapshot Nat :=
  { format := heatFormat, version := heatVersion, entries := [⟨3, 1⟩, ⟨5, 4⟩, ⟨4, 4⟩] }

/-- The two hottest of them. -/
def hottestKeys : HeatSnapshot Nat :=
  { format := heatFormat, version := heatVersion, entries := [⟨4, 4⟩, ⟨5, 4⟩] }

def readKeys (bytes : List UInt8) : Except Unit (HeatSnapshot Nat) :=
  okOr ([threeKeys, hottestKeys].find? fun snapshot => heatJson snapshot = bytes) ()

def writeKeys (snapshot : HeatSnapshot Nat) : Except Unit (List UInt8) :=
  if snapshot ∈ [threeKeys, hottestKeys] then .ok (heatJson snapshot) else .error ()

theorem keys_lossless (snapshot : HeatSnapshot Nat) (bytes : List UInt8)
    (h : writeKeys snapshot = .ok bytes) : readKeys bytes = .ok snapshot := by
  have hall : ∀ snapshot ∈ [threeKeys, hottestKeys],
      readKeys (heatJson snapshot) = .ok snapshot := by decide +kernel
  unfold writeKeys at h
  split at h
  · rename_i hmem
    cases h
    exact hall snapshot hmem
  · cases h

/-- Three keys are taken in, and the two hottest come out again, also behind another cache. -/
theorem heat_laws_three :
    ∃ n state, State.importHeatJson readKeys (heatJson hottestKeys) 4096 2
        (State.empty (K := Nat)) = (.ok n, state) ∧
      State.exportHeatJson writeKeys 2 state = .ok (heatJson hottestKeys) := by
  let warmed : State Nat := threeKeys.entries.foldl State.merge State.empty
  have hinit : System.Heated Unit ⟨16, 2⟩ (System.initial ⟨16, 2⟩ : System Nat Unit) :=
    .init rfl (by decide)
  have hlengths : (heatJson threeKeys).length ≤ 4096 ∧ (heatJson hottestKeys).length ≤ 4096 := by
    decide +kernel
  have hread : State.readHeat readKeys (heatJson threeKeys) 4096 8 = .ok threeKeys.entries :=
    State.readHeat_eq_ok.mpr ⟨hlengths.1, by decide, keys_lossless threeKeys _ rfl⟩
  have hrun : State.importHeatJson readKeys (heatJson threeKeys) 4096 8
      (State.empty (K := Nat)) = (.ok 3, warmed) :=
    State.importHeatJson_eq_ok.mpr ⟨_, hread, by decide, rfl, rfl⟩
  have hσ := hinit.imported readKeys (heatJson threeKeys) 4096 8 _ _ hrun
  have hsorted : warmed.sortedEntries = [⟨4, 4⟩, ⟨5, 4⟩, ⟨3, 1⟩] := by
    have hperm : threeKeys.entries.Perm [⟨4, 4⟩, ⟨5, 4⟩, ⟨3, 1⟩] := by decide
    refine State.sortedEntries_of_perm _
      ((State.heatEntries_mergeAll (by decide) rfl).trans hperm) ?_
    simp [HeatEntry.rank, Prod.Lex.toLex_lt_toLex]
  have hexport : State.exportHeatJson writeKeys 2 warmed = .ok (heatJson hottestKeys) := by
    rw [State.exportHeatJson, State.exportEntries, ← State.sortedEntries, hsorted]
    rfl
  exact (heat_laws readKeys writeKeys keys_lossless).2.2.2 _ _ hσ 2 (heatJson hottestKeys)
    4096 2 State.empty hexport hlengths.2 (by decide) rfl

end LightBridge.ExpertCache
