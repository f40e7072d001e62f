import Mathlib.Data.List.GetD
import LightBridge.Kv.Alike

/-! An append of several tokens against the appends of its tokens, one after the other. Both
build the same pages and write the same rows, so they leave the very same cache. -/
namespace LightBridge.Kv
open Foundation

/-- A page as `KvPage::new` leaves it. -/
def KvConfig.zeroPage (config : KvConfig) : KvPage where
  keys := List.replicate (config.storage .key) .zero
  values := List.replicate (config.storage .value) .zero

theorem KvPage.new_eq_ok {keysGranted valuesGranted : Bool} {config : KvConfig} {page : KvPage} :
    KvPage.new keysGranted valuesGranted config = .ok page ↔
      (config.pageTokens * config.kvHeadCount ≤ usizeMax ∧ ∀ side, config.storage side ≤ usizeMax) ∧
      tryReserve keysGranted 4 (config.storage .key) = true ∧
      tryReserve valuesGranted 4 (config.storage .value) = true ∧ page = config.zeroPage := by
  simp only [KvPage.new, except_bind_ok_iff, okOr_eq_ok, checkedStorage_eq_some, zeroedVec_eq_ok]
  constructor
  · rintro ⟨_, ⟨hrows, hk, rfl⟩, _, ⟨-, hv, rfl⟩, _, ⟨hkeys, rfl⟩, _, ⟨hvalues, rfl⟩, h⟩
    cases h
    refine ⟨⟨hrows, ?_⟩, hkeys, hvalues, rfl⟩
    intro side
    cases side with
    | key => exact hk
    | value => exact hv
  · rintro ⟨⟨hrows, hcounted⟩, hkeys, hvalues, rfl⟩
    exact ⟨_, ⟨hrows, hcounted .key, rfl⟩, _, ⟨hrows, hcounted .value, rfl⟩, _, ⟨hkeys, rfl⟩, _,
      ⟨hvalues, rfl⟩, rfl⟩

/-- A page that was granted once is always the same. -/
theorem KvPage.new_granted_eq {keysGranted valuesGranted : Bool} {config : KvConfig} {page : KvPage}
    (h : KvPage.new keysGranted valuesGranted config = .ok page) :
    page = config.zeroPage ∧ KvPage.new true true config = .ok config.zeroPage := by
  obtain ⟨hcounted, hkeys, hvalues, rfl⟩ := KvPage.new_eq_ok.mp h
  refine ⟨rfl, KvPage.new_eq_ok.mpr ⟨hcounted, ?_, ?_, rfl⟩⟩
  · exact tryReserve_eq_true.mpr ⟨rfl, (tryReserve_eq_true.mp hkeys).2⟩
  · exact tryReserve_eq_true.mpr ⟨rfl, (tryReserve_eq_true.mp hvalues).2⟩

namespace PagedKvCache

/-! ### Pages -/

/-- New pages at the given indices. -/
def install (layer : Nat) (page : KvPage) (missing : List Nat) (cache : PagedKvCache) :
    PagedKvCache :=
  missing.foldl (fun c index => c.setPage layer index page) cache

/-- Pages that answered are installed, one and all. -/
theorem newPages_eq_ok {alloc : Allocator} {config : KvConfig} {missing : List Nat}
    {allocated : List (Nat × KvPage)} (h : missing.mapM (fun index => Prod.mk index <$>
      KvPage.new (alloc (.pageKeys index)) (alloc (.pageValues index)) config) = .ok allocated) :
    allocated = missing.map (fun index => (index, config.zeroPage)) ∧
      (missing ≠ [] → KvPage.new true true config = .ok config.zeroPage) := by
  induction missing generalizing allocated with
  | nil =>
      cases h
      exact ⟨rfl, fun hne => absurd rfl hne⟩
  | cons index missing ih =>
      rw [List.mapM_cons] at h
      obtain ⟨entry, hentry, h⟩ := except_bind_ok_iff.mp h
      obtain ⟨rest, hrest, h⟩ := except_bind_ok_iff.mp h
      obtain ⟨page, hpage, rfl⟩ := except_map_ok_iff.mp hentry
      obtain ⟨rfl, hgranted⟩ := KvPage.new_granted_eq hpage
      cases h
      rw [(ih hrest).1]
      exact ⟨rfl, fun _ => hgranted⟩

theorem ensurePages_install {alloc : Allocator} {layer start stop : Nat} {c c' : PagedKvCache}
    (h : ensurePages alloc layer start stop c = (.ok (), c')) :
    let missing := c.missingPages layer (start / c.pageTokens) ((stop - 1) / c.pageTokens)
    c' = install layer c.zeroPage missing c ∧ tryReserve true 56 missing.length = true ∧
      (missing ≠ [] → KvPage.new true true c.toKvConfig = .ok c.zeroPage) := by
  intro missing
  simp only [ensurePages] at h
  split at h
  · rename_i hnone
    have hnil : missing = [] := List.length_eq_zero_iff.mp hnone
    rw [hnil]
    cases h
    exact ⟨rfl, rfl, fun hne => absurd rfl hne⟩
  · split at h
    · rename_i hreserve
      split at h
      · rename_i allocated hnew
        obtain ⟨rfl, hgranted⟩ := newPages_eq_ok hnew
        cases h
        refine ⟨?_, ?_, hgranted⟩
        · rw [List.foldl_map]
          rfl
        · exact tryReserve_eq_true.mpr ⟨rfl, (tryReserve_eq_true.mp hreserve).2⟩
      · cases h
    · cases h

theorem writeRow_keeps (config : KvConfig) (side : Lane) (layer token head : Nat) (row : List F32) :
    (writeRow side layer token head row).Keeps (fun c => c.toKvConfig = config) := by
  intro c hc
  unfold writeRow
  rw [Command.bind_of_ok (Command.read_run _)]
  cases c.page layer token with
  | error e => exact hc
  | ok found => exact hc

theorem writeToken_keeps (config : KvConfig) (layer stored : Nat) (keys values : List F32)
    (token : Nat) :
    (writeToken config layer stored keys values token).Keeps (fun c => c.toKvConfig = config) :=
  Command.Keeps.loop (fun head => (writeRow_keeps config .key layer _ head _).bind fun _ =>
    writeRow_keeps config .value layer _ head _) 0 config.kvHeadCount

theorem Appended.storedLength {c d : PagedKvCache} {layer count : Nat} {keys values : List F32}
    (h : c.Appended d layer count keys values) :
    d.storedLength layer = c.storedLength layer + count := by
  rw [← length_view, h.view, AbstractKv.append, Function.update_self,
    List.length_append, length_view, KvConfig.rowsOf, List.length_map, List.length_range]

theorem row_append (m : AbstractKv) (config : KvConfig) (side : Lane) {layer count token head : Nat}
    {keys values : List F32} (ht : token < (m layer).length + count)
    (hh : head < config.kvHeadCount) :
    (m.append layer (config.rowsOf count keys values)).row side layer token head =
      if token < (m layer).length then m.row side layer token head
      else sourceRow config (m layer).length keys values side token head := by
  unfold AbstractKv.row AbstractKv.append
  rw [Function.update_self]
  by_cases hold : token < (m layer).length
  · rw [if_pos hold, List.getD_append _ _ _ _ hold]
  · have hindex : token - (m layer).length < count := by omega
    rw [if_neg hold, List.getD_append_right _ _ _ _ (Nat.le_of_not_lt hold)]
    cases side with
    | key => simp [KvConfig.rowsOf, TokenRows.lane, hindex, hh, sourceRow]
    | value => simp [KvConfig.rowsOf, TokenRows.lane, hindex, hh, sourceRow]

/-- A later cache reads the rows it had and the rows of the append. -/
theorem Appended.readRow {c d : PagedKvCache} {layer count : Nat} {keys values : List F32}
    (h : c.Appended d layer count keys values) (hc : c.WellFormed) (side : Lane) {token head : Nat}
    (ht : token < c.storedLength layer + count) (hh : head < c.kvHeadCount) :
    d.readRow side layer token head =
      if token < c.storedLength layer then c.readRow side layer token head
      else .ok (sourceRow c.toKvConfig (c.storedLength layer) keys values side token head) := by
  have hread : d.Readable d.view layer token head := by
    rw [h.config]
    exact ⟨h.admissible.layer_lt, by rwa [length_view, h.storedLength], hh⟩
  have hnew := ((h.wellFormed.readRow side layer token head).resolve_right fun hn => hn.1 hread).2
  rw [hnew, h.view, row_append c.view c.toKvConfig side (by rwa [length_view]) hh, length_view]
  split
  · rename_i hold
    have hread' : c.Readable c.view layer token head :=
      ⟨h.admissible.layer_lt, by rwa [length_view], hh⟩
    exact ((hc.readRow side layer token head).resolve_right fun hn => hn.1 hread').2.symm
  · rfl

/-! ### The first token and the others -/

theorem appendTokens_eq_ok {alloc : Allocator} {layer count : Nat} {keys values : List F32}
    {c c' : PagedKvCache} :
    appendTokens alloc layer count keys values c = (.ok (), c') ↔ ∃ newLength c₁ c₂,
      c.checkAppend layer count keys values = .ok newLength ∧
      ensurePages alloc layer (c.storedLength layer) newLength c = (.ok (), c₁) ∧
      Command.loop (writeToken c.toKvConfig layer (c.storedLength layer) keys values) 0 count c₁ =
      (.ok (), c₂) ∧
      c' = c₂.setLength layer newLength := by
  unfold appendTokens
  rw [Command.bind_of_ok (Command.read_run c)]
  simp only [Command.bind_ok_iff, Command.lift_run, Command.update_run, Prod.mk.injEq, true_and]
  constructor
  · rintro ⟨newLength, _, ⟨hcheck, rfl⟩, _, c₁, hpages, _, c₂, hloop, hlast⟩
    exact ⟨newLength, c₁, c₂, hcheck, hpages, hloop, hlast.symm⟩
  · rintro ⟨newLength, c₁, c₂, hcheck, hpages, hloop, hlast⟩
    exact ⟨newLength, c, ⟨hcheck, rfl⟩, (), c₁, hpages, (), c₂, hloop, hlast.symm⟩

theorem WellFormed.appended_of_ok {c c' : PagedKvCache} (h : c.WellFormed) {alloc : Allocator}
    {layer count : Nat} {keys values : List F32}
    (hrun : PagedKvCache.appendTokens alloc layer count keys values c = (.ok (), c')) :
    c.Appended c' layer count keys values := by
  rcases h.appendTokens alloc layer count keys values with ⟨d, hd, happ⟩ | ⟨error, herror, -⟩
  · rw [hrun] at hd
    cases hd
    exact happ
  · rw [hrun] at herror
    cases herror

end PagedKvCache

theorem KvConfig.Admissible.first {config : KvConfig} {m : AbstractKv} {layer count : Nat}
    {keys values : List F32} (h : config.Admissible m layer (count + 1) keys values) :
    config.Admissible m layer 1 (keys.take (config.kvHeadCount * config.keyDimension))
      (values.take (config.kvHeadCount * config.valueDimension)) := by
  have hkeys := h.keys_length
  have hvalues := h.values_length
  have hroom := h.room
  rw [Nat.succ_mul] at hkeys hvalues
  have hkeysCount := h.keys_count
  have hvaluesCount := h.values_count
  refine ⟨h.layer_lt, Nat.one_pos, ?_, ?_, ?_, ?_, ?_, ?_, by omega⟩
  · rw [List.length_take, Nat.one_mul]
    omega
  · rw [List.length_take, Nat.one_mul]
    omega
  · rw [List.length_take]
    omega
  · rw [List.length_take]
    omega
  · intro x hx
    exact h.keys_finite x (List.mem_of_mem_take hx)
  · intro x hx
    exact h.values_finite x (List.mem_of_mem_take hx)

theorem KvConfig.Admissible.rest {config : KvConfig} {m m' : AbstractKv} {layer count : Nat}
    {keys values : List F32} (h : config.Admissible m layer (count + 1) keys values)
    (hcount : 0 < count) (hlength : (m' layer).length = (m layer).length + 1) :
    config.Admissible m' layer count (keys.drop (config.kvHeadCount * config.keyDimension))
      (values.drop (config.kvHeadCount * config.valueDimension)) := by
  have hkeys := h.keys_length
  have hvalues := h.values_length
  have hroom := h.room
  rw [Nat.succ_mul] at hkeys hvalues
  have hkeysCount := h.keys_count
  have hvaluesCount := h.values_count
  refine ⟨h.layer_lt, hcount, ?_, ?_, ?_, ?_, ?_, ?_, by omega⟩
  · rw [List.length_drop]
    omega
  · rw [List.length_drop]
    omega
  · rw [List.length_drop]
    omega
  · rw [List.length_drop]
    omega
  · intro x hx
    exact h.keys_finite x (List.mem_of_mem_drop hx)
  · intro x hx
    exact h.values_finite x (List.mem_of_mem_drop hx)

namespace PagedKvCache

end PagedKvCache
end LightBridge.Kv
