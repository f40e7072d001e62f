import Mathlib.Data.Set.Basic
import LightBridge.Kv.SnapshotRoundTrip
import LightBridge.Kv.Batch

/-! Which pages a cache has allocated. `new` allocates all of them and every call keeps them,
except a restore: it replaces the cache by one that was built lazily and has only the pages
its tokens needed. -/
namespace LightBridge.Kv
open Foundation

namespace PagedKvCache

/-- The pages that are allocated, by layer and page index. -/
def slots (c : PagedKvCache) : Set (Nat × Nat) := {slot | (c.pageAt slot.1 slot.2).isSome}

/-- Every page of every layer is allocated. -/
def Eager (c : PagedKvCache) : Prop :=
  ∀ layer index, layer < c.layerCount → index < c.pageCount → (layer, index) ∈ c.slots

/-- What the eager constructor is for: all the pages are there, and no append asks the
allocator for one. -/
structure Preallocated (c : PagedKvCache) : Prop where
  eager : c.Eager
  appends : ∀ (alloc alloc' : Allocator) layer tokenCount keys values,
    appendTokens alloc layer tokenCount keys values c =
      appendTokens alloc' layer tokenCount keys values c

/-- Exactly the pages of the stored tokens are allocated. -/
def Snug (c : PagedKvCache) : Prop :=
  c.slots = {slot | slot.2 * c.pageTokens < c.storedLength slot.1}

/-! ### Pages and lengths -/

theorem WellFormed.page_lt {c : PagedKvCache} (h : c.WellFormed) {token : Nat}
    (ht : token < c.tokenCapacity) :
    token / c.pageTokens < c.pageCount := by
  rw [h.pageCount_eq, ← Nat.succ_le_iff,
    Nat.succ_eq_add_one, ← Nat.add_div_right _ h.shaped.pageTokens_pos]
  exact Nat.div_le_div_right (by have := h.shaped.pageTokens_pos; omega)

theorem WellFormed.pageCount_pos {c : PagedKvCache} (h : c.WellFormed) : 0 < c.pageCount :=
  Nat.lt_of_le_of_lt (Nat.zero_le _)
    (h.page_lt (h.positive ("token_capacity", c.tokenCapacity) (by simp [KvConfig.parameters])))

/-- The last page holds the last token of the capacity. -/
theorem WellFormed.pageCount_pred {c : PagedKvCache} (h : c.WellFormed) :
    c.pageCount - 1 = (c.tokenCapacity - 1) / c.pageTokens := by
  have hcap : 0 < c.tokenCapacity :=
    h.positive ("token_capacity", c.tokenCapacity) (by simp [KvConfig.parameters])
  have hsum : c.tokenCapacity + (c.pageTokens - 1) = c.tokenCapacity - 1 + c.pageTokens := by
    have := h.shaped.pageTokens_pos
    omega
  rw [h.pageCount_eq, hsum, Nat.add_div_right _ h.shaped.pageTokens_pos, Nat.add_sub_cancel]

theorem WellFormed.pageCount_congr {c d : PagedKvCache} (h : c.WellFormed) (h' : d.WellFormed)
    (hconfig : d.toKvConfig = c.toKvConfig) : d.pageCount = c.pageCount := by
  rw [h.pageCount_eq, h'.pageCount_eq, hconfig]

/-- No page is dropped, so none is missing. -/
theorem Eager.mono {c d : PagedKvCache} (he : c.Eager) (h : c.WellFormed) (h' : d.WellFormed)
    (hconfig : d.toKvConfig = c.toKvConfig) (hslots : c.slots ⊆ d.slots) : d.Eager := by
  intro layer index hl hi
  rw [hconfig] at hl
  rw [h.pageCount_congr h' hconfig] at hi
  exact hslots (he layer index hl hi)

/-! ### Writes and new pages -/

theorem slots_setPage_of_mem {c : PagedKvCache} {layer index : Nat} (h : (layer, index) ∈ c.slots)
    (page : KvPage) :
    (c.setPage layer index page).slots = c.slots := by
  ext ⟨l, i⟩
  simp only [slots, Set.mem_ofPred_eq, pageAt_setPage]
  split
  · rename_i hat
    obtain ⟨rfl, rfl, -⟩ := hat
    exact ⟨fun _ => h, fun _ => rfl⟩
  · rfl

theorem slots_install {layer : Nat} (page : KvPage) {missing : List Nat} (c : PagedKvCache)
    (hl : layer < c.pages.length) (hi : ∀ index ∈ missing, index < (c.pages.getD layer []).length) :
    (install layer page missing c).slots =
      c.slots ∪ {slot | slot.1 = layer ∧ slot.2 ∈ missing} := by
  induction missing generalizing c with
  | nil =>
      ext slot
      simp [install]
  | cons index missing ih =>
      obtain ⟨hindex, hothers⟩ := List.forall_mem_cons.mp hi
      have hrest := ih (c.setPage layer index page) (by rw [setPage, List.length_modify]; exact hl)
        (fun i hmem => by rw [getD_pages_setPage]; exact hothers i hmem)
      refine hrest.trans ?_
      ext ⟨l, i⟩
      simp only [slots, Set.mem_union, Set.mem_ofPred_eq, pageAt_setPage, List.mem_cons]
      by_cases hat : l = layer ∧ i = index
      · obtain ⟨rfl, rfl⟩ := hat
        simp only [hl, hindex, and_self, if_true, Option.isSome_some, true_or, or_true]
      · rw [if_neg fun hall => hat ⟨hall.1, hall.2.1⟩]
        constructor
        · rintro (hold | ⟨hlayer, hmem⟩)
          · exact Or.inl hold
          · exact Or.inr ⟨hlayer, Or.inr hmem⟩
        · rintro (hold | ⟨hlayer, hfirst | hmem⟩)
          · exact Or.inl hold
          · exact absurd ⟨hlayer, hfirst⟩ hat
          · exact Or.inr ⟨hlayer, hmem⟩

theorem writeRow_keeps_slots (S : Set (Nat × Nat)) (side : Lane) (layer token head : Nat)
    (row : List F32) :
    (writeRow side layer token head row).Keeps fun c => c.slots = S := by
  intro c hc
  unfold writeRow
  rw [Command.bind_of_ok (Command.read_run _)]
  cases hpage : c.page layer token with
  | error e => exact hc
  | ok page =>
      have hat := okOr_eq_ok.mp hpage
      refine (slots_setPage_of_mem ?_ _).trans hc
      change (c.pageAt layer (token / c.pageTokens)).isSome
      rw [hat]
      rfl

theorem writeTokens_keeps_slots (S : Set (Nat × Nat)) (config : KvConfig) (layer stored count : Nat)
    (keys values : List F32) :
    (Command.loop (writeToken config layer stored keys values) 0 count).Keeps fun c =>
      c.slots = S :=
  Command.Keeps.loop
    (fun _ =>
      Command.Keeps.loop (fun head => (writeRow_keeps_slots S .key layer _ head _).bind fun _ =>
    writeRow_keeps_slots S .value layer _ head _) 0 config.kvHeadCount) 0 count

/-- An append allocates the pages of its own tokens and no other. -/
theorem WellFormed.slots_appendTokens {c c' : PagedKvCache} (h : c.WellFormed) {alloc : Allocator}
    {layer count : Nat} {keys values : List F32}
    (hrun : PagedKvCache.appendTokens alloc layer count keys values c = (.ok (), c')) :
    c'.slots = c.slots ∪ {slot | slot.1 = layer ∧ c.storedLength layer / c.pageTokens ≤ slot.2 ∧
      slot.2 ≤ (c.storedLength layer + count - 1) / c.pageTokens} := by
  obtain ⟨newLength, c₁, c₂, hcheck, hpages, hloop, rfl⟩ := appendTokens_eq_ok.mp hrun
  obtain ⟨hadm, rfl⟩ := h.checkAppend_eq_ok.mp hcheck
  obtain ⟨rfl, -, -⟩ := ensurePages_install hpages
  have hlayer : layer < c.pages.length := by
    rw [h.shaped.tables]
    exact hadm.layer_lt
  have hlast : (c.storedLength layer + count - 1) / c.pageTokens < c.pageCount := by
    apply h.page_lt
    have hroom := hadm.room
    have hpos := hadm.token_pos
    rw [length_view] at hroom
    omega
  let missing := c.missingPages layer (c.storedLength layer / c.pageTokens)
    ((c.storedLength layer + count - 1) / c.pageTokens)
  have hinside : ∀ index ∈ missing, index < (c.pages.getD layer []).length := by
    intro index hmem
    rw [h.shaped.table layer hadm.layer_lt]
    exact Nat.lt_of_le_of_lt (mem_missingPages.mp hmem).2.1 hlast
  have hinstalled := slots_install c.zeroPage c hlayer hinside
  have hwritten :=
    writeTokens_keeps_slots _ c.toKvConfig layer
      (c.storedLength layer) count keys values _ hinstalled
  rw [hloop] at hwritten
  refine Eq.trans (b := c₂.slots) rfl (hwritten.trans ?_)
  ext ⟨l, i⟩
  simp only [missing, Set.mem_union, Set.mem_ofPred_eq, mem_missingPages]
  refine or_congr_right' fun habsent => and_congr_right fun hl => ?_
  subst hl
  have hnone : c.pageAt l i = none := Option.not_isSome_iff_eq_none.mp habsent
  simp [hnone]

theorem appendTokens_of_append {c c' : PagedKvCache} {alloc : Allocator} {layer : Nat}
    {key value : List F32} {index : Nat}
    (hrun : PagedKvCache.append alloc layer key value c = (.ok index, c')) :
    PagedKvCache.appendTokens alloc layer 1 key value c = (.ok (), c') := by
  obtain ⟨_, d, hone, hread⟩ := Command.bind_ok_iff.mp hrun
  cases hread
  exact hone

theorem rewindAll_keeps_slots (S : Set (Nat × Nat)) (tokenCount : Nat) :
    (rewindAll tokenCount).Keeps fun c => c.slots = S := by
  intro c hc
  unfold rewindAll
  split
  · exact hc
  · exact hc

/-- No public call drops a page. -/
theorem WellFormed.slots_run {c : PagedKvCache} (h : c.WellFormed) (op : Op) :
    c.slots ⊆ (op.run c).2.slots := by
  have happend : ∀ alloc layer count keys values,
      c.slots ⊆ (PagedKvCache.appendTokens alloc layer count keys values c).2.slots := by
    intro alloc layer count keys values
    rcases h.appendTokens alloc layer count keys values with ⟨c', hrun, -⟩ | ⟨e, hrun, -⟩
    · rw [hrun, h.slots_appendTokens hrun]
      exact Set.subset_union_left
    · rw [hrun]
  cases op with
  | append alloc layer key value =>
      rcases h.append alloc layer key value with ⟨c', hrun, -⟩ | ⟨e, hrun, -⟩
      · have hone := happend alloc layer 1 key value
        rw [appendTokens_of_append hrun] at hone
        rwa [Op.run, Command.bind_of_ok hrun]
      · rw [Op.run, Command.bind_of_error hrun]
  | appendTokens alloc layer count keys values =>
      rcases h.appendTokens alloc layer count keys values with ⟨c', hrun, -⟩ | ⟨e, hrun, -⟩
      · have hall := happend alloc layer count keys values
        rw [hrun] at hall
        rwa [Op.run, Command.bind_of_ok hrun]
      · rw [Op.run, Command.bind_of_error hrun]
  | reset => exact subset_rfl
  | rewindAll tokenCount =>
      have hkept := (rewindAll_keeps_slots c.slots tokenCount).bind (k := fun _ => pure Reply.done)
          fun _ _ hd => hd
      exact (hkept c rfl).ge
  | read side layer token head =>
      rw [Op.run, Command.bind_of_ok (Command.read_run c)]
      cases c.readRow side layer token head with
      | ok row => exact subset_rfl
      | error e => exact subset_rfl

/-! ### An eager cache -/

theorem Eager.ensurePages {c : PagedKvCache} (he : c.Eager) (alloc : Allocator)
    {layer start stop : Nat} (hl : layer < c.layerCount)
    (hlast : (stop - 1) / c.pageTokens < c.pageCount) :
    PagedKvCache.ensurePages alloc layer start stop c = (.ok (), c) := by
  have hnone : c.missingPages layer (start / c.pageTokens) ((stop - 1) / c.pageTokens) = [] := by
    apply List.eq_nil_iff_forall_not_mem.mpr
    intro index hmem
    obtain ⟨-, hle, habsent⟩ := mem_missingPages.mp hmem
    have hpresent := he layer index hl (Nat.lt_of_le_of_lt hle hlast)
    rw [slots, Set.mem_ofPred_eq, habsent] at hpresent
    cases hpresent
  rw [PagedKvCache.ensurePages, hnone]
  rfl

/-- With every page there, the allocator is never asked. -/
theorem Eager.preallocated {c : PagedKvCache} (he : c.Eager) (h : c.WellFormed) :
    c.Preallocated := by
  refine ⟨he, fun alloc alloc' layer tokenCount keys values => ?_⟩
  rw [PagedKvCache.appendTokens, Command.bind_of_ok (Command.read_run c), PagedKvCache.appendTokens,
    Command.bind_of_ok (Command.read_run c)]
  cases hcheck : c.checkAppend layer tokenCount keys values with
  | error e => rfl
  | ok newLength =>
      obtain ⟨hadm, rfl⟩ := h.checkAppend_eq_ok.mp hcheck
      have hlast : (c.storedLength layer + tokenCount - 1) / c.pageTokens < c.pageCount := by
        apply h.page_lt
        have hroom := hadm.room
        have hpos := hadm.token_pos
        rw [length_view] at hroom
        omega
      rw [Command.bind_of_ok (Command.lift_run _ c), Command.bind_of_ok (Command.lift_run _ c),
        Command.bind_of_ok (he.ensurePages alloc hadm.layer_lt hlast),
        Command.bind_of_ok (he.ensurePages alloc' hadm.layer_lt hlast)]

theorem newLayerPages_slots {alloc : Allocator} {config : KvConfig} {pageCount layer : Nat}
    {eager : Bool} {table : List (Option KvPage)}
    (h : newLayerPages alloc config pageCount eager layer = .ok table) :
    ∀ slot ∈ table, slot.isSome = eager := by
  unfold newLayerPages at h
  split at h
  · split at h
    · rename_i heager
      subst heager
      refine except_mapM_forall h fun page _ slot hslot => ?_
      obtain ⟨built, -, rfl⟩ := except_map_ok_iff.mp hslot
      rfl
    · rename_i heager
      cases h
      intro slot hmem
      rw [List.eq_of_mem_replicate hmem, Bool.eq_false_iff.mpr heager]
      rfl
  · cases h

/-- The constructors allocate every page or none. -/
theorem newWithAllocation_slots {alloc : Allocator} {config : KvConfig} {eager : Bool}
    {c : PagedKvCache} (h : newWithAllocation alloc config eager = .ok c) :
    c.slots = {slot | eager = true ∧ slot.1 < c.layerCount ∧ slot.2 < c.pageCount} := by
  obtain ⟨hwf, -, -⟩ := newWithAllocation_wellFormed h
  have htables : ∀ table ∈ c.pages, ∀ slot ∈ table, slot.isSome = eager := by
    unfold newWithAllocation at h
    split at h
    · cases h
    · obtain ⟨rounded, -, h⟩ := except_bind_ok_iff.mp h
      split at h
      · obtain ⟨pages, hpages, h⟩ := except_bind_ok_iff.mp h
        obtain ⟨lengths, -, h⟩ := except_bind_ok_iff.mp h
        cases h
        exact except_mapM_forall hpages fun layer _ table htable => newLayerPages_slots htable
      · cases h
  ext ⟨layer, index⟩
  constructor
  · intro hsome
    obtain ⟨page, hpage⟩ := Option.isSome_iff_exists.mp hsome
    obtain ⟨table, htable, hmem⟩ := pageAt_mem hpage
    exact ⟨(htables table htable _ hmem).symm, hwf.shaped.index_lt hpage⟩
  · rintro ⟨rfl, hl, hi⟩
    have hlen := hwf.shaped.table layer hl
    have htable : c.pages.getD layer [] ∈ c.pages := by
      rw [List.getD_eq_getElem?_getD,
        List.getElem?_eq_getElem (by rw [hwf.shaped.tables]; exact hl)]
      exact List.getElem_mem _
    rw [← hlen] at hi
    have hmem : c.pageAt layer index ∈ c.pages.getD layer [] := by
      rw [pageAt, List.getD_eq_getElem _ _ hi]
      exact List.getElem_mem _
    exact htables _ htable _ hmem

/-! ### A restored cache -/

theorem Appended.storedLength_of_ne {c d : PagedKvCache} {layer count : Nat}
    {keys values : List F32} (h : c.Appended d layer count keys values) {other : Nat}
    (hne : other ≠ layer) :
    d.storedLength other = c.storedLength other := by
  rw [← length_view, h.view, AbstractKv.append, Function.update_of_ne hne, length_view]

/-- An append to a snug cache leaves it snug. -/
theorem Snug.append {c c' : PagedKvCache} (hs : c.Snug) (h : c.WellFormed) {alloc : Allocator}
    {layer count : Nat}
    {keys values : List F32} (hrun : appendTokens alloc layer count keys values c = (.ok (), c')) :
    c'.Snug := by
  have happ := h.appended_of_ok hrun
  have hP := h.shaped.pageTokens_pos
  have hpos := happ.admissible.token_pos
  have htokens : c'.pageTokens = c.pageTokens := by rw [happ.config]
  rw [Snug, h.slots_appendTokens hrun, hs, htokens]
  ext ⟨l, i⟩
  simp only [Set.mem_union, Set.mem_ofPred_eq]
  by_cases hl : l = layer
  · subst hl
    rw [happ.storedLength, ← Nat.lt_succ_iff, Nat.succ_eq_add_one, Nat.div_lt_iff_lt_mul hP,
      Nat.le_div_iff_mul_le hP, Nat.succ_mul]
    omega
  · rw [happ.storedLength_of_ne hl]
    simp [hl]

theorem newLazy_snug {alloc : Allocator} {config : KvConfig} {c : PagedKvCache}
    (h : newLazy alloc config = .ok c) :
    c.Snug := by
  rw [Snug, newWithAllocation_slots h]
  ext ⟨layer, index⟩
  simp [(newWithAllocation_wellFormed h).2.2 layer]

/-- What every append keeps, the token loop of a restore keeps. -/
theorem restoreTokens_keeps {P : PagedKvCache → Prop}
    (step : ∀ {alloc layer key value index c c'}, P c →
      append alloc layer key value c = (.ok index, c') → P c')
    {alloc : Allocator} {config : KvConfig} {layer token count : Nat} {restored last : PagedKvCache}
    {cursor cursor' : Cursor}
    (h : P restored)
    (hrun : restoreTokens alloc config layer token count restored cursor = (.ok last, cursor')) :
    P last := by
  induction count generalizing token restored cursor with
  | zero =>
      cases hrun
      exact h
  | succ count ih =>
      obtain ⟨next, mid, htoken, hrest⟩ := Command.bind_ok_iff.mp hrun
      obtain ⟨rows, read, -, happend⟩ := Command.bind_ok_iff.mp htoken
      obtain ⟨index, hone⟩ := Command.exec_eq_ok.mp (Prod.mk.inj happend).1
      exact ih (step h hone) hrest

theorem restoreLayers_keeps {P : PagedKvCache → Prop}
    (step : ∀ {alloc layer key value index c c'}, P c →
      append alloc layer key value c = (.ok index, c') → P c')
    {alloc : Allocator} {config : KvConfig} {layer : Nat} {lengths : List Nat}
    {restored last : PagedKvCache} {cursor cursor' : Cursor} (h : P restored)
    (hrun : restoreLayers alloc config layer lengths restored cursor = (.ok last, cursor')) :
    P last := by
  induction lengths generalizing layer restored cursor with
  | nil =>
      cases hrun
      exact h
  | cons length lengths ih =>
      obtain ⟨next, mid, hlayer, hrest⟩ := Command.bind_ok_iff.mp hrun
      exact ih (restoreTokens_keeps step h hlayer) hrest

/-- A restored cache has the pages of its tokens and no other. -/
theorem restorePayload_snug {alloc : Allocator} {config : KvConfig} {binding : Bytes32}
    {payload : List UInt8} {uniform : Bool} {r : PagedKvCache}
    (h : (restorePayload alloc config binding uniform ⟨payload, 0⟩).1 = .ok r) :
    r.Snug := by
  obtain ⟨last, hrun⟩ : ∃ last, restorePayload alloc config binding uniform ⟨payload, 0⟩ =
    (.ok r, last) := ⟨_, Prod.ext h rfl⟩
  obtain ⟨_, c₁, -, hrun⟩ := Command.bind_ok_iff.mp hrun
  obtain ⟨lengths, c₂, -, hrun⟩ := Command.bind_ok_iff.mp hrun
  obtain ⟨fresh, c₃, hfresh, hrun⟩ := Command.bind_ok_iff.mp hrun
  obtain ⟨filled, c₄, hlayers, hrun⟩ := Command.bind_ok_iff.mp hrun
  have hlazy := (emptyRestored_eq_ok.mp (Prod.mk.inj hfresh).1).1
  have hstart : fresh.WellFormed ∧ fresh.Snug :=
    ⟨(newWithAllocation_wellFormed hlazy).1, newLazy_snug hlazy⟩
  have hfilled : filled.WellFormed ∧ filled.Snug := by
    refine restoreLayers_keeps (P := fun c => c.WellFormed ∧ c.Snug) ?_ hstart hlayers
    intro alloc layer key value index c c' hc happend
    have hone := appendTokens_of_append happend
    exact ⟨(hc.1.appended_of_ok hone).wellFormed, hc.2.append hc.1 hone⟩
  obtain ⟨_, c₅, -, hrun⟩ := Command.bind_ok_iff.mp hrun
  obtain ⟨_, c₆, -, hrun⟩ := Command.bind_ok_iff.mp hrun
  cases hrun
  exact hfilled.2

end PagedKvCache

/-- The last page of every layer holds a token. -/
def AbstractKv.Fills (config : KvConfig) (m : AbstractKv) : Prop :=
  ∀ layer, layer < config.layerCount →
    (config.tokenCapacity - 1) / config.pageTokens * config.pageTokens < (m layer).length

/-- The calls that change a cache, restores among them. -/
inductive Call where
  | call (op : Op)
  | restore (sha : Sha256) (alloc : Allocator) (binding : Bytes32) (bytes : List UInt8)
      (maximum : Nat) (limit : maximum ≤ usizeMax) (uniform : Bool)

namespace Call
open PagedKvCache

/-- `restore_snapshot` and `restore_uniform_snapshot` differ in `uniform`. -/
def run : Call → Command PagedKvCache KvError Unit
  | .call op => do
      let _ ← op.run
      pure ()
  | .restore sha alloc binding bytes maximum _ uniform =>
      restoreSnapshotInternal sha alloc binding bytes maximum uniform

def runAll (calls : List Call) (cache : PagedKvCache) : PagedKvCache :=
  calls.foldl (fun c call => (call.run c).2) cache

/-- A snapshot that is restored has a token in the last page of every layer. -/
def Fills (config : KvConfig) : Call → Prop
  | .call _ => True
  | .restore sha _ binding bytes _ _ uniform =>
      ∀ m, Encodable config m uniform → bytes = config.encodeSnapshot sha binding m → m.Fills config

end Call

namespace PagedKvCache

/-- A snug cache is eager when its tokens reach into every last page. -/
theorem Snug.eager_iff {c : PagedKvCache} (hs : c.Snug) (h : c.WellFormed) :
    c.Eager ↔ c.view.Fills c.toKvConfig := by
  have hlast := h.pageCount_pred
  have hpos := h.pageCount_pos
  constructor
  · intro he layer hl
    have hmem := he layer (c.pageCount - 1) hl (by omega)
    rwa [hs, hlast, Set.mem_ofPred_eq, ← length_view] at hmem
  · intro hfills layer index hl hi
    have htoken := hfills layer hl
    rw [length_view, ← hlast] at htoken
    rw [hs]
    exact Nat.lt_of_le_of_lt (Nat.mul_le_mul_right _ (by omega)) htoken

theorem Restored.encodable {config : KvConfig} {binding : Bytes32} {payload : List UInt8}
    {uniform : Bool} {r : PagedKvCache}
    (h : Restored config binding payload uniform r) : Encodable config r.view uniform := by
  have hkeys := h.keys
  have hvalues := h.values
  have hwf := h.wellFormed
  have hconfig := h.config_eq
  refine ⟨hconfig ▸ hwf.storable, hconfig ▸ hwf.positive, h.parameters_lt, ?_, ?_, ?_, h.uniform⟩
  · rw [← hconfig]
    exact hwf.rounded
  · simp only [isizeMax, usizeMax] at *
    omega
  · simp only [isizeMax, usizeMax] at *
    omega

/-- A restored cache is eager exactly when its snapshot fills the last pages. -/
theorem restoredCache_eager_iff {sha : Sha256} {alloc : Allocator} {config : KvConfig}
    {binding : Bytes32} {bytes : List UInt8} {maximum : Nat} {limit : maximum ≤ usizeMax}
    {uniform : Bool} {r : PagedKvCache}
    (h : restoredCache sha alloc config binding bytes maximum uniform = .ok r) :
    r.Eager ↔ (Call.restore sha alloc binding bytes maximum limit uniform).Fills config := by
  obtain ⟨hzero, hle, hbytes, hr⟩ := restoredCache_ok limit h
  have hsnug : r.Snug := by
    simp only [restoredCache, except_bind_ok_iff] at h
    obtain ⟨_, -, _, -, _, -, _, -, hpayload⟩ := h
    exact restorePayload_snug hpayload
  have hiff := hsnug.eager_iff hr.wellFormed
  rw [hr.config_eq] at hiff
  rw [hiff]
  constructor
  · intro hfills m hm hencode
    have hbuilt := restoredCache_answers sha alloc binding hm hzero (hencode ▸ hle) limit
    rw [← hencode, h] at hbuilt
    cases hbuilt with
    | built _ _ _ hview => exact hview ▸ hfills
  · intro hfills
    exact hfills r.view hr.encodable hbytes

theorem run_call (op : Op) (c : PagedKvCache) : ((Call.call op).run c).2 = (op.run c).2 := by
  rw [Call.run, Command.bind_run]
  rcases op.run c with ⟨reply, d⟩
  cases reply with
  | ok _ => rfl
  | error _ => rfl

theorem WellFormed.call {c : PagedKvCache} (h : c.WellFormed) (call : Call) :
    (call.run c).2.WellFormed ∧ (call.run c).2.toKvConfig = c.toKvConfig := by
  cases call with
  | call op =>
      rw [run_call]
      exact ⟨(h.step op).1, (h.step op).2.1⟩
  | restore sha alloc binding bytes maximum limit uniform =>
      rw [Call.run]
      rcases hrun : restoreSnapshotInternal sha alloc binding bytes maximum uniform
        c with ⟨reply, d⟩
      cases reply with
      | error e =>
          rw [(restoreSnapshotInternal_error hrun).1]
          exact ⟨h, rfl⟩
      | ok u =>
          have hr := (restoredCache_ok limit (restoreSnapshotInternal_ok.mp hrun)).2.2.2
          exact ⟨hr.wellFormed, hr.config_eq⟩

theorem WellFormed.calls {c : PagedKvCache} (h : c.WellFormed) (calls : List Call) :
    (Call.runAll calls c).WellFormed ∧ (Call.runAll calls c).toKvConfig = c.toKvConfig := by
  induction calls generalizing c with
  | nil => exact ⟨h, rfl⟩
  | cons call calls ih =>
      obtain ⟨hwf, hconfig⟩ := ih (h.call call).1
      exact ⟨hwf, hconfig.trans (h.call call).2⟩

/-- One call keeps every page allocated unless it restores a snapshot with an empty last page. -/
theorem Eager.call {c : PagedKvCache} (he : c.Eager) (h : c.WellFormed) {call : Call}
    (hfills : (call.run c).1 = .ok () → call.Fills c.toKvConfig) : (call.run c).2.Eager := by
  cases call with
  | call op =>
      rw [run_call]
      exact he.mono h (h.step op).1 (h.step op).2.1 (h.slots_run op)
  | restore sha alloc binding bytes maximum limit uniform =>
      rw [Call.run] at hfills ⊢
      rcases hrun : restoreSnapshotInternal sha alloc binding bytes maximum uniform
        c with ⟨reply, d⟩
      rw [hrun] at hfills
      cases reply with
      | error e =>
          rw [(restoreSnapshotInternal_error hrun).1]
          exact he
      | ok u =>
          exact (restoredCache_eager_iff (restoreSnapshotInternal_ok.mp hrun)).mpr (hfills rfl)

theorem Eager.calls {c : PagedKvCache} (he : c.Eager) (h : c.WellFormed) {calls : List Call}
    (hfills : ∀ ran call, ran ++ [call] <+: calls → (call.run (Call.runAll ran c)).1 = .ok () →
      call.Fills c.toKvConfig) : (Call.runAll calls c).Eager := by
  induction calls generalizing c with
  | nil => exact he
  | cons call calls ih =>
      have hfirst := hfills [] call (List.prefix_append [call] calls)
      refine ih (he.call h hfirst) (h.call call).1 fun ran next hran hok => ?_
      rw [(h.call call).2]
      exact hfills (call :: ran) next (List.cons_prefix_cons.mpr ⟨rfl, hran⟩) hok

/-- An accepted call that left the cache eager restored no snapshot with an empty last page. -/
theorem Eager.fills {c : PagedKvCache} {call : Call} (he : (call.run c).2.Eager)
    (hok : (call.run c).1 = .ok ()) :
    call.Fills c.toKvConfig := by
  cases call with
  | call op => exact trivial
  | restore sha alloc binding bytes maximum limit uniform =>
      rw [Call.run] at he hok
      rcases hrun : restoreSnapshotInternal sha alloc binding bytes maximum uniform
        c with ⟨reply, d⟩
      rw [hrun] at he hok
      cases hok
      exact (restoredCache_eager_iff (restoreSnapshotInternal_ok.mp hrun)).mp he

/-- A cache of the eager constructor keeps every page allocated, and its appends ask for no
memory, in every state of a run exactly when each snapshot that the run restores has a token in the
last page of each layer. What a restore refuses does no harm. -/
theorem eager_run {alloc : Allocator} {config : KvConfig} {c : PagedKvCache}
    (built : new alloc config = .ok c) (calls : List Call) :
    (∀ ran call, ran ++ [call] <+: calls → (call.run (Call.runAll ran c)).1 = .ok () →
      call.Fills config) ↔
    ∀ ran, ran <+: calls → (Call.runAll ran c).Preallocated := by
  obtain ⟨hwf, hconfig, -⟩ := newWithAllocation_wellFormed built
  have heager : c.Eager := by
    intro layer index hl hi
    rw [newWithAllocation_slots built]
    exact ⟨rfl, hl, hi⟩
  constructor
  · intro hfills ran hran
    refine (heager.calls hwf fun before call hbefore hok => ?_).preallocated (hwf.calls ran).1
    rw [hconfig]
    exact hfills before call (hbefore.trans hran) hok
  · intro hall ran call hran hok
    have hafter := (hall _ hran).eager
    have hlast : Call.runAll (ran ++ [call]) c = (call.run (Call.runAll ran c)).2 :=
      List.foldl_append
    rw [hlast] at hafter
    have hfills := hafter.fills hok
    rwa [(hwf.calls ran).2, hconfig] at hfills

/-- A restore of the bytes, in the smallest environment. -/
def restoring (bytes : List UInt8) : Call :=
  .restore zeroSha (fun _ => true) sevens bytes 4096 (by decide) false

/-- A fresh cache that restores the snapshot of its own empty state has lost its page. -/
theorem eager_run_emptied : ∃ c bytes,
    new (fun _ => true) ⟨1, 1, 1, 1, 1, 1⟩ = .ok c ∧
    exportSnapshot zeroSha (fun _ => true) c sevens 4096 = .ok bytes ∧
    ¬ (Call.runAll [restoring bytes] c).Preallocated := by
  let c : PagedKvCache := ⟨⟨1, 1, 1, 1, 1, 1⟩, 1, [0], [[some ⟨[⟨0⟩], [⟨0⟩]⟩]]⟩
  have hrestored : (exportSnapshot zeroSha (fun _ => true) c sevens 4096 >>= fun bytes =>
      Command.exec ((restoring bytes).run) c) = .ok ⟨⟨1, 1, 1, 1, 1, 1⟩, 1, [0], [[none]]⟩ := by
    decide +kernel
  obtain ⟨bytes, hexport, hexec⟩ := except_bind_ok_iff.mp hrestored
  obtain ⟨_, hrun⟩ := Command.exec_eq_ok.mp hexec
  refine ⟨c, bytes, by decide +kernel, hexport, fun hpre => ?_⟩
  have hstate : Call.runAll [restoring bytes] c = ⟨⟨1, 1, 1, 1, 1, 1⟩, 1, [0], [[none]]⟩ :=
    congrArg Prod.snd hrun
  rw [hstate] at hpre
  have hpage : (none : Option KvPage).isSome = true := hpre.eager 0 0 Nat.one_pos Nat.one_pos
  cases hpage

/-- A fresh cache of two pages, and the same one with both of its tokens. -/
def twoPages : PagedKvCache :=
  ⟨⟨1, 1, 1, 1, 1, 2⟩, 2, [0], [[some ⟨[⟨0⟩], [⟨0⟩]⟩, some ⟨[⟨0⟩], [⟨0⟩]⟩]]⟩

def twoTokens : PagedKvCache :=
  ⟨⟨1, 1, 1, 1, 1, 2⟩, 2, [2], [[some ⟨[⟨1⟩], [⟨3⟩]⟩, some ⟨[⟨2⟩], [⟨4⟩]⟩]]⟩

/-- A full cache is snapshot, and a fresh one restores it and is reset: no page is lost. -/
theorem eager_run_single : ∃ bytes,
    new (fun _ => true) ⟨1, 1, 1, 1, 1, 2⟩ = .ok twoPages ∧
    Call.runAll [.call (.appendTokens (fun _ => true) 0 2 [⟨1⟩, ⟨2⟩] [⟨3⟩, ⟨4⟩])] twoPages =
      twoTokens ∧
    exportSnapshot zeroSha (fun _ => true) twoTokens sevens 4096 = .ok bytes ∧
    Call.runAll [restoring bytes] twoPages = twoTokens ∧
    (Call.runAll [restoring bytes, .call .reset] twoPages).Preallocated := by
  have built : new (fun _ => true) ⟨1, 1, 1, 1, 1, 2⟩ = .ok twoPages := by decide +kernel
  have hrestored : (exportSnapshot zeroSha (fun _ => true) twoTokens sevens 4096 >>= fun bytes =>
      Command.exec ((restoring bytes).run) twoPages) = .ok twoTokens := by decide +kernel
  obtain ⟨bytes, hexport, hexec⟩ := except_bind_ok_iff.mp hrestored
  obtain ⟨_, hrun⟩ := Command.exec_eq_ok.mp hexec
  have heager : twoTokens.Eager := by
    intro layer index hlayer hindex
    obtain rfl : layer = 0 := Nat.lt_one_iff.mp hlayer
    have hcase : index = 0 ∨ index = 1 := by
      change index < 2 at hindex
      omega
    rcases hcase with rfl | rfl <;> rfl
  have hfills : (restoring bytes).Fills ⟨1, 1, 1, 1, 1, 2⟩ :=
    (restoredCache_eager_iff (restoreSnapshotInternal_ok.mp hrun)).mp heager
  refine ⟨bytes, built, by decide +kernel, hexport, congrArg Prod.snd hrun, ?_⟩
  refine (eager_run built _).mp (fun ran call hran hok => ?_) _ List.prefix_rfl
  have hmem := hran.subset (List.mem_append_right ran List.mem_cons_self)
  rcases List.mem_pair.mp hmem with rfl | rfl
  · exact hfills
  · trivial

end PagedKvCache
end LightBridge.Kv
