import Mathlib.Data.List.ReduceOption
import LightBridge.Kv.Eager

/-! The memory of a cache: `allocated_bytes`, which counts the storage of the pages that are there,
and the pages of a cache that has had one token at most. -/
namespace LightBridge.Kv
open Foundation

/-- The bytes of one page. -/
def KvConfig.pageBytes (config : KvConfig) : Nat :=
  4 * (config.pageTokens * config.kvHeadCount * config.keyDimension + config.pageTokens *
    config.kvHeadCount * config.valueDimension)

namespace PagedKvCache

/-- `pages.iter().flat_map(|pages| pages.iter().flatten())`. -/
def allocatedPages (cache : PagedKvCache) : List KvPage := cache.pages.flatMap List.reduceOption

def addPage (total : Nat) (page : KvPage) : Except KvError Nat := do
  let pageBytes ← okOr ((checkedAdd page.keys.length page.values.length).bind (checkedMul · 4))
    (.arithmeticOverflow "allocated KV bytes")
  okOr (checkedAdd total pageBytes) (.arithmeticOverflow "allocated KV bytes")

def allocatedBytes (cache : PagedKvCache) : Except KvError Nat :=
  cache.allocatedPages.foldlM addPage 0

theorem addPage_eq_ok {total bytes n : Nat} {page : KvPage}
    (hbytes : 4 * (page.keys.length + page.values.length) = bytes) :
    addPage total page = .ok n ↔ total + bytes ≤ usizeMax ∧ n = total + bytes := by
  simp only [addPage, except_bind_ok_iff, okOr_eq_ok, Option.bind_eq_some_iff, checkedAdd_eq_some,
    checkedMul_eq_some]
  constructor
  · rintro ⟨_, ⟨_, ⟨-, rfl⟩, -, rfl⟩, hle, rfl⟩
    exact ⟨by omega, by omega⟩
  · rintro ⟨hle, rfl⟩
    exact ⟨_, ⟨_, ⟨by omega, rfl⟩, by omega, rfl⟩, by omega, by omega⟩

/-- Pages of one size add up to a multiple of it. -/
theorem foldlM_addPage {pages : List KvPage} {bytes total n : Nat} (hle : total ≤ usizeMax)
    (h : ∀ page ∈ pages, 4 * (page.keys.length + page.values.length) = bytes) :
    pages.foldlM addPage total = .ok n ↔ total + pages.length * bytes ≤ usizeMax ∧
      n = total + pages.length * bytes := by
  induction pages generalizing total with
  | nil =>
      rw [List.foldlM_nil, List.length_nil, Nat.zero_mul, Nat.add_zero]
      exact ⟨fun hn => ⟨hle, (Except.ok.inj hn).symm⟩, fun hn => congrArg Except.ok hn.2.symm⟩
  | cons page pages ih =>
      obtain ⟨hpage, hpages⟩ := List.forall_mem_cons.mp h
      rw [List.foldlM_cons, except_bind_ok_iff, List.length_cons, Nat.succ_mul]
      constructor
      · rintro ⟨next, hnext, hrest⟩
        obtain ⟨hfits, rfl⟩ := (addPage_eq_ok hpage).mp hnext
        obtain ⟨hall, rfl⟩ := (ih hfits hpages).mp hrest
        exact ⟨by omega, by omega⟩
      · rintro ⟨hall, rfl⟩
        have hfits : total + bytes ≤ usizeMax := by omega
        exact ⟨_, (addPage_eq_ok hpage).mpr ⟨hfits, rfl⟩,
          (ih hfits hpages).mpr ⟨by omega, by omega⟩⟩

/-- Every page has the storage the configuration asks for. -/
theorem Shaped.page_bytes {c : PagedKvCache} (h : Shaped c) {page : KvPage}
    (hmem : page ∈ c.allocatedPages) :
    4 * (page.keys.length + page.values.length) = c.pageBytes := by
  obtain ⟨table, htable, hpage⟩ := List.mem_flatMap.mp hmem
  obtain ⟨layer, hlayer, rfl⟩ := List.mem_iff_getElem.mp htable
  obtain ⟨index, hindex, hat⟩ := List.mem_iff_getElem.mp (List.reduceOption_mem_iff.mp hpage)
  have hslot : c.pageAt layer index = some page := by
    rw [pageAt, List.getD_eq_getElem _ _ hlayer, List.getD_eq_getElem _ _ hindex, hat]
  have hkeys : page.keys.length = _ := h.sized .key layer index page hslot
  have hvalues : page.values.length = _ := h.sized .value layer index page hslot
  rw [hkeys, hvalues]
  rfl

/-- What a cache reports is its pages times the size of one. -/
theorem Shaped.allocatedBytes_eq_ok {c : PagedKvCache} (h : Shaped c) {bytes : Nat} :
    c.allocatedBytes = .ok bytes ↔
      c.allocatedPages.length * c.pageBytes ≤ usizeMax ∧
      bytes = c.allocatedPages.length * c.pageBytes := by
  rw [allocatedBytes, foldlM_addPage (Nat.zero_le _) fun page hmem => h.page_bytes hmem,
    Nat.zero_add]

/-! ### First pages -/

/-- No page but the first one of a layer is allocated. -/
def FirstPages (c : PagedKvCache) : Prop := ∀ slot ∈ c.slots, slot.2 = 0

/-- The cache is as it was, or has had one append to the layer. -/
def Touched (layer : Nat) (c c' : PagedKvCache) : Prop :=
  c' = c ∨ ∃ alloc keys values, c' = (appendTokens alloc layer 1 keys values c).2

/-- The first token of a layer goes to its first page. -/
theorem FirstPages.touched {c c' : PagedKvCache} (first : c.FirstPages) (h : c.WellFormed)
    {layer : Nat}
    (hempty : c.storedLength layer = 0) (htouched : Touched layer c c') : c'.FirstPages := by
  rcases htouched with rfl | ⟨alloc, keys, values, rfl⟩
  · exact first
  · rcases h.appendTokens alloc layer 1 keys values with ⟨c', hrun, -⟩ | ⟨e, hrun, -⟩
    · intro slot hmem
      rw [hrun, h.slots_appendTokens hrun, hempty] at hmem
      rcases hmem with hold | ⟨-, -, hle⟩
      · exact first slot hold
      · simpa using hle
    · rw [hrun]
      exact first

theorem FirstPages.rewindAll {c : PagedKvCache} (first : c.FirstPages) (tokenCount : Nat) :
    (PagedKvCache.rewindAll tokenCount c).2.FirstPages := by
  intro slot hmem
  rw [rewindAll_keeps_slots c.slots tokenCount c rfl] at hmem
  exact first slot hmem

theorem newLazy_firstPages {alloc : Allocator} {config : KvConfig} {c : PagedKvCache}
    (h : newLazy alloc config = .ok c) :
    c.FirstPages := by
  intro slot hmem
  rw [newWithAllocation_slots h] at hmem
  cases hmem.1

/-- With one token in every layer, each has one page. -/
theorem FirstPages.length_allocatedPages {c : PagedKvCache} (first : c.FirstPages)
    (h : c.WellFormed)
    (hstored : ∀ layer, layer < c.layerCount → 0 < c.storedLength layer) :
    c.allocatedPages.length = c.layerCount := by
  have hone : ∀ table ∈ c.pages, table.reduceOption.length = 1 := by
    intro table htable
    obtain ⟨layer, hlayer, rfl⟩ := List.mem_iff_getElem.mp htable
    have hlt : layer < c.layerCount := h.shaped.tables ▸ hlayer
    have hat : ∀ index, c.pageAt layer index = (c.pages[layer]).getD index none := by
      intro index
      rw [pageAt, List.getD_eq_getElem _ _ hlayer]
    have hfirst : (c.pages[layer].getD 0 none).isSome := by
      rw [← hat, ← Nat.zero_div c.pageTokens]
      exact h.backed layer 0 (hstored layer hlt)
    cases htable : c.pages[layer] with
    | nil =>
        rw [htable] at hfirst
        cases hfirst
    | cons slot rest =>
        rw [htable, List.getD_cons_zero] at hfirst
        obtain ⟨page, rfl⟩ := Option.isSome_iff_exists.mp hfirst
        have hrest : rest.reduceOption = [] := by
          refine List.eq_nil_iff_forall_not_mem.mpr fun other hother => ?_
          obtain ⟨index, hindex, hsome⟩ :=
            List.mem_iff_getElem.mp (List.reduceOption_mem_iff.mp hother)
          have hmem : (layer, index + 1) ∈ c.slots := by
            show (c.pageAt layer (index + 1)).isSome
            rw [hat, htable, List.getD_cons_succ, List.getD_eq_getElem _ _ hindex, hsome]
            rfl
          exact absurd (first _ hmem) (Nat.succ_ne_zero index)
        change (page :: rest.reduceOption).length = 1
        rw [hrest, List.length_singleton]
  rw [allocatedPages, List.length_flatMap, List.map_congr_left hone, List.map_const',
    List.sum_replicate_nat, h.shaped.tables, Nat.mul_one]

end PagedKvCache
end LightBridge.Kv
