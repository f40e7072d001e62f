import Mathlib.Logic.Function.Basic
import LightBridge.Kv.Allocation

/-! The paged cache refines a plain map from layers to token rows. Pages, offsets and
rows left over from before a rewind do not appear in the map. -/
namespace LightBridge.Kv
open Foundation

/-- Key and value rows of one token, by head. -/
structure TokenRows where
  keys : List (List F32)
  values : List (List F32)
  deriving DecidableEq, Repr

/-- What a cache is for: the committed tokens of every layer. -/
abbrev AbstractKv := Nat → List TokenRows

namespace AbstractKv

def empty : AbstractKv := fun _ => []

def append (m : AbstractKv) (layer : Nat) (rows : List TokenRows) : AbstractKv :=
  Function.update m layer (m layer ++ rows)

def rewind (m : AbstractKv) (tokenCount : Nat) : AbstractKv :=
  fun layer => (m layer).take tokenCount

end AbstractKv

/-- The tokens of token-major `[token, kv_head, dimension]` rows. -/
def KvConfig.rowsOf (config : KvConfig) (tokenCount : Nat) (keys values : List F32) :
    List TokenRows :=
  (List.range tokenCount).map fun token =>
    { keys := (List.range config.kvHeadCount).map (PagedKvCache.sourceKey config keys token)
      values := (List.range config.kvHeadCount).map (PagedKvCache.sourceValue config values token) }

/-- The appends a cache with these committed tokens must accept. -/
structure KvConfig.Admissible (config : KvConfig) (m : AbstractKv) (layer tokenCount : Nat)
    (keys values : List F32) : Prop where
  layer_lt : layer < config.layerCount
  token_pos : 0 < tokenCount
  keys_length : keys.length = tokenCount * (config.kvHeadCount * config.keyDimension)
  values_length : values.length = tokenCount * (config.kvHeadCount * config.valueDimension)
  keys_count : keys.length ≤ usizeMax
  values_count : values.length ≤ usizeMax
  keys_finite : ∀ x ∈ keys, x.isFinite = true
  values_finite : ∀ x ∈ values, x.isFinite = true
  room : (m layer).length + tokenCount ≤ config.tokenCapacity

/-- Failures of page storage: a refused reservation or a page `usize` cannot count. -/
def KvError.OfStorage (config : KvConfig) (e : KvError) : Prop :=
  (∃ field n, e = .allocationFailed field n) ∨
    ((¬ ∀ side, config.storage side ≤ usizeMax) ∧
      (e = .arithmeticOverflow "key page storage" ∨ e = .arithmeticOverflow "value page storage"))

theorem KvPage.new_error_ofStorage {keysGranted valuesGranted : Bool} {config : KvConfig}
    {e : KvError} (hpos : ∀ side, 0 < config.width side)
    (h : KvPage.new keysGranted valuesGranted config = .error e) :
    e.OfStorage config := by
  by_cases fits : ∀ side, config.storage side ≤ usizeMax
  · exact Or.inl (KvPage.new_error_of_fits fits hpos h)
  · rcases KvPage.new_error h with hfail | hover
    · exact Or.inl hfail
    · exact Or.inr ⟨fits, hover⟩

namespace PagedKvCache

structure WellFormed (c : PagedKvCache) : Prop where
  shaped : Shaped c
  positive : ∀ parameter ∈ c.parameters, 0 < parameter.2
  rounded : c.tokenCapacity + (c.pageTokens - 1) ≤ usizeMax
  pageCount_eq : c.pageCount = (c.tokenCapacity + (c.pageTokens - 1)) / c.pageTokens
  lengths_length : c.lengths.length = c.layerCount
  bounded : ∀ layer, c.storedLength layer ≤ c.tokenCapacity
  backed : ∀ layer token, token < c.storedLength layer →
    (c.pageAt layer (token / c.pageTokens)).isSome
  finite : ∀ side layer token head, token < c.storedLength layer → head < c.kvHeadCount →
    ∀ x ∈ c.rowOf side layer token head, x.isFinite = true

def tokenRows (c : PagedKvCache) (layer token : Nat) : TokenRows where
  keys := (List.range c.kvHeadCount).map (c.rowOf .key layer token)
  values := (List.range c.kvHeadCount).map (c.rowOf .value layer token)

/-- The committed tokens of a paged cache: everything a caller can read. -/
def view (c : PagedKvCache) : AbstractKv := fun layer =>
  (List.range (c.storedLength layer)).map (c.tokenRows layer)

@[simp] theorem length_view (c : PagedKvCache) (layer : Nat) :
    (c.view layer).length = c.storedLength layer := by
  simp only [view, List.length_map, List.length_range]

theorem storedLength_of_le {c : PagedKvCache} {layer : Nat} (h : c.lengths.length ≤ layer) :
    c.storedLength layer = 0 := by
  rw [storedLength, List.getD_eq_getElem?_getD, List.getElem?_eq_none h]
  rfl

/-- Equal committed rows and lengths give equal views. -/
theorem view_congr {c c' : PagedKvCache} (hheads : c'.kvHeadCount = c.kvHeadCount)
    (hlengths : ∀ layer, c'.storedLength layer = c.storedLength layer)
    (hrows : ∀ side layer token head, token < c.storedLength layer → head < c.kvHeadCount →
      c'.rowOf side layer token head = c.rowOf side layer token head) : c'.view = c.view := by
  funext layer
  simp only [view, hlengths layer]
  refine List.map_congr_left fun token ht => ?_
  have hlt := List.mem_range.mp ht
  simp only [tokenRows, hheads, TokenRows.mk.injEq]
  exact ⟨List.map_congr_left fun head hh => hrows .key layer token head hlt (List.mem_range.mp hh),
    List.map_congr_left fun head hh => hrows .value layer token head hlt (List.mem_range.mp hh)⟩

theorem WellFormed.layer_lt {c : PagedKvCache} (h : c.WellFormed) {layer token : Nat}
    (ht : token < c.storedLength layer) : layer < c.layerCount := by
  by_contra hge
  rw [storedLength_of_le (by rw [h.lengths_length]; omega)] at ht
  exact absurd ht (Nat.not_lt_zero token)

theorem WellFormed.width_pos {c : PagedKvCache} (h : c.WellFormed) (side : Lane) :
    0 < c.width side := by
  cases side with
  | key => exact h.positive ("key_dimension", c.keyDimension) (by simp [KvConfig.parameters])
  | value => exact h.positive ("value_dimension", c.valueDimension) (by simp [KvConfig.parameters])

/-! ### Construction -/

theorem newLayerPages_ok {alloc : Allocator} {config : KvConfig} {pageCount : Nat} {eager : Bool}
    {layer : Nat} {table : List (Option KvPage)}
    (h : newLayerPages alloc config pageCount eager layer = .ok table) :
    table.length = pageCount ∧ ∀ page, some page ∈ table → ∀ side,
      (page.lane side).length = config.storage side ∧ 4 * config.storage side ≤ isizeMax := by
  unfold newLayerPages at h
  split at h
  · split at h
    · have hall := except_mapM_ok_iff.mp h
      refine ⟨by rw [← hall.length_eq, List.length_range], fun page hp => ?_⟩
      obtain ⟨i, hi, hget⟩ := List.mem_iff_getElem.mp hp
      have hrel := List.forall₂_iff_get.mp hall
      have hnew := hrel.2 i (by rw [hrel.1]; exact hi) hi
      simp only [List.get_eq_getElem, hget] at hnew
      obtain ⟨page', hok, hsome⟩ := except_map_ok_iff.mp hnew
      cases hsome
      exact KvPage.new_ok hok
    · cases h
      exact ⟨List.length_replicate, fun page hp => absurd (List.eq_of_mem_replicate hp) (by simp)⟩
  · cases h

theorem mem_getD_nil {α : Type} {xss : List (List α)} {i : Nat} {x : α} (h : x ∈ xss.getD i []) :
    ∃ xs ∈ xss, x ∈ xs := by
  rw [List.getD_eq_getElem?_getD] at h
  cases hx : xss[i]? with
  | none => rw [hx] at h; cases h
  | some xs => rw [hx] at h; exact ⟨xs, List.mem_of_getElem? hx, h⟩

theorem pageAt_mem {c : PagedKvCache} {layer index : Nat} {page : KvPage}
    (h : c.pageAt layer index = some page) : ∃ table ∈ c.pages, some page ∈ table := by
  refine mem_getD_nil (i := layer) ?_
  rw [pageAt, List.getD_eq_getElem?_getD] at h
  cases hx : (c.pages.getD layer [])[index]? with
  | none => rw [hx] at h; cases h
  | some slot => rw [hx] at h; cases h; exact List.mem_of_getElem? hx

/-- A constructed cache has positive parameters, sized pages and no tokens. -/
theorem newWithAllocation_wellFormed {alloc : Allocator} {config : KvConfig} {eager : Bool}
    {c : PagedKvCache} (h : newWithAllocation alloc config eager = .ok c) :
    c.WellFormed ∧ c.toKvConfig = config ∧ ∀ layer, c.storedLength layer = 0 := by
  unfold newWithAllocation at h
  split at h
  · cases h
  · rename_i hpos
    simp only [except_bind_ok_iff, okOr_eq_ok, checkedAdd_eq_some] at h
    obtain ⟨_, ⟨hround, rfl⟩, h⟩ := h
    split at h
    · obtain ⟨pages, hpages, h⟩ := except_bind_ok_iff.mp h
      obtain ⟨lengths, hlengths, h⟩ := except_bind_ok_iff.mp h
      cases h
      obtain ⟨-, rfl⟩ := zeroedVec_eq_ok.mp hlengths
      have hall := except_mapM_ok_iff.mp hpages
      have hparams : ∀ parameter ∈ config.parameters, 0 < parameter.2 := by
        intro parameter hp
        have := List.find?_eq_none.mp hpos parameter hp
        simp only [beq_iff_eq] at this
        omega
      have htable : ∀ table ∈ pages, table.length =
          (config.tokenCapacity + (config.pageTokens - 1)) / config.pageTokens ∧
          ∀ page, some page ∈ table → ∀ side,
            (page.lane side).length = config.storage side ∧ 4 * config.storage side ≤ isizeMax := by
        intro table ht
        obtain ⟨i, hi, rfl⟩ := List.mem_iff_getElem.mp ht
        have hrel := List.forall₂_iff_get.mp hall
        exact newLayerPages_ok (hrel.2 i (by rw [hrel.1]; exact hi) hi)
      have hcount : pages.length = config.layerCount := by rw [← hall.length_eq, List.length_range]
      have hzero : ∀ layer, (List.replicate config.layerCount 0).getD layer 0 = 0 := by
        intro layer
        rw [List.getD_eq_getElem?_getD, List.getElem?_replicate]
        split <;> rfl
      refine ⟨⟨⟨?_, hcount, ?_, ?_, ?_⟩, hparams, hround, rfl, ?_, ?_, ?_, ?_⟩, rfl, hzero⟩
      · exact hparams ("page_tokens", config.pageTokens) (by simp [KvConfig.parameters])
      · intro layer hl
        have hmem : pages.getD layer [] ∈ pages := by
          rw [List.getD_eq_getElem?_getD, List.getElem?_eq_getElem (by rw [hcount]; exact hl)]
          exact List.getElem_mem _
        exact (htable _ hmem).1
      · intro side layer index page hp
        obtain ⟨table, ht, hmem⟩ := pageAt_mem hp
        exact ((htable table ht).2 page hmem side).1
      · intro side layer index page hp
        obtain ⟨table, ht, hmem⟩ := pageAt_mem hp
        exact ((htable table ht).2 page hmem side).2
      · exact List.length_replicate
      · exact fun layer => by rw [storedLength, hzero layer]; exact Nat.zero_le _
      · exact fun layer token ht => by rw [storedLength, hzero layer] at ht; omega
      · exact fun side layer token head ht => by rw [storedLength, hzero layer] at ht; omega
    · cases h

/-! ### Appends -/

theorem validateFinite_eq_ok {field : String} {values : List F32} {u : Unit} :
    validateFinite field values = .ok u ↔ ∀ x ∈ values, x.isFinite = true := by
  unfold validateFinite
  cases h : values.findIdx? (fun value => !value.isFinite) with
  | none =>
      simp only [true_iff]
      intro x hx
      have := List.findIdx?_eq_none_iff.mp h x hx
      simpa using this
  | some index =>
      simp only [reduceCtorEq, false_iff, not_forall]
      obtain ⟨hi, hbad, -⟩ := List.findIdx?_eq_some_iff_getElem.mp h
      exact ⟨values[index], List.getElem_mem hi, by simpa using hbad⟩

theorem validateFinite_error {field : String} {values : List F32} {e : KvError}
    (h : validateFinite field values = .error e) :
    ∃ index bits, e = .nonFiniteValue field index bits := by
  unfold validateFinite at h
  split at h
  · cases h
  · cases h
    exact ⟨_, _, rfl⟩

/-- The checks before the first write accept exactly the admissible appends. -/
theorem WellFormed.checkAppend_eq_ok {c : PagedKvCache} (h : c.WellFormed)
    {layer tokenCount newLength : Nat} {keys values : List F32} :
    c.checkAppend layer tokenCount keys values = .ok newLength ↔
      c.Admissible c.view layer tokenCount keys values ∧
        newLength = c.storedLength layer + tokenCount := by
  simp only [checkAppend, except_bind_ok_iff, okOr_eq_ok, checkedMul_eq_some, checkedAdd_eq_some,
    requireLength, validateFinite_eq_ok, validateLayer, ensure_eq_ok]
  constructor
  · rintro ⟨_, hl, _, htoken, _, ⟨hk, rfl⟩, _, ⟨hv, rfl⟩, _, ⟨hks, rfl⟩, _, ⟨hvs, rfl⟩,
      _, hkl, _, hvl, _, hkf, _, hvf, _, ⟨-, rfl⟩, _, hroom, hlast⟩
    cases hlast
    refine ⟨⟨hl, by omega, hkl.symm, hvl.symm, by omega, by omega, hkf, hvf, ?_⟩, rfl⟩
    rwa [length_view]
  · rintro ⟨⟨hl, hpos, hkl, hvl, hkc, hvc, hkf, hvf, hroom⟩, rfl⟩
    rw [length_view] at hroom
    have hround := h.rounded
    have hk : c.kvHeadCount * c.keyDimension ≤ tokenCount * (c.kvHeadCount * c.keyDimension) :=
      Nat.le_mul_of_pos_left _ hpos
    have hv : c.kvHeadCount * c.valueDimension ≤ tokenCount * (c.kvHeadCount * c.valueDimension) :=
      Nat.le_mul_of_pos_left _ hpos
    exact ⟨(), hl, (), by omega, _, ⟨by omega, rfl⟩, _, ⟨by omega, rfl⟩, _, ⟨by omega, rfl⟩, _,
      ⟨by omega, rfl⟩, (), hkl.symm, (), hvl.symm, (), hkf, (), hvf, _, ⟨by omega, rfl⟩,
      (), hroom, rfl⟩

/-- The checks of an append never report a missing page. -/
theorem failsIn_checkAppend (c : PagedKvCache) (layer tokenCount : Nat) (keys values : List F32) :
    FailsIn (c.checkAppend layer tokenCount keys values) (· ≠ missingPage) := by
  have hfinite : ∀ field xs, FailsIn (validateFinite field xs) (· ≠ missingPage) := by
    intro field xs e he
    obtain ⟨_, _, rfl⟩ := validateFinite_error he
    simp [missingPage]
  refine (failsIn_ensure (by simp [missingPage])).bind fun _ _ => ?_
  refine (failsIn_ensure (by simp [missingPage])).bind fun _ _ => ?_
  refine (failsIn_okOr (by simp [missingPage])).bind fun _ _ => ?_
  refine (failsIn_okOr (by simp [missingPage])).bind fun _ _ => ?_
  refine (failsIn_okOr (by simp [missingPage])).bind fun _ _ => ?_
  refine (failsIn_okOr (by simp [missingPage])).bind fun _ _ => ?_
  refine (failsIn_ensure (by simp [missingPage])).bind fun _ _ => ?_
  refine (failsIn_ensure (by simp [missingPage])).bind fun _ _ => ?_
  refine (hfinite _ _).bind fun _ _ => (hfinite _ _).bind fun _ _ => ?_
  refine (failsIn_okOr (by simp [missingPage])).bind fun _ _ => ?_
  exact (failsIn_ensure (by simp [missingPage])).bind fun _ _ => FailsIn.pure _ _

theorem Backed.rowOf {c c' : PagedKvCache} {layer start stop : Nat}
    (h : Backed c c' layer start stop) {l token : Nat}
    (hp : (c.pageAt l (token / c.pageTokens)).isSome) (side : Lane) (head : Nat) :
    c'.rowOf side l token head = c.rowOf side l token head := by
  obtain ⟨page, hpage⟩ := Option.isSome_iff_exists.mp hp
  have hpage' := h.kept _ _ _ hpage
  have hconfig := h.frame.config
  have htokens : c'.pageTokens = c.pageTokens := by rw [hconfig]
  have hwidth : c'.width side = c.width side := by rw [hconfig]
  have hrow : c'.rowIndex token head = c.rowIndex token head := by
    simp only [rowIndex, hconfig]
  simp only [PagedKvCache.rowOf, htokens, hwidth, hrow, hpage, hpage']

theorem storedLength_setLength {c : PagedKvCache} {layer : Nat} (hl : layer < c.lengths.length)
    (length l : Nat) :
    (c.setLength layer length).storedLength l = if l = layer then length else c.storedLength l := by
  simp only [storedLength, setLength, List.getD_eq_getElem?_getD, List.getElem?_set]
  by_cases h : layer = l
  · subst h; simp [hl]
  · simp [h, Ne.symm h]

theorem mem_sourceRow {config : KvConfig} {stored : Nat} {keys values : List F32} {side : Lane}
    {token head : Nat} {x : F32} (h : x ∈ sourceRow config stored keys values side token head) :
    x ∈ keys ∨ x ∈ values := by
  cases side with
  | key => exact Or.inl (List.mem_of_mem_drop (List.mem_of_mem_take h))
  | value => exact Or.inr (List.mem_of_mem_drop (List.mem_of_mem_take h))

/-- Every source row of an admissible append has its full width. -/
theorem length_sourceRow {config : KvConfig} {m : AbstractKv} {layer tokenCount stored : Nat}
    {keys values : List F32} (h : config.Admissible m layer tokenCount keys values) (side : Lane)
    {token head : Nat} (hlt : token < stored + tokenCount) (hge : stored ≤ token)
    (hh : head < config.kvHeadCount) :
    (sourceRow config stored keys values side token head).length = config.width side := by
  have hrow : (token - stored) * config.kvHeadCount + head < tokenCount * config.kvHeadCount :=
    rowMajor_lt (by omega) hh
  cases side with
  | key =>
      refine length_slice ?_
      rw [h.keys_length, ← Nat.mul_assoc]
      exact row_end_le hrow
  | value =>
      refine length_slice ?_
      rw [h.values_length, ← Nat.mul_assoc]
      exact row_end_le hrow

/-- Backed pages, copied rows and the new length together are one abstract append. -/
theorem WellFormed.commit {c c₁ c₂ : PagedKvCache} (h : c.WellFormed) {layer tokenCount : Nat}
    {keys values : List F32} (hadm : c.Admissible c.view layer tokenCount keys values)
    (hb : Backed c c₁ layer (c.storedLength layer) (c.storedLength layer + tokenCount))
    (hw : Wrote c₁ c₂ layer
      (fun _ t _ => c.storedLength layer ≤ t ∧ t < c.storedLength layer + tokenCount)
      (sourceRow c.toKvConfig (c.storedLength layer) keys values)) :
    let c' := c₂.setLength layer (c.storedLength layer + tokenCount)
    c'.WellFormed ∧ c'.toKvConfig = c.toKvConfig ∧
      c'.view = c.view.append layer (c.rowsOf tokenCount keys values) := by
  have hframe := hb.frame.trans hw.frame
  have hconfig : c₂.toKvConfig = c.toKvConfig := hframe.config
  have htokens : c₂.pageTokens = c.pageTokens := by rw [hconfig]
  have hheads : c₂.kvHeadCount = c.kvHeadCount := by rw [hconfig]
  have hheads₁ : c₁.kvHeadCount = c.kvHeadCount := by rw [hb.frame.config]
  have hl₂ : layer < c₂.lengths.length := by
    rw [hframe.lengths, h.lengths_length]
    exact hadm.layer_lt
  have hlen := storedLength_setLength hl₂ (c.storedLength layer + tokenCount)
  have hkeep : ∀ l, c₂.storedLength l = c.storedLength l := fun l => by
    simp only [storedLength, hframe.lengths]
  have hroom := hadm.room
  rw [length_view] at hroom
  -- Rows committed before the call read as before.
  have hold : ∀ side l token head, token < c.storedLength l → head < c.kvHeadCount →
      c₂.rowOf side l token head = c.rowOf side l token head := by
    intro side l token head ht hh
    rw [hw.row_kept side l token head (hheads₁ ▸ hh) fun e => by obtain ⟨rfl, hge, -⟩ := e; omega]
    exact hb.rowOf (h.backed l token ht) side head
  -- Rows of the appended tokens read as the source.
  have hnew : ∀ side token head, token < tokenCount → head < c.kvHeadCount →
      c₂.rowOf side layer (c.storedLength layer + token) head =
        sourceRow c.toKvConfig (c.storedLength layer) keys values side
          (c.storedLength layer + token) head :=
    fun side token head ht hh => hw.row_done side _ head (hheads₁ ▸ hh) ⟨by omega, by omega⟩
  refine ⟨⟨⟨hw.shaped.pageTokens_pos, hw.shaped.tables, hw.shaped.table, hw.shaped.sized,
    hw.shaped.fits⟩, ?_, ?_, ?_, ?_, ?_, ?_, ?_⟩, hconfig, ?_⟩
  · intro parameter hp
    refine h.positive parameter ?_
    rwa [← hconfig]
  · show c₂.tokenCapacity + (c₂.pageTokens - 1) ≤ usizeMax
    rw [hconfig]; exact h.rounded
  · show c₂.pageCount = (c₂.tokenCapacity + (c₂.pageTokens - 1)) / c₂.pageTokens
    rw [hconfig, hframe.pageCount]; exact h.pageCount_eq
  · show (c₂.lengths.set _ _).length = c₂.layerCount
    rw [List.length_set, hframe.lengths, hconfig]; exact h.lengths_length
  · intro l
    show _ ≤ c₂.tokenCapacity
    rw [hlen l, hconfig]
    split
    · exact hroom
    · rw [hkeep l]; exact h.bounded l
  · intro l token ht
    show (c₂.pageAt l (token / c₂.pageTokens)).isSome
    rw [htokens]
    rw [hlen l, hkeep l] at ht
    split at ht
    · subst_vars
      by_cases hge : c.storedLength l ≤ token
      · exact hw.frame.present _ _ (hb.backed token hge ht)
      · exact hframe.present _ _ (h.backed l token (by omega))
    · exact hframe.present _ _ (h.backed l token ht)
  · intro side l token head ht hh x hx
    change head < c₂.kvHeadCount at hh
    rw [hheads] at hh
    change x ∈ c₂.rowOf side l token head at hx
    rw [hlen l, hkeep l] at ht
    by_cases hlt : token < c.storedLength l
    · rw [hold side l token head hlt hh] at hx
      exact h.finite side l token head hlt hh x hx
    · split at ht
      · subst_vars
        obtain ⟨token, rfl⟩ := Nat.exists_eq_add_of_le (Nat.le_of_not_lt hlt)
        rw [hnew side token head (by omega) hh] at hx
        exact (mem_sourceRow hx).elim (hadm.keys_finite x) (hadm.values_finite x)
      · exact absurd ht hlt
  · funext l
    have hrows : ∀ token, token < c.storedLength l →
        c₂.tokenRows l token = c.tokenRows l token := by
      intro token ht
      simp only [tokenRows, hheads, TokenRows.mk.injEq]
      exact ⟨List.map_congr_left fun head hh => hold .key l token head ht (List.mem_range.mp hh),
        List.map_congr_left fun head hh => hold .value l token head ht (List.mem_range.mp hh)⟩
    show (List.range ((c₂.setLength _ _).storedLength l)).map (c₂.tokenRows l) = _
    rw [hlen l, hkeep l]
    by_cases hl : l = layer
    · subst hl
      rw [if_pos rfl, List.range_add, List.map_append, List.map_map, AbstractKv.append,
        Function.update_self]
      congr 1
      · exact List.map_congr_left fun token ht => hrows token (List.mem_range.mp ht)
      · refine List.map_congr_left fun token ht => ?_
        have ht := List.mem_range.mp ht
        simp only [Function.comp_apply, tokenRows, hheads, TokenRows.mk.injEq]
        constructor
        · refine List.map_congr_left fun head hh => ?_
          rw [hnew .key token head ht (List.mem_range.mp hh), sourceRow, Nat.add_sub_cancel_left]
        · refine List.map_congr_left fun head hh => ?_
          rw [hnew .value token head ht (List.mem_range.mp hh), sourceRow, Nat.add_sub_cancel_left]
    · rw [if_neg hl, AbstractKv.append, Function.update_of_ne hl]
      exact List.map_congr_left fun token ht => hrows token (List.mem_range.mp ht)

/-- An append that answers was admissible and is one abstract append. -/
structure Appended (c c' : PagedKvCache) (layer tokenCount : Nat)
    (keys values : List F32) : Prop where
  admissible : c.Admissible c.view layer tokenCount keys values
  wellFormed : c'.WellFormed
  config : c'.toKvConfig = c.toKvConfig
  view : c'.view = c.view.append layer (c.rowsOf tokenCount keys values)

/-- Once the tokens are checked and their pages are there, `append_tokens` commits them. -/
theorem WellFormed.appendTokens_ok {c c₁ : PagedKvCache} (h : c.WellFormed) {alloc : Allocator}
    {layer tokenCount newLength : Nat} {keys values : List F32}
    (hcheck : c.checkAppend layer tokenCount keys values = .ok newLength)
    (hpages : ensurePages alloc layer (c.storedLength layer) newLength c = (.ok (), c₁)) :
    ∃ c', appendTokens alloc layer tokenCount keys values c = (.ok (), c') ∧
      Appended c c' layer tokenCount keys values := by
  obtain ⟨hadm, rfl⟩ := h.checkAppend_eq_ok.mp hcheck
  have hroom := hadm.room
  rw [length_view] at hroom
  have hpos := hadm.token_pos
  have hfit : (c.storedLength layer + tokenCount - 1) / c.pageTokens < c.pageCount := by
    have hP := h.shaped.pageTokens_pos
    rw [h.pageCount_eq, ← Nat.succ_le_iff, Nat.succ_eq_add_one, ← Nat.add_div_right _ hP]
    exact Nat.div_le_div_right (by omega)
  have hb := h.shaped.ensurePages_ok hadm.layer_lt hfit hpages
  have hconfig := hb.frame.config
  obtain ⟨c₂, hloop, hw⟩ :=
    hb.shaped.writeTokens layer (c.storedLength layer) tokenCount keys values
    (fun t h1 h2 => by
      have : c₁.pageTokens = c.pageTokens := by rw [hconfig]
      rw [this]; exact hb.backed t h1 h2)
    (fun side t head h1 h2 hh => by
      rw [hconfig]; exact length_sourceRow hadm side h2 h1 (by rw [← hconfig]; exact hh))
  rw [hconfig] at hloop hw
  obtain ⟨hwf, hcfg, hview⟩ := h.commit hadm hb hw
  refine ⟨_, ?_, hadm, hwf, hcfg, hview⟩
  unfold PagedKvCache.appendTokens
  rw [Command.bind_of_ok (Command.read_run c), hcheck,
    Command.bind_of_ok (Command.lift_run (.ok _) c), Command.bind_of_ok hpages,
    Command.bind_of_ok hloop, Command.update_run]

/-- An append that fails a check, or gets no page, fails with that error. -/
theorem appendTokens_error {c : PagedKvCache} {alloc : Allocator} {layer tokenCount : Nat}
    {keys values : List F32} {e : KvError}
    (h : c.checkAppend layer tokenCount keys values = .error e ∨
      ∃ newLength, c.checkAppend layer tokenCount keys values = .ok newLength ∧
        (ensurePages alloc layer (c.storedLength layer) newLength c).1 = .error e) :
    appendTokens alloc layer tokenCount keys values c = (.error e, c) := by
  unfold PagedKvCache.appendTokens
  rw [Command.bind_of_ok (Command.read_run c)]
  rcases h with hcheck | ⟨newLength, hcheck, hpages⟩
  · rw [hcheck, Command.bind_of_error (Command.lift_run (.error e) c)]
  · rw [hcheck, Command.bind_of_ok (Command.lift_run (.ok _) c)]
    rcases hrun : ensurePages alloc layer (c.storedLength layer) newLength c with ⟨r, c₁⟩
    rw [hrun] at hpages
    dsimp only at hpages
    subst hpages
    rw [Command.bind_of_error hrun, (ensurePages_error hrun).1]

/-- `append_tokens` either commits the tokens or leaves the cache exactly as it was;
an admissible append fails only in page storage. -/
theorem WellFormed.appendTokens {c : PagedKvCache} (h : c.WellFormed) (alloc : Allocator)
    (layer tokenCount : Nat) (keys values : List F32) :
    (∃ c', appendTokens alloc layer tokenCount keys values c = (.ok (), c') ∧
      Appended c c' layer tokenCount keys values) ∨
    (∃ e, appendTokens alloc layer tokenCount keys values c = (.error e, c) ∧ e ≠ missingPage ∧
      (c.Admissible c.view layer tokenCount keys values → e.OfStorage c.toKvConfig)) := by
  cases hcheck : c.checkAppend layer tokenCount keys values with
  | error e =>
      refine Or.inr ⟨e, appendTokens_error (Or.inl hcheck),
        failsIn_checkAppend c layer tokenCount keys values e hcheck, fun hadm => ?_⟩
      rw [h.checkAppend_eq_ok.mpr ⟨hadm, rfl⟩] at hcheck
      cases hcheck
  | ok newLength =>
      rcases hpages : ensurePages alloc layer (c.storedLength layer) newLength c with ⟨r, c₁⟩
      cases r with
      | error e =>
          refine Or.inr ⟨e, appendTokens_error (Or.inr ⟨newLength, hcheck, by rw [hpages]⟩),
            ?_, fun _ => ?_⟩
          · rcases (ensurePages_error hpages).2 with ⟨_, _, rfl⟩ | ⟨_, _, hnew⟩
            · simp [missingPage]
            · exact KvPage.new_error_ne hnew
          · rcases (ensurePages_error hpages).2 with hfail | ⟨_, _, hnew⟩
            · exact Or.inl hfail
            · exact KvPage.new_error_ofStorage h.width_pos hnew
      | ok u => exact Or.inl (h.appendTokens_ok hcheck hpages)

end PagedKvCache
end LightBridge.Kv
