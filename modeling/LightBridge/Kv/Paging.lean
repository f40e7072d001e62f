import LightBridge.Kv.Cache

/-! Rows behind the page tables. Key and value storage differ only in their width,
so both are treated as lanes of one addressed memory. -/
namespace LightBridge.Kv
open Foundation

inductive Lane where
  | key
  | value
  deriving DecidableEq, Repr

def KvConfig.width (config : KvConfig) : Lane → Nat
  | .key => config.keyDimension
  | .value => config.valueDimension

namespace KvPage

def lane (page : KvPage) : Lane → List F32
  | .key => page.keys
  | .value => page.values

def setLane (page : KvPage) (side : Lane) (xs : List F32) : KvPage :=
  match side with
  | .key => { page with keys := xs }
  | .value => { page with values := xs }

theorem lane_setLane (page : KvPage) (side other : Lane) (xs : List F32) :
    (page.setLane side xs).lane other = if other = side then xs else page.lane other := by
  cases side <;> cases other <;> rfl

end KvPage

namespace PagedKvCache

/-- The stored row at an address, read without any check. -/
def rowOf (cache : PagedKvCache) (side : Lane) (layer token head : Nat) : List F32 :=
  match cache.pageAt layer (token / cache.pageTokens) with
  | some page =>
      slice (page.lane side) (cache.rowIndex token head * cache.width side) (cache.width side)
  | none => []

/-- `writeKey` and `writeValue` as one operation on a lane. -/
def writeRow (side : Lane) (layer token head : Nat) (row : List F32) :
    Command PagedKvCache KvError Unit := do
  let cache ← Command.read
  let page ← Command.lift (cache.page layer token)
  Command.update fun c => c.setPage layer (token / c.pageTokens)
    (page.setLane side (overwrite (page.lane side) (c.rowIndex token head * c.width side) row))

theorem writeKey_eq (layer token head : Nat) (row : List F32) :
    writeKey layer token head row = writeRow .key layer token head row := rfl

theorem writeValue_eq (layer token head : Nat) (row : List F32) :
    writeValue layer token head row = writeRow .value layer token head row := rfl

/-- Page tables have one slot for each page and every page has its full storage. -/
structure Shaped (cache : PagedKvCache) : Prop where
  pageTokens_pos : 0 < cache.pageTokens
  tables : cache.pages.length = cache.layerCount
  table : ∀ layer, layer < cache.layerCount → (cache.pages.getD layer []).length = cache.pageCount
  sized : ∀ side layer index page, cache.pageAt layer index = some page →
    (page.lane side).length = cache.pageTokens * cache.kvHeadCount * cache.width side
  fits : ∀ side layer index page, cache.pageAt layer index = some page →
    4 * (cache.pageTokens * cache.kvHeadCount * cache.width side) ≤ isizeMax

/-- Everything but page contents is unchanged, and no page was dropped. -/
structure Frame (c c' : PagedKvCache) : Prop where
  config : c'.toKvConfig = c.toKvConfig
  pageCount : c'.pageCount = c.pageCount
  lengths : c'.lengths = c.lengths
  present : ∀ layer index, (c.pageAt layer index).isSome → (c'.pageAt layer index).isSome

theorem Frame.refl (c : PagedKvCache) : Frame c c := ⟨rfl, rfl, rfl, fun _ _ h => h⟩

theorem Frame.trans {a b c : PagedKvCache} (h : Frame a b) (h' : Frame b c) : Frame a c where
  config := h'.config.trans h.config
  pageCount := h'.pageCount.trans h.pageCount
  lengths := h'.lengths.trans h.lengths
  present := fun layer index p => h'.present layer index (h.present layer index p)

theorem pageAt_setPage (cache : PagedKvCache) (layer index : Nat) (page : KvPage) (l i : Nat) :
    (cache.setPage layer index page).pageAt l i =
      if l = layer ∧ i = index ∧ layer < cache.pages.length ∧
          index < (cache.pages.getD layer []).length
      then some page else cache.pageAt l i := by
  simp only [pageAt, setPage, List.getD_eq_getElem?_getD, List.getElem?_modify]
  by_cases hl : layer = l
  · subst hl
    cases h : cache.pages[layer]? with
    | none => simp
    | some table =>
        have hlt : layer < cache.pages.length := (List.getElem?_eq_some_iff.mp h).1
        by_cases hi : index = i
        · subst hi
          by_cases hin : index < table.length <;> simp [hlt, hin]
        · simp [hi, Ne.symm hi]
  · simp [hl, Ne.symm hl]

theorem getD_pages_setPage (cache : PagedKvCache) (layer index : Nat) (page : KvPage) (l : Nat) :
    ((cache.setPage layer index page).pages.getD l []).length = (cache.pages.getD l []).length := by
  simp only [setPage, List.getD_eq_getElem?_getD, List.getElem?_modify]
  by_cases hl : layer = l
  · cases h : cache.pages[l]? <;> simp [hl]
  · simp [hl]

theorem Shaped.pageAt_setPage {cache : PagedKvCache} (h : Shaped cache) {layer index : Nat}
    (hl : layer < cache.layerCount) (hi : index < cache.pageCount) (page : KvPage) (l i : Nat) :
    (cache.setPage layer index page).pageAt l i =
      if l = layer ∧ i = index then some page else cache.pageAt l i := by
  rw [PagedKvCache.pageAt_setPage]
  have hfit : layer < cache.pages.length ∧ index < (cache.pages.getD layer []).length := by
    rw [h.tables, h.table layer hl]
    exact ⟨hl, hi⟩
  simp only [hfit, and_true]

/-- Pages sit at indices inside their table. -/
theorem Shaped.index_lt {cache : PagedKvCache} (h : Shaped cache) {layer index : Nat}
    {page : KvPage}
    (hp : cache.pageAt layer index = some page) : layer < cache.layerCount ∧
      index < cache.pageCount := by
  have hl : layer < cache.layerCount := by
    by_contra hge
    have hnone : cache.pages.getD layer [] = [] := by
      rw [List.getD_eq_getElem?_getD, List.getElem?_eq_none (by rw [h.tables]; omega)]
      rfl
    rw [pageAt, hnone] at hp
    cases hp
  refine ⟨hl, ?_⟩
  by_contra hge
  have htable := h.table layer hl
  rw [pageAt, List.getD_eq_getElem?_getD, List.getElem?_eq_none (by omega)] at hp
  cases hp

theorem Shaped.setPage {cache : PagedKvCache} (h : Shaped cache) {layer index : Nat}
    (hl : layer < cache.layerCount) (hi : index < cache.pageCount) (page : KvPage)
    (hsize : ∀ side, (page.lane side).length = cache.pageTokens * cache.kvHeadCount *
      cache.width side)
    (hfits : ∀ side, 4 * (cache.pageTokens * cache.kvHeadCount * cache.width side) ≤ isizeMax) :
    Shaped (cache.setPage layer index page) where
  pageTokens_pos := h.pageTokens_pos
  tables := by
    show (cache.pages.modify layer _).length = cache.layerCount
    rw [List.length_modify, h.tables]
  table := fun l hl' => by rw [getD_pages_setPage]; exact h.table l hl'
  sized := fun side l i p hp => by
    rw [h.pageAt_setPage hl hi] at hp
    split at hp
    · cases hp; exact hsize side
    · exact h.sized side l i p hp
  fits := fun side _ _ _ _ => hfits side

theorem Shaped.frame_setPage {cache : PagedKvCache} (h : Shaped cache) {layer index : Nat}
    (hl : layer < cache.layerCount) (hi : index < cache.pageCount) (page : KvPage) :
    Frame cache (cache.setPage layer index page) where
  config := rfl
  pageCount := rfl
  lengths := rfl
  present := fun l i hp => by
    rw [h.pageAt_setPage hl hi]
    split
    · rfl
    · exact hp

/-- The row of a token's head fits the storage of its page. -/
theorem rowIndex_lt (cache : PagedKvCache) (hpos : 0 < cache.pageTokens) {token head : Nat}
    (hh : head < cache.kvHeadCount) :
    cache.rowIndex token head < cache.pageTokens * cache.kvHeadCount :=
  rowMajor_lt (Nat.mod_lt token hpos) hh

theorem Shaped.row_fits {cache : PagedKvCache} (h : Shaped cache) {layer index token head : Nat}
    {page : KvPage} (hp : cache.pageAt layer index = some page) (hh : head < cache.kvHeadCount)
    (side : Lane) :
    cache.rowIndex token head * cache.width side + cache.width side ≤ (page.lane side).length := by
  rw [h.sized side layer index page hp]
  exact row_end_le (cache.rowIndex_lt h.pageTokens_pos hh)

/-- Two tokens of one page with one row index are the same token and head. -/
theorem rowIndex_inj (cache : PagedKvCache) {token head token' head' : Nat}
    (hh : head < cache.kvHeadCount) (hh' : head' < cache.kvHeadCount)
    (hpage : token / cache.pageTokens = token' / cache.pageTokens)
    (hrow : cache.rowIndex token head = cache.rowIndex token' head') :
    token = token' ∧ head = head' := by
  obtain ⟨hmod, hhead⟩ := rowMajor_inj hh hh' hrow
  refine ⟨?_, hhead⟩
  rw [← Nat.div_add_mod token cache.pageTokens, ← Nat.div_add_mod token' cache.pageTokens,
    hpage, hmod]

/-- Rows at the addresses in `done` hold `source`; all other rows are as in `c`. -/
structure Wrote (c c' : PagedKvCache) (layer : Nat) (done : Lane → Nat → Nat → Prop)
    (source : Lane → Nat → Nat → List F32) : Prop where
  frame : Frame c c'
  shaped : Shaped c'
  row_done : ∀ side token head, head < c.kvHeadCount → done side token head →
    c'.rowOf side layer token head = source side token head
  row_kept : ∀ side l token head, head < c.kvHeadCount → ¬ (l = layer ∧ done side token head) →
    c'.rowOf side l token head = c.rowOf side l token head

theorem Wrote.refl {c : PagedKvCache} (h : Shaped c) (layer : Nat)
    (source : Lane → Nat → Nat → List F32) : Wrote c c layer (fun _ _ _ => False) source where
  frame := Frame.refl c
  shaped := h
  row_done := fun _ _ _ _ h => h.elim
  row_kept := fun _ _ _ _ _ _ => rfl

theorem Wrote.congr {c c' : PagedKvCache} {layer : Nat} {done done' : Lane → Nat → Nat → Prop}
    {source : Lane → Nat → Nat → List F32} (h : Wrote c c' layer done source)
    (same : ∀ side token head, head < c.kvHeadCount →
      (done side token head ↔ done' side token head)) :
    Wrote c c' layer done' source where
  frame := h.frame
  shaped := h.shaped
  row_done := fun side token head hh hd =>
    h.row_done side token head hh ((same side token head hh).mpr hd)
  row_kept := fun side l token head hh hd =>
    h.row_kept side l token head hh (by rwa [same side token head hh])

/-- A row read back after one page was replaced through one of its lanes. -/
theorem Shaped.rowOf_setPage {cache : PagedKvCache} (h : Shaped cache) {layer token head : Nat}
    {page : KvPage} (hp : cache.pageAt layer (token / cache.pageTokens) = some page)
    (hh : head < cache.kvHeadCount) (side : Lane) {row : List F32}
    (hrow : row.length = cache.width side) (other : Lane) (l t k : Nat)
    (hk : k < cache.kvHeadCount) :
    (cache.setPage layer (token / cache.pageTokens)
        (page.setLane side
          (overwrite (page.lane side) (cache.rowIndex token head * cache.width side) row))).rowOf
        other l t k =
      if other = side ∧ l = layer ∧ t = token ∧ k = head then row else cache.rowOf other l t k := by
  obtain ⟨hl, hi⟩ := h.index_lt hp
  have hfit : cache.rowIndex token head * cache.width side + row.length ≤
      (page.lane side).length := by
    rw [hrow]; exact h.row_fits hp hh side
  have hpage := h.pageAt_setPage hl hi
    (page.setLane side
      (overwrite (page.lane side) (cache.rowIndex token head * cache.width side) row)) l
    (t / cache.pageTokens)
  unfold rowOf
  change (match (cache.setPage layer (token / cache.pageTokens) _).pageAt l
    (t / cache.pageTokens) with
    | some page =>
        slice (page.lane other) (cache.rowIndex t k * cache.width other) (cache.width other)
    | none => []) = _
  rw [hpage]
  by_cases here : l = layer ∧ t / cache.pageTokens = token / cache.pageTokens
  · obtain ⟨rfl, hdiv⟩ := here
    simp only [hdiv, and_self, if_true, hp, KvPage.lane_setLane]
    by_cases hside : other = side
    · subst hside
      rw [if_pos rfl]
      by_cases hrowIx : cache.rowIndex t k = cache.rowIndex token head
      · obtain ⟨rfl, rfl⟩ := cache.rowIndex_inj hk hh hdiv hrowIx
        simp only [and_self, if_true]
        rw [← hrow]
        exact slice_overwrite_same (by rwa [hrow] at hfit ⊢)
      · rw [if_neg (by rintro ⟨-, -, rfl, rfl⟩; exact hrowIx rfl)]
        exact slice_overwrite_disjoint hfit (by rw [hrow]; exact rows_disjoint hrowIx)
    · rw [if_neg hside, if_neg (fun h => hside h.1)]
  · rw [if_neg here, if_neg (fun h => here ⟨h.2.1, by rw [h.2.2.1]⟩)]

/-- One copied row extends the written set by its own address. -/
theorem Wrote.writeRow {c c' : PagedKvCache} {layer : Nat} {done : Lane → Nat → Nat → Prop}
    {source : Lane → Nat → Nat → List F32} (h : Wrote c c' layer done source) (side : Lane)
    {token head : Nat} (hp : (c.pageAt layer (token / c.pageTokens)).isSome)
    (hh : head < c.kvHeadCount) (hrow : (source side token head).length = c.width side) :
    ∃ c'', PagedKvCache.writeRow side layer token head (source side token head) c' = (.ok (), c'') ∧
      Wrote c c'' layer
        (fun s t k => done s t k ∨ (s = side ∧ t = token ∧ k = head)) source := by
  have hconfig := h.frame.config
  have htokens : c'.pageTokens = c.pageTokens := by rw [hconfig]
  have hheads : c'.kvHeadCount = c.kvHeadCount := by rw [hconfig]
  have hwidth : c'.width side = c.width side := by rw [hconfig]
  obtain ⟨page, hpage⟩ := Option.isSome_iff_exists.mp (h.frame.present _ _ hp)
  rw [← htokens] at hpage
  obtain ⟨hl, hi⟩ := h.shaped.index_lt hpage
  have hread := fun other l t k hk => h.shaped.rowOf_setPage hpage (hheads ▸ hh) side
    (hrow.trans hwidth.symm) other l t k (hheads ▸ hk)
  refine ⟨c'.setPage layer (token / c'.pageTokens) (page.setLane side (overwrite (page.lane side)
    (c'.rowIndex token head * c'.width side) (source side token head))), ?_, ?_, ?_, ?_, ?_⟩
  · simp only [PagedKvCache.writeRow, Command.bind_run, Command.read_run, Command.lift_run,
      PagedKvCache.page, hpage, okOr, Command.update_run]
  · exact h.frame.trans (h.shaped.frame_setPage hl hi _)
  · refine h.shaped.setPage hl hi _ (fun other => ?_) fun other => h.shaped.fits other _ _ _ hpage
    rw [KvPage.lane_setLane]
    split
    · subst_vars
      rw [length_overwrite]
      · exact h.shaped.sized _ _ _ _ hpage
      · rw [hrow, ← hwidth]; exact h.shaped.row_fits hpage (hheads ▸ hh) _
    · exact h.shaped.sized _ _ _ _ hpage
  · intro other t k hk hd
    rw [hread other layer t k hk]
    split
    · rename_i here; rw [here.1, here.2.2.1, here.2.2.2]
    · rename_i here
      exact h.row_done other t k hk (hd.resolve_right fun e => here ⟨e.1, rfl, e.2⟩)
  · intro other l t k hk hd
    rw [hread other l t k hk, if_neg fun e => hd ⟨e.2.1, Or.inr ⟨e.1, e.2.2⟩⟩]
    exact h.row_kept other l t k hk fun e => hd ⟨e.1, Or.inl e.2⟩

/-- The rows `append_tokens` copies, by absolute token. -/
def sourceRow (config : KvConfig) (stored : Nat) (keys values : List F32) (side : Lane)
    (token head : Nat) : List F32 :=
  match side with
  | .key => sourceKey config keys (token - stored) head
  | .value => sourceValue config values (token - stored) head

theorem Wrote.writeHead {c c' : PagedKvCache} {layer stored tokenOffset head : Nat}
    {keys values : List F32} {done : Lane → Nat → Nat → Prop}
    (h : Wrote c c' layer done (sourceRow c.toKvConfig stored keys values))
    (hp : (c.pageAt layer ((stored + tokenOffset) / c.pageTokens)).isSome)
    (hh : head < c.kvHeadCount)
    (hrow : ∀ side,
      (sourceRow c.toKvConfig stored keys values side (stored + tokenOffset) head).length =
      c.width side) :
    ∃ c'', PagedKvCache.writeHead c.toKvConfig layer stored tokenOffset keys values head c' =
        (.ok (), c'') ∧
      Wrote c c'' layer (fun s t k => done s t k ∨ (t = stored + tokenOffset ∧ k = head))
        (sourceRow c.toKvConfig stored keys values) := by
  obtain ⟨a, hrun, ha⟩ := h.writeRow .key hp hh (hrow .key)
  obtain ⟨b, hrun', hb⟩ := ha.writeRow .value hp hh (hrow .value)
  refine ⟨b, ?_, hb.congr fun side t k hk => ?_⟩
  · simp only [sourceRow, Nat.add_sub_cancel_left] at hrun hrun'
    rw [PagedKvCache.writeHead, writeKey_eq, writeValue_eq, Command.bind_of_ok hrun, hrun']
  · cases side <;> simp

/-- The head loop copies every head of one token. -/
theorem Wrote.writeToken {c c' : PagedKvCache} {layer stored tokenOffset : Nat}
    {keys values : List F32}
    (h : Wrote c c' layer (fun _ t _ => stored ≤ t ∧ t < stored + tokenOffset)
      (sourceRow c.toKvConfig stored keys values))
    (hp : (c.pageAt layer ((stored + tokenOffset) / c.pageTokens)).isSome)
    (hrow : ∀ side head, head < c.kvHeadCount →
      (sourceRow c.toKvConfig stored keys values side (stored + tokenOffset) head).length =
      c.width side) :
    ∃ c'', PagedKvCache.writeToken c.toKvConfig layer stored keys values tokenOffset c' =
      (.ok (), c'') ∧
      Wrote c c'' layer (fun _ t _ => stored ≤ t ∧ t < stored + (tokenOffset + 1))
        (sourceRow c.toKvConfig stored keys values) := by
  let done : Nat → Lane → Nat → Nat → Prop := fun j _ t k =>
    (stored ≤ t ∧ t < stored + tokenOffset) ∨ (t = stored + tokenOffset ∧ k < j)
  have hloop := Command.Answers.loop
    (PagedKvCache.writeHead c.toKvConfig layer stored tokenOffset keys values)
    (I := fun j s => Wrote c s layer (done j) (sourceRow c.toKvConfig stored keys values))
    0 c.kvHeadCount fun j _ hj s hs => by
      obtain ⟨s', hrun, hs'⟩ := hs.writeHead hp (by omega) (fun side => hrow side j (by omega))
      refine ⟨(), s', hrun, hs'.congr fun side t k hk => ?_⟩
      simp only [done]
      omega
  obtain ⟨⟨⟩, c'', hrun, hend⟩ := hloop c' (h.congr fun side t k hk => by simp only [done]; omega)
  refine ⟨c'', hrun, hend.congr fun side t k hk => ?_⟩
  simp only [done]
  omega

/-- The two copy loops of `append_tokens` over backed pages. -/
theorem Shaped.writeTokens {c : PagedKvCache} (h : Shaped c) (layer stored tokenCount : Nat)
    (keys values : List F32)
    (hp : ∀ t, stored ≤ t → t < stored + tokenCount → (c.pageAt layer (t / c.pageTokens)).isSome)
    (hrow : ∀ side t head, stored ≤ t → t < stored + tokenCount → head < c.kvHeadCount →
      (sourceRow c.toKvConfig stored keys values side t head).length = c.width side) :
    ∃ c', Command.loop (PagedKvCache.writeToken c.toKvConfig layer stored keys values) 0
      tokenCount c = (.ok (), c') ∧
      Wrote c c' layer (fun _ t _ => stored ≤ t ∧ t < stored + tokenCount)
        (sourceRow c.toKvConfig stored keys values) := by
  have hloop := Command.Answers.loop
    (PagedKvCache.writeToken c.toKvConfig layer stored keys values)
    (I := fun j s => Wrote c s layer (fun _ t _ => stored ≤ t ∧ t < stored + j)
      (sourceRow c.toKvConfig stored keys values))
    0 tokenCount fun j _ hj s hs => by
      obtain ⟨s', hrun, hs'⟩ := hs.writeToken (hp _ (by omega) (by omega))
        (fun side head hh => hrow side _ head (by omega) (by omega) hh)
      exact ⟨(), s', hrun, hs'⟩
  obtain ⟨⟨⟩, c', hrun, hend⟩ := hloop c
    ((Wrote.refl h layer _).congr fun side t k hk => by simp only [false_iff]; omega)
  exact ⟨c', hrun, hend.congr fun side t k hk => by omega⟩

end PagedKvCache
end LightBridge.Kv
