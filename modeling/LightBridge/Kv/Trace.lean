import LightBridge.Kv.Refinement

/-! Runs of the cache's public calls, compared with runs of the plain map. -/
namespace LightBridge.Kv
open Foundation

def TokenRows.lane (rows : TokenRows) : Lane → List (List F32)
  | .key => rows.keys
  | .value => rows.values

/-- The row a caller reads from the map. -/
def AbstractKv.row (m : AbstractKv) (side : Lane) (layer token head : Nat) : List F32 :=
  (((m layer).getD token ⟨[], []⟩).lane side).getD head []

/-- Addresses that hold a committed row. -/
structure KvConfig.Readable (config : KvConfig) (m : AbstractKv)
    (layer token head : Nat) : Prop where
  layer_lt : layer < config.layerCount
  token_lt : token < (m layer).length
  head_lt : head < config.kvHeadCount

/-- The public calls that append, forget or read tokens; every call meets its own allocator. -/
inductive Op where
  | append (alloc : Allocator) (layer : Nat) (key value : List F32)
  | appendTokens (alloc : Allocator) (layer tokenCount : Nat) (keys values : List F32)
  | reset
  | rewindAll (tokenCount : Nat)
  | read (side : Lane) (layer token head : Nat)

inductive Reply where
  | done
  | token (index : Nat)
  | row (values : List F32)
  deriving DecidableEq, Repr

namespace PagedKvCache

/-- `key` and `value`. -/
def readRow (cache : PagedKvCache) : Lane → Nat → Nat → Nat → Except KvError (List F32)
  | .key => cache.key
  | .value => cache.value

end PagedKvCache

namespace Op
open PagedKvCache

def run : Op → Command PagedKvCache KvError Reply
  | .append alloc layer key value => do
      let index ← PagedKvCache.append alloc layer key value
      pure (.token index)
  | .appendTokens alloc layer tokenCount keys values => do
      PagedKvCache.appendTokens alloc layer tokenCount keys values
      pure .done
  | .reset => do
      PagedKvCache.reset
      pure .done
  | .rewindAll tokenCount => do
      PagedKvCache.rewindAll tokenCount
      pure .done
  | .read side layer token head => do
      let cache ← Command.read
      let row ← Command.lift (cache.readRow side layer token head)
      pure (.row row)

/-- Replies of a sequence of calls and the cache it leaves. -/
def runAll : List Op → PagedKvCache → List (Except KvError Reply) × PagedKvCache
  | [], cache => ([], cache)
  | op :: ops, cache =>
      let (reply, next) := op.run cache
      let (replies, last) := runAll ops next
      (reply :: replies, last)

end Op

namespace AbstractKv

/-- When the plain map may refuse a call, and with which error. -/
def Refuses (config : KvConfig) (m : AbstractKv) : Op → KvError → Prop
  | .append _ layer key value, e => config.Admissible m layer 1 key value → e.OfStorage config
  | .appendTokens _ layer tokenCount keys values, e =>
      config.Admissible m layer tokenCount keys values → e.OfStorage config
  | .reset, _ => False
  | .rewindAll tokenCount, _ => ¬ ∀ layer, layer < config.layerCount → tokenCount ≤ (m layer).length
  | .read _ layer token head, _ => ¬ config.Readable m layer token head

/-- One call on the plain map. A refused call changes nothing. -/
inductive Step (config : KvConfig) (m : AbstractKv) : Op → Except KvError Reply →
      AbstractKv → Prop where
  | append (alloc : Allocator) (layer : Nat) (key value : List F32)
      (admissible : config.Admissible m layer 1 key value) :
      Step config m (.append alloc layer key value) (.ok (.token (m layer).length))
        (m.append layer (config.rowsOf 1 key value))
  | appendTokens (alloc : Allocator) (layer tokenCount : Nat) (keys values : List F32)
      (admissible : config.Admissible m layer tokenCount keys values) :
      Step config m (.appendTokens alloc layer tokenCount keys values) (.ok .done)
        (m.append layer (config.rowsOf tokenCount keys values))
  | reset : Step config m .reset (.ok .done) empty
  | rewindAll (tokenCount : Nat)
      (stored : ∀ layer, layer < config.layerCount → tokenCount ≤ (m layer).length) :
      Step config m (.rewindAll tokenCount) (.ok .done) (m.rewind tokenCount)
  | read (side : Lane) (layer token head : Nat) (readable : config.Readable m layer token head) :
      Step config m (.read side layer token head) (.ok (.row (m.row side layer token head))) m
  | refused (op : Op) (e : KvError) (missing : e ≠ PagedKvCache.missingPage)
      (refuses : Refuses config m op e) : Step config m op (.error e) m

inductive Run (config : KvConfig) : AbstractKv → List Op → List (Except KvError Reply) →
      AbstractKv → Prop where
  | nil (m : AbstractKv) : Run config m [] [] m
  | cons {m next last : AbstractKv} {op : Op} {ops : List Op} {reply : Except KvError Reply}
      {replies : List (Except KvError Reply)} (head : Step config m op reply next)
      (tail : Run config next ops replies last) : Run config m (op :: ops) (reply :: replies) last

end AbstractKv

namespace PagedKvCache

/-! ### Reads -/

theorem failsIn_validateIndices (c : PagedKvCache) (layer token head : Nat) :
    FailsIn (c.validateIndices layer token head) (· ≠ missingPage) :=
  (failsIn_ensure (by simp [missingPage])).bind fun _ _ =>
    (failsIn_ensure (by simp [missingPage])).bind fun _ _ => failsIn_ensure (by simp [missingPage])

theorem validateIndices_eq_ok {c : PagedKvCache} {layer token head : Nat} {u : Unit} :
    c.validateIndices layer token head = .ok u ↔ c.Readable c.view layer token head := by
  simp only [validateIndices, validateLayer, except_bind_ok_iff, ensure_eq_ok]
  constructor
  · rintro ⟨_, hl, _, ht, hh⟩
    exact ⟨hl, by rwa [length_view], hh⟩
  · rintro ⟨hl, ht, hh⟩
    exact ⟨(), hl, (), by rwa [length_view] at ht, hh⟩

/-- `key` and `value` read their lane after the same checks. -/
theorem readRow_eq (c : PagedKvCache) (side : Lane) (layer token head : Nat) :
    c.readRow side layer token head = (do
      c.validateIndices layer token head
      let page ← c.page layer token
      pure (slice (page.lane side) (c.rowIndex token head * c.width side) (c.width side))) := by
  cases side <;> rfl

theorem view_row {c : PagedKvCache} {layer token head : Nat}
    (h : c.Readable c.view layer token head)
    (side : Lane) : c.view.row side layer token head = c.rowOf side layer token head := by
  have ht := h.token_lt
  rw [length_view] at ht
  simp only [AbstractKv.row, view, List.getD_eq_getElem?_getD, List.getElem?_map,
    List.getElem?_range ht, Option.map_some, Option.getD_some]
  cases side <;> simp [tokenRows, TokenRows.lane, h.head_lt]

/-- A read answers exactly at the committed addresses, with the committed row. -/
theorem WellFormed.readRow {c : PagedKvCache} (h : c.WellFormed) (side : Lane)
    (layer token head : Nat) :
    (c.Readable c.view layer token head ∧
      c.readRow side layer token head = .ok (c.view.row side layer token head)) ∨
    (¬ c.Readable c.view layer token head ∧
      ∃ e, c.readRow side layer token head = .error e ∧ e ≠ missingPage) := by
  rw [readRow_eq]
  by_cases hr : c.Readable c.view layer token head
  · have ht := hr.token_lt
    rw [length_view] at ht
    obtain ⟨page, hpage⟩ := Option.isSome_iff_exists.mp (h.backed layer token ht)
    refine Or.inl ⟨hr, ?_⟩
    rw [view_row hr side, PagedKvCache.rowOf, PagedKvCache.page, hpage,
      validateIndices_eq_ok (u := ()) |>.mpr hr]
    rfl
  · refine Or.inr ⟨hr, ?_⟩
    cases hv : c.validateIndices layer token head with
    | ok u => exact absurd (validateIndices_eq_ok.mp hv) hr
    | error e => exact ⟨e, rfl, failsIn_validateIndices c layer token head e hv⟩

/-! ### Forgetting tokens -/

/-- Shorter lengths forget tokens and keep everything else. -/
theorem WellFormed.shorten {c : PagedKvCache} (h : c.WellFormed) (lengths : List Nat)
    (hlength : lengths.length = c.lengths.length)
    (hle : ∀ layer, lengths.getD layer 0 ≤ c.storedLength layer) :
    ({ c with lengths := lengths } : PagedKvCache).WellFormed ∧
      ({ c with lengths := lengths } : PagedKvCache).view =
        fun layer => (c.view layer).take (lengths.getD layer 0) := by
  refine ⟨⟨⟨h.shaped.pageTokens_pos, h.shaped.tables, h.shaped.table, h.shaped.sized,
    h.shaped.fits⟩, h.positive, h.rounded, h.pageCount_eq, hlength.trans h.lengths_length,
    ?_, ?_, ?_⟩, ?_⟩
  · exact fun layer => Nat.le_trans (hle layer) (h.bounded layer)
  · exact fun layer token ht => h.backed layer token (Nat.lt_of_lt_of_le ht (hle layer))
  · exact fun side layer token head ht =>
      h.finite side layer token head (Nat.lt_of_lt_of_le ht (hle layer))
  · funext layer
    simp only [view, ← List.map_take, List.take_range]
    rw [Nat.min_eq_left (hle layer)]
    rfl

theorem storedLength_of_lt {c : PagedKvCache} {layer : Nat} (h : layer < c.lengths.length) :
    c.storedLength layer = c.lengths[layer] := by
  rw [storedLength, List.getD_eq_getElem?_getD, List.getElem?_eq_getElem h]
  rfl

theorem getD_map_const (lengths : List Nat) (n layer : Nat) :
    (lengths.map fun _ => n).getD layer 0 = if layer < lengths.length then n else 0 := by
  rw [List.getD_eq_getElem?_getD, List.getElem?_map]
  by_cases h : layer < lengths.length
  · simp [h]
  · simp [h]

theorem WellFormed.reset {c : PagedKvCache} (h : c.WellFormed) :
    ∃ c', PagedKvCache.reset c = (.ok (), c') ∧ c'.WellFormed ∧ c'.toKvConfig = c.toKvConfig ∧
      c'.view = AbstractKv.empty := by
  have hzero : ∀ layer, (c.lengths.map fun _ => 0).getD layer 0 = 0 := fun layer => by
    rw [getD_map_const]
    split <;> rfl
  obtain ⟨hwf, hview⟩ := h.shorten (c.lengths.map fun _ => 0) (List.length_map _)
    (fun layer => by rw [hzero layer]; exact Nat.zero_le _)
  refine ⟨_, rfl, hwf, rfl, hview.trans ?_⟩
  funext layer
  rw [hzero layer, List.take_zero]
  rfl

/-- `rewind_all` answers when every layer is long enough; otherwise nothing changes. -/
theorem WellFormed.rewindAll {c : PagedKvCache} (h : c.WellFormed) (tokenCount : Nat) :
    ((∀ layer, layer < c.layerCount → tokenCount ≤ (c.view layer).length) ∧
      ∃ c', PagedKvCache.rewindAll tokenCount c = (.ok (), c') ∧ c'.WellFormed ∧
        c'.toKvConfig = c.toKvConfig ∧ c'.view = c.view.rewind tokenCount) ∨
    ((¬ ∀ layer, layer < c.layerCount → tokenCount ≤ (c.view layer).length) ∧
      ∃ e, PagedKvCache.rewindAll tokenCount c = (.error e, c) ∧ e ≠ missingPage) := by
  unfold PagedKvCache.rewindAll
  cases hfind : c.lengths.findIdx? (fun stored => tokenCount > stored) with
  | some layer =>
      obtain ⟨hi, hshort, -⟩ := List.findIdx?_eq_some_iff_getElem.mp hfind
      refine Or.inr ⟨fun hall => ?_, _, rfl, by simp [missingPage]⟩
      have hge := hall layer (h.lengths_length ▸ hi)
      rw [length_view, storedLength_of_lt hi] at hge
      simp only [gt_iff_lt, decide_eq_true_eq] at hshort
      omega
  | none =>
      have hall : ∀ layer, layer < c.layerCount → tokenCount ≤ c.storedLength layer := by
        intro layer hl
        rw [← h.lengths_length] at hl
        have := List.findIdx?_eq_none_iff.mp hfind _ (List.getElem_mem hl)
        simp only [gt_iff_lt, decide_eq_false_iff_not, Nat.not_lt] at this
        rwa [storedLength_of_lt hl]
      have hle : ∀ layer, (c.lengths.map fun _ => tokenCount).getD layer 0 ≤
          c.storedLength layer := by
        intro layer
        rw [getD_map_const]
        split
        · exact hall layer (by rw [← h.lengths_length]; assumption)
        · exact Nat.zero_le _
      obtain ⟨hwf, hview⟩ := h.shorten (c.lengths.map fun _ => tokenCount) (List.length_map _) hle
      refine Or.inl ⟨fun layer hl => by rw [length_view]; exact hall layer hl, _, rfl, hwf, rfl,
        hview.trans ?_⟩
      funext layer
      rw [getD_map_const, AbstractKv.rewind]
      split
      · rfl
      · have hnil : c.view layer = [] := by
          rw [← List.length_eq_zero_iff, length_view]
          exact storedLength_of_le (by omega)
        rw [hnil, List.take_nil, List.take_nil]

/-- `append` is `append_tokens` of one token; it answers the token's index. -/
theorem WellFormed.append {c : PagedKvCache} (h : c.WellFormed) (alloc : Allocator) (layer : Nat)
    (key value : List F32) :
    (∃ c', PagedKvCache.append alloc layer key value c = (.ok (c.view layer).length, c') ∧
      Appended c c' layer 1 key value) ∨
    (∃ e, PagedKvCache.append alloc layer key value c = (.error e, c) ∧ e ≠ missingPage ∧
      (c.Admissible c.view layer 1 key value → e.OfStorage c.toKvConfig)) := by
  rcases h.appendTokens alloc layer 1 key value with ⟨c', hrun, happ⟩ | ⟨e, hrun, hne, hkind⟩
  · refine Or.inl ⟨c', ?_, happ⟩
    have hlen : c'.storedLength layer = c.storedLength layer + 1 := by
      have hview := congrArg (fun m => (m layer).length) happ.view
      simp only [AbstractKv.append, Function.update_self, List.length_append, length_view,
        KvConfig.rowsOf, List.length_map, List.length_range] at hview
      exact hview
    rw [PagedKvCache.append, Command.bind_of_ok hrun, Command.bind_of_ok (Command.read_run c'),
      Command.pure_run, hlen, Nat.add_sub_cancel, length_view]
  · exact Or.inr ⟨e, by rw [PagedKvCache.append, Command.bind_of_error hrun], hne, hkind⟩

/-! ### Steps and runs -/

/-- One public call is one step of the plain map. -/
theorem WellFormed.step {c : PagedKvCache} (h : c.WellFormed) (op : Op) :
    (op.run c).2.WellFormed ∧ (op.run c).2.toKvConfig = c.toKvConfig ∧
      AbstractKv.Step c.toKvConfig c.view op (op.run c).1 (op.run c).2.view := by
  cases op with
  | append alloc layer key value =>
      rcases h.append alloc layer key value with ⟨c', hrun, happ⟩ | ⟨e, hrun, hne, hkind⟩
      · rw [Op.run, Command.bind_of_ok hrun, Command.pure_run, happ.view]
        exact ⟨happ.wellFormed, happ.config, .append alloc layer key value happ.admissible⟩
      · rw [Op.run, Command.bind_of_error hrun]
        exact ⟨h, rfl, .refused _ e hne hkind⟩
  | appendTokens alloc layer tokenCount keys values =>
      rcases h.appendTokens alloc layer tokenCount keys values with ⟨c', hrun, happ⟩
        | ⟨e, hrun, hne, hkind⟩
      · rw [Op.run, Command.bind_of_ok hrun, Command.pure_run, happ.view]
        exact ⟨happ.wellFormed, happ.config,
          .appendTokens alloc layer tokenCount keys values happ.admissible⟩
      · rw [Op.run, Command.bind_of_error hrun]
        exact ⟨h, rfl, .refused _ e hne hkind⟩
  | reset =>
      obtain ⟨c', hrun, hwf, hconfig, hview⟩ := h.reset
      rw [Op.run, Command.bind_of_ok hrun, Command.pure_run, hview]
      exact ⟨hwf, hconfig, .reset⟩
  | rewindAll tokenCount =>
      rcases h.rewindAll tokenCount with ⟨hall, c', hrun, hwf, hconfig, hview⟩
        | ⟨hnot, e, hrun, hne⟩
      · rw [Op.run, Command.bind_of_ok hrun, Command.pure_run, hview]
        exact ⟨hwf, hconfig, .rewindAll tokenCount hall⟩
      · rw [Op.run, Command.bind_of_error hrun]
        exact ⟨h, rfl, .refused _ e hne hnot⟩
  | read side layer token head =>
      rw [Op.run, Command.bind_of_ok (Command.read_run c)]
      rcases h.readRow side layer token head with ⟨hr, hrow⟩ | ⟨hr, e, hrow, hne⟩
      · rw [hrow, Command.bind_of_ok (Command.lift_run (.ok _) c), Command.pure_run]
        exact ⟨h, rfl, .read side layer token head hr⟩
      · rw [hrow, Command.bind_of_error (Command.lift_run (.error e) c)]
        exact ⟨h, rfl, .refused _ e hne hr⟩

theorem WellFormed.run {c : PagedKvCache} (h : c.WellFormed) (ops : List Op) :
    (Op.runAll ops c).2.WellFormed ∧ (Op.runAll ops c).2.toKvConfig = c.toKvConfig ∧
      AbstractKv.Run c.toKvConfig c.view ops (Op.runAll ops c).1 (Op.runAll ops c).2.view := by
  induction ops generalizing c with
  | nil => exact ⟨h, rfl, .nil c.view⟩
  | cons op ops ih =>
      obtain ⟨hwf, hconfig, hstep⟩ := h.step op
      obtain ⟨hwf', hconfig', hrun⟩ := ih hwf
      rw [hconfig] at hrun
      exact ⟨hwf', hconfig'.trans hconfig, .cons hstep hrun⟩

/-- A cache just constructed holds the empty map. -/
theorem view_newWithAllocation {alloc : Allocator} {config : KvConfig} {eager : Bool}
    {c : PagedKvCache}
    (h : newWithAllocation alloc config eager = .ok c) : c.view = AbstractKv.empty := by
  funext layer
  refine List.length_eq_zero_iff.mp ?_
  rw [length_view]
  exact (newWithAllocation_wellFormed h).2.2 layer

/-- Every run of public calls on a constructed cache, eager or lazy, is a run of the
plain map from layers to token rows. -/
theorem runAll_refines_map (alloc : Allocator) {config : KvConfig} {c : PagedKvCache}
    (built : new alloc config = .ok c ∨ newLazy alloc config = .ok c) (ops : List Op) :
    AbstractKv.Run config AbstractKv.empty ops (Op.runAll ops c).1 (Op.runAll ops c).2.view := by
  obtain ⟨eager, h⟩ : ∃ eager, newWithAllocation alloc config eager = .ok c := by
    rcases built with h | h
    · exact ⟨true, h⟩
    · exact ⟨false, h⟩
  obtain ⟨hwf, hconfig, -⟩ := newWithAllocation_wellFormed h
  have hrun := (hwf.run ops).2.2
  rwa [hconfig, view_newWithAllocation h] at hrun

/-- A row forgotten by a rewind stays in its page and is not readable. -/
theorem runAll_refines_map_rewound :
    ∃ c, newLazy (fun _ => true) ⟨1, 1, 1, 1, 2, 3⟩ = .ok c ∧
      (Op.runAll [.append (fun _ => true) 0 [⟨1⟩] [⟨2⟩], .rewindAll 0, .read .key 0 0 0] c).1 =
        [.ok (.token 0), .ok .done, .error (.tokenOutOfRange 0 0)] ∧
      AbstractKv.Run ⟨1, 1, 1, 1, 2, 3⟩ AbstractKv.empty
        [.append (fun _ => true) 0 [⟨1⟩] [⟨2⟩], .rewindAll 0, .read .key 0 0 0]
        (Op.runAll [.append (fun _ => true) 0 [⟨1⟩] [⟨2⟩], .rewindAll 0, .read .key 0 0 0] c).1
        (Op.runAll [.append (fun _ => true) 0 [⟨1⟩] [⟨2⟩], .rewindAll 0,
          .read .key 0 0 0] c).2.view :=
  ⟨_, rfl, rfl, runAll_refines_map (fun _ => true) (Or.inr rfl) _⟩

end PagedKvCache
end LightBridge.Kv
