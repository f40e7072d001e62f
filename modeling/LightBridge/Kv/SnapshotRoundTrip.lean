import LightBridge.Kv.SnapshotCodec

/-! Snapshots written by `export_snapshot` are the encodings of committed maps, and the
restores accept exactly these. -/
namespace LightBridge.Kv
open Foundation

namespace PagedKvCache
open Cursor

/-! ### Restore -/

theorem checkUniform_eq_ok {lengths : List Nat} {u : Unit} :
    checkUniform lengths = .ok u ↔ ∀ length ∈ lengths, length = lengths.head?.getD 0 := by
  unfold checkUniform
  dsimp only
  split
  · rename_i layer hfind
    obtain ⟨hi, hne, -⟩ := List.findIdx?_eq_some_iff_getElem.mp hfind
    simp only [reduceCtorEq, false_iff, not_forall]
    exact ⟨lengths[layer], List.getElem_mem hi, by simpa using hne⟩
  · rename_i hfind
    simp only [true_iff]
    intro length hl
    simpa using List.findIdx?_eq_none_iff.mp hfind length hl

/-- A lazy construction with counted parameters fails only in the allocator. -/
theorem newLazy_answers (alloc : Allocator) {config : KvConfig}
    (hpos : ∀ parameter ∈ config.parameters, 0 < parameter.2)
    (hround : config.tokenCapacity + (config.pageTokens - 1) ≤ usizeMax) :
    (∃ c, newLazy alloc config = .ok c) ∨ ∃ field n,
      newLazy alloc config = .error (.allocationFailed field n) := by
  have hnone : config.parameters.find? (fun parameter => parameter.2 == 0) = none := by
    refine List.find?_eq_none.mpr fun parameter hp => ?_
    have := hpos parameter hp
    simp only [beq_iff_eq]
    omega
  have htable : ∀ pageCount, FailsIn ((List.range config.layerCount).mapM
      (newLayerPages alloc config pageCount false))
      (fun e => ∃ field n, e = .allocationFailed field n) :=
    fun pageCount => FailsIn.mapM fun layer _ e he => by
      unfold newLayerPages at he
      split at he
      · cases he
      · cases he; exact ⟨_, _, rfl⟩
  cases h : newLazy alloc config with
  | ok c => exact Or.inl ⟨c, rfl⟩
  | error e =>
      refine Or.inr ?_
      simp only [newLazy, newWithAllocation, hnone, checkedAdd_of_le hround, okOr,
        except_bind_error_iff] at h
      rcases h with h | ⟨_, -, h⟩
      · cases h
      · split at h
        · rcases except_bind_error_iff.mp h with h | ⟨_, -, h⟩
          · obtain ⟨field, n, rfl⟩ := htable _ e h
            exact ⟨field, n, rfl⟩
          · rcases except_bind_error_iff.mp h with h | ⟨_, -, h⟩
            · exact ⟨_, _, congrArg _ (zeroedVec_error h)⟩
            · cases h
        · cases h; exact ⟨_, _, rfl⟩

theorem newLazy_layerCount {alloc : Allocator} {config : KvConfig} {c : PagedKvCache}
    (h : newLazy alloc config = .ok c) : 24 * config.layerCount ≤ isizeMax := by
  unfold newLazy newWithAllocation at h
  split at h
  · cases h
  · simp only [except_bind_ok_iff, okOr_eq_ok] at h
    obtain ⟨_, -, h⟩ := h
    split at h
    · rename_i hreserve
      exact (tryReserve_eq_true.mp hreserve).2
    · cases h

/-- What was built once is built without its pages, where every request is granted. -/
theorem newLazy_granted {alloc : Allocator} {config : KvConfig} {eager : Bool} {c : PagedKvCache}
    (h : newWithAllocation alloc config eager = .ok c) :
    ∃ d, newLazy (fun _ => true) config = .ok d := by
  unfold newWithAllocation at h
  split at h
  · cases h
  · rename_i hpositive
    obtain ⟨rounded, hrounded, h⟩ := except_bind_ok_iff.mp h
    split at h
    · rename_i htables
      obtain ⟨pages, hpages, h⟩ := except_bind_ok_iff.mp h
      obtain ⟨lengths, hlengths, h⟩ := except_bind_ok_iff.mp h
      obtain ⟨hreserve, rfl⟩ := zeroedVec_eq_ok.mp hlengths
      have hlazy : ∀ layer ∈ List.range config.layerCount, ∀ table,
          newLayerPages alloc config (rounded / config.pageTokens) eager layer = .ok table →
          ∃ table', newLayerPages (fun _ => true) config (rounded / config.pageTokens) false layer =
            .ok table' ∧ True := by
        intro layer _ table htable
        unfold newLayerPages at htable ⊢
        split at htable
        · rename_i hgranted
          exact ⟨_, if_pos (tryReserve_eq_true.mpr ⟨rfl, (tryReserve_eq_true.mp hgranted).2⟩),
            trivial⟩
        · cases htable
      obtain ⟨tables, hmade, -⟩ := except_mapM_related hpages hlazy
      refine ⟨{ toKvConfig := config, pageCount := rounded / config.pageTokens,
                lengths := List.replicate config.layerCount 0, pages := tables }, ?_⟩
      unfold newLazy newWithAllocation
      rw [hpositive, hrounded]
      dsimp only
      rw [except_ok_bind,
        if_pos (tryReserve_eq_true.mpr ⟨rfl, (tryReserve_eq_true.mp htables).2⟩), hmade,
        except_ok_bind, zeroedVec,
        if_pos (tryReserve_eq_true.mpr ⟨rfl, (tryReserve_eq_true.mp hreserve).2⟩)]
      rfl
    · cases h

/-- What an accepted payload says about the cache built from it. -/
structure Restored (config : KvConfig) (binding : Bytes32) (payload : List UInt8) (uniform : Bool)
    (r : PagedKvCache) : Prop where
  wellFormed : r.WellFormed
  config_eq : r.toKvConfig = config
  payload_eq : payload = config.encodePayload binding r.view
  parameters_lt : ∀ parameter ∈ config.parameters, parameter.2 < 2 ^ 64
  layers : 24 * config.layerCount ≤ isizeMax
  keys : 4 * (config.kvHeadCount * config.keyDimension) ≤ isizeMax
  values : 4 * (config.kvHeadCount * config.valueDimension) ≤ isizeMax
  uniform : uniform = true → ∀ l, l < config.layerCount → (r.view l).length = (r.view 0).length

theorem encodeLengths_eq (config : KvConfig) (m : AbstractKv) :
    ((List.range config.layerCount).map fun l => (m l).length).flatMap (leBytes 8) =
      config.encodeLengths m := by
  rw [KvConfig.encodeLengths, List.flatMap_map]

theorem readLengths_ok {alloc : Allocator} {config : KvConfig} {uniform : Bool}
    {cursor cursor' : Cursor} {lengths : List Nat} (hfits : Fits usizeMax cursor)
    (h : readLengths alloc config uniform cursor = (.ok lengths, cursor')) :
    lengths.length = config.layerCount ∧ cursor.Consumes (lengths.flatMap (leBytes 8)) cursor' ∧
      (uniform = true → ∀ length ∈ lengths, length = lengths.head?.getD 0) := by
  obtain ⟨_, _, hreserve, h⟩ := Command.bind_ok_iff.mp h
  obtain ⟨_, _, hread, h⟩ := Command.bind_ok_iff.mp h
  obtain ⟨_, _, huniform, h⟩ := Command.bind_ok_iff.mp h
  cases h
  simp only [Command.lift_run, Prod.mk.injEq] at hreserve huniform
  obtain ⟨-, rfl⟩ := hreserve
  obtain ⟨huniform, rfl⟩ := huniform
  obtain ⟨⟨hcount, -⟩, hcons⟩ :=
    (Exact.collect (exact_readLength config) 0 config.layerCount _ hfits _ _).mp hread
  refine ⟨hcount, hcons, fun htrue => ?_⟩
  rw [if_pos htrue] at huniform
  exact checkUniform_eq_ok.mp huniform

theorem emptyRestored_eq_ok {alloc : Allocator} {config : KvConfig} {c : PagedKvCache} :
    emptyRestored alloc config = .ok c ↔ newLazy alloc config = .ok c ∧
      config.kvHeadCount * config.keyDimension ≤ usizeMax ∧
      config.kvHeadCount * config.valueDimension ≤ usizeMax ∧
      tryReserve (alloc .tokenKeys) 4 (config.kvHeadCount * config.keyDimension) = true ∧
      tryReserve (alloc .tokenValues) 4 (config.kvHeadCount * config.valueDimension) = true := by
  simp only [emptyRestored, except_bind_ok_iff, okOr_eq_ok, checkedMul_eq_some, zeroedVec_eq_ok]
  constructor
  · rintro ⟨_, hlazy, _, ⟨hk, rfl⟩, _, ⟨hv, rfl⟩, _, ⟨hkr, -⟩, _, ⟨hvr, -⟩, h⟩
    cases h
    exact ⟨hlazy, hk, hv, hkr, hvr⟩
  · rintro ⟨hlazy, hk, hv, hkr, hvr⟩
    exact ⟨c, hlazy, _, ⟨hk, rfl⟩, _, ⟨hv, rfl⟩, _, ⟨hkr, rfl⟩, _, ⟨hvr, rfl⟩, rfl⟩

theorem restorePayload_ok {alloc : Allocator} {config : KvConfig} {binding : Bytes32}
    {payload : List UInt8} {uniform : Bool} {r : PagedKvCache} (hlen : payload.length ≤ usizeMax)
    (h : (restorePayload alloc config binding uniform ⟨payload, 0⟩).1 = .ok r) :
    Restored config binding payload uniform r := by
  obtain ⟨last, hrun⟩ : ∃ last, restorePayload alloc config binding uniform ⟨payload, 0⟩ =
    (.ok r, last) :=
    ⟨_, Prod.ext h rfl⟩
  have hfits : Fits usizeMax ⟨payload, 0⟩ := ⟨Nat.zero_le _, hlen⟩
  obtain ⟨_, c₁, hheader, hrest₁⟩ := Command.bind_ok_iff.mp hrun
  obtain ⟨lengths, c₂, hlengths, hrest₂⟩ := Command.bind_ok_iff.mp hrest₁
  obtain ⟨fresh, _, hfresh, hrest₃⟩ := Command.bind_ok_iff.mp hrest₂
  obtain ⟨filled, c₃, hlayers, hrest₄⟩ := Command.bind_ok_iff.mp hrest₃
  simp only [Command.bind_ok_iff, Command.lift_run, Command.read_run, Command.pure_run,
    Prod.mk.injEq, Except.ok.injEq, ensure_eq_ok] at hfresh hrest₄
  obtain ⟨hempty, rfl⟩ := hfresh
  obtain ⟨_, _, ⟨rfl, rfl⟩, _, _, ⟨hend, rfl⟩, rfl, rfl⟩ := hrest₄
  obtain ⟨hlazy, -, -, hkeys, hvalues⟩ := emptyRestored_eq_ok.mp hempty
  obtain ⟨hparams, h₁⟩ := (exact_readHeader config binding _ hfits _ _).mp hheader
  have hf₁ := hfits.consumes h₁
  obtain ⟨hcount, h₂, huniform⟩ := readLengths_ok hf₁ hlengths
  have hf₂ := hf₁.consumes h₂
  obtain ⟨hwf, hconfig, -⟩ := newWithAllocation_wellFormed hlazy
  have hnil : ∀ l, fresh.view l = [] := fun l => congrFun (view_newWithAllocation hlazy) l
  obtain ⟨hfilled, hlens, h₃⟩ := restoreLayers_ok hwf hconfig hf₂ (fun l _ => hnil l) hlayers
  rw [hcount, ← List.range_eq_range'] at hlens h₃
  rw [hlens, encodeLengths_eq] at h₂
  have hpayload : config.encodePayload binding filled.view = payload :=
    ((consumes_all (consumes_append.mpr ⟨c₂, consumes_append.mpr ⟨c₁, h₁, h₂⟩, h₃⟩)).mp hend).symm
  refine ⟨hfilled.wellFormed, hfilled.config.trans hconfig, hpayload.symm, hparams,
    newLazy_layerCount hlazy, (tryReserve_eq_true.mp hkeys).2, (tryReserve_eq_true.mp hvalues).2,
    fun htrue l hl => ?_⟩
  have hget : ∀ i, i < config.layerCount → (filled.view i).length = lengths.head?.getD 0 :=
    fun i hi => by
    refine huniform htrue _ ?_
    rw [hlens]
    exact List.mem_map_of_mem (List.mem_range.mpr hi)
  rw [hget l hl, hget 0 (Nat.lt_of_le_of_lt (Nat.zero_le l) hl)]

/-- A map that a cache of this configuration can commit and a snapshot can address. -/
structure Encodable (config : KvConfig) (m : AbstractKv) (uniform : Bool) : Prop where
  storable : Storable config m
  positive : ∀ parameter ∈ config.parameters, 0 < parameter.2
  parameters_lt : ∀ parameter ∈ config.parameters, parameter.2 < 2 ^ 64
  rounded : config.tokenCapacity + (config.pageTokens - 1) ≤ usizeMax
  keys : config.kvHeadCount * config.keyDimension ≤ usizeMax
  values : config.kvHeadCount * config.valueDimension ≤ usizeMax
  uniform : uniform = true → ∀ l, l < config.layerCount → (m l).length = (m 0).length

/-- A refused reservation, the only way an encoded map is not restored. -/
def OfAllocator (e : KvError) : Prop := ∃ field n, e = .allocationFailed field n

/-- Every request is granted, and none that restoring `m` makes is too large. -/
structure Ample (alloc : Allocator) (config : KvConfig) (m : AbstractKv) : Prop where
  granted : alloc = fun _ => true
  opens : ∃ c, newLazy (fun _ => true) config = .ok c
  rows : ∀ side, 4 * (config.kvHeadCount * config.width side) ≤ isizeMax
  pages : ∀ l, m l ≠ [] → ∀ side, 4 * config.storage side ≤ isizeMax

/-- The restored cache commits `m`, or a reservation was refused. -/
inductive Rebuilds (alloc : Allocator) (config : KvConfig) (m : AbstractKv) :
    Except KvError PagedKvCache → Prop where
  | built (c : PagedKvCache) (wellFormed : c.WellFormed) (config_eq : c.toKvConfig = config)
      (view_eq : c.view = m) : Rebuilds alloc config m (.ok c)
  | refused (e : KvError) (allocator : OfAllocator e) (scarce : ¬ Ample alloc config m) :
      Rebuilds alloc config m (.error e)

/-- A step that only the allocator can refuse. -/
theorem Rebuilds.lift {alloc : Allocator} {config : KvConfig} {m : AbstractKv} {α : Type}
    {r : Except KvError α} {k : α → Command Cursor KvError PagedKvCache} {cursor : Cursor}
    (hr : FailsIn r fun e => OfAllocator e ∧ ¬ Ample alloc config m)
    (hok : ∀ a, r = .ok a → Rebuilds alloc config m (k a cursor).1) :
    Rebuilds alloc config m ((Command.lift r >>= k) cursor).1 := by
  cases h : r with
  | ok a => exact hok a h
  | error e => exact .refused e (hr e h).1 (hr e h).2

theorem failsIn_tryReserve {granted : Bool} {size elements : Nat} {field : String} :
    FailsIn (ensure (tryReserve granted size elements = true)
      (KvError.allocationFailed field elements))
      OfAllocator := failsIn_ensure ⟨_, _, rfl⟩

theorem failsIn_zeroedVec {α : Type} {granted : Bool} {size : Nat} {zero : α} {elements : Nat}
    {field : String} : FailsIn (zeroedVec granted size zero elements field) OfAllocator :=
  fun _ h => ⟨_, _, zeroedVec_error h⟩

theorem readLengths_answers (alloc : Allocator) {config : KvConfig} {m : AbstractKv}
    {uniform : Bool} {cursor cursor' : Cursor} (hm : Encodable config m uniform)
    (hfits : Fits usizeMax cursor) (hcons : cursor.Consumes (config.encodeLengths m) cursor') :
    readLengths alloc config uniform cursor =
      (.ok ((List.range config.layerCount).map fun l => (m l).length), cursor') ∨
    ∃ e, readLengths alloc config uniform cursor = (.error e, cursor) ∧ OfAllocator e ∧
      ¬ Ample alloc config m := by
  have hlengths := (Exact.collect (exact_readLength config) 0 config.layerCount _ hfits
    ((List.range config.layerCount).map fun l => (m l).length) cursor').mpr
    ⟨⟨by rw [List.length_map, List.length_range], fun x hx => by
      obtain ⟨l, -, rfl⟩ := List.mem_map.mp hx
      have hle := hm.storable.bounded l
      have hcap := hm.parameters_lt ("token_capacity", config.tokenCapacity)
          (by simp [KvConfig.parameters])
      exact ⟨Nat.lt_of_le_of_lt hle hcap, hle⟩⟩, by beta_reduce; rw [encodeLengths_eq]; exact hcons⟩
  have huniform : (if uniform = true then
      checkUniform ((List.range config.layerCount).map fun l => (m l).length) else .ok ()) =
      .ok () := by
    split
    · refine checkUniform_eq_ok.mpr fun x hx => ?_
      obtain ⟨l, hl, rfl⟩ := List.mem_map.mp hx
      have hl := List.mem_range.mp hl
      obtain ⟨n, hn⟩ :=
        Nat.exists_eq_succ_of_ne_zero (Nat.ne_of_gt (Nat.lt_of_le_of_lt (Nat.zero_le l) hl))
      rw [hm.uniform (by assumption) l hl, hn, List.range_succ_eq_map]
      rfl
    · rfl
  by_cases hreserve : tryReserve (alloc .snapshotLengths) 8 config.layerCount = true
  · refine Or.inl ?_
    rw [readLengths, ensure, if_pos hreserve, Command.bind_of_ok (Command.lift_run (.ok ()) cursor),
      Command.bind_of_ok hlengths, huniform, Command.bind_of_ok (Command.lift_run (.ok ()) cursor'),
      Command.pure_run]
  · refine Or.inr ⟨.allocationFailed "KV snapshot layer lengths" config.layerCount, ?_,
      ⟨_, _, rfl⟩, fun hample => ?_⟩
    · rw [readLengths, ensure, if_neg hreserve,
        Command.bind_of_error (Command.lift_run (.error _) cursor)]
    · obtain ⟨c, hopens⟩ := hample.opens
      have hcount := newLazy_layerCount hopens
      rw [hample.granted] at hreserve
      exact hreserve (tryReserve_eq_true.mpr ⟨rfl, by omega⟩)

theorem emptyRestored_answers {alloc : Allocator} {config : KvConfig} {m : AbstractKv}
    {uniform : Bool} (hm : Encodable config m uniform) :
    FailsIn (emptyRestored alloc config) fun e => OfAllocator e ∧ ¬ Ample alloc config m := by
  have hfails : FailsIn (emptyRestored alloc config) OfAllocator := by
    rw [emptyRestored, checkedMul_of_le hm.keys, checkedMul_of_le hm.values]
    refine FailsIn.bind (fun e he => ?_) fun _ _ => failsIn_zeroedVec.bind fun _ _ =>
      failsIn_zeroedVec.bind fun _ _ => FailsIn.pure _ _
    rcases newLazy_answers alloc hm.positive hm.rounded with ⟨c, hc⟩ | ⟨field, n, hc⟩
    · rw [hc] at he; cases he
    · rw [hc] at he; cases he; exact ⟨field, n, rfl⟩
  refine fun e he => ⟨hfails e he, fun hample => ?_⟩
  obtain ⟨c, hopens⟩ := hample.opens
  have hempty : emptyRestored alloc config = .ok c := by
    rw [hample.granted]
    exact emptyRestored_eq_ok.mpr ⟨hopens, hm.keys, hm.values,
      tryReserve_eq_true.mpr ⟨rfl, hample.rows .key⟩,
      tryReserve_eq_true.mpr ⟨rfl, hample.rows .value⟩⟩
  rw [hempty] at he
  cases he

/-- Reading the encoding of a map builds a cache that commits it. -/
theorem restorePayload_answers {alloc : Allocator} {config : KvConfig} {binding : Bytes32}
    {m : AbstractKv} {uniform : Bool} (hm : Encodable config m uniform)
    (hlen : (config.encodePayload binding m).length ≤ usizeMax) :
    Rebuilds alloc config m
      (restorePayload alloc config binding uniform ⟨config.encodePayload binding m, 0⟩).1 := by
  have hfits : Fits usizeMax ⟨config.encodePayload binding m, 0⟩ := ⟨Nat.zero_le _, hlen⟩
  have hall : (⟨config.encodePayload binding m, 0⟩ : Cursor).Consumes
      (config.encodePayload binding m)
      ⟨config.encodePayload binding m, (config.encodePayload binding m).length⟩ :=
    ⟨List.prefix_rfl, by rw [Nat.zero_add]⟩
  have hend := (consumes_all hall).mpr rfl
  obtain ⟨c₂, h, h₃⟩ := consumes_append.mp hall
  obtain ⟨c₁, h₁, h₂⟩ := consumes_append.mp h
  have hf₁ := hfits.consumes h₁
  have hf₂ := hf₁.consumes h₂
  rw [restorePayload, Command.bind_of_ok ((exact_readHeader config binding _ hfits () c₁).mpr
    ⟨hm.parameters_lt, h₁⟩)]
  rcases readLengths_answers alloc hm hf₁ h₂ with hlengths | ⟨e, hlengths, he⟩
  · rw [Command.bind_of_ok hlengths]
    refine Rebuilds.lift (emptyRestored_answers hm) fun fresh hempty => ?_
    have hlazy := (emptyRestored_eq_ok.mp hempty).1
    obtain ⟨hwf, hconfig, -⟩ := newWithAllocation_wellFormed hlazy
    have hnil : ∀ l, fresh.view l = [] := fun l => congrFun (view_newWithAllocation hlazy) l
    rw [KvConfig.encodeRows, List.range_eq_range'] at h₃
    have hloop := restoreLayers_answers alloc hwf hconfig hf₂ hm.storable
      (Nat.zero_add config.layerCount) (fun l hl => absurd hl (Nat.not_lt_zero l))
        (fun l _ => hnil l) hm.keys
      hm.values h₃
    rw [← List.range_eq_range'] at hloop
    rcases hloop with ⟨last, hrun, hwf, hconfig, hview⟩ | ⟨field, n, hrun, layer, hne, hscarce⟩
    · rw [Command.bind_of_ok hrun, Command.bind_of_ok (Command.read_run _), ensure, if_pos hend]
      exact .built last hwf hconfig hview
    · obtain ⟨c, hr⟩ : ∃ c,
        restoreLayers alloc config 0 ((List.range config.layerCount).map fun l =>
          (m l).length) fresh c₂ = (.error (.allocationFailed field n), c) := ⟨_, Prod.ext hrun rfl⟩
      rw [Command.bind_of_error hr]
      exact .refused _ ⟨field, n, rfl⟩ fun hample =>
        hscarce ⟨hample.granted, hample.pages layer hne⟩
  · rw [Command.bind_of_error hlengths]
    exact .refused e he.1 he.2

/-! ### Committed maps are storable -/

theorem WellFormed.length_rowOf {c : PagedKvCache} (h : c.WellFormed) {layer token head : Nat}
    (ht : token < c.storedLength layer) (hh : head < c.kvHeadCount) (side : Lane) :
    (c.rowOf side layer token head).length = c.width side := by
  obtain ⟨page, hpage⟩ := Option.isSome_iff_exists.mp (h.backed layer token ht)
  rw [rowOf, hpage]
  exact length_slice (h.shaped.row_fits hpage hh side)

theorem WellFormed.tokenRows_fits {c : PagedKvCache} (h : c.WellFormed) {layer token : Nat}
    (ht : token < c.storedLength layer) : (c.tokenRows layer token).Fits c.toKvConfig where
  keys_length := by rw [tokenRows, List.length_map, List.length_range]
  values_length := by rw [tokenRows, List.length_map, List.length_range]
  key_length := fun row hr => by
    obtain ⟨head, hh, rfl⟩ := List.mem_map.mp hr
    exact h.length_rowOf ht (List.mem_range.mp hh) .key
  value_length := fun row hr => by
    obtain ⟨head, hh, rfl⟩ := List.mem_map.mp hr
    exact h.length_rowOf ht (List.mem_range.mp hh) .value

theorem mem_view {c : PagedKvCache} {layer : Nat} {rows : TokenRows} :
    rows ∈ c.view layer ↔ ∃ token, token < c.storedLength layer ∧
      c.tokenRows layer token = rows := by
  simp only [view, List.mem_map, List.mem_range]

theorem WellFormed.storable {c : PagedKvCache} (h : c.WellFormed) :
    Storable c.toKvConfig c.view where
  loadable := fun l =>
    { fits := fun rows hr => by
        obtain ⟨token, ht, rfl⟩ := mem_view.mp hr
        exact h.tokenRows_fits ht
      keys_finite := fun rows hr x hx => by
        obtain ⟨token, ht, rfl⟩ := mem_view.mp hr
        obtain ⟨row, hrow, hx⟩ := List.mem_flatten.mp hx
        obtain ⟨head, hh, rfl⟩ := List.mem_map.mp hrow
        exact h.finite .key l token head ht (List.mem_range.mp hh) x hx
      values_finite := fun rows hr x hx => by
        obtain ⟨token, ht, rfl⟩ := mem_view.mp hr
        obtain ⟨row, hrow, hx⟩ := List.mem_flatten.mp hx
        obtain ⟨head, hh, rfl⟩ := List.mem_map.mp hrow
        exact h.finite .value l token head ht (List.mem_range.mp hh) x hx }
  bounded := fun l => by rw [length_view]; exact h.bounded l
  outside := fun l hl => List.length_eq_zero_iff.mp (by
    rw [length_view]
    exact storedLength_of_le (by rw [h.lengths_length]; exact hl))
  fits := fun l hne side => by
    have hpos : 0 < c.storedLength l := by
      rw [← length_view]
      exact List.length_pos_iff.mpr hne
    obtain ⟨page, hpage⟩ := Option.isSome_iff_exists.mp (h.backed l 0 hpos)
    have hfits := h.shaped.fits side _ _ page hpage
    change 4 * c.storage side ≤ isizeMax at hfits
    simp only [isizeMax, usizeMax] at *
    omega

/-! ### Export -/

theorem snapshotHeaderBytes_eq_some {c : PagedKvCache} {n : Nat} :
    c.snapshotHeaderBytes = some n ↔ n = 92 + 8 * c.layerCount + 32 ∧ n ≤ usizeMax := by
  have hbase : ((checkedAdd kvSnapshotMagic.length 4).bind (checkedAdd · 32)).bind
      (checkedAdd · (6 * 8)) = some 92 := rfl
  simp only [snapshotHeaderBytes, hbase, Option.bind_some, Option.bind_eq_some_iff,
    checkedMul_eq_some, checkedAdd_eq_some, kvSnapshotDigestBytes]
  constructor
  · rintro ⟨_, ⟨_, ⟨-, rfl⟩, -, rfl⟩, hle, rfl⟩
    omega
  · rintro ⟨rfl, hle⟩
    exact ⟨92 + c.layerCount * 8, ⟨c.layerCount * 8, ⟨by omega, rfl⟩, by omega, rfl⟩,
      by omega, by omega⟩

theorem snapshotPayloadBytes_eq_ok {valuesPerToken : Nat} {lengths : List Nat} {n : Nat} :
    snapshotPayloadBytes valuesPerToken lengths = .ok n ↔
      n = (lengths.map fun tokens => tokens * valuesPerToken * 4).sum ∧ n ≤ usizeMax := by
  have hfold : ∀ (lengths : List Nat) (total : Nat), total ≤ usizeMax →
      (lengths.foldlM (fun total tokens => do
        let bytes ← okOr ((checkedMul tokens valuesPerToken).bind (checkedMul · 4))
          (KvError.arithmeticOverflow "KV snapshot payload bytes")
        okOr (checkedAdd total bytes) (.arithmeticOverflow "KV snapshot payload bytes"))
        total = .ok n ↔
      n = total + (lengths.map fun tokens => tokens * valuesPerToken * 4).sum ∧ n ≤ usizeMax) := by
    intro lengths
    induction lengths with
    | nil =>
        intro total htotal
        simp only [List.foldlM_nil, List.map_nil, List.sum_nil, Nat.add_zero]
        constructor
        · intro h; cases h; exact ⟨rfl, htotal⟩
        · rintro ⟨rfl, -⟩; rfl
    | cons tokens lengths ih =>
        intro total htotal
        simp only [List.foldlM_cons, except_bind_ok_iff, okOr_eq_ok, checkedStorage_eq_some,
          checkedAdd_eq_some, List.map_cons, List.sum_cons]
        constructor
        · rintro ⟨_, ⟨_, ⟨-, -, rfl⟩, hle, rfl⟩, h⟩
          rw [ih _ hle] at h
          omega
        · rintro ⟨rfl, hle⟩
          have hsmall : tokens * valuesPerToken ≤ tokens * valuesPerToken * 4 :=
            Nat.le_mul_of_pos_right _ (by omega)
          refine ⟨total + tokens * valuesPerToken * 4, ⟨tokens * valuesPerToken * 4,
            ⟨by omega, by omega, rfl⟩, by omega, rfl⟩, ?_⟩
          rw [ih _ (by omega)]
          omega
  have h := hfold lengths 0 (Nat.zero_le _)
  rw [Nat.zero_add] at h
  exact h

theorem exportUsize_eq_ok {value : Nat} {bytes : List UInt8} :
    exportUsize value = .ok bytes ↔ value < 2 ^ 64 ∧ bytes = leBytes 8 value := by
  simp only [exportUsize, usizeToU64, except_map_ok_iff, ensure_pure_eq_ok]
  constructor
  · rintro ⟨_, ⟨h, rfl⟩, rfl⟩; exact ⟨h, rfl⟩
  · rintro ⟨h, rfl⟩; exact ⟨value, ⟨h, rfl⟩, rfl⟩

/-- The row loops of an export write the encoding of the layer. -/
theorem WellFormed.exportLayer {c : PagedKvCache} (h : c.WellFormed) (layer : Nat) :
    c.exportLayer layer = .ok (encodeLayer (c.view layer)) := by
  have hhead : ∀ token, token < c.storedLength layer → ∀ head ∈ List.range c.kvHeadCount,
      c.exportHead layer token head =
        .ok (encodeHead (c.rowOf .key layer token head, c.rowOf .value layer token head)) := by
    intro token ht head hh
    have hr : c.Readable c.view layer token head :=
      ⟨h.layer_lt ht, by rw [length_view]; exact ht, List.mem_range.mp hh⟩
    have hkey := ((h.readRow .key layer token head).resolve_right fun hn => hn.1 hr).2
    have hvalue := ((h.readRow .value layer token head).resolve_right fun hn => hn.1 hr).2
    rw [view_row hr] at hkey hvalue
    simp only [PagedKvCache.readRow] at hkey hvalue
    rw [PagedKvCache.exportHead, hkey, hvalue]
    rfl
  have htoken : ∀ token ∈ List.range (c.storedLength layer),
      c.exportToken layer token = .ok (encodeToken (c.tokenRows layer token)) := by
    intro token ht
    rw [PagedKvCache.exportToken, except_mapM_of_ok (hhead token (List.mem_range.mp ht))]
    refine congrArg Except.ok ?_
    rw [encodeToken, tokenRows, List.zip_map', List.flatMap_map, List.flatMap_def]
  rw [PagedKvCache.exportLayer, except_mapM_of_ok htoken]
  refine congrArg Except.ok ?_
  rw [encodeLayer, view, List.flatMap_map, List.flatMap_def]

theorem length_encodeRow (row : List F32) : (encodeRow row).length = row.length * 4 := by
  induction row with
  | nil => rfl
  | cons x row ih =>
      rw [encodeRow, List.flatMap_cons, List.length_append, F32.length_toLeBytes, ← encodeRow, ih,
        List.length_cons]
      omega

theorem length_encodeToken {config : KvConfig} {rows : TokenRows} (h : rows.Fits config) :
    (encodeToken rows).length =
      config.kvHeadCount * (config.keyDimension + config.valueDimension) * 4 := by
  have hzip : (rows.keys.zip rows.values).length = config.kvHeadCount := by
    rw [List.length_zip, h.keys_length, h.values_length, Nat.min_self]
  rw [encodeToken, List.flatMap_def, length_flatten_of_forall
    (d := (config.keyDimension + config.valueDimension) * 4), List.length_map, hzip, Nat.mul_assoc]
  intro bytes hb
  obtain ⟨pair, hp, rfl⟩ := List.mem_map.mp hb
  rw [encodeHead, List.length_append, length_encodeRow, length_encodeRow,
    h.key_length _ (List.of_mem_zip hp).1, h.value_length _ (List.of_mem_zip hp).2]
  omega

theorem length_encodeLayer {config : KvConfig} {tokens : List TokenRows}
    (h : ∀ rows ∈ tokens, rows.Fits config) :
    (encodeLayer tokens).length =
      tokens.length * (config.kvHeadCount * (config.keyDimension + config.valueDimension)) * 4 := by
  rw [encodeLayer, List.flatMap_def, length_flatten_of_forall
    (d := config.kvHeadCount * (config.keyDimension + config.valueDimension) * 4), List.length_map]
  · exact (Nat.mul_assoc ..).symm
  · intro bytes hb
    obtain ⟨rows, hr, rfl⟩ := List.mem_map.mp hb
    exact length_encodeToken (h rows hr)

/-- The bytes `export_snapshot` counts before it writes. -/
theorem length_encodeSnapshot {config : KvConfig} {m : AbstractKv} (sha : Sha256)
    (binding : Bytes32) (h : ∀ l, ∀ rows ∈ m l, rows.Fits config) :
    (config.encodeSnapshot sha binding m).length = 92 + 8 * config.layerCount + 32 +
      ((List.range config.layerCount).map fun l =>
        (m l).length * (config.kvHeadCount * (config.keyDimension + config.valueDimension)) *
        4).sum := by
  have hlengths : (config.encodeLengths m).length = 8 * config.layerCount := by
    rw [KvConfig.encodeLengths, List.flatMap_def, length_flatten_of_forall (d := 8),
      List.length_map, List.length_range, Nat.mul_comm]
    intro bytes hb
    obtain ⟨l, -, rfl⟩ := List.mem_map.mp hb
    exact length_leBytes 8 _
  have hrows : (config.encodeRows m).length = ((List.range config.layerCount).map fun l =>
      (m l).length * (config.kvHeadCount * (config.keyDimension + config.valueDimension)) *
      4).sum := by
    rw [KvConfig.encodeRows, List.length_flatMap]
    congr 1
    exact List.map_congr_left fun l _ => length_encodeLayer (h l)
  have hheader : (config.encodeHeader binding).length = 92 := by
    simp only [KvConfig.encodeHeader, List.length_append, length_leBytes, binding.2,
      kvSnapshotMagic, KvConfig.parameters, List.flatMap_cons, List.flatMap_nil, List.length_cons,
      List.length_nil]
  rw [KvConfig.encodeSnapshot, List.length_append, (sha _).2, KvConfig.encodePayload,
    List.length_append, List.length_append, hheader, hlengths, hrows]
  omega

theorem map_lengths_eq {c : PagedKvCache} (h : c.WellFormed) {β : Type} (f : Nat → β) :
    c.lengths.map f = (List.range c.layerCount).map fun l => f (c.view l).length := by
  refine List.ext_getElem
    (by rw [List.length_map, List.length_map, List.length_range, h.lengths_length])
    fun i hi hi' => ?_
  rw [List.length_map] at hi
  rw [List.getElem_map, List.getElem_map, List.getElem_range, length_view, storedLength_of_lt hi]

/-- `export_snapshot` answers the encoding of the committed map, exactly when its size
can be counted, fits the limit and can be reserved. -/
theorem WellFormed.exportSnapshot_eq_ok {c : PagedKvCache} (h : c.WellFormed) {sha : Sha256}
    {alloc : Allocator} {binding : Bytes32} {maximum : Nat} {bytes : List UInt8} :
    exportSnapshot sha alloc c binding maximum = .ok bytes ↔
      bytes = c.encodeSnapshot sha binding c.view ∧ maximum ≠ 0 ∧ bytes.length ≤ maximum ∧
      bytes.length ≤ usizeMax ∧ (∀ parameter ∈ c.parameters, parameter.2 < 2 ^ 64) ∧
      c.kvHeadCount * (c.keyDimension + c.valueDimension) ≤ usizeMax ∧
      tryReserve (alloc .snapshotBytes) 1 bytes.length = true := by
  have hfits : ∀ l, ∀ rows ∈ c.view l, rows.Fits c.toKvConfig :=
    fun l => (h.storable.loadable l).fits
  have hlen := length_encodeSnapshot sha binding hfits
  have hH : 0 < c.kvHeadCount :=
    h.positive ("kv_head_count", c.kvHeadCount) (by simp [KvConfig.parameters])
  have hrows : (List.range c.layerCount).mapM c.exportLayer =
      .ok ((List.range c.layerCount).map fun l => encodeLayer (c.view l)) :=
    except_mapM_of_ok fun l _ => h.exportLayer l
  have hencode : kvSnapshotMagic ++ leBytes 4 kvSnapshotVersion ++ binding.1 ++
      (c.parameters.map fun parameter => leBytes 8 parameter.2).flatten ++
      (c.lengths.map (leBytes 8)).flatten ++
      ((List.range c.layerCount).map fun l => encodeLayer (c.view l)).flatten =
      c.encodePayload binding c.view := by
    rw [map_lengths_eq h, ← List.flatMap_def, ← List.flatMap_def, ← List.flatMap_def]
    rfl
  have hsum := map_lengths_eq h fun tokens =>
    tokens * (c.kvHeadCount * (c.keyDimension + c.valueDimension)) * 4
  have hparameters := fun ps => except_mapM_eq_ok_iff (f := fun parameter : String × Nat =>
    exportUsize parameter.2) (fun _ _ => exportUsize_eq_ok) c.parameters ps
  have hlengths := fun ls => except_mapM_eq_ok_iff (f := exportUsize) (fun _ _ => exportUsize_eq_ok)
    c.lengths ls
  simp only [exportSnapshot, except_bind_ok_iff, ensure_eq_ok, okOr_eq_ok, checkedAdd_eq_some,
    checkedMul_eq_some, snapshotHeaderBytes_eq_some, snapshotPayloadBytes_eq_ok, hparameters,
    hlengths, hrows]
  constructor
  · rintro ⟨_, hmax, _, ⟨rfl, hheader⟩, _, ⟨-, rfl⟩, _, ⟨hvalues, rfl⟩, _, ⟨rfl, hpayload⟩, _,
      ⟨htotal, rfl⟩, _, hlimit, _, hreserve, _, ⟨hps, rfl⟩, _, ⟨-, rfl⟩, _, hr, hbytes⟩
    cases hr
    rw [hencode] at hbytes
    cases hbytes
    rw [hsum, ← hlen] at htotal hlimit hreserve
    exact ⟨rfl, hmax, hlimit, htotal, hps, hvalues, hreserve⟩
  · rintro ⟨rfl, hmax, hlimit, htotal, hps, hvalues, hreserve⟩
    have hdim : c.keyDimension + c.valueDimension ≤
        c.kvHeadCount * (c.keyDimension + c.valueDimension) := Nat.le_mul_of_pos_left _ hH
    have hcap := hps ("token_capacity", c.tokenCapacity) (by simp [KvConfig.parameters])
    have hls : ∀ length ∈ c.lengths, length < 2 ^ 64 := by
      intro length hl
      obtain ⟨i, hi, rfl⟩ := List.mem_iff_getElem.mp hl
      rw [← storedLength_of_lt hi]
      exact Nat.lt_of_le_of_lt (h.bounded i) hcap
    rw [hlen] at hlimit htotal hreserve
    rw [← hsum] at hlimit htotal hreserve
    refine ⟨(), hmax, _, ⟨rfl, by omega⟩, _, ⟨by omega, rfl⟩, _, ⟨hvalues, rfl⟩, _,
      ⟨rfl, by omega⟩, _, ⟨htotal, rfl⟩, (), hlimit, (), hreserve, _, ⟨hps, rfl⟩, _,
      ⟨hls, rfl⟩, _, rfl, ?_⟩
    rw [hencode]
    rfl

/-! ### Both directions -/

/-- An accepted snapshot is the encoding of the cache it restores. -/
theorem restoredCache_ok {sha : Sha256} {alloc : Allocator} {config : KvConfig} {binding : Bytes32}
    {bytes : List UInt8} {maximum : Nat} {uniform : Bool} {r : PagedKvCache}
    (hmax : maximum ≤ usizeMax)
    (h : restoredCache sha alloc config binding bytes maximum uniform = .ok r) :
    maximum ≠ 0 ∧ bytes.length ≤ maximum ∧ bytes = config.encodeSnapshot sha binding r.view ∧
      Restored config binding (config.encodePayload binding r.view) uniform r := by
  simp only [restoredCache, except_bind_ok_iff, ensure_eq_ok] at h
  obtain ⟨_, hzero, _, hlimit, _, -, _, hdigest, hpayload⟩ := h
  have hr := restorePayload_ok (by rw [List.length_take]; omega) hpayload
  rw [← hr.payload_eq]
  refine ⟨hzero, hlimit, ?_, hr⟩
  rw [KvConfig.encodeSnapshot, ← hr.payload_eq, hdigest, List.take_append_drop]

/-- What was restored is stored again as the bytes it came from. -/
theorem Restored.exportSnapshot {sha : Sha256} {config : KvConfig} {binding : Bytes32}
    {bytes payload : List UInt8} {maximum : Nat} {uniform : Bool} {r c : PagedKvCache}
    (hr : Restored config binding payload uniform r) (halike : Alike r c) (hzero : maximum ≠ 0)
    (hle : bytes.length ≤ maximum) (hslice : bytes.length ≤ isizeMax)
    (hbytes : bytes = config.encodeSnapshot sha binding r.view) :
    exportSnapshot sha (fun _ => true) c binding maximum = .ok bytes := by
  have hconfig : c.toKvConfig = config := halike.config.trans hr.config_eq
  have hkeys := hr.keys
  have hvalues := hr.values
  rw [← hconfig] at hkeys hvalues hbytes
  rw [← halike.view] at hbytes
  refine halike.right.exportSnapshot_eq_ok.mpr ⟨hbytes, hzero, hle, ?_, ?_, ?_, ?_⟩
  · simp only [isizeMax, usizeMax] at *
    omega
  · rw [hconfig]
    exact hr.parameters_lt
  · rw [Nat.mul_add]
    simp only [isizeMax, usizeMax] at *
    omega
  · apply tryReserve_eq_true.mpr
    rw [Nat.one_mul]
    exact ⟨rfl, hslice⟩

theorem restoredCache_answers (sha : Sha256) (alloc : Allocator) {config : KvConfig}
    (binding : Bytes32) {m : AbstractKv} {maximum : Nat} {uniform : Bool}
    (hm : Encodable config m uniform) (hzero : maximum ≠ 0)
    (hlimit : (config.encodeSnapshot sha binding m).length ≤ maximum) (hmax : maximum ≤ usizeMax) :
    Rebuilds alloc config m
      (restoredCache sha alloc config binding (config.encodeSnapshot sha binding m) maximum
        uniform) := by
  have hlen : (config.encodeSnapshot sha binding m).length =
      (config.encodePayload binding m).length + 32 := by
    rw [KvConfig.encodeSnapshot, List.length_append, (sha _).2]
  have hend : (config.encodeSnapshot sha binding m).length - kvSnapshotDigestBytes =
      (config.encodePayload binding m).length := by
        rw [hlen, kvSnapshotDigestBytes, Nat.add_sub_cancel]
  have htake : (config.encodeSnapshot sha binding m).take (config.encodePayload binding m).length =
      config.encodePayload binding m := List.take_left' rfl
  have hdrop : (config.encodeSnapshot sha binding m).drop (config.encodePayload binding m).length =
      (sha (config.encodePayload binding m)).1 := List.drop_left' rfl
  have hdigest : kvSnapshotDigestBytes ≤ (config.encodeSnapshot sha binding m).length := by
    rw [hlen, kvSnapshotDigestBytes]; omega
  simp only [restoredCache, hend, htake, hdrop, ensure, if_pos hzero, if_pos hlimit, if_pos hdigest,
    if_true, except_ok_bind]
  exact restorePayload_answers hm (by omega)

/-- What `export_snapshot` writes can be restored. -/
theorem WellFormed.encodable {c : PagedKvCache} (h : c.WellFormed) (uniform : Bool)
    (hparams : ∀ parameter ∈ c.parameters, parameter.2 < 2 ^ 64)
    (hvalues : c.kvHeadCount * (c.keyDimension + c.valueDimension) ≤ usizeMax)
    (huniform : uniform = true → ∀ l, l < c.layerCount → (c.view l).length = (c.view 0).length) :
    Encodable c.toKvConfig c.view uniform := by
  rw [Nat.mul_add] at hvalues
  exact ⟨h.storable, h.positive, hparams, h.rounded, by omega, by omega, huniform⟩

theorem restoreSnapshotInternal_ok {sha : Sha256} {alloc : Allocator} {binding : Bytes32}
    {bytes : List UInt8} {maximum : Nat} {uniform : Bool} {d d' : PagedKvCache} :
    restoreSnapshotInternal sha alloc binding bytes maximum uniform d = (.ok (), d') ↔
      restoredCache sha alloc d.toKvConfig binding bytes maximum uniform = .ok d' := by
  rw [restoreSnapshotInternal, Command.bind_of_ok (Command.read_run d)]
  cases h : restoredCache sha alloc d.toKvConfig binding bytes maximum uniform with
  | ok r =>
      rw [Command.bind_of_ok (Command.lift_run (.ok r) d), Command.update_run]
      simp
  | error e => simp [Command.bind_of_error (Command.lift_run (.error e) d)]

/-- A rejected snapshot leaves the destination as it was. -/
theorem restoreSnapshotInternal_error {sha : Sha256} {alloc : Allocator} {binding : Bytes32}
    {bytes : List UInt8} {maximum : Nat} {uniform : Bool} {d d' : PagedKvCache} {e : KvError}
    (h : restoreSnapshotInternal sha alloc binding bytes maximum uniform d = (.error e, d')) :
    d' = d ∧ restoredCache sha alloc d.toKvConfig binding bytes maximum uniform = .error e := by
  rw [restoreSnapshotInternal, Command.bind_of_ok (Command.read_run d)] at h
  cases hr : restoredCache sha alloc d.toKvConfig binding bytes maximum uniform with
  | ok r => rw [hr, Command.bind_of_ok (Command.lift_run (.ok r) d)] at h; cases h
  | error e' =>
      rw [hr, Command.bind_of_error (Command.lift_run (.error e') d)] at h
      cases h
      exact ⟨rfl, rfl⟩

/-- Caches a program can hold: built, changed by public calls, or restored. -/
inductive Reachable : PagedKvCache → Prop where
  | built (alloc : Allocator) (config : KvConfig) {c : PagedKvCache}
      (h : new alloc config = .ok c ∨ newLazy alloc config = .ok c) : Reachable c
  | call {c : PagedKvCache} (h : Reachable c) (op : Op) : Reachable (op.run c).2
  | restore {c : PagedKvCache} (h : Reachable c) (sha : Sha256) (alloc : Allocator)
      (binding : Bytes32) (bytes : List UInt8) (maximum : Nat) (limit : maximum ≤ usizeMax)
      (uniform : Bool) :
      Reachable (restoreSnapshotInternal sha alloc binding bytes maximum uniform c).2

theorem Reachable.wellFormed {c : PagedKvCache} (h : Reachable c) : c.WellFormed := by
  induction h with
  | built _ _ h =>
      rcases h with h | h
      · exact (newWithAllocation_wellFormed h).1
      · exact (newWithAllocation_wellFormed h).1
  | call h op ih => exact (ih.step op).1
  | @restore c h sha alloc binding bytes maximum limit uniform ih =>
      rcases hr : restoreSnapshotInternal sha alloc binding bytes maximum uniform c with ⟨r, d⟩
      cases r with
      | ok u => exact (restoredCache_ok limit (restoreSnapshotInternal_ok.mp hr)).2.2.2.wellFormed
      | error e => rw [(restoreSnapshotInternal_error hr).1]; exact ih

theorem Reachable.opened {c : PagedKvCache} (h : Reachable c) :
    ∃ d, newLazy (fun _ => true) c.toKvConfig = .ok d := by
  induction h with
  | built alloc config h =>
      rcases h with h | h
      · rw [(newWithAllocation_wellFormed h).2.1]
        exact newLazy_granted h
      · rw [(newWithAllocation_wellFormed h).2.1]
        exact newLazy_granted h
  | @call c h op ih =>
      rw [(h.wellFormed.step op).2.1]
      exact ih
  | @restore c h sha alloc binding bytes maximum limit uniform ih =>
      rcases hr : restoreSnapshotInternal sha alloc binding bytes maximum uniform c with ⟨r, d⟩
      cases r with
      | ok u =>
          rw [(restoredCache_ok limit (restoreSnapshotInternal_ok.mp hr)).2.2.2.config_eq]
          exact ih
      | error e =>
          rw [(restoreSnapshotInternal_error hr).1]
          exact ih

/-- A cache makes room for its own rows again, where everything is granted. -/
theorem WellFormed.ample {c : PagedKvCache} (h : c.WellFormed)
    (opens : ∃ d, newLazy (fun _ => true) c.toKvConfig = .ok d)
    (rows : ∀ side, 4 * (c.kvHeadCount * c.width side) ≤ isizeMax) :
    Ample (fun _ => true) c.toKvConfig c.view where
  granted := rfl
  opens := opens
  rows := rows
  pages layer hne side := by
    have hstored : 0 < c.storedLength layer := by
      rw [← length_view]
      exact List.length_pos_iff.mpr hne
    obtain ⟨page, hpage⟩ := Option.isSome_iff_exists.mp (h.backed layer 0 hstored)
    exact h.shaped.fits side _ _ page hpage

/-- The snapshot codec: exported bytes restore into any cache of the configuration with
every length and row, unless the allocator refuses, and always where everything is granted and a
token's rows are not too large to be; accepted bytes are the export of what they restore, and
rejected bytes change nothing. -/
theorem snapshot_codec (sha : Sha256) (binding : Bytes32) (maximum : Nat)
    (limit : maximum ≤ usizeMax) :
    (∀ c, Reachable c → ∀ alloc bytes, exportSnapshot sha alloc c binding maximum = .ok bytes →
      ∀ d, d.toKvConfig = c.toKvConfig → ∀ alloc',
        (∀ field elements,
          (restoreSnapshot sha alloc' binding bytes maximum d).1 ≠
          .error (.allocationFailed field elements)) ∨
        (alloc' = (fun _ => true) ∧ ∀ side, 4 * (c.kvHeadCount * c.width side) ≤ isizeMax) →
        ∃ d', restoreSnapshot sha alloc' binding bytes maximum d = (.ok (), d') ∧
          (∀ layer, d'.storedLength layer = c.storedLength layer) ∧
          ∀ side layer token head, d'.readRow side layer token head =
          c.readRow side layer token head) ∧
    (∀ alloc bytes d d', bytes.length ≤ isizeMax →
      restoreSnapshot sha alloc binding bytes maximum d = (.ok (), d') →
        exportSnapshot sha (fun _ => true) d' binding maximum = .ok bytes) ∧
    (∀ alloc bytes uniform d d' e,
      restoreSnapshotInternal sha alloc binding bytes maximum uniform d = (.error e, d') →
        d' = d) := by
  refine ⟨fun c hc alloc bytes hexport d hconfig alloc' hgranted => ?_,
    fun alloc bytes d d' hslice hrestore => ?_, fun _ _ _ _ _ _ h =>
    (restoreSnapshotInternal_error h).1⟩
  · have h := hc.wellFormed
    obtain ⟨rfl, hzero, hle, -, hparams, hvalues, -⟩ := h.exportSnapshot_eq_ok.mp hexport
    have hbuilt := restoredCache_answers sha alloc' binding
      (h.encodable false hparams hvalues (fun hf => by cases hf)) hzero hle limit
    cases hr : restoredCache sha alloc' c.toKvConfig binding
      (c.encodeSnapshot sha binding c.view) maximum false with
    | error e =>
        rw [hr] at hbuilt
        cases hbuilt with
        | refused _ hfail hscarce =>
            obtain ⟨field, elements, rfl⟩ := hfail
            rcases hgranted with hgranted | ⟨rfl, hrows⟩
            · refine absurd ?_ (hgranted field elements)
              rw [restoreSnapshot, restoreSnapshotInternal,
                Command.bind_of_ok (Command.read_run d), hconfig, hr,
                Command.bind_of_error (Command.lift_run _ d)]
            · exact absurd (h.ample hc.opened hrows) hscarce
    | ok d' =>
        rw [hr] at hbuilt
        cases hbuilt with
        | built _ hwf hconfig' hview =>
            have halike : Alike c d' := ⟨h, hwf, hconfig', hview⟩
            exact ⟨d', restoreSnapshotInternal_ok.mpr (hconfig ▸ hr), halike.storedLength,
              halike.readRow⟩
  · obtain ⟨hzero, hle, hbytes, hr⟩ :=
      restoredCache_ok limit (restoreSnapshotInternal_ok.mp hrestore)
    exact hr.exportSnapshot (.refl hr.wellFormed) hzero hle hslice hbytes

def sevens : Bytes32 := ⟨List.replicate 32 7, rfl⟩

/-- One committed token of two heads travels through a snapshot into an empty cache. -/
theorem snapshot_codec_single : ∃ fresh c bytes d',
    newLazy (fun _ => true) ⟨2, 2, 1, 1, 1, 2⟩ = .ok fresh ∧
    (Op.append (fun _ => true) 1 [⟨1⟩, ⟨2⟩] [⟨3⟩, ⟨4⟩]).run fresh = (.ok (.token 0), c) ∧
    exportSnapshot zeroSha (fun _ => true) c sevens 4096 = .ok bytes ∧
    restoreSnapshot zeroSha (fun _ => true) sevens bytes 4096 fresh = (.ok (), d') ∧
    d'.readRow .key 1 0 1 = .ok [⟨2⟩] := by
  let fresh : PagedKvCache := ⟨⟨2, 2, 1, 1, 1, 2⟩, 2, [0, 0], [[none, none], [none, none]]⟩
  let call := Op.append (fun _ => true) 1 [⟨1⟩, ⟨2⟩] [⟨3⟩, ⟨4⟩]
  have hexport : (exportSnapshot zeroSha (fun _ => true) (call.run fresh).2 sevens 4096).isOk =
      true := by decide +kernel
  obtain ⟨bytes, hbytes⟩ : ∃ bytes,
      exportSnapshot zeroSha (fun _ => true) (call.run fresh).2 sevens 4096 = .ok bytes := by
    generalize exportSnapshot zeroSha (fun _ => true) (call.run fresh).2 sevens 4096 = r at hexport
    cases r with
    | ok bytes => exact ⟨bytes, rfl⟩
    | error e => cases hexport
  have hreachable : Reachable fresh := .built (fun _ => true) ⟨2, 2, 1, 1, 1, 2⟩ (Or.inr rfl)
  have hconfig : (call.run fresh).2.toKvConfig = fresh.toKvConfig :=
    (hreachable.wellFormed.step call).2.1
  have hrows : ∀ side,
      4 * ((call.run fresh).2.kvHeadCount * (call.run fresh).2.width side) ≤ isizeMax := by
    rw [hconfig]
    rintro (_ | _) <;> decide
  obtain ⟨d', hrun, -, hrow⟩ := (snapshot_codec zeroSha sevens 4096 (by decide)).1 _
    (hreachable.call call) (fun _ => true) bytes hbytes fresh hconfig.symm (fun _ => true)
    (Or.inr ⟨rfl, hrows⟩)
  refine ⟨fresh, (call.run fresh).2, bytes, d', rfl, ?_, hbytes, hrun, ?_⟩
  · exact Prod.ext (by decide +kernel) rfl
  · exact (hrow .key 1 0 1).trans (by decide +kernel)

end PagedKvCache
end LightBridge.Kv
