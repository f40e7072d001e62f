import LightBridge.Kernels.Attention
import LightBridge.Kv.Batch
import LightBridge.Kv.SnapshotRoundTrip

/-! Attention over a batch of tokens against one call for each of its tokens. The batch reads
its newer rows from its own input where the calls read them from the cache. -/
namespace LightBridge.Kernels
open Foundation Kv

/-- The slices of one token. -/
def AttentionInput.token (config : KvConfig) (input : AttentionInput) (token : Nat) :
    AttentionInput where
  tokenCount := 1
  queryHeadCount := input.queryHeadCount
  queries := slice input.queries (token * (input.queryHeadCount * config.keyDimension))
    (input.queryHeadCount * config.keyDimension)
  keys := slice input.keys (token * (config.kvHeadCount * config.keyDimension))
    (config.kvHeadCount * config.keyDimension)
  values := slice input.values (token * (config.kvHeadCount * config.valueDimension))
    (config.kvHeadCount * config.valueDimension)

/-- The slices of the tokens after the first. -/
def AttentionInput.rest (config : KvConfig) (input : AttentionInput) : AttentionInput where
  tokenCount := input.tokenCount - 1
  queryHeadCount := input.queryHeadCount
  queries := input.queries.drop (input.queryHeadCount * config.keyDimension)
  keys := input.keys.drop (config.kvHeadCount * config.keyDimension)
  values := input.values.drop (config.kvHeadCount * config.valueDimension)

/-- The calls that `validate_call` lets through, where `base` tokens are stored. -/
structure Attendable (config : KvConfig) (input : AttentionInput) (outputLength : Nat)
    (scratch : AttentionScratch) (base : Nat) : Prop where
  positive : 0 < input.tokenCount
  heads : 0 < input.queryHeadCount
  grouped : input.queryHeadCount % config.kvHeadCount = 0
  queryRows : input.tokenCount * input.queryHeadCount ≤ usizeMax
  kvRows : input.tokenCount * config.kvHeadCount ≤ usizeMax
  queriesCount : input.queries.length ≤ usizeMax
  keysCount : input.keys.length ≤ usizeMax
  valuesCount : input.values.length ≤ usizeMax
  outputCount : outputLength ≤ usizeMax
  queries : input.queries.length = input.tokenCount * input.queryHeadCount * config.keyDimension
  keys : input.keys.length = input.tokenCount * config.kvHeadCount * config.keyDimension
  values : input.values.length = input.tokenCount * config.kvHeadCount * config.valueDimension
  output : outputLength = input.tokenCount * input.queryHeadCount * config.valueDimension
  queriesFinite : ∀ value ∈ input.queries, value.isFinite = true
  keysFinite : ∀ value ∈ input.keys, value.isFinite = true
  valuesFinite : ∀ value ∈ input.values, value.isFinite = true
  counted : base + input.tokenCount ≤ usizeMax
  room : base + input.tokenCount ≤ config.tokenCapacity
  scores : base + input.tokenCount ≤ scratch.scores
  staging : outputLength ≤ scratch.output

theorem validateAttention_eq_ok {config : KvConfig} {layer : Nat} {input : AttentionInput}
    {outputLength : Nat} {scratch : AttentionScratch} {stored : Except KvError Nat} {base : Nat} :
    validateAttention config layer input outputLength scratch stored = .ok base ↔
      stored = .ok base ∧ Attendable config input outputLength scratch base := by
  unfold validateAttention validateAttentionLengths checkedVolume requireEqual
  simp only [except_bind_ok_iff, ensure_eq_ok, okOr_eq_ok, checkedStorage_eq_some,
    checkedAdd_eq_some, wrap_eq_ok, validateFiniteSlice_eq_ok]
  constructor
  · rintro ⟨b, hstored, _, hpositive, _, ⟨hheads, hgrouped⟩, n,
      ⟨_, ⟨hqr, hq, rfl⟩, _, ⟨hkr, hk, rfl⟩, _, ⟨-, hv, rfl⟩, _, ⟨-, ho, rfl⟩, _, hql, _, hkl, _,
      hvl, _, hol, hn⟩, _, hqf, _, hkf, _, hvf, _, ⟨hcounted, rfl⟩, _, hroom, _, hscores, _,
      hstaging, hb⟩
    cases hn
    cases hb
    refine ⟨hstored,
      ⟨Nat.pos_of_ne_zero hpositive, Nat.pos_of_ne_zero hheads, hgrouped, hqr, hkr, hql ▸ hq,
      hkl ▸ hk, hvl ▸ hv, hol ▸ ho, hql.symm, hkl.symm, hvl.symm, hol.symm, hqf, hkf, hvf, hcounted,
      hroom, hscores, ?_⟩⟩
    rwa [← hol]
  · rintro ⟨hstored, h⟩
    have hq := h.queriesCount
    have hk := h.keysCount
    have hv := h.valuesCount
    have ho := h.outputCount
    have hstaging := h.staging
    rw [h.queries] at hq
    rw [h.keys] at hk
    rw [h.values] at hv
    rw [h.output] at ho hstaging
    exact ⟨base, hstored, (), Nat.ne_of_gt h.positive, (), ⟨Nat.ne_of_gt h.heads, h.grouped⟩, _,
      ⟨_, ⟨h.queryRows, hq, rfl⟩, _, ⟨h.kvRows, hk, rfl⟩, _, ⟨h.kvRows, hv, rfl⟩, _,
      ⟨h.queryRows, ho, rfl⟩, (), h.queries.symm, (), h.keys.symm, (), h.values.symm, (),
      h.output.symm, rfl⟩, (), h.queriesFinite, (), h.keysFinite, (), h.valuesFinite, _,
      ⟨h.counted, rfl⟩, (), h.room, (), h.scores, (), hstaging, rfl⟩

theorem mem_slice {xs : List F32} {start length : Nat} {x : F32}
    (h : x ∈ slice xs start length) : x ∈ xs :=
  List.mem_of_mem_drop (List.mem_of_mem_take h)

/-- A batch that passes lets its first token pass alone. -/
theorem Attendable.first {config : KvConfig} {input : AttentionInput} {outputLength : Nat}
    {scratch : AttentionScratch} {base : Nat}
    (h : Attendable config input outputLength scratch base) :
    Attendable config (input.token config 0) (input.queryHeadCount * config.valueDimension) scratch
      base := by
  have hone : ∀ heads width, 0 * (heads * width) + heads * width ≤
      input.tokenCount * heads * width := by
    intro heads width
    rw [Nat.zero_mul, Nat.zero_add, Nat.mul_assoc]
    exact Nat.le_mul_of_pos_left _ h.positive
  have hsingle : ∀ heads width, heads * width = 1 * heads * width := by
    intro heads width
    rw [Nat.one_mul]
  have hrows : ∀ heads, 1 * heads ≤ input.tokenCount * heads :=
    fun heads => Nat.mul_le_mul_right heads h.positive
  have hqueries := hone input.queryHeadCount config.keyDimension
  have hkeys := hone config.kvHeadCount config.keyDimension
  have hvalues := hone config.kvHeadCount config.valueDimension
  have houtput := hone input.queryHeadCount config.valueDimension
  rw [← h.queries] at hqueries
  rw [← h.keys] at hkeys
  rw [← h.values] at hvalues
  rw [← h.output] at houtput
  have hqlen := length_slice hqueries
  have hklen := length_slice hkeys
  have hvlen := length_slice hvalues
  have hq := h.queriesCount
  have hk := h.keysCount
  have hv := h.valuesCount
  have ho := h.outputCount
  have hpositive := h.positive
  have hcounted := h.counted
  have hroom := h.room
  have hscores := h.scores
  have hstaging := h.staging
  refine { positive := Nat.one_pos, heads := h.heads, grouped := h.grouped
           queryRows := (hrows _).trans h.queryRows, kvRows := (hrows _).trans h.kvRows
           queriesCount := ?_, keysCount := ?_, valuesCount := ?_, outputCount := by omega
           queries := ?_, keys := ?_, values := ?_, output := ?_
           queriesFinite := fun value hmem => h.queriesFinite value (mem_slice hmem)
           keysFinite := fun value hmem => h.keysFinite value (mem_slice hmem)
           valuesFinite := fun value hmem => h.valuesFinite value (mem_slice hmem)
           counted := ?_, room := ?_, scores := ?_, staging := by omega }
  · change (slice _ _ _).length ≤ _
    omega
  · change (slice _ _ _).length ≤ _
    omega
  · change (slice _ _ _).length ≤ _
    omega
  · exact hqlen.trans (hsingle _ _)
  · exact hklen.trans (hsingle _ _)
  · exact hvlen.trans (hsingle _ _)
  · exact congrArg (· * _) (Nat.one_mul _).symm
  · change base + 1 ≤ _
    omega
  · change base + 1 ≤ _
    omega
  · change base + 1 ≤ _
    omega

/-- And it lets the others pass once the first is stored. -/
theorem Attendable.rest {config : KvConfig} {input : AttentionInput} {outputLength : Nat}
    {scratch : AttentionScratch} {base count : Nat}
    (h : Attendable config input outputLength scratch base) (hcount : input.tokenCount = count + 1)
    (hpos : 0 < count) :
    Attendable config (input.rest config)
      (outputLength - input.queryHeadCount * config.valueDimension) scratch (base + 1) := by
  have htokens : (input.rest config).tokenCount = count := by
    change input.tokenCount - 1 = count
    rw [hcount, Nat.add_sub_cancel]
  have hlast : ∀ heads width, input.tokenCount * heads * width - heads * width =
      count * heads * width := by
    intro heads width
    rw [hcount, Nat.mul_assoc, Nat.succ_mul, Nat.add_sub_cancel, Nat.mul_assoc]
  have hrows : ∀ heads, count * heads ≤ input.tokenCount * heads := by
    intro heads
    rw [hcount]
    exact Nat.mul_le_mul_right heads (Nat.le_succ count)
  have hq := h.queriesCount
  have hk := h.keysCount
  have hv := h.valuesCount
  have ho := h.outputCount
  have hcounted := h.counted
  have hroom := h.room
  have hscores := h.scores
  have hstaging := h.staging
  refine { positive := htokens ▸ hpos, heads := h.heads, grouped := h.grouped
           queryRows := htokens ▸ (hrows _).trans h.queryRows,
           kvRows := htokens ▸ (hrows _).trans h.kvRows
           queriesCount := ?_, keysCount := ?_, valuesCount := ?_, outputCount := by omega
           queries := ?_, keys := ?_, values := ?_, output := ?_
           queriesFinite := fun value hmem => h.queriesFinite value (List.mem_of_mem_drop hmem)
           keysFinite := fun value hmem => h.keysFinite value (List.mem_of_mem_drop hmem)
           valuesFinite := fun value hmem => h.valuesFinite value (List.mem_of_mem_drop hmem)
           counted := ?_, room := ?_, scores := ?_, staging := by omega }
  · change (input.queries.drop _).length ≤ _
    rw [List.length_drop]
    omega
  · change (input.keys.drop _).length ≤ _
    rw [List.length_drop]
    omega
  · change (input.values.drop _).length ≤ _
    rw [List.length_drop]
    omega
  · rw [htokens]
    change (input.queries.drop _).length = _
    rw [List.length_drop, h.queries]
    exact hlast _ _
  · rw [htokens]
    change (input.keys.drop _).length = _
    rw [List.length_drop, h.keys]
    exact hlast _ _
  · rw [htokens]
    change (input.values.drop _).length = _
    rw [List.length_drop, h.values]
    exact hlast _ _
  · rw [htokens, h.output]
    exact hlast _ _
  · rw [htokens]
    omega
  · rw [htokens]
    omega
  · rw [htokens]
    omega

/-! ### Rows -/

/-- Two calls that look at the same query and the same rows for a token. -/
structure SameRows (config : KvConfig) (read read' : RowReader) (input input' : AttentionInput)
    (base base' token token' : Nat) : Prop where
  heads : input'.queryHeadCount = input.queryHeadCount
  last : base' + token' = base + token
  query : ∀ queryHead, queryHead < input.queryHeadCount →
    slice input'.queries ((token' * input.queryHeadCount + queryHead) * config.keyDimension)
      config.keyDimension =
      slice input.queries ((token * input.queryHeadCount + queryHead) * config.keyDimension)
        config.keyDimension
  rows : ∀ side source kvHead, source ≤ base + token → kvHead < config.kvHeadCount →
    sourceLane config read' input' base' side source kvHead =
      sourceLane config read input base side source kvHead

/-- What answers keeps answering the same. -/
theorem except_mapM_mono {α β ε : Type} {f g : α → Except ε β} {xs : List α} {ys : List β}
    (h : ∀ x ∈ xs, ∀ y, f x = .ok y → g x = .ok y) (hf : xs.mapM f = .ok ys) :
    xs.mapM g = .ok ys := by
  induction xs generalizing ys with
  | nil => exact hf
  | cons x xs ih =>
      rw [List.mapM_cons] at hf ⊢
      obtain ⟨y, hy, hf⟩ := except_bind_ok_iff.mp hf
      obtain ⟨rest, hrest, hf⟩ := except_bind_ok_iff.mp hf
      rw [h x List.mem_cons_self y hy, ih (fun z hz => h z (List.mem_cons_of_mem x hz)) hrest]
      exact hf

theorem foldlM_congr {α β ε : Type} {f g : β → α → Except ε β} {xs : List α}
    (h : ∀ x ∈ xs, ∀ b, f b x = g b x) (b : β) :
    xs.foldlM f b = xs.foldlM g b := by
  induction xs generalizing b with
  | nil => rfl
  | cons x xs ih =>
      rw [List.foldlM_cons, List.foldlM_cons, h x List.mem_cons_self b]
      cases g b x with
      | error e => rfl
      | ok b' => exact ih (fun y hy => h y (List.mem_cons_of_mem x hy)) b'

variable {N : Numerics} {config : KvConfig} {read read' : RowReader} {input input' : AttentionInput}
  {base base' token token' : Nat}

/-- One lane is computed alike; only the index in an error differs. -/
theorem SameRows.attendLane (h : SameRows config read read' input input' base base' token token')
    {kvHead : Nat} (hkv : kvHead < config.kvHeadCount) {exponentials : List F32}
    (hcount : exponentials.length ≤ base + token + 1) (denominator : F32)
    (destination destination' lane : Nat) {value : F32}
    (hv : Kernels.attendLane N config read input base kvHead exponentials denominator destination
      lane = .ok value) :
    Kernels.attendLane N config read' input' base' kvHead exponentials denominator destination'
      lane = .ok value := by
  obtain ⟨attended, hattended, hv⟩ := except_bind_ok_iff.mp hv
  obtain ⟨_, hfinite, hv⟩ := except_bind_ok_iff.mp hv
  refine except_bind_ok_iff.mpr ⟨attended, ?_, except_bind_ok_iff.mpr ⟨(), ?_, hv⟩⟩
  · rw [← hattended]
    apply foldlM_congr
    rintro ⟨unnormalized, source⟩ hentry sum
    have hindex : source < 0 + exponentials.length := List.snd_lt_add_of_mem_zipIdx hentry
    dsimp only
    rw [h.rows .value source kvHead (by omega) hkv]
  · exact ensure_eq_ok.mpr (ensure_eq_ok.mp hfinite)

theorem SameRows.attendHead (h : SameRows config read read' input input' base base' token token')
    (hgrouped : input.queryHeadCount % config.kvHeadCount = 0) {queryHead : Nat}
    (hhead : queryHead < input.queryHeadCount) {lanes : List F32}
    (hl : Kernels.attendHead N config read input base token queryHead = .ok lanes) :
    Kernels.attendHead N config read' input' base' token' queryHead = .ok lanes := by
  unfold Kernels.attendHead at hl ⊢
  dsimp only at hl ⊢
  rw [h.heads, h.last, h.query queryHead hhead]
  have hkv : queryHead / (input.queryHeadCount / config.kvHeadCount) < config.kvHeadCount := by
    have hexact : config.kvHeadCount * (input.queryHeadCount / config.kvHeadCount) =
        input.queryHeadCount :=
      Nat.mul_div_cancel' (Nat.dvd_of_mod_eq_zero hgrouped)
    apply Nat.div_lt_of_lt_mul
    rw [Nat.mul_comm, hexact]
    exact hhead
  have hscores : (List.range (base + token + 1)).mapM (attentionScore N config read' input' base'
        (queryHead / (input.queryHeadCount / config.kvHeadCount))
        (slice input.queries ((token * input.queryHeadCount + queryHead) * config.keyDimension)
          config.keyDimension)) =
      (List.range (base + token + 1)).mapM (attentionScore N config read input base
        (queryHead / (input.queryHeadCount / config.kvHeadCount))
        (slice input.queries ((token * input.queryHeadCount + queryHead) * config.keyDimension)
          config.keyDimension)) := by
    apply except_mapM_congr
    intro source hsource
    unfold attentionScore
    rw [h.rows .key source _ (Nat.le_of_lt_succ (List.mem_range.mp hsource)) hkv]
  obtain ⟨scores, hrun, hl⟩ := except_bind_ok_iff.mp hl
  obtain ⟨_, hfinite, hl⟩ := except_bind_ok_iff.mp hl
  have hcount : scores.length = base + token + 1 := by
    rw [← (except_mapM_ok_iff.mp hrun).length_eq, List.length_range]
  refine except_bind_ok_iff.mpr ⟨scores, hscores.trans hrun,
    except_bind_ok_iff.mpr ⟨(), hfinite, ?_⟩⟩
  refine except_mapM_mono (fun lane _ value hvalue => ?_) hl
  exact h.attendLane hkv (by rw [List.length_map]; omega) _ _ _ lane hvalue

/-- One token of `attend`. -/
def attendRow (N : Numerics) (config : KvConfig) (read : RowReader) (input : AttentionInput)
    (baseToken token : Nat) :
    Except KernelError (List F32) := do
  let heads ← (List.range input.queryHeadCount).mapM
    (attendHead N config read input baseToken token)
  pure heads.flatten

theorem SameRows.attendRow (h : SameRows config read read' input input' base base' token token')
    (hgrouped : input.queryHeadCount % config.kvHeadCount = 0) {row : List F32}
    (hrow : Kernels.attendRow N config read input base token = .ok row) :
    Kernels.attendRow N config read' input' base' token' = .ok row := by
  obtain ⟨heads, hheads, hrow⟩ := except_bind_ok_iff.mp hrow
  unfold Kernels.attendRow
  rw [h.heads]
  refine except_bind_ok_iff.mpr ⟨heads, ?_, hrow⟩
  apply except_mapM_mono _ hheads
  intro queryHead hmem lanes hlanes
  exact h.attendHead hgrouped (List.mem_range.mp hmem) hlanes

theorem attend_eq_ok {output : List F32} : attend N config read input base = .ok output ↔
    ∃ rows, (List.range input.tokenCount).mapM (attendRow N config read input base) = .ok rows ∧
      rows.flatten = output := by
  unfold attend attendRow
  rw [except_bind_ok_iff]
  constructor
  · rintro ⟨rows, hrows, h⟩
    cases h
    exact ⟨rows, hrows, rfl⟩
  · rintro ⟨rows, hrows, rfl⟩
    exact ⟨rows, hrows, rfl⟩

theorem storedTokens_eq_ok {c : PagedKvCache} {layer base : Nat} :
    c.storedTokens layer = .ok base ↔ layer < c.layerCount ∧ base = c.storedLength layer := by
  unfold PagedKvCache.storedTokens PagedKvCache.validateLayer
  simp only [except_bind_ok_iff, ensure_eq_ok]
  constructor
  · rintro ⟨_, hlayer, h⟩
    cases h
    exact ⟨hlayer, rfl⟩
  · rintro ⟨hlayer, rfl⟩
    exact ⟨(), hlayer, rfl⟩

variable {layer outputLength : Nat} {scratch : AttentionScratch} {alloc : Allocator}
    {c c' : PagedKvCache} {output : List F32}

theorem causalGqaAttention_eq_ok :
    causalGqaAttention N alloc layer input outputLength scratch c = (.ok output, c') ↔
      layer < c.layerCount ∧ Attendable c.toKvConfig input outputLength scratch
        (c.storedLength layer) ∧
      attend N c.toKvConfig (fun side => c.readRow side layer) input (c.storedLength layer) =
      .ok output ∧
      PagedKvCache.appendTokens alloc layer input.tokenCount input.keys input.values c =
      (.ok (), c') := by
  unfold causalGqaAttention
  rw [Command.bind_of_ok (Command.read_run c)]
  constructor
  · intro h
    obtain ⟨base, _, hbase, hafter⟩ := Command.bind_ok_iff.mp h
    obtain ⟨hvalid, rfl⟩ := Prod.mk.inj hbase
    obtain ⟨answer, _, hanswer, hlast⟩ := Command.bind_ok_iff.mp hafter
    obtain ⟨hattend, rfl⟩ := Prod.mk.inj hanswer
    obtain ⟨_, d, happend, hpure⟩ := Command.bind_ok_iff.mp hlast
    obtain ⟨hstored, hcall⟩ := validateAttention_eq_ok.mp hvalid
    obtain ⟨hlayer, rfl⟩ := storedTokens_eq_ok.mp hstored
    cases hpure
    refine ⟨hlayer, hcall, hattend, ?_⟩
    unfold Command.mapError at happend
    cases hrun : PagedKvCache.appendTokens alloc layer input.tokenCount input.keys
      input.values c with
    | mk result last =>
        rw [hrun] at happend
        cases result with
        | error e => cases happend
        | ok u => exact Prod.ext rfl (Prod.mk.inj happend).2
  · rintro ⟨hlayer, hcall, hattend, happend⟩
    have hvalid : validateAttention c.toKvConfig layer input outputLength scratch
        (c.storedTokens layer) = .ok (c.storedLength layer) :=
          validateAttention_eq_ok.mpr ⟨storedTokens_eq_ok.mpr ⟨hlayer, rfl⟩, hcall⟩
    rw [hvalid, Command.bind_of_ok (Command.lift_run (.ok _) c), hattend,
      Command.bind_of_ok (Command.lift_run (.ok _) c),
      Command.bind_of_ok (Command.mapError_of_ok happend)]
    rfl

/-- A call looks at no stored row from its own position on: two readers that agree on the rows in
front of it make it answer the same. -/
theorem attend_window (grouped : input.queryHeadCount % config.kvHeadCount = 0)
    (same : ∀ side source kvHead, source < base → kvHead < config.kvHeadCount →
      read' side source kvHead = read side source kvHead) {output : List F32} :
    attend N config read input base = .ok output ↔
      attend N config read' input base = .ok output := by
  have hrows (token : Nat) : SameRows config read read' input input base base token token := by
    refine ⟨rfl, rfl, fun _ _ => rfl, fun side source kvHead _ hkv => ?_⟩
    unfold sourceLane
    split
    · rename_i hstored
      rw [same side source kvHead hstored hkv]
    · rfl
  have hback (token : Nat) : SameRows config read' read input input base base token token :=
    ⟨rfl, rfl, fun _ _ => rfl, fun side source kvHead hsource hkv =>
      ((hrows token).rows side source kvHead hsource hkv).symm⟩
  rw [attend_eq_ok, attend_eq_ok]
  constructor
  · rintro ⟨rows, hmap, hflat⟩
    exact ⟨rows, except_mapM_mono (fun token _ _ => (hrows token).attendRow grouped) hmap, hflat⟩
  · rintro ⟨rows, hmap, hflat⟩
    exact ⟨rows, except_mapM_mono (fun token _ _ => (hback token).attendRow grouped) hmap, hflat⟩

end LightBridge.Kernels
