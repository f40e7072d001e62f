import LightBridge.Kv.Alike
import LightBridge.Kv.Snapshot

/-! The snapshot format as one encoding of the committed map, and the two readers and
the writer as its decoder and encoder. -/
namespace LightBridge
open Foundation

namespace F32

theorem fromBits_toNat (x : F32) : fromBits x.toBits.toNat = x := by
  cases x
  simp [fromBits]

theorem toNat_fromBits {bits : Nat} (h : bits < 2 ^ 32) : (fromBits bits).toBits.toNat = bits := by
  simp only [fromBits, BitVec.toNat_ofNat]
  exact Nat.mod_eq_of_lt h

@[simp] theorem length_toLeBytes (x : F32) : x.toLeBytes.length = 4 := length_leBytes 4 _

end F32

namespace Kv

def encodeRow (row : List F32) : List UInt8 := row.flatMap F32.toLeBytes

def encodeHead (rows : List F32 × List F32) : List UInt8 := encodeRow rows.1 ++ encodeRow rows.2

def encodeToken (rows : TokenRows) : List UInt8 := (rows.keys.zip rows.values).flatMap encodeHead

def encodeLayer (tokens : List TokenRows) : List UInt8 := tokens.flatMap encodeToken

/-- Magic, version, binding and configuration. -/
def KvConfig.encodeHeader (config : KvConfig) (binding : Bytes32) : List UInt8 :=
  kvSnapshotMagic ++ leBytes 4 kvSnapshotVersion ++ binding.1 ++
    config.parameters.flatMap fun parameter => leBytes 8 parameter.2

def KvConfig.encodeLengths (config : KvConfig) (m : AbstractKv) : List UInt8 :=
  (List.range config.layerCount).flatMap fun layer => leBytes 8 (m layer).length

def KvConfig.encodeRows (config : KvConfig) (m : AbstractKv) : List UInt8 :=
  (List.range config.layerCount).flatMap fun layer => encodeLayer (m layer)

def KvConfig.encodePayload (config : KvConfig) (binding : Bytes32) (m : AbstractKv) : List UInt8 :=
  config.encodeHeader binding ++ config.encodeLengths m ++ config.encodeRows m

/-- The snapshot of a committed map. -/
def KvConfig.encodeSnapshot (config : KvConfig) (sha : Sha256) (binding : Bytes32)
    (m : AbstractKv) :
    List UInt8 :=
  config.encodePayload binding m ++ (sha (config.encodePayload binding m)).1

/-- Token rows of the configured shape. -/
structure TokenRows.Fits (config : KvConfig) (rows : TokenRows) : Prop where
  keys_length : rows.keys.length = config.kvHeadCount
  values_length : rows.values.length = config.kvHeadCount
  key_length : ∀ row ∈ rows.keys, row.length = config.keyDimension
  value_length : ∀ row ∈ rows.values, row.length = config.valueDimension

namespace TokenRows

variable {config : KvConfig} {rows : TokenRows}

theorem Fits.length_keys (h : rows.Fits config) :
    rows.keys.flatten.length = config.kvHeadCount * config.keyDimension := by
  rw [length_flatten_of_forall h.key_length, h.keys_length]

theorem Fits.length_values (h : rows.Fits config) :
    rows.values.flatten.length = config.kvHeadCount * config.valueDimension := by
  rw [length_flatten_of_forall h.value_length, h.values_length]

/-- Flattened rows appended as one token are that token. -/
theorem Fits.rowsOf_flatten (h : rows.Fits config) :
    config.rowsOf 1 rows.keys.flatten rows.values.flatten = [rows] := by
  have hkeys : (List.range config.kvHeadCount).map
      (PagedKvCache.sourceKey config rows.keys.flatten 0) = rows.keys := by
    refine List.ext_getElem (by rw [List.length_map, List.length_range, h.keys_length])
      fun i hi hi' => ?_
    rw [List.getElem_map, List.getElem_range, PagedKvCache.sourceKey, Nat.zero_mul, Nat.zero_add]
    exact slice_flatten h.key_length hi'
  have hvalues : (List.range config.kvHeadCount).map
      (PagedKvCache.sourceValue config rows.values.flatten 0) = rows.values := by
    refine List.ext_getElem (by rw [List.length_map, List.length_range, h.values_length])
      fun i hi hi' => ?_
    rw [List.getElem_map, List.getElem_range, PagedKvCache.sourceValue, Nat.zero_mul, Nat.zero_add]
    exact slice_flatten h.value_length hi'
  simp only [KvConfig.rowsOf, List.range_one, List.map_cons, List.map_nil, hkeys, hvalues]

end TokenRows

/-! ### Exact readers -/

section Readers
open Cursor PagedKvCache

theorem exact_u32 : Exact usizeMax SnapshotCursor.u32 (leBytes 4) (· < 2 ^ 32) :=
  exact_number usizeMax _ _ 4

theorem exact_u64 : Exact usizeMax SnapshotCursor.u64 (leBytes 8) (· < 2 ^ 64) :=
  exact_number usizeMax _ _ 8

theorem exact_f32 : Exact usizeMax SnapshotCursor.f32 F32.toLeBytes (fun _ => True) := by
  have h := exact_u32.check (Q := fun _ => True) (fun bits => .ok (F32.fromBits bits))
    F32.fromBits (fun x => x.toBits.toNat) (fun a b => by simp [eq_comm])
    (fun bits hbits _ => F32.toNat_fromBits hbits)
  exact h.congr (fun x => by simp [F32.fromBits_toNat, x.toBits.isLt]) fun _ _ => rfl

theorem exact_readUsize : Exact usizeMax readUsize (leBytes 8) (· < 2 ^ 64) := by
  have h := exact_u64.check (Q := fun value => value ≤ usizeMax) u64ToUsize id id
    (fun _ _ => ensure_pure_eq_ok) (fun _ _ _ => rfl)
  refine h.congr (fun n => ?_) fun _ _ => rfl
  simp only [id, and_true, usizeMax]
  omega

theorem exact_readMagic :
    Exact usizeMax readMagic (fun _ => kvSnapshotMagic) (fun _ => True) := by
  have h :=
    (exact_take usizeMax (.arithmeticOverflow "KV snapshot cursor") KvError.snapshotTruncated
    kvSnapshotMagic.length).check (Q := fun bytes => bytes = kvSnapshotMagic)
    (fun bytes => ensure (bytes = kvSnapshotMagic) .snapshotMagic) (fun _ => ())
    (fun _ => kvSnapshotMagic) (fun a b => by simp) (fun _ _ h => h.symm)
  exact h.congr (fun _ => by simp) fun _ _ => rfl

theorem exact_readVersion :
    Exact usizeMax readVersion (fun _ => leBytes 4 kvSnapshotVersion) (fun _ => True) := by
  have h := exact_u32.check (Q := fun version => version = kvSnapshotVersion)
    (fun version => ensure (version = kvSnapshotVersion)
      (KvError.snapshotVersion kvSnapshotVersion version)) (fun _ => ())
    (fun _ => kvSnapshotVersion) (fun a b => by simp) (fun _ _ h => h.symm)
  exact h.congr (fun _ => by simp [kvSnapshotVersion]) fun _ _ => rfl

theorem exact_readBinding (binding : Bytes32) :
    Exact usizeMax (readBinding binding) (fun _ => binding.1) (fun _ => True) := by
  have h :=
    (exact_take usizeMax (.arithmeticOverflow "KV snapshot cursor") KvError.snapshotTruncated
    32).check (Q := fun bytes => bytes = binding.1)
    (fun bytes => ensure (bytes = binding.1) .snapshotBinding) (fun _ => ())
    (fun _ => binding.1) (fun a b => by simp) (fun _ _ h => h.symm)
  exact h.congr (fun _ => by simp [binding.2]) fun _ _ => rfl

theorem exact_readParameter (parameter : String × Nat) :
    Exact usizeMax (readParameter parameter) (fun _ => leBytes 8 parameter.2)
      (fun _ => parameter.2 < 2 ^ 64) := by
  have h := exact_readUsize.check (Q := fun actual => actual = parameter.2)
    (fun actual => ensure (actual = parameter.2)
      (KvError.snapshotConfiguration parameter.1 parameter.2 actual)) (fun _ => ())
    (fun _ => parameter.2) (fun a b => by simp) (fun _ _ h => h.symm)
  exact h.congr (fun _ => by simp) fun _ _ => rfl

theorem exact_readParameters (parameters : List (String × Nat)) :
    Exact usizeMax (readParameters parameters)
      (fun _ => parameters.flatMap fun parameter => leBytes 8 parameter.2)
      (fun _ => ∀ parameter ∈ parameters, parameter.2 < 2 ^ 64) := by
  induction parameters with
  | nil => exact (Exact.pure usizeMax ()).congr (fun _ => by simp) fun _ _ => rfl
  | cons parameter parameters ih =>
      have h := (exact_readParameter parameter).bind (fun _ => ()) (fun _ _ => ih)
          (fun _ _ _ => rfl)
      exact h.congr (fun _ => by simp) fun _ _ => by rw [List.flatMap_cons]

theorem exact_readHeader (config : KvConfig) (binding : Bytes32) :
    Exact usizeMax (readHeader config binding) (fun _ => config.encodeHeader binding)
      (fun _ => ∀ parameter ∈ config.parameters, parameter.2 < 2 ^ 64) := by
  have h := exact_readMagic.bind (fun _ => ()) (fun _ _ => exact_readVersion.bind (fun _ => ())
    (fun _ _ => (exact_readBinding binding).bind (fun _ => ())
      (fun _ _ => exact_readParameters config.parameters) fun _ _ _ => rfl) fun _ _ _ => rfl)
    fun _ _ _ => rfl
  exact h.congr (fun _ => by simp only [true_and]) fun _ _ => by
    simp only [KvConfig.encodeHeader, List.append_assoc]

theorem exact_readLength (config : KvConfig) (layer : Nat) :
    Exact usizeMax (readLength config layer) (leBytes 8)
      (fun length => length < 2 ^ 64 ∧ length ≤ config.tokenCapacity) := by
  have h := exact_readUsize.check (Q := fun length => length ≤ config.tokenCapacity)
    (fun length => (do
      ensure (length ≤ config.tokenCapacity)
        (.capacityExhausted layer 0 length config.tokenCapacity)
      pure length : Except KvError Nat)) id id
    (fun _ _ => ensure_pure_eq_ok) (fun _ _ _ => rfl)
  exact h.congr (fun _ => by simp) fun _ _ => rfl

theorem exact_readHead (config : KvConfig) :
    Exact usizeMax (readHead config) encodeHead
      (fun rows => rows.1.length = config.keyDimension ∧
        rows.2.length = config.valueDimension) := by
  have hrow := fun n => Exact.collect (fun _ => exact_f32) 0 n
  have hrest : ∀ key : List F32, Exact usizeMax
      (Command.collect (fun _ => SnapshotCursor.f32) 0 config.valueDimension >>= fun value =>
        pure (key, value)) (fun rows => encodeRow rows.2)
      (fun rows => rows.1 = key ∧ rows.2.length = config.valueDimension) := fun key =>
    ((hrow config.valueDimension).bind Prod.snd (fun value _ => Exact.pure usizeMax (key, value))
      (fun value rows h => by rw [h])).congr
        (fun rows => by
          obtain ⟨a, b⟩ := rows
          simp only [implies_true, and_true, Prod.mk.injEq]
          exact and_comm)
        fun rows _ => by rw [List.append_nil]; rfl
  have h := (hrow config.keyDimension).bind Prod.fst (fun key _ => hrest key)
      (fun key rows h => h.1)
  exact h.congr (fun rows => by simp) fun _ _ => rfl

theorem exact_readToken (config : KvConfig) :
    Exact usizeMax (readToken config) encodeToken (fun rows => rows.Fits config) := by
  have hheads := Exact.collect (fun _ => exact_readHead config) 0 config.kvHeadCount
  have h := hheads.check (Q := fun _ => True)
    (fun heads => .ok ({ keys := heads.map Prod.fst, values := heads.map Prod.snd } : TokenRows))
    (fun heads => { keys := heads.map Prod.fst, values := heads.map Prod.snd })
    (fun rows => rows.keys.zip rows.values) (fun a b => by simp [eq_comm])
    (fun heads _ _ => (List.zip_of_prod rfl rfl).symm)
  refine h.congr (fun rows => ?_) fun _ _ => rfl
  obtain ⟨keys, values⟩ := rows
  simp only [List.length_zip, true_and, TokenRows.mk.injEq]
  constructor
  · rintro ⟨⟨hlen, hall⟩, hk, hv⟩
    have hkl := congrArg List.length hk
    have hvl := congrArg List.length hv
    simp only [List.length_map, List.length_zip] at hkl hvl
    refine ⟨hkl.symm.trans hlen, hvl.symm.trans hlen, fun row hr => ?_, fun row hr => ?_⟩
    · rw [← hk] at hr
      obtain ⟨pair, hp, rfl⟩ := List.mem_map.mp hr
      exact (hall pair hp).1
    · rw [← hv] at hr
      obtain ⟨pair, hp, rfl⟩ := List.mem_map.mp hr
      exact (hall pair hp).2
  · rintro ⟨hkl, hvl, hkr, hvr⟩
    change keys.length = _ at hkl
    change values.length = _ at hvl
    refine ⟨⟨by omega, fun pair hp => ?_⟩, List.map_fst_zip (by omega), List.map_snd_zip (by omega)⟩
    exact ⟨hkr _ (List.of_mem_zip hp).1, hvr _ (List.of_mem_zip hp).2⟩

end Readers

theorem AbstractKv.append_append (m : AbstractKv) (layer : Nat) (xs ys : List TokenRows) :
    (m.append layer xs).append layer ys = m.append layer (xs ++ ys) := by
  simp only [append, Function.update_self, Function.update_idem, List.append_assoc]

theorem AbstractKv.append_nil (m : AbstractKv) (layer : Nat) : m.append layer [] = m := by
  simp only [append, List.append_nil, Function.update_eq_self]

namespace PagedKvCache
open Cursor

/-! ### The restore loops -/

/-- `c'` is `c` with tokens appended to one layer. -/
structure Grew (c c' : PagedKvCache) (layer : Nat) (tokens : List TokenRows) : Prop where
  wellFormed : c'.WellFormed
  config : c'.toKvConfig = c.toKvConfig
  view : c'.view = c.view.append layer tokens

theorem Grew.refl {c : PagedKvCache} (h : c.WellFormed) (layer : Nat) : Grew c c layer [] :=
  ⟨h, rfl, (c.view.append_nil layer).symm⟩

theorem Grew.trans {a b c : PagedKvCache} {layer : Nat} {xs ys : List TokenRows}
    (h : Grew a b layer xs)
    (h' : Grew b c layer ys) : Grew a c layer (xs ++ ys) :=
  ⟨h'.wellFormed, h'.config.trans h.config, by rw [h'.view, h.view, AbstractKv.append_append]⟩

theorem Appended.grew {c c' : PagedKvCache} {layer : Nat} {rows : TokenRows}
    (h : Appended c c' layer 1 rows.keys.flatten rows.values.flatten)
    (hfits : rows.Fits c.toKvConfig) :
    Grew c c' layer [rows] :=
  ⟨h.wellFormed, h.config, by rw [h.view, hfits.rowsOf_flatten]⟩

/-- Tokens that an append to this layer accepts one by one. -/
structure Loadable (config : KvConfig) (tokens : List TokenRows) : Prop where
  fits : ∀ rows ∈ tokens, rows.Fits config
  keys_finite : ∀ rows ∈ tokens, ∀ x ∈ rows.keys.flatten, x.isFinite = true
  values_finite : ∀ rows ∈ tokens, ∀ x ∈ rows.values.flatten, x.isFinite = true

theorem restoreToken_ok {alloc : Allocator} {layer token : Nat} {restored next : PagedKvCache}
    {cursor cursor' : Cursor} (h : restored.WellFormed) (hfits : cursor.Fits usizeMax)
    (hrun : restoreToken alloc restored.toKvConfig layer token restored cursor =
      (.ok next, cursor')) :
    ∃ rows, Grew restored next layer [rows] ∧ cursor.Consumes (encodeToken rows) cursor' := by
  obtain ⟨rows, mid, hread, happend⟩ := Command.bind_ok_iff.mp hrun
  obtain ⟨hrows, hcons⟩ := (exact_readToken restored.toKvConfig cursor hfits rows mid).mp hread
  simp only [Command.lift_run, Prod.mk.injEq] at happend
  obtain ⟨hexec, rfl⟩ := happend
  obtain ⟨index, hok⟩ := Command.exec_eq_ok.mp hexec
  rcases h.append (fun site => alloc (.restored layer token site)) layer rows.keys.flatten
    rows.values.flatten with ⟨c', hrun', happ⟩ | ⟨e, hrun', -⟩
  · rw [hok] at hrun'
    cases hrun'
    exact ⟨rows, happ.grew hrows, hcons⟩
  · rw [hok] at hrun'
    cases hrun'

/-- Every request is granted, and none for the storage of a page is too large. -/
structure Provides (alloc : Allocator) (config : KvConfig) : Prop where
  granted : alloc = fun _ => true
  pages : ∀ side, 4 * config.storage side ≤ isizeMax

/-- Reading an encoded token appends it, or the allocator refuses. -/
theorem restoreToken_answers (alloc : Allocator) {layer : Nat} (token : Nat)
    {restored : PagedKvCache} {cursor cursor' : Cursor} {rows : TokenRows} (h : restored.WellFormed)
    (hfits : cursor.Fits usizeMax) (hload : Loadable restored.toKvConfig [rows])
    (hl : layer < restored.layerCount)
    (hroom : (restored.view layer).length < restored.tokenCapacity)
    (hkeys : restored.kvHeadCount * restored.keyDimension ≤ usizeMax)
    (hvalues : restored.kvHeadCount * restored.valueDimension ≤ usizeMax)
    (hcons : cursor.Consumes (encodeToken rows) cursor') :
    (∃ next, restoreToken alloc restored.toKvConfig layer token restored cursor =
      (.ok next, cursor') ∧
      Grew restored next layer [rows]) ∨
    (∃ e, (restoreToken alloc restored.toKvConfig layer token restored cursor).1 = .error e ∧
      e.OfStorage restored.toKvConfig ∧ ¬ Provides alloc restored.toKvConfig) := by
  have hrows := hload.fits rows List.mem_cons_self
  have hread := (exact_readToken restored.toKvConfig cursor hfits rows cursor').mpr ⟨hrows, hcons⟩
  have hadm : restored.Admissible restored.view layer 1 rows.keys.flatten rows.values.flatten :=
    { layer_lt := hl
      token_pos := Nat.one_pos
      keys_length := by rw [hrows.length_keys, Nat.one_mul]
      values_length := by rw [hrows.length_values, Nat.one_mul]
      keys_count := by rw [hrows.length_keys]; exact hkeys
      values_count := by rw [hrows.length_values]; exact hvalues
      keys_finite := hload.keys_finite rows List.mem_cons_self
      values_finite := hload.values_finite rows List.mem_cons_self
      room := hroom }
  rw [restoreToken, Command.bind_of_ok hread]
  rcases h.append (fun site => alloc (.restored layer token site)) layer rows.keys.flatten
    rows.values.flatten with ⟨c', hrun, happ⟩ | ⟨e, hrun, -, hkind⟩
  · refine Or.inl ⟨c', ?_, happ.grew hrows⟩
    rw [Command.lift_run, Command.exec_eq_ok.mpr ⟨_, hrun⟩]
  · refine Or.inr ⟨e, ?_, hkind hadm, fun hprovides => ?_⟩
    · rw [Command.lift_run, Command.exec_eq_error.mpr ⟨_, hrun⟩]
    · obtain ⟨c', happended, -⟩ := h.append_granted hprovides.pages hadm
      rw [hprovides.granted, happended] at hrun
      cases hrun

theorem restoreTokens_ok {alloc : Allocator} {config : KvConfig} {layer token count : Nat}
    {restored last : PagedKvCache} {cursor cursor' : Cursor} (h : restored.WellFormed)
    (hconfig : restored.toKvConfig = config) (hfits : cursor.Fits usizeMax)
    (hrun : restoreTokens alloc config layer token count restored cursor = (.ok last, cursor')) :
    ∃ tokens, tokens.length = count ∧ Grew restored last layer tokens ∧
      cursor.Consumes (encodeLayer tokens) cursor' := by
  induction count generalizing token restored cursor with
  | zero =>
      cases hrun
      exact ⟨[], rfl, .refl h layer, .nil _⟩
  | succ count ih =>
      obtain ⟨next, mid, htoken, hrest⟩ := Command.bind_ok_iff.mp hrun
      obtain ⟨rows, hgrew, hcons⟩ := restoreToken_ok h hfits (hconfig ▸ htoken)
      obtain ⟨tokens, hlen, hgrew', hcons'⟩ :=
        ih hgrew.wellFormed (hgrew.config.trans hconfig) (hfits.consumes hcons) hrest
      exact ⟨rows :: tokens, by rw [List.length_cons, hlen], hgrew.trans hgrew',
        consumes_append.mpr ⟨mid, hcons, hcons'⟩⟩

theorem restoreTokens_answers (alloc : Allocator) {config : KvConfig} (layer token : Nat)
    {restored : PagedKvCache} {cursor cursor' : Cursor} {tokens : List TokenRows}
    (h : restored.WellFormed) (hconfig : restored.toKvConfig = config)
    (hfits : cursor.Fits usizeMax) (hload : Loadable config tokens) (hl : layer < config.layerCount)
    (hroom : (restored.view layer).length + tokens.length ≤ config.tokenCapacity)
    (hkeys : config.kvHeadCount * config.keyDimension ≤ usizeMax)
    (hvalues : config.kvHeadCount * config.valueDimension ≤ usizeMax)
    (hcons : cursor.Consumes (encodeLayer tokens) cursor') :
    (∃ last, restoreTokens alloc config layer token tokens.length restored cursor =
      (.ok last, cursor') ∧
      Grew restored last layer tokens) ∨
    (∃ e, (restoreTokens alloc config layer token tokens.length restored cursor).1 = .error e ∧
      (tokens ≠ [] ∧ e.OfStorage config ∧ ¬ Provides alloc config)) := by
  induction tokens generalizing token restored cursor with
  | nil =>
      obtain ⟨-, rfl⟩ := hcons
      exact Or.inl ⟨restored, rfl, .refl h layer⟩
  | cons rows tokens ih =>
      obtain ⟨mid, hone, hrest⟩ := consumes_append.mp hcons
      rw [List.length_cons] at hroom ⊢
      subst hconfig
      have hload₁ : Loadable restored.toKvConfig [rows] :=
        ⟨fun r hr => hload.fits r (List.mem_cons.mpr (Or.inl (List.mem_singleton.mp hr))),
          fun r hr => hload.keys_finite r (List.mem_cons.mpr (Or.inl (List.mem_singleton.mp hr))),
          fun r hr => hload.values_finite r (List.mem_cons.mpr (Or.inl (List.mem_singleton.mp hr)))⟩
      have hload₂ : Loadable restored.toKvConfig tokens :=
        ⟨fun r hr => hload.fits r (List.mem_cons_of_mem rows hr),
          fun r hr => hload.keys_finite r (List.mem_cons_of_mem rows hr),
          fun r hr => hload.values_finite r (List.mem_cons_of_mem rows hr)⟩
      rcases restoreToken_answers alloc token h hfits hload₁ hl (by omega) hkeys hvalues
        hone with ⟨next, hrun, hgrew⟩ | ⟨e, hrun, hkind⟩
      · have hlen : (next.view layer).length = (restored.view layer).length + 1 := by
          rw [hgrew.view, AbstractKv.append, Function.update_self, List.length_append,
            List.length_singleton]
        rcases ih (token + 1) hgrew.wellFormed hgrew.config (hfits.consumes hone) hload₂ (by omega)
          hrest with ⟨last, hrun', hgrew'⟩ | ⟨e, hrun', -, hkind⟩
        · refine Or.inl ⟨last, ?_, hgrew.trans hgrew'⟩
          rw [restoreTokens, Command.bind_of_ok hrun, hrun']
        · refine Or.inr ⟨e, ?_, by simp, hkind⟩
          rw [restoreTokens, Command.bind_of_ok hrun, hrun']
      · refine Or.inr ⟨e, ?_, by simp, hkind⟩
        rcases hr : restoreToken alloc restored.toKvConfig layer token restored cursor with ⟨r, c⟩
        rw [hr] at hrun
        change r = .error e at hrun
        subst hrun
        rw [restoreTokens, Command.bind_of_error hr]

/-- The layers from `layer` on hold tokens read from the snapshot; earlier ones are as before. -/
structure Filled (restored last : PagedKvCache) (layer count : Nat) : Prop where
  wellFormed : last.WellFormed
  config : last.toKvConfig = restored.toKvConfig
  before : ∀ l, l < layer → last.view l = restored.view l
  after : ∀ l, layer + count ≤ l → last.view l = []

theorem restoreLayers_ok {alloc : Allocator} {config : KvConfig} {layer : Nat} {lengths : List Nat}
    {restored last : PagedKvCache} {cursor cursor' : Cursor} (h : restored.WellFormed)
    (hconfig : restored.toKvConfig = config) (hfits : cursor.Fits usizeMax)
    (hempty : ∀ l, layer ≤ l → restored.view l = [])
    (hrun : restoreLayers alloc config layer lengths restored cursor = (.ok last, cursor')) :
    Filled restored last layer lengths.length ∧
      lengths = (List.range' layer lengths.length).map (fun l => (last.view l).length) ∧
      cursor.Consumes ((List.range' layer lengths.length).flatMap fun l =>
        encodeLayer (last.view l)) cursor' := by
  induction lengths generalizing layer restored cursor with
  | nil =>
      cases hrun
      exact ⟨⟨h, rfl, fun _ _ => rfl, hempty⟩, rfl, .nil _⟩
  | cons length lengths ih =>
      obtain ⟨next, mid, hlayer, hrest⟩ := Command.bind_ok_iff.mp hrun
      obtain ⟨tokens, hlen, hgrew, hcons⟩ := restoreTokens_ok h hconfig hfits hlayer
      have hview : ∀ l, next.view l = if l = layer then tokens else restored.view l := by
        intro l
        rw [hgrew.view, AbstractKv.append, Function.update_apply, hempty layer (Nat.le_refl layer),
          List.nil_append]
      obtain ⟨hfilled, hlens, hcons'⟩ := ih hgrew.wellFormed (hgrew.config.trans hconfig)
        (hfits.consumes hcons) (fun l hl =>
          by rw [hview l, if_neg (by omega)]; exact hempty l (by omega)) hrest
      have hlast : last.view layer = tokens := by
        rw [hfilled.before layer (Nat.lt_succ_self layer), hview layer, if_pos rfl]
      refine ⟨⟨hfilled.wellFormed, hfilled.config.trans hgrew.config, fun l hl => ?_,
        fun l hl => ?_⟩, ?_, ?_⟩
      · rw [hfilled.before l (by omega), hview l, if_neg (by omega)]
      · exact hfilled.after l (by rw [List.length_cons] at hl; omega)
      · rw [List.length_cons, List.range'_succ, List.map_cons, hlast, hlen, ← hlens]
      · rw [List.length_cons, List.range'_succ, List.flatMap_cons, hlast]
        exact consumes_append.mpr ⟨mid, hcons, hcons'⟩

/-- A committed map a snapshot of this configuration can hold. -/
structure Storable (config : KvConfig) (m : AbstractKv) : Prop where
  loadable : ∀ l, Loadable config (m l)
  bounded : ∀ l, (m l).length ≤ config.tokenCapacity
  outside : ∀ l, config.layerCount ≤ l → m l = []
  fits : ∀ l, m l ≠ [] → ∀ side, config.storage side ≤ usizeMax

theorem restoreLayers_answers (alloc : Allocator) {config : KvConfig} {m : AbstractKv}
    {layer count : Nat} {restored : PagedKvCache} {cursor cursor' : Cursor}
    (h : restored.WellFormed) (hconfig : restored.toKvConfig = config)
    (hfits : cursor.Fits usizeMax) (hm : Storable config m)
    (hlayers : layer + count = config.layerCount) (hbefore : ∀ l, l < layer → restored.view l = m l)
    (hempty : ∀ l, layer ≤ l → restored.view l = [])
    (hkeys : config.kvHeadCount * config.keyDimension ≤ usizeMax)
    (hvalues : config.kvHeadCount * config.valueDimension ≤ usizeMax)
    (hcons : cursor.Consumes ((List.range' layer count).flatMap fun l =>
      encodeLayer (m l)) cursor') :
    (∃ last, restoreLayers alloc config layer
      ((List.range' layer count).map fun l => (m l).length) restored
        cursor = (.ok last, cursor') ∧ last.WellFormed ∧ last.toKvConfig = config ∧ last.view = m) ∨
    (∃ field n,
      (restoreLayers alloc config layer ((List.range' layer count).map fun l => (m l).length)
        restored cursor).1 = .error (.allocationFailed field n) ∧
      ∃ l, m l ≠ [] ∧ ¬ Provides alloc config) := by
  induction count generalizing layer restored cursor with
  | zero =>
      obtain ⟨-, rfl⟩ := hcons
      refine Or.inl ⟨restored, rfl, h, hconfig, funext fun l => ?_⟩
      by_cases hl : l < layer
      · exact hbefore l hl
      · rw [hempty l (by omega), hm.outside l (by omega)]
  | succ count ih =>
      rw [List.range'_succ, List.flatMap_cons, consumes_append] at hcons
      obtain ⟨mid, hone, hrest⟩ := hcons
      rw [List.range'_succ, List.map_cons, restoreLayers]
      rcases restoreTokens_answers alloc layer 0 h hconfig hfits (hm.loadable layer) (by omega)
        (by rw [hempty layer (Nat.le_refl layer), List.length_nil, Nat.zero_add]
            exact hm.bounded layer)
        hkeys hvalues hone with ⟨next, hrun, hgrew⟩ | ⟨e, hrun, hne, hkind⟩
      · rw [Command.bind_of_ok hrun]
        have hview : ∀ l, next.view l = if l = layer then m layer else restored.view l := by
          intro l
          rw [hgrew.view, AbstractKv.append, Function.update_apply,
            hempty layer (Nat.le_refl layer), List.nil_append]
        refine ih hgrew.wellFormed (hgrew.config.trans hconfig) (hfits.consumes hone)
          (by omega) ?_ ?_ hrest
        · intro l hl
          rw [hview l]
          split
          · subst_vars; rfl
          · exact hbefore l (by omega)
        · intro l hl
          rw [hview l, if_neg (by omega)]
          exact hempty l (by omega)
      · refine Or.inr ?_
        obtain ⟨field, n, rfl⟩ := hkind.1.resolve_right fun hover => hover.1 (hm.fits layer hne)
        refine ⟨field, n, ?_, layer, hne, hkind.2⟩
        rcases hr : restoreTokens alloc config layer 0 (m layer).length restored cursor with ⟨r, c⟩
        rw [hr] at hrun
        change r = .error _ at hrun
        subst hrun
        rw [Command.bind_of_error hr]

end PagedKvCache
end Kv
end LightBridge
