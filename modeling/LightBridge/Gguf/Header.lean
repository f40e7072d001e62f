import LightBridge.Gguf.Codec

/-! The header of a GGUF file as its bytes, and the reader as the exact decoder of them. -/
namespace LightBridge.Gguf
open Foundation Foundation.Command

namespace GgufReader
variable {source : Source} {limits : ReaderLimits} {endianness : Endianness} {accounts : Bool}

/-! ### Arrays -/

theorem aggregateElements_eq_ok {count aggregate : Nat} {reader next : GgufReader} :
    aggregateElements count reader = (.ok aggregate, next) ↔
      (reader.arrayElements + count ≤ reader.limits.maxArrayElements ∧
        aggregate = reader.arrayElements + count) ∧ next = reader := by
  have hmax := reader.limits.maxArrayElements_le
  rw [aggregateElements, bind_of_ok (read_run reader)]
  constructor
  · intro h
    obtain ⟨sum, hsum, h⟩ := lift_bind_ok_iff.mp h
    obtain ⟨-, rfl⟩ := checkedAdd_eq_some.mp (okOr_eq_ok.mp hsum)
    obtain ⟨_, _, hcheck, h⟩ := bind_ok_iff.mp h
    obtain ⟨hlimit, rfl⟩ := checkLimit_eq_ok.mp hcheck
    cases h
    exact ⟨⟨hlimit, rfl⟩, rfl⟩
  · rintro ⟨⟨hlimit, rfl⟩, rfl⟩
    rw [checkedAdd_of_le (le_trans hlimit hmax)]
    exact bind_of_ok (checkLimit_eq_ok.mpr ⟨hlimit, rfl⟩)

theorem checkMinimumBytes_eq_ok {elementType : GgufValueType} {count : Nat}
    {reader next : GgufReader} :
    checkMinimumBytes elementType count reader = (.ok (), next) ↔
      (∃ minimum, minimumElementBytes elementType = .ok minimum ∧
        reader.metadataBytes + count * minimum ≤ reader.limits.maxMetadataBytes) ∧
        next = reader := by
  have hmax := reader.limits.maxMetadataBytes_le
  rw [checkMinimumBytes, bind_of_ok (read_run reader)]
  constructor
  · intro h
    obtain ⟨minimum, hminimum, h⟩ := lift_bind_ok_iff.mp h
    obtain ⟨payload, hpayload, h⟩ := lift_bind_ok_iff.mp h
    obtain ⟨-, rfl⟩ := checkedMul_eq_some.mp (okOr_eq_ok.mp hpayload)
    obtain ⟨bytes, hbytes, h⟩ := lift_bind_ok_iff.mp h
    obtain ⟨-, rfl⟩ := checkedAdd_eq_some.mp (okOr_eq_ok.mp hbytes)
    obtain ⟨hlimit, rfl⟩ := checkLimit_eq_ok.mp h
    exact ⟨⟨minimum, hminimum, hlimit⟩, rfl⟩
  · rintro ⟨⟨minimum, hminimum, hlimit⟩, rfl⟩
    have hpayload := checkedMul_of_le (show count * minimum ≤ usizeMax by omega)
    have hbytes := checkedAdd_of_le (le_trans hlimit hmax)
    exact lift_bind_ok_iff.mpr ⟨minimum, hminimum, lift_bind_ok_iff.mpr ⟨_, okOr_eq_ok.mpr hpayload,
      lift_bind_ok_iff.mpr ⟨_, okOr_eq_ok.mpr hbytes, checkLimit_eq_ok.mpr ⟨hlimit, rfl⟩⟩⟩⟩

/-- What lets an array through. -/
theorem checkArrayBudget_eq_ok {elementType : GgufValueType} {count n : Nat}
    {reader next : GgufReader} :
    checkArrayBudget elementType count reader = (.ok n, next) ↔
      (reader.arrayElements + count ≤ reader.limits.maxArrayElements ∧ ∃ minimum,
        minimumElementBytes elementType = .ok minimum ∧
        reader.metadataBytes + count * minimum ≤ reader.limits.maxMetadataBytes) ∧ n = count ∧
      next = ({ reader with arrayElements := reader.arrayElements + count } : GgufReader).note
        (.array count) := by
  have hmax := reader.limits.maxArrayElements_le
  rw [checkArrayBudget]
  constructor
  · intro h
    obtain ⟨aggregate, _, haggregate, h⟩ := bind_ok_iff.mp h
    obtain ⟨⟨hlimit, rfl⟩, rfl⟩ := aggregateElements_eq_ok.mp haggregate
    obtain ⟨_, _, hminimum, h⟩ := bind_ok_iff.mp h
    obtain ⟨hbytes, rfl⟩ := checkMinimumBytes_eq_ok.mp hminimum
    obtain ⟨admitted, hadmitted, h⟩ := lift_bind_ok_iff.mp h
    obtain ⟨-, rfl⟩ := ensure_pure_eq_ok.mp hadmitted
    cases h
    exact ⟨⟨hlimit, hbytes⟩, rfl, rfl⟩
  · rintro ⟨⟨hlimit, hbytes⟩, rfl, rfl⟩
    rw [bind_of_ok (aggregateElements_eq_ok.mpr ⟨⟨hlimit, rfl⟩, rfl⟩),
      bind_of_ok (checkMinimumBytes_eq_ok.mpr ⟨hbytes, rfl⟩)]
    exact lift_bind_ok_iff.mpr ⟨n, ensure_pure_eq_ok.mpr ⟨by omega, rfl⟩, rfl⟩

/-- An element is no shorter than the fewest bytes of its type. -/
theorem minimum_le_length {type : GgufValueType} {minimum : Nat}
    (h : minimumElementBytes type = .ok minimum) {value : GgufValue}
    (hvalue : value.valueType = type) : minimum ≤ (value.encodeScalar endianness).length := by
  subst hvalue
  cases value with
  | array => cases h
  | string text =>
      cases h
      rw [GgufValue.encodeScalar, length_encodeString]
      exact Nat.le_add_right _ _
  | _ =>
      cases h
      simp [GgufValue.encodeScalar]

theorem exists_minimum {type : GgufValueType} (h : type ≠ .array) :
    ∃ minimum, minimumElementBytes type = .ok minimum := by
  cases type with
  | array => exact absurd rfl h
  | _ => exact ⟨_, rfl⟩

theorem length_mul_le_flatMap {values : List GgufValue} {encoding : GgufValue → List UInt8}
    {minimum : Nat}
    (h : ∀ value ∈ values, minimum ≤ (encoding value).length) :
    values.length * minimum ≤ (values.flatMap encoding).length := by
  induction values with
  | nil => simp
  | cons value values ih =>
      obtain ⟨hvalue, hvalues⟩ := List.forall_mem_cons.mp h
      rw [List.length_cons, Nat.succ_mul, List.flatMap_cons, List.length_append, Nat.add_comm]
      exact Nat.add_le_add hvalue (ih hvalues)

/-- The reader behind an array that is let through. -/
def admitted (reader : GgufReader) (count : Nat) : GgufReader :=
  ({ reader with arrayElements := reader.arrayElements + count } : GgufReader).note (.array count)

theorem Fits.takes_admitted {reader : GgufReader} {count : Nat}
    (h : Fits source limits endianness accounts reader)
    (hlimit : reader.arrayElements + count ≤ reader.limits.maxArrayElements) :
    reader.Takes ⟨[], 0, count⟩ (reader.admitted count) :=
  ⟨⟨List.nil_prefix, h.metadataBytes_le, hlimit⟩, _, rfl⟩

/-- Elements that a reader lets through. -/
structure ElementsFit (limits : ReaderLimits) (type : GgufValueType)
    (values : List GgufValue) : Prop where
  type_ne : type ≠ .array
  element : ∀ value ∈ values, value.valueType = type ∧ ScalarFits limits value

/-- The elements of an array behind `check_array_budget`. That it lets them through is foreseen from
what they take. -/
theorem decodes_elements (type : GgufValueType) (count : Nat) :
    Decodes source limits endianness true (do
      let count ← checkArrayBudget type count
      let values ← Command.collect (fun _ => readElement type) 0 count
      pure (GgufValue.array type values)) fun v x =>
      ∃ values, (values.length = count ∧ ElementsFit limits type values) ∧
        v = GgufValue.array type values ∧
        x = .span true (values.flatMap (GgufValue.encodeScalar endianness)) values.length := by
  have helements (htype : type ≠ .array) : Decodes source limits endianness true
      (Command.collect (fun _ => readElement type) 0 count >>= fun values =>
        pure (GgufValue.array type values)) fun v x =>
      ∃ values, (values.length = count ∧ ElementsFit limits type values) ∧
        v = GgufValue.array type values ∧
        x = .span true (values.flatMap (GgufValue.encodeScalar endianness)) 0 := by
    refine ((Reads.collect (fun _ => decodes_readElement htype) 0 count).map
      (GgufValue.array type)).congr fun v x => ?_
    rw [consumption_empty]
    simp only [consumption_foldr, Extent.foldr_span, List.map_const', List.sum_replicate_nat,
      Nat.mul_zero]
    refine exists_congr fun values => ?_
    constructor
    · rintro ⟨⟨⟨hlength, hall⟩, rfl⟩, rfl⟩
      exact ⟨⟨hlength, htype, hall⟩, rfl, rfl⟩
    · rintro ⟨⟨hlength, hfits⟩, rfl, rfl⟩
      exact ⟨⟨⟨hlength, hfits.element⟩, rfl⟩, rfl⟩
  have hspan (values : List GgufValue) : Extent.span true
      (values.flatMap (GgufValue.encodeScalar endianness)) values.length =
      Extent.append ⟨[], 0, values.length⟩
        (.span true (values.flatMap (GgufValue.encodeScalar endianness)) 0) := by
    simp [Extent.append, Extent.span]
  constructor
  case sound =>
    intro reader next v hfits hrun
    obtain ⟨n, middle, hbudget, hrun⟩ := bind_ok_iff.mp hrun
    obtain ⟨⟨hlimit, minimum, hminimum, -⟩, rfl, rfl⟩ := checkArrayBudget_eq_ok.mp hbudget
    have htype : type ≠ .array := by
      rintro rfl
      cases hminimum
    have htaken := hfits.takes_admitted hlimit
    obtain ⟨_, ⟨values, ⟨rfl, hall⟩, rfl, rfl⟩, htakes⟩ :=
      (helements htype).sound (hfits.takes htaken) hrun
    refine ⟨_, ⟨values, ⟨rfl, hall⟩, rfl, rfl⟩, ?_⟩
    rw [hspan]
    exact (consumption source limits endianness true).takes_append htaken htakes
  case complete =>
    intro reader v x hwilling hfits hx hcan
    obtain ⟨values, ⟨rfl, hall⟩, rfl, rfl⟩ := hx
    obtain ⟨minimum, hminimum⟩ := exists_minimum hall.type_ne
    have hbytes := length_mul_le_flatMap fun value hmem =>
      @minimum_le_length endianness _ _ hminimum value (hall.element value hmem).1
    have hmetadata := hcan.metadataBytes_le
    have hlimit := hcan.arrayElements_le
    have hbudget : checkArrayBudget type values.length reader =
        (.ok values.length, reader.admitted values.length) := by
      refine checkArrayBudget_eq_ok.mpr ⟨⟨hlimit, minimum, hminimum, ?_⟩, rfl, rfl⟩
      exact le_trans (Nat.add_le_add_left hbytes _) hmetadata
    have htaken := hfits.takes_admitted hlimit
    rw [hspan] at hcan ⊢
    obtain ⟨last, hrun, htakes⟩ := (helements hall.type_ne).complete hwilling (hfits.takes htaken)
      ⟨values, ⟨rfl, hall⟩, rfl, rfl⟩
        ((consumption source limits endianness true).can_right hcan htaken)
    exact ⟨last, (bind_of_ok hbudget).trans hrun,
      (consumption source limits endianness true).takes_append htaken htakes⟩

/-- A value that a reader lets through. -/
def ValueFits (limits : ReaderLimits) : GgufValue → Prop
  | .array elementType values => values.length ≤ usizeMax ∧ ElementsFit limits elementType values
  | value => ScalarFits limits value

theorem decodes_readArray :
    Decodes source limits endianness true (readArray checkArrayBudget) fun v x =>
      (v.valueType = .array ∧ ValueFits limits v) ∧
        x = .span true (v.encode endianness) v.elements := by
  refine ((decodes_readNumber 4 _).bind fun code => Reads.lift_bind fun type =>
    Reads.lift_bind fun _ =>
    (decodes_readNumber 8 _).bind fun count => decodes_elements type count).congr fun v x => ?_
  simp only [consumption_append, ensure_eq_ok, GgufValueType.tryFrom_eq_ok]
  constructor
  · rintro ⟨_, _, _, ⟨-, rfl⟩,
      ⟨type, rfl, _, -, _, _, _, ⟨hcount, rfl⟩, ⟨values, ⟨rfl, hfits⟩, rfl, rfl⟩, rfl⟩, rfl⟩
    refine ⟨⟨rfl, Nat.le_of_lt_succ hcount, hfits⟩, ?_⟩
    simp [GgufValue.encode, GgufValue.elements]
  · rintro ⟨⟨htype, hfits⟩, rfl⟩
    cases v with
    | array type values =>
        refine ⟨_, _, _, ⟨type.code_lt, rfl⟩,
          ⟨type, rfl, (), hfits.2.type_ne, _, _, _, ⟨Nat.lt_succ_of_le hfits.1, rfl⟩,
          ⟨values, ⟨rfl, hfits.2⟩, rfl, rfl⟩, rfl⟩, ?_⟩
        simp [GgufValue.encode, GgufValue.elements]
    | _ => cases htype

theorem decodes_readValue (type : GgufValueType) :
    Decodes source limits endianness true (readValue checkArrayBudget type) fun v x =>
      (v.valueType = type ∧ ValueFits limits v) ∧
        x = .span true (v.encode endianness) v.elements := by
  by_cases htype : type = .array
  · subst htype
    exact decodes_readArray
  · rw [readValue_eq_readScalar htype]
    refine (decodes_readScalar htype).congr fun v x => ?_
    cases v with
    | array => exact ⟨fun h => absurd h.1.1.symm htype, fun h => absurd h.1.1.symm htype⟩
    | _ => rfl

/-! ### Entries -/

/-- The bytes of a metadata entry. -/
def encodeEntry (endianness : Endianness) (entry : String × GgufValue) : List UInt8 :=
  encodeString endianness entry.1 ++ endianness.toBytes 4 entry.2.valueType.code ++
    entry.2.encode endianness

/-- Entries that a reader lets through behind some keys. -/
structure EntriesFit (limits : ReaderLimits) (keys : List String)
    (entries : List (String × GgufValue)) : Prop where
  distinct : (entries.map Prod.fst).Nodup
  fresh : ∀ entry ∈ entries, entry.1 ∉ keys
  key : ∀ entry ∈ entries, StringFits limits entry.1
  value : ∀ entry ∈ entries, ValueFits limits entry.2

theorem entriesFit_cons {limits : ReaderLimits} {keys : List String} {entry : String × GgufValue}
    {entries : List (String × GgufValue)} :
    EntriesFit limits keys (entry :: entries) ↔
      (entry.1 ∉ keys ∧ StringFits limits entry.1 ∧ ValueFits limits entry.2) ∧
      EntriesFit limits (entry.1 :: keys) entries := by
  constructor
  · intro h
    obtain ⟨hnew, hdistinct⟩ := List.nodup_cons.mp h.distinct
    obtain ⟨hfresh, hrest⟩ := List.forall_mem_cons.mp h.fresh
    obtain ⟨hkey, hkeys⟩ := List.forall_mem_cons.mp h.key
    obtain ⟨hvalue, hvalues⟩ := List.forall_mem_cons.mp h.value
    refine ⟨⟨hfresh, hkey, hvalue⟩, hdistinct, ?_, hkeys, hvalues⟩
    intro other hmem
    refine List.not_mem_cons_of_ne_of_not_mem ?_ (hrest other hmem)
    intro heq
    exact hnew (heq ▸ List.mem_map_of_mem hmem)
  · rintro ⟨⟨hfresh, hkey, hvalue⟩, h⟩
    refine ⟨List.nodup_cons.mpr ⟨?_, h.distinct⟩, List.forall_mem_cons.mpr ⟨hfresh, ?_⟩,
      List.forall_mem_cons.mpr ⟨hkey, h.key⟩, List.forall_mem_cons.mpr ⟨hvalue, h.value⟩⟩
    · intro hmem
      obtain ⟨other, hother, heq⟩ := List.mem_map.mp hmem
      exact h.fresh other hother (heq ▸ List.mem_cons_self)
    · intro other hmem
      exact fun hkeys => h.fresh other hmem (List.mem_cons_of_mem _ hkeys)

theorem decodes_readEntries (n : Nat) (keys : List String) :
    Decodes source limits endianness true (readEntries checkArrayBudget n keys) fun entries x =>
      (entries.length = n ∧ EntriesFit limits keys entries) ∧
        x = .span true (entries.flatMap (encodeEntry endianness))
          (entries.map fun entry => entry.2.elements).sum := by
  induction n generalizing keys with
  | zero =>
      refine (Reads.pure []).congr fun entries x => ?_
      constructor
      · rintro ⟨rfl, rfl⟩
        exact ⟨⟨rfl, .nil, nofun, nofun, nofun⟩, rfl⟩
      · rintro ⟨⟨hlength, -⟩, rfl⟩
        obtain rfl := List.length_eq_zero_iff.mp hlength
        exact ⟨rfl, rfl⟩
  | succ n ih =>
      refine ((decodes_readString "metadata key").bind fun key =>
        (decodes_readNumber 4 _).bind fun code =>
        Reads.lift_bind fun type => (decodes_readValue type).bind fun value =>
          (decodes_reserve .metadataKeySet 1).after fun _ =>
          (decodes_reserve .metadataKey key.utf8ByteSize).after fun _ => Reads.lift_bind fun _ =>
            (decodes_reserve .metadataEntries 1).after fun _ =>
              (ih (key :: keys)).map fun entries =>
              (key, value) :: entries).congr fun entries x => ?_
      simp only [consumption_append, ensure_eq_ok, GgufValueType.tryFrom_eq_ok, exists_const]
      constructor
      · rintro ⟨key, _, _, ⟨hkey, rfl⟩,
          ⟨_, _, _, ⟨-, rfl⟩,
          ⟨_, rfl, value, _, _, ⟨⟨rfl, hvalue⟩, rfl⟩,
          ⟨-, -, hfresh, -, entries, ⟨⟨rfl, hfits⟩, rfl⟩, rfl⟩, rfl⟩, rfl⟩, rfl⟩
        refine ⟨⟨rfl, entriesFit_cons.mpr ⟨⟨hfresh, hkey, hvalue⟩, hfits⟩⟩, ?_⟩
        simp [encodeEntry]
      · rintro ⟨⟨hlength, hfits⟩, rfl⟩
        cases entries with
        | nil => cases hlength
        | cons entry entries =>
            obtain ⟨⟨hfresh, hkey, hvalue⟩, hrest⟩ := entriesFit_cons.mp hfits
            have hsmall : 1 ≤ isizeMax := by decide
            refine ⟨entry.1, _, _, ⟨hkey, rfl⟩,
              ⟨_, _, _, ⟨entry.2.valueType.code_lt, rfl⟩,
              ⟨_, rfl, entry.2, _, _, ⟨⟨rfl, hvalue⟩, rfl⟩,
              ⟨hsmall, hkey.memory_le, hfresh, hsmall, entries,
              ⟨⟨Nat.succ.inj hlength, hrest⟩, rfl⟩, rfl⟩, rfl⟩, rfl⟩, ?_⟩
            simp [encodeEntry]

/-- Metadata is read with its bytes charged, and what follows without. -/
theorem decodes_accounted {α : Type} {c : Reader α} {R : α → Extent → Prop}
    (h : Decodes source limits endianness true c R) :
    Decodes source limits endianness false (accounted c) R := by
  have hon {reader : GgufReader} (hfits : Fits source limits endianness false reader) :
      Fits source limits endianness true { reader with accountMetadata := true } :=
    ⟨hfits.source_eq, hfits.limits_eq, hfits.endianness_eq, rfl, hfits.position_le,
      hfits.metadataBytes_le, hfits.arrayElements_le⟩
  have hoff {reader next : GgufReader} {x : Extent}
      (hfits : Fits source limits endianness false reader)
      (htakes : Takes { reader with accountMetadata := true } x next) : reader.Takes x
        { next with accountMetadata := false } := by
    obtain ⟨hcan, history, rfl⟩ := htakes
    refine ⟨⟨hcan.bytes, hcan.metadataBytes_le, hcan.arrayElements_le⟩, history, ?_⟩
    rw [← hfits.accounts_eq]
    rfl
  constructor
  case sound =>
    intro reader next a hfits hrun
    rw [accounted, bind_of_ok (update_run _ _)] at hrun
    obtain ⟨b, last, hread, hrun⟩ := bind_ok_iff.mp hrun
    cases hrun
    obtain ⟨x, hx, htakes⟩ := h.sound (hon hfits) hread
    exact ⟨x, hx, hoff hfits htakes⟩
  case complete =>
    intro reader a x hwilling hfits hx hcan
    obtain ⟨last, hread, htakes⟩ :=
      h.complete hwilling (hon hfits) hx ⟨hcan.bytes, hcan.metadataBytes_le, hcan.arrayElements_le⟩
    refine ⟨{ last with accountMetadata := false }, ?_, hoff hfits htakes⟩
    rw [accounted, bind_of_ok (update_run _ _), bind_of_ok hread]
    rfl

/-! ### Tensors -/

/-- The bytes of a tensor descriptor behind its name. -/
def encodeShape (endianness : Endianness) (desc : TensorDesc) : List UInt8 :=
  endianness.toBytes 4 desc.shape.length ++ desc.shape.flatMap (endianness.toBytes 8) ++
    endianness.toBytes 4 desc.ty.discriminant ++ endianness.toBytes 8 desc.relativeOffset

/-- The name of a tensor is charged to the metadata, and nothing else. -/
def tensorExtent (endianness : Endianness) (desc : TensorDesc) : Extent :=
  (Extent.span true (encodeString endianness desc.name) 0).append
    (.span false (encodeShape endianness desc) 0)

/-- A tensor descriptor that a reader lets through. -/
structure TensorFits (limits : ReaderLimits) (desc : TensorDesc) : Prop where
  name : StringFits limits desc.name
  dimensions : desc.shape.length ≤ limits.maxDimensions
  dimension : ∀ dimension ∈ desc.shape, dimension ≤ usizeMax
  relativeOffset : desc.relativeOffset ≤ usizeMax

theorem decodes_readTensor :
    Decodes source limits endianness false readTensor fun desc x =>
      TensorFits limits desc ∧ x = tensorExtent endianness desc := by
  have hdimensions (count : Nat) : Decodes source limits endianness false
      (Command.collect (fun _ => readU64 "tensor dimension") 0 count) fun shape x =>
        (shape.length = count ∧ ∀ dimension ∈ shape, dimension < 256 ^ 8) ∧
          x = .span false (shape.flatMap (endianness.toBytes 8)) 0 := by
    refine (Reads.collect (fun _ => decodes_readNumber 8 _) 0 count).congr fun shape x => ?_
    rw [consumption_empty, consumption_foldr, Extent.foldr_span, List.map_const',
      List.sum_replicate_nat, Nat.mul_zero]
  have hnew (name : String) (shape : List Nat) (ty : GgmlType) (relativeOffset : Nat) :
      Decodes source limits endianness false (do
        let desc ← lift (wrap .core (TensorDesc.new name shape ty relativeOffset))
        reserve .tensorDescriptors 1
        pure desc) fun desc x =>
          (desc.name = name ∧ desc.shape = shape ∧ desc.ty = ty ∧
            desc.relativeOffset = relativeOffset) ∧ x = .empty := by
    refine (Reads.lift_bind fun desc => decodes_push .tensorDescriptors desc).congr fun desc x => ?_
    simp only [wrap_eq_ok, TensorDesc.new_eq_ok]
    constructor
    · rintro ⟨_, h, rfl, rfl⟩
      exact ⟨h, rfl⟩
    · rintro ⟨h, rfl⟩
      exact ⟨desc, h, rfl, rfl⟩
  refine ((decodes_accounted (decodes_readString "tensor name")).bind fun name =>
    (decodes_readNumber 4 _).bind fun dimensions =>
    Reads.lift_bind fun _ =>
      (decodes_checkLimit "dimensions" ReaderLimits.maxDimensions dimensions).after fun _ =>
      (decodes_toUsize "dimensions" dimensions).after fun count =>
        (decodes_reserve .tensorDimensions (8 * count)).after fun _ =>
        (hdimensions count).bind fun shape => (decodes_readNumber 4 _).bind fun code =>
          Reads.lift_bind fun ty =>
          (decodes_readNumber 8 _).before fun relativeOffset =>
            hnew name shape ty relativeOffset).congr fun desc x => ?_
  simp only [consumption_append, ensure_eq_ok, wrap_eq_ok, GgmlType.fromDiscriminant_eq_ok,
    exists_const]
  constructor
  · rintro ⟨name, _, _, ⟨hname, rfl⟩,
      ⟨_, _, _, ⟨-, rfl⟩,
      ⟨-, hlimit, count, ⟨-, rfl⟩, -, shape, _, _, ⟨⟨rfl, hshape⟩, rfl⟩,
      ⟨_, _, _, ⟨-, rfl⟩, ⟨ty, rfl, offset, ⟨hoffset, rfl⟩, rfl, rfl, rfl, rfl⟩, rfl⟩, rfl⟩,
      rfl⟩, rfl⟩
    refine ⟨⟨hname, hlimit, fun dimension hmem => Nat.le_of_lt_succ (hshape dimension hmem),
      Nat.le_of_lt_succ hoffset⟩, ?_⟩
    simp [tensorExtent, encodeShape]
  · rintro ⟨h, rfl⟩
    obtain ⟨hrank, -⟩ := computeStrides_eq_ok desc.computed
    have hcount : 4 < 256 ^ 4 := by decide
    have husize : 4 ≤ usizeMax := by decide
    have hmemory : 8 * 4 ≤ isizeMax := by decide
    refine ⟨desc.name, _, _, ⟨h.name, rfl⟩,
      ⟨_, _, _, ⟨by omega, rfl⟩,
      ⟨hrank, h.dimensions, _, ⟨by omega, rfl⟩, by omega, desc.shape, _, _,
      ⟨⟨rfl, fun dimension hmem => Nat.lt_succ_of_le (h.dimension dimension hmem)⟩, rfl⟩,
      ⟨_, _, _, ⟨desc.ty.discriminant_lt, rfl⟩,
      ⟨desc.ty, rfl, _, ⟨Nat.lt_succ_of_le h.relativeOffset, rfl⟩, rfl, rfl, rfl, rfl⟩, rfl⟩, rfl⟩,
      rfl⟩, ?_⟩
    simp [tensorExtent, encodeShape]

/-! ### The directory -/

/-- The bytes of a file between its magic number and its padding. -/
def Directory.encode (endianness : Endianness) (directory : Directory) : List UInt8 :=
  endianness.toBytes 4 directory.version ++ endianness.toBytes 8 directory.tensors.length ++
    endianness.toBytes 8 directory.metadata.length ++
      directory.metadata.flatMap (encodeEntry endianness) ++
    directory.tensors.flatMap fun desc =>
      encodeString endianness desc.name ++ encodeShape endianness desc

/-- The bytes of a file before its padding. -/
def encodeHeader (endianness : Endianness) (directory : Directory) : List UInt8 :=
  magic endianness ++ directory.encode endianness

/-- The metadata and the names of the tensors are charged to the metadata. -/
def Directory.metadataBytes (endianness : Endianness) (directory : Directory) : Nat :=
  (directory.metadata.map fun entry => (encodeEntry endianness entry).length).sum +
    (directory.tensors.map fun desc => (encodeString endianness desc.name).length).sum

def Directory.arrayElements (directory : Directory) : Nat :=
  (directory.metadata.map fun entry => entry.2.elements).sum

/-- A directory of the format that a reader lets through, its budgets apart. -/
structure DirectoryFits (limits : ReaderLimits) (directory : Directory) : Prop where
  version : 2 ≤ directory.version ∧ directory.version ≤ 3
  tensorCount : directory.tensors.length ≤ limits.maxTensors ∧ directory.tensors.length ≤ usizeMax
  metadataCount : directory.metadata.length ≤ limits.maxMetadataEntries ∧
    directory.metadata.length ≤ usizeMax
  metadata : EntriesFit limits [] directory.metadata
  alignment : alignmentOf directory.metadata = .ok directory.alignment
  tensors : ∀ desc ∈ directory.tensors, TensorFits limits desc

theorem foldr_tensorExtent (tensors : List TensorDesc) :
    (tensors.map (tensorExtent endianness)).foldr Extent.append .empty =
      ⟨tensors.flatMap fun desc => encodeString endianness desc.name ++ encodeShape endianness desc,
        (tensors.map fun desc => (encodeString endianness desc.name).length).sum, 0⟩ := by
  induction tensors with
  | nil => rfl
  | cons desc tensors ih =>
      rw [List.map_cons, List.foldr_cons, ih]
      simp [tensorExtent, Extent.append, Extent.span]

theorem decodes_readDirectory :
    Decodes source limits endianness false (readDirectory checkArrayBudget) fun directory x =>
      DirectoryFits limits directory ∧
        x = ⟨directory.encode endianness, directory.metadataBytes endianness,
          directory.arrayElements⟩ := by
  have htensors (count : Nat) : Decodes source limits endianness false
      (Command.collect (fun _ => readTensor) 0 count)
      fun tensors x => (tensors.length = count ∧ ∀ desc ∈ tensors, TensorFits limits desc) ∧
        x = ⟨tensors.flatMap fun desc =>
          encodeString endianness desc.name ++ encodeShape endianness desc,
          (tensors.map fun desc => (encodeString endianness desc.name).length).sum, 0⟩ := by
    refine (Reads.collect (fun _ => decodes_readTensor) 0 count).congr fun tensors x => ?_
    rw [consumption_empty, consumption_foldr, foldr_tensorExtent]
  refine ((decodes_readNumber 4 _).bind fun version => Reads.lift_bind fun _ =>
    (decodes_readNumber 8 _).bind fun tensorCount =>
    (decodes_readNumber 8 _).bind fun metadataCount =>
      (decodes_checkedCount "tensors" _ tensorCount).after fun tensorCount =>
      (decodes_checkedCount "metadata entries" _ metadataCount).after fun metadataCount =>
        (decodes_accounted (decodes_readEntries metadataCount [])).bind fun metadata =>
          Reads.lift_bind fun alignment =>
          (htensors tensorCount).map (Directory.mk version metadata alignment)).congr
            fun directory x => ?_
  simp only [consumption_append, ensure_eq_ok, exists_const]
  constructor
  · rintro ⟨version, _, _, ⟨-, rfl⟩,
      ⟨hversion, _, _, _, ⟨-, rfl⟩,
      ⟨_, _, _, ⟨-, rfl⟩,
      ⟨_, ⟨htensorCount, htensorSize, rfl⟩, _, ⟨hmetadataCount, hmetadataSize, rfl⟩, metadata, _, _,
      ⟨⟨rfl, hmetadata⟩, rfl⟩, ⟨alignment, halignment, tensors, ⟨⟨rfl, hdescs⟩, rfl⟩, rfl⟩, rfl⟩,
      rfl⟩, rfl⟩, rfl⟩
    refine ⟨⟨hversion, ⟨htensorCount, htensorSize⟩, ⟨hmetadataCount, hmetadataSize⟩, hmetadata,
      halignment, hdescs⟩, ?_⟩
    simp [Extent.append, Extent.span, Directory.encode, Directory.metadataBytes,
      Directory.arrayElements]
  · rintro ⟨h, rfl⟩
    obtain ⟨htensorCount, htensorSize⟩ := h.tensorCount
    obtain ⟨hmetadataCount, hmetadataSize⟩ := h.metadataCount
    refine ⟨directory.version, _, _, ⟨lt_of_le_of_lt h.version.2 (by decide), rfl⟩,
      ⟨h.version, _, _, _, ⟨Nat.lt_succ_of_le htensorSize, rfl⟩,
      ⟨_, _, _, ⟨Nat.lt_succ_of_le hmetadataSize, rfl⟩,
      ⟨_, ⟨htensorCount, htensorSize, rfl⟩, _, ⟨hmetadataCount, hmetadataSize, rfl⟩,
      directory.metadata, _, _, ⟨⟨rfl, h.metadata⟩, rfl⟩,
      ⟨directory.alignment, h.alignment, directory.tensors, ⟨⟨rfl, h.tensors⟩, rfl⟩, rfl⟩, rfl⟩,
      rfl⟩, rfl⟩, ?_⟩
    simp [Extent.append, Extent.span, Directory.encode, Directory.metadataBytes,
      Directory.arrayElements]

/-! ### The payloads -/

/-- The payloads of a directory lie one behind the other, from the end of its header on, in a file
of some length. -/
structure Placed (fileLen headerLength : Nat) (directory : Directory) : Prop where
  offset : ∀ i (h : i < directory.tensors.length), directory.tensors[i].relativeOffset =
    ((directory.tensors.take i).map (paddedBytes directory.alignment)).sum
  inside : roundUp headerLength directory.alignment +
    (directory.tensors.map (paddedBytes directory.alignment)).sum ≤ fileLen

theorem layOut_of_placed {alignment dataOffset fileLen extent : Nat} {tensors : List TensorDesc}
    (hpower : alignment.isPowerOfTwo) (hfile : fileLen ≤ usizeMax)
    (hoffset : ∀ i (h : i < tensors.length),
      tensors[i].relativeOffset = extent + ((tensors.take i).map (paddedBytes alignment)).sum)
    (hinside : dataOffset + (extent + (tensors.map (paddedBytes alignment)).sum) ≤ fileLen) :
    layOut alignment dataOffset fileLen extent tensors =
      .ok (extent + (tensors.map (paddedBytes alignment)).sum) := by
  induction tensors generalizing extent with
  | nil => rfl
  | cons tensor tensors ih =>
      have hwidth : usizeMax < 2 ^ 64 := by decide
      have hfirst : tensor.relativeOffset = extent := hoffset 0 (Nat.zero_lt_succ _)
      have hpadded := le_roundUp tensor.payloadBytes (Nat.pos_of_isPowerOfTwo hpower)
      rw [List.map_cons, List.sum_cons, ← Nat.add_assoc extent] at hinside ⊢
      have hrest : layOut alignment dataOffset fileLen
          (extent + paddedBytes alignment tensor) tensors =
          .ok (extent + paddedBytes alignment tensor +
            (tensors.map (paddedBytes alignment)).sum) := by
        refine ih ?_ hinside
        intro i hi
        have hnext := hoffset (i + 1) (Nat.succ_lt_succ hi)
        rwa [List.getElem_cons_succ, List.take_succ_cons, List.map_cons,
          List.sum_cons, ← Nat.add_assoc] at hnext
      rw [paddedBytes] at hinside
      have hencoded :=
        tensor.encodedBytes_eq_ok.mpr ⟨show tensor.payloadBytes ≤ usizeMax by omega, rfl⟩
      have halign : alignUp 64 tensor.payloadBytes alignment =
          some (paddedBytes alignment tensor) :=
        alignUp_of_roundUp_lt hpower (payloadBytes_pos tensor) (by omega)
      have hadd :=
        checkedAdd_of_le (show extent + paddedBytes alignment tensor ≤
          usizeMax by rw [paddedBytes]; omega)
      have hrange : tensor.checkedAbsoluteRange dataOffset fileLen =
          .ok (payloadSpan dataOffset tensor) :=
        (tensor.checkedAbsoluteRange_eq_ok hfile).mpr ⟨by omega, rfl⟩
      simp only [layOut, except_bind_ok_iff, ensure_eq_ok, wrap_eq_ok, okOr_eq_ok]
      exact ⟨(), hfirst, _, hencoded, _, halign, _, hadd, _, hrange, hrest⟩

theorem checkLayout_of_placed {directory : Directory} {fileLen headerLength : Nat}
    (hpower : directory.alignment.isPowerOfTwo) (hfile : fileLen ≤ usizeMax)
    (h : Placed fileLen headerLength directory) :
    checkLayout directory (roundUp headerLength directory.alignment) fileLen = .ok () := by
  have hinside := h.inside
  have hlaid : layOut directory.alignment (roundUp headerLength directory.alignment) fileLen 0
      directory.tensors = .ok (0 + (directory.tensors.map (paddedBytes directory.alignment)).sum) :=
    layOut_of_placed hpower hfile (fun i hi => by rw [h.offset i hi, Nat.zero_add])
      (by rwa [Nat.zero_add])
  rw [Nat.zero_add] at hlaid
  simp only [checkLayout, except_bind_ok_iff, ensure_eq_ok, okOr_eq_ok]
  exact ⟨(), le_trans (Nat.le_add_right _ _) hinside, _, hlaid, _,
    checkedAdd_of_le (le_trans hinside hfile), hinside⟩

/-! ### The magic number -/

/-- The reader behind the magic number of a byte order. -/
def behindMagic (source : Source) (limits : ReaderLimits) (endianness : Endianness)
    (history : List Checkpoint) : GgufReader :=
  { withLimits source limits with position := 4, endianness, history }

theorem length_magic (endianness : Endianness) : (magic endianness).length = 4 := by
  cases endianness <;> decide +kernel

theorem fits_withLimits : Fits source limits .little false (withLimits source limits) :=
  ⟨rfl, rfl, rfl, rfl, Nat.zero_le _, Nat.zero_le _, Nat.zero_le _⟩

theorem fits_behindMagic {history : List Checkpoint} (h : magic endianness <+: source.bytes) :
    Fits source limits endianness false (behindMagic source limits endianness history) := by
  refine ⟨rfl, rfl, rfl, rfl, ?_, Nat.zero_le _, Nat.zero_le _⟩
  have hlength := h.length_le
  rwa [length_magic] at hlength

theorem advance_magic {bytes : List UInt8} (h : bytes.length = 4) (history : List Checkpoint) :
    (withLimits source limits).advance (.span false bytes 0) history =
      behindMagic source limits .little history := by
  simp only [advance, Extent.span, h]
  rfl

theorem readMagic_eq_ok {reader : GgufReader}
    (h : readMagic (withLimits source limits) = (.ok (), reader)) :
    ∃ endianness history, reader = behindMagic source limits endianness history ∧
      magic endianness <+: source.bytes := by
  obtain ⟨bytes, next, hread, hrest⟩ := bind_ok_iff.mp h
  obtain ⟨_, ⟨hlength, rfl⟩, ⟨hcan, history, rfl⟩⟩ :=
    (decodes_readExact 4 "magic").sound fits_withLimits hread
  have hbytes : bytes <+: source.bytes := hcan.bytes
  rw [advance_magic hlength] at hrest
  split at hrest
  · rename_i hmagic
    cases hrest
    exact ⟨.little, history, rfl, hmagic ▸ hbytes⟩
  · split at hrest
    · rename_i hmagic
      cases hrest
      exact ⟨.big, history, rfl, hmagic ▸ hbytes⟩
    · cases hrest

theorem readMagic_of_willing (hwilling : source.Willing) (h : magic endianness <+: source.bytes) :
    ∃ history, readMagic (withLimits source limits) =
      (.ok (), behindMagic source limits endianness history) := by
  obtain ⟨_, hread, -, history, rfl⟩ :=
    (decodes_readExact 4 "magic").complete hwilling fits_withLimits
    ⟨length_magic endianness, rfl⟩ ⟨h, Nat.zero_le _, Nat.zero_le _⟩
  rw [advance_magic (length_magic endianness)] at hread
  refine ⟨history, ?_⟩
  rw [readMagic, bind_of_ok hread]
  cases endianness with
  | little => rw [if_pos rfl]; rfl
  | big =>
      have hother : magic .big ≠ magic .little := by decide +kernel
      rw [if_neg hother, if_pos rfl]
      rfl

/-! ### The file -/

theorem streamPosition_of_willing {reader : GgufReader} (h : reader.source.Willing) :
    streamPosition reader = (.ok reader.position, reader) := by
  rw [streamPosition, h.positionFault]

theorem seekEnd_of_willing {reader : GgufReader} (h : reader.source.Willing) :
    seekEnd reader =
      (.ok reader.source.bytes.length, { reader with position := reader.source.bytes.length }) := by
  rw [seekEnd, h.seekFault]

/-- A file that begins with the header of a directory and holds its payloads, inside the limits of a
reader. -/
structure Begins (source : Source) (limits : ReaderLimits) (endianness : Endianness)
    (directory : Directory) : Prop where
  maxDimensions : limits.maxDimensions ≤ 4
  fits : DirectoryFits limits directory
  metadataBytes : directory.metadataBytes endianness ≤ limits.maxMetadataBytes
  arrayElements : directory.arrayElements ≤ limits.maxArrayElements
  bytes : encodeHeader endianness directory <+: source.bytes
  placed : Placed source.bytes.length (encodeHeader endianness directory).length directory

/-- What a reader makes of a directory. -/
def fileOf (fileLen : Nat) (endianness : Endianness) (directory : Directory) : GgufFile where
  version := directory.version
  endianness := endianness
  metadata := directory.metadata
  tensors := directory.tensors
  alignment := directory.alignment
  dataOffset := roundUp (encodeHeader endianness directory).length directory.alignment
  fileLen := fileLen

theorem read_of_begins {directory : Directory} (hwilling : source.Willing)
    (h : Begins source limits endianness directory) :
    ∃ last, read (withLimits source limits) =
      (.ok (fileOf source.bytes.length endianness directory), last) := by
  have hpower := alignmentOf_eq_ok h.fits.alignment
  have hmagical : magic endianness <+: source.bytes := (List.prefix_append _ _).trans h.bytes
  have hrest : directory.encode endianness <+: source.bytes.drop 4 := by
    have hsplit := (append_prefix_drop_iff (n := 0)).mp h.bytes
    rw [length_magic, Nat.zero_add] at hsplit
    exact hsplit.2
  obtain ⟨history, hmagic⟩ := @readMagic_of_willing source limits endianness hwilling hmagical
  have hbehind : Fits source limits endianness false
      (behindMagic source limits endianness history) := fits_behindMagic hmagical
  obtain ⟨reader, hdirectory, htakes⟩ :=
    decodes_readDirectory.complete hwilling hbehind ⟨h.fits, rfl⟩
    ⟨hrest, (Nat.zero_add _).trans_le h.metadataBytes, (Nat.zero_add _).trans_le h.arrayElements⟩
  have hreader := hbehind.takes htakes
  have hposition : (encodeHeader endianness directory).length = reader.position := by
    obtain ⟨-, history', rfl⟩ := htakes
    rw [encodeHeader, List.length_append, length_magic]
    rfl
  have hrounded : alignUp 64 reader.position directory.alignment =
      some (roundUp (encodeHeader endianness directory).length directory.alignment) := by
    have hwidth : usizeMax < 2 ^ 64 := by decide
    have hinside := h.placed.inside
    have hlength := source.bytes_le
    have hmagicLength : (encodeHeader endianness directory).length =
        4 + (directory.encode endianness).length := by
      rw [encodeHeader, List.length_append, length_magic]
    rw [← hposition]
    exact alignUp_of_roundUp_lt hpower (by omega) (by omega)
  have hlayout := checkLayout_of_placed hpower source.bytes_le h.placed
  refine ⟨{ reader with position := source.bytes.length }, ?_⟩
  rw [read, readWith, bind_of_ok (read_run _)]
  refine lift_bind_ok_iff.mpr ⟨(), ensure_eq_ok.mpr h.maxDimensions, ?_⟩
  rw [bind_of_ok hmagic, bind_of_ok hdirectory,
    bind_of_ok (streamPosition_of_willing (hreader.source_eq ▸ hwilling))]
  refine lift_bind_ok_iff.mpr ⟨_, okOr_eq_ok.mpr hrounded, ?_⟩
  rw [bind_of_ok (seekEnd_of_willing (hreader.source_eq ▸ hwilling)), hreader.source_eq]
  refine lift_bind_ok_iff.mpr ⟨(), hlayout, ?_⟩
  rw [fileOf, ← hreader.endianness_eq]
  rfl

end GgufReader

/-- The directory of a file. -/
def GgufFile.directory (file : GgufFile) : GgufReader.Directory :=
  ⟨file.version, file.metadata, file.alignment, file.tensors⟩

/-- The reader is exact: a file that begins with the header of a directory is read as that
directory, and the header of what is read from any file is all that was read of it before its
padding. -/
theorem header_exact (source : Source) (limits : ReaderLimits) :
    (∀ endianness directory, source.Willing → GgufReader.Begins source limits endianness directory →
      ∃ last, GgufReader.read (.withLimits source limits) =
        (.ok (GgufReader.fileOf source.bytes.length endianness directory), last)) ∧
    ∀ file last, GgufReader.read (.withLimits source limits) = (.ok file, last) →
      GgufReader.encodeHeader file.endianness file.directory =
      source.bytes.take (consumed last.history) ∧
        (GgufReader.encodeHeader file.endianness file.directory).length =
        consumed last.history := by
  refine ⟨fun endianness directory hwilling h => GgufReader.read_of_begins hwilling h, ?_⟩
  intro file last h
  obtain ⟨directory, magical, reader, hmagic, hdirectory, hreader, accepted⟩ :=
    GgufReader.readWith_eq_ok GgufReader.audits_checkArrayBudget h
  obtain ⟨endianness, history, rfl, hmagical⟩ := GgufReader.readMagic_eq_ok hmagic
  obtain ⟨_, ⟨-, rfl⟩, hcan, history', rfl⟩ :=
    GgufReader.decodes_readDirectory.sound (GgufReader.fits_behindMagic hmagical) hdirectory
  have hsame : file.directory = directory := by
    rw [GgufFile.directory, accepted.version, accepted.metadata, accepted.alignment,
      accepted.tensors]
  have hendianness : file.endianness = endianness := accepted.endianness
  have hposition : (GgufReader.encodeHeader endianness directory).length =
      consumed last.history := by
    rw [GgufReader.encodeHeader, List.length_append, GgufReader.length_magic, accepted.history]
    exact hreader.position_eq
  have hbytes : GgufReader.encodeHeader endianness directory <+: source.bytes.drop 0 := by
    refine append_prefix_drop_iff.mpr ⟨hmagical, ?_⟩
    rw [GgufReader.length_magic]
    exact hcan.bytes
  rw [hsame, hendianness, ← hposition]
  exact ⟨List.prefix_iff_eq_take.mp hbytes, rfl⟩

/-- The directory of the file of two tensors. -/
def twoTensorsDirectory : GgufReader.Directory where
  version := 3
  metadata := [("general.alignment", .u32 64), ("t", .array .string [.string "x"])]
  alignment := 64
  tensors :=
    [{ name := "a", shape := [2], ty := .f32, relativeOffset := 0, strides := [4],
       computed := rfl },
      { name := "b", shape := [2, 3], ty := .f32, relativeOffset := 64, strides := [4, 8],
        computed := rfl }]

theorem twoTensors_begins :
    GgufReader.Begins twoTensors .default .little twoTensorsDirectory where
  maxDimensions := by decide
  fits :=
    { version := by decide
      tensorCount := by decide
      metadataCount := by decide
      metadata :=
        { distinct := by decide
          fresh := fun _ _ => List.not_mem_nil
          key := List.forall_mem_cons.mpr
            ⟨⟨by decide, by decide⟩, List.forall_mem_singleton.mpr ⟨by decide, by decide⟩⟩
          value := List.forall_mem_cons.mpr
            ⟨trivial, List.forall_mem_singleton.mpr
              ⟨by decide, nofun, List.forall_mem_singleton.mpr ⟨rfl, by decide, by decide⟩⟩⟩ }
      alignment := rfl
      tensors := List.forall_mem_cons.mpr
        ⟨⟨⟨by decide, by decide⟩, by decide, by decide, by decide⟩,
          List.forall_mem_singleton.mpr
            ⟨⟨by decide, by decide⟩, by decide, by decide, by decide⟩⟩ }
  metadataBytes := by decide +kernel
  arrayElements := by decide
  bytes := by decide +kernel
  placed := ⟨by decide, by decide +kernel⟩

theorem header_exact_two : ∃ last,
    GgufReader.read (.withLimits twoTensors .default) =
      (.ok (GgufReader.fileOf 320 .little twoTensorsDirectory), last) ∧
      GgufReader.encodeHeader .little twoTensorsDirectory =
      twoTensors.bytes.take (consumed last.history) := by
  have hlength : twoTensors.bytes.length = 320 := by decide +kernel
  have hwilling : twoTensors.Willing := ⟨fun _ _ => rfl, rfl, rfl, fun _ _ => rfl⟩
  obtain ⟨hreads, hencodes⟩ := header_exact twoTensors .default
  obtain ⟨last, hrun⟩ := hreads .little twoTensorsDirectory hwilling twoTensors_begins
  rw [hlength] at hrun
  exact ⟨last, hrun, (hencodes _ last hrun).1⟩

end LightBridge.Gguf
