import LightBridge.Foundation.Consumption
import LightBridge.Foundation.Framing
import LightBridge.Gguf.Layout

/-! The GGUF format as an encoding of values, entries and tensor descriptors, and the reader as its
exact decoder. -/
namespace LightBridge.Gguf
open Foundation Foundation.Command

/-- What a reader takes: bytes of the file, and what its counters are charged with. -/
structure Extent where
  bytes : List UInt8
  metadataBytes : Nat
  arrayElements : Nat

namespace Extent

def empty : Extent := ⟨[], 0, 0⟩

def append (x y : Extent) : Extent :=
  ⟨x.bytes ++ y.bytes, x.metadataBytes + y.metadataBytes, x.arrayElements + y.arrayElements⟩

/-- Bytes that are charged to the metadata where the reader accounts for them. -/
def span (accounts : Bool) (bytes : List UInt8) (arrayElements : Nat) : Extent :=
  ⟨bytes, if accounts then bytes.length else 0, arrayElements⟩

@[simp] theorem span_append (accounts : Bool) (xs ys : List UInt8) (m n : Nat) :
    (span accounts xs m).append (span accounts ys n) = span accounts (xs ++ ys) (m + n) := by
  cases accounts <;> simp [span, append]

theorem span_nil (accounts : Bool) : span accounts [] 0 = empty := by
  cases accounts <;> rfl

theorem foldr_span {α : Type} (accounts : Bool) (as : List α) (encoding : α → List UInt8)
    (elements : α → Nat) :
    (as.map fun a => span accounts (encoding a) (elements a)).foldr append empty =
      span accounts (as.flatMap encoding) (as.map elements).sum := by
  induction as with
  | nil => exact (span_nil accounts).symm
  | cons a as ih => simp [ih]

end Extent

namespace GgufReader

/-- The file goes on with the bytes of `x`, and the budgets have room for it. -/
structure Can (reader : GgufReader) (x : Extent) : Prop where
  bytes : x.bytes <+: reader.source.bytes.drop reader.position
  metadataBytes_le : reader.metadataBytes + x.metadataBytes ≤ reader.limits.maxMetadataBytes
  arrayElements_le : reader.arrayElements + x.arrayElements ≤ reader.limits.maxArrayElements

/-- The reader behind `x`. -/
def advance (reader : GgufReader) (x : Extent) (history : List Checkpoint) : GgufReader :=
  { reader with
    position := reader.position + x.bytes.length
    metadataBytes := reader.metadataBytes + x.metadataBytes
    arrayElements := reader.arrayElements + x.arrayElements
    history }

structure Takes (reader : GgufReader) (x : Extent) (next : GgufReader) : Prop where
  can : reader.Can x
  next_eq : ∃ history, next = reader.advance x history

/-- A reader of the source that accounts for metadata or does not. -/
structure Fits (source : Source) (limits : ReaderLimits) (endianness : Endianness) (accounts : Bool)
    (reader : GgufReader) :
    Prop where
  source_eq : reader.source = source
  limits_eq : reader.limits = limits
  endianness_eq : reader.endianness = endianness
  accounts_eq : reader.accountMetadata = accounts
  position_le : reader.position ≤ reader.source.bytes.length
  metadataBytes_le : reader.metadataBytes ≤ reader.limits.maxMetadataBytes
  arrayElements_le : reader.arrayElements ≤ reader.limits.maxArrayElements

theorem can_append {reader : GgufReader} {x y : Extent} (history : List Checkpoint) :
    reader.Can (x.append y) ↔ reader.Can x ∧ (reader.advance x history).Can y := by
  constructor
  · intro h
    obtain ⟨hx, hy⟩ := append_prefix_drop_iff.mp h.bytes
    have hmetadata := h.metadataBytes_le
    have helements := h.arrayElements_le
    simp only [Extent.append] at hmetadata helements
    refine ⟨⟨hx, by omega, by omega⟩, ⟨hy, ?_, ?_⟩⟩
    · simp only [advance]
      omega
    · simp only [advance]
      omega
  · rintro ⟨hx, hy⟩
    have hmetadata := hy.metadataBytes_le
    have helements := hy.arrayElements_le
    simp only [advance] at hmetadata helements
    refine ⟨append_prefix_drop_iff.mpr ⟨hx.bytes, hy.bytes⟩, ?_, ?_⟩
    · simp only [Extent.append]
      omega
    · simp only [Extent.append]
      omega

theorem advance_append (reader : GgufReader) (x y : Extent) (history history' : List Checkpoint) :
    (reader.advance x history).advance y history' = reader.advance (x.append y) history' := by
  simp only [advance, Extent.append, List.length_append, Nat.add_assoc]

variable {source : Source} {limits : ReaderLimits} {endianness : Endianness} {accounts : Bool}

/-- A check leaves the counters as they are. -/
theorem Fits.takes_empty {reader : GgufReader} (h : Fits source limits endianness accounts reader) :
    reader.Takes .empty reader :=
  ⟨⟨List.nil_prefix, h.metadataBytes_le, h.arrayElements_le⟩, reader.history, rfl⟩

theorem Fits.takes {reader next : GgufReader} {x : Extent}
    (h : Fits source limits endianness accounts reader)
    (htakes : reader.Takes x next) : Fits source limits endianness accounts next := by
  obtain ⟨hcan, history, rfl⟩ := htakes
  have hlength := hcan.bytes.length_le
  have hposition := h.position_le
  rw [List.length_drop] at hlength
  refine ⟨h.source_eq, h.limits_eq, h.endianness_eq, h.accounts_eq, ?_, hcan.metadataBytes_le,
    hcan.arrayElements_le⟩
  simp only [advance]
  omega

variable (source limits endianness accounts) in
/-- Readers of the file, as readers that use it up. -/
def consumption : Consumption GgufReader Extent where
  Fits := Fits source limits endianness accounts
  Can := Can
  Takes := Takes
  empty := .empty
  append := .append
  takes_empty := Fits.takes_empty
  takes_append := by
    rintro reader middle next x y ⟨hx, history, rfl⟩ ⟨hy, history', rfl⟩
    exact ⟨(can_append history).mpr ⟨hx, hy⟩, history', advance_append reader x y history history'⟩
  can_left _ h := ((can_append []).mp h).1
  can_right := by
    rintro reader middle x y h ⟨-, history, rfl⟩
    exact ((can_append history).mp h).2
  fits := Fits.takes
  empty_append x := by simp [Extent.append, Extent.empty]
  append_empty x := by simp [Extent.append, Extent.empty]

theorem consumption_empty : (consumption source limits endianness accounts).empty = .empty := rfl
theorem consumption_append (x y : Extent) :
    (consumption source limits endianness accounts).append x y = x.append y := rfl

theorem consumption_foldr (xs : List Extent) :
    xs.foldr (consumption source limits endianness accounts).append .empty =
      xs.foldr .append .empty := rfl

/-- A reader of the values that `R` relates to an extent. -/
abbrev Decodes (source : Source) (limits : ReaderLimits) (endianness : Endianness) (accounts : Bool)
    {α : Type} (c : Reader α)
    (R : α → Extent → Prop) : Prop :=
  Reads (consumption source limits endianness accounts) source.Willing c R

/-! ### Checks -/

theorem decodes_checkLimit (kind : String) (limit : ReaderLimits → Nat) (actual : Nat) :
    Decodes source limits endianness accounts (checkLimit kind limit actual) fun _ x =>
      actual ≤ limit limits ∧ x = .empty :=
  Reads.read_bind fun reader hfits => (Reads.lift _).congr fun _ _ => by
    rw [ensure_eq_ok, hfits.limits_eq]; rfl

theorem decodes_toUsize (kind : String) (value : Nat) :
    Decodes source limits endianness accounts (lift (toUsize kind value)) fun n x =>
      (value ≤ usizeMax ∧ n = value) ∧ x = .empty :=
  (Reads.lift _).congr fun _ _ => by rw [toUsize, ensure_pure_eq_ok]; rfl

theorem decodes_checkedCount (kind : String) (limit : ReaderLimits → Nat) (actual : Nat) :
    Decodes source limits endianness accounts (checkedCount kind limit actual) fun n x =>
      (actual ≤ limit limits ∧ actual ≤ usizeMax ∧ n = actual) ∧ x = .empty :=
  ((decodes_checkLimit kind limit actual).after fun _ => decodes_toUsize kind actual).congr
    fun n x => by
    simp only [exists_const, and_assoc]

theorem decodes_reserve (reservation : Reservation) (bytes : Nat) :
    Decodes source limits endianness accounts (reserve reservation bytes) fun _ x =>
      bytes ≤ isizeMax ∧ x = .empty := by
  refine Reads.looks (looks_reserve reservation bytes) ?_ ?_
  · intro reader _ next hfits hrun
    obtain ⟨hgranted, -⟩ := Prod.mk.inj hrun
    have hbytes := (tryReserve_eq_true.mp (ensure_eq_ok.mp hgranted)).2
    rwa [Nat.one_mul] at hbytes
  · intro reader _ hwilling hfits hbytes
    have hgranted : reader.source.granted reservation reader.position = true := by
      rw [hfits.source_eq]
      exact hwilling.granted reservation reader.position
    refine ensure_eq_ok.mpr (tryReserve_eq_true.mpr ⟨hgranted, ?_⟩)
    rwa [Nat.one_mul]

/-- Room for one more. -/
theorem decodes_push {α : Type} (reservation : Reservation) (a : α) :
    Decodes source limits endianness accounts (reserve reservation 1 >>= fun _ => pure a) fun b x =>
      b = a ∧ x = .empty := by
  refine ((decodes_reserve reservation 1).map fun _ => a).congr fun b x => ?_
  have hsmall : 1 ≤ isizeMax := by decide
  simp only [exists_const, hsmall, true_and]
  exact and_comm

/-! ### Bytes and numbers -/

theorem checkLimit_eq_ok {kind : String} {limit : ReaderLimits → Nat} {actual : Nat}
    {reader next : GgufReader} :
    checkLimit kind limit actual reader = (.ok (), next) ↔ actual ≤ limit reader.limits ∧
      next = reader := by
  rw [checkLimit, bind_of_ok (read_run reader), lift_run, Prod.mk.injEq, ensure_eq_ok,
    eq_comm (a := reader)]

theorem account_eq_ok {reader next : GgufReader} {amount : Nat}
    (hle : reader.metadataBytes ≤ reader.limits.maxMetadataBytes) :
    account amount reader = (.ok (), next) ↔
      reader.metadataBytes + (if reader.accountMetadata then amount else 0) ≤
      reader.limits.maxMetadataBytes ∧
        next = { reader with metadataBytes := reader.metadataBytes +
          if reader.accountMetadata then amount else 0 } := by
  have hmax := reader.limits.maxMetadataBytes_le
  rw [account, bind_of_ok (read_run reader)]
  by_cases haccounts : reader.accountMetadata = true
  · rw [if_pos haccounts, if_pos haccounts]
    constructor
    · intro h
      obtain ⟨total, htotal, h⟩ := lift_bind_ok_iff.mp h
      obtain ⟨-, rfl⟩ := checkedAdd_eq_some.mp (okOr_eq_ok.mp htotal)
      obtain ⟨_, _, hcheck, h⟩ := bind_ok_iff.mp h
      obtain ⟨hlimit, rfl⟩ := checkLimit_eq_ok.mp hcheck
      exact ⟨hlimit, (Prod.mk.inj h).2.symm⟩
    · rintro ⟨hlimit, rfl⟩
      rw [checkedAdd_of_le (le_trans hlimit hmax)]
      exact bind_of_ok (checkLimit_eq_ok.mpr ⟨hlimit, rfl⟩)
  · rw [if_neg haccounts, if_neg haccounts, Nat.add_zero]
    exact ⟨fun h => ⟨hle, (Prod.mk.inj h).2.symm⟩, fun h => by rw [h.2]; rfl⟩

theorem decodes_account (amount : Nat) :
    Decodes source limits endianness accounts (account amount) fun _ x =>
      x = ⟨[], if accounts then amount else 0, 0⟩ where
  sound {reader next _} hfits hrun := by
    obtain ⟨hlimit, rfl⟩ := (account_eq_ok hfits.metadataBytes_le).mp hrun
    obtain rfl := hfits.accounts_eq
    exact ⟨_, rfl, ⟨List.nil_prefix, hlimit, hfits.arrayElements_le⟩, reader.history, rfl⟩
  complete {reader _ _} _ hfits hx hcan := by
    subst hx
    obtain rfl := hfits.accounts_eq
    exact ⟨_, (account_eq_ok hfits.metadataBytes_le).mpr ⟨hcan.metadataBytes_le, rfl⟩, hcan,
      reader.history, rfl⟩

theorem decodes_fill (length : Nat) (context : String) :
    Decodes source limits endianness accounts (fill length context) fun bytes x =>
      bytes.length = length ∧ x = ⟨bytes, 0, 0⟩ where
  sound {reader next bytes} hfits hrun := by
    rw [fill] at hrun
    split at hrun
    · cases hrun
    · split at hrun
      · cases hrun
      · rename_i hlength
        cases hrun
        have hslice : (slice reader.source.bytes reader.position length).length = length :=
          length_slice (by omega)
        refine ⟨_, ⟨hslice, rfl⟩,
          ⟨List.take_prefix _ _, hfits.metadataBytes_le, hfits.arrayElements_le⟩,
          reader.history ++
          [⟨.bytes length reader.accountMetadata, reader.metadataBytes, reader.arrayElements⟩], ?_⟩
        simp only [advance, note, hslice]
        rfl
  complete {reader bytes x} hwilling hfits hx hcan := by
    obtain ⟨rfl, rfl⟩ := hx
    have hbytes : bytes = slice reader.source.bytes reader.position bytes.length :=
      List.prefix_iff_eq_take.mp hcan.bytes
    have hlength := hcan.bytes.length_le
    have hposition := hfits.position_le
    rw [List.length_drop] at hlength
    have hread : fill bytes.length context reader =
        (.ok bytes, ({ reader with position := reader.position + bytes.length } :
        GgufReader).note (.bytes bytes.length reader.accountMetadata)) := by
      have hfault := hwilling.readFault reader.position bytes.length
      rw [← hfits.source_eq] at hfault
      dsimp only at hlength
      simp only [fill, hfault]
      rw [if_neg (by omega), ← hbytes]
    exact ⟨_, hread, hcan, _, rfl⟩

theorem decodes_readExact (length : Nat) (context : String) :
    Decodes source limits endianness accounts (readExact length context) fun bytes x =>
      bytes.length = length ∧ x = .span accounts bytes 0 := by
  refine ((decodes_account length).bind fun _ => decodes_fill length context).congr
    fun bytes z => ?_
  simp only [consumption_append, Extent.append, Extent.span]
  constructor
  · rintro ⟨_, _, _, rfl, ⟨rfl, rfl⟩, rfl⟩
    exact ⟨rfl, rfl⟩
  · rintro ⟨rfl, rfl⟩
    exact ⟨(), _, _, rfl, ⟨rfl, rfl⟩, rfl⟩

theorem decodes_readNumber (width : Nat) (context : String) :
    Decodes source limits endianness accounts (readNumber width context) fun n x =>
      n < 256 ^ width ∧ x = .span accounts (endianness.toBytes width n) 0 := by
  have hdecode (bytes : List UInt8) : Decodes source limits endianness accounts
      (do let reader ← Command.read; pure (reader.endianness.ofBytes bytes) : Reader Nat)
      fun n x => n = endianness.ofBytes bytes ∧ x = .empty :=
    Reads.read_bind fun reader hfits => (Reads.pure _).congr fun _ _ => by
      rw [hfits.endianness_eq]; rfl
  refine ((decodes_readExact width context).before hdecode).congr fun n x => ?_
  constructor
  · rintro ⟨bytes, ⟨rfl, rfl⟩, rfl⟩
    exact ⟨endianness.ofBytes_lt bytes, by rw [endianness.toBytes_ofBytes]⟩
  · rintro ⟨hlt, rfl⟩
    exact ⟨_, ⟨endianness.length_toBytes width n, rfl⟩, (endianness.ofBytes_toBytes hlt).symm⟩

/-! ### Strings -/

/-- A string that a reader lets through. -/
structure StringFits (limits : ReaderLimits) (text : String) : Prop where
  bytes_le : text.utf8ByteSize ≤ limits.maxStringBytes
  memory_le : text.utf8ByteSize ≤ isizeMax

theorem length_encodeString (endianness : Endianness) (text : String) :
    (encodeString endianness text).length = 8 + text.utf8ByteSize := by
  rw [encodeString, List.length_append, endianness.length_toBytes]
  rfl

theorem decodes_readString (context : String) :
    Decodes source limits endianness accounts (readString context) fun text x =>
      StringFits limits text ∧ x = .span accounts (encodeString endianness text) 0 := by
  refine ((decodes_readNumber 8 "string length").bind fun length =>
    (decodes_checkLimit "string bytes" ReaderLimits.maxStringBytes length).after fun _ =>
      (decodes_toUsize "string bytes" length).after fun length =>
      (decodes_reserve .stringBytes length).after fun _ =>
        (decodes_readExact length context).before fun _ => Reads.lift _).congr fun text x => ?_
  simp only [okOr_eq_ok, fromUTF8_eq_some, consumption_append]
  constructor
  · rintro ⟨length, _, _, ⟨hlt, rfl⟩,
      ⟨_, hlimit, _, ⟨-, rfl⟩, _, hmemory, bytes, ⟨hlength, rfl⟩, rfl⟩, rfl⟩
    subst hlength
    exact ⟨⟨hlimit, hmemory⟩, Extent.span_append _ _ _ _ _⟩
  · rintro ⟨⟨hlimit, hmemory⟩, rfl⟩
    have husize : isizeMax ≤ usizeMax := by decide
    have hwidth : usizeMax < 256 ^ 8 := by decide
    have hspan := Extent.span_append accounts (endianness.toBytes 8 text.utf8ByteSize)
        (asBytes text) 0 0
    exact ⟨text.utf8ByteSize, _, _, ⟨by omega, rfl⟩,
      ⟨(), hlimit, _, ⟨by omega, rfl⟩, (), hmemory, _, ⟨rfl, rfl⟩, rfl⟩, hspan.symm⟩

/-! ### Values -/

/-- A value that is no array, and that a reader lets through. -/
def ScalarFits (limits : ReaderLimits) : GgufValue → Prop
  | .string text => StringFits limits text
  | _ => True

/-- The number that stands for a value of a fixed width. -/
def bits : GgufValue → Nat
  | .u8 value => value.toNat
  | .i8 value => value.toUInt8.toNat
  | .u16 value => value.toNat
  | .i16 value => value.toUInt16.toNat
  | .u32 value => value.toNat
  | .i32 value => value.toUInt32.toNat
  | .f32 value => value.toBits.toNat
  | .u64 value => value.toNat
  | .i64 value => value.toUInt64.toNat
  | .f64 value => value.toBits.toNat
  | _ => 0

/-- A value that is a number of some width. -/
theorem decodes_bits {width : Nat} {context : String} {type : GgufValueType}
    {value : Nat → GgufValue}
    (hvalue : ∀ n < 256 ^ width, (value n).valueType = type ∧ ScalarFits limits (value n) ∧
      (value n).encodeScalar endianness = endianness.toBytes width n)
    (hall : ∀ v : GgufValue, v.valueType = type → ∃ n < 256 ^ width, v = value n) :
    Decodes source limits endianness accounts (readNumber width context >>= fun n => pure (value n))
      fun v x =>
      (v.valueType = type ∧ ScalarFits limits v) ∧
        x = .span accounts (v.encodeScalar endianness) 0 := by
  refine ((decodes_readNumber width context).map value).congr fun v x => ?_
  constructor
  · rintro ⟨n, ⟨hlt, rfl⟩, rfl⟩
    obtain ⟨htype, hfits, hbytes⟩ := hvalue n hlt
    exact ⟨⟨htype, hfits⟩, by rw [hbytes]⟩
  · rintro ⟨⟨htype, -⟩, rfl⟩
    obtain ⟨n, hlt, rfl⟩ := hall v htype
    exact ⟨n, ⟨hlt, by rw [(hvalue n hlt).2.2]⟩, rfl⟩

theorem decodes_readBool :
    Decodes source limits endianness accounts readBool fun value x =>
      x = .span accounts (endianness.toBytes 1 value.toNat) 0 := by
  refine ((decodes_readNumber 1 _).before fun _ => Reads.lift _).congr fun value x => ?_
  constructor
  · rintro ⟨byte, ⟨-, rfl⟩, hbool⟩
    match byte, hbool with
    | 0, hbool => cases hbool; rfl
    | 1, hbool => cases hbool; rfl
  · rintro rfl
    refine ⟨value.toNat, ⟨by cases value <;> decide, rfl⟩, ?_⟩
    cases value <;> rfl

theorem decodes_readScalar {type : GgufValueType} (h : type ≠ .array) :
    Decodes source limits endianness accounts (readScalar type) fun v x =>
      (v.valueType = type ∧ ScalarFits limits v) ∧
        x = .span accounts (v.encodeScalar endianness) 0 := by
  cases type with
  | u8 | i8 =>
      refine decodes_bits (fun n hn =>
        ⟨rfl, trivial, congrArg (endianness.toBytes 1) (UInt8.toNat_ofNat_of_lt' hn)⟩) ?_
      intro v htype
      refine ⟨bits v, ?_⟩
      cases v <;> cases htype
      exact ⟨UInt8.toNat_lt _, by simp [bits]⟩
  | u16 | i16 =>
      refine decodes_bits (fun n hn =>
        ⟨rfl, trivial, congrArg (endianness.toBytes 2) (UInt16.toNat_ofNat_of_lt' hn)⟩) ?_
      intro v htype
      refine ⟨bits v, ?_⟩
      cases v <;> cases htype
      exact ⟨UInt16.toNat_lt _, by simp [bits]⟩
  | u32 | i32 =>
      refine decodes_bits (fun n hn =>
        ⟨rfl, trivial, congrArg (endianness.toBytes 4) (UInt32.toNat_ofNat_of_lt' hn)⟩) ?_
      intro v htype
      refine ⟨bits v, ?_⟩
      cases v <;> cases htype
      exact ⟨UInt32.toNat_lt _, by simp [bits]⟩
  | u64 | i64 =>
      refine decodes_bits (fun n hn =>
        ⟨rfl, trivial, congrArg (endianness.toBytes 8) (UInt64.toNat_ofNat_of_lt' hn)⟩) ?_
      intro v htype
      refine ⟨bits v, ?_⟩
      cases v <;> cases htype
      exact ⟨UInt64.toNat_lt _, by simp [bits]⟩
  | f32 =>
      refine decodes_bits (fun n hn =>
        ⟨rfl, trivial, congrArg (endianness.toBytes 4) (Nat.mod_eq_of_lt hn)⟩) ?_
      intro v htype
      refine ⟨bits v, ?_⟩
      cases v <;> cases htype
      exact ⟨BitVec.isLt _, by simp [bits, F32.fromBits]⟩
  | f64 =>
      refine decodes_bits (fun n hn =>
        ⟨rfl, trivial, congrArg (endianness.toBytes 8) (Nat.mod_eq_of_lt hn)⟩) ?_
      intro v htype
      refine ⟨bits v, ?_⟩
      cases v <;> cases htype
      exact ⟨BitVec.isLt _, by simp [bits, F64.fromBits]⟩
  | bool =>
      refine (decodes_readBool.map GgufValue.bool).congr fun v x => ?_
      constructor
      · rintro ⟨value, rfl, rfl⟩
        exact ⟨⟨rfl, trivial⟩, rfl⟩
      · rintro ⟨⟨htype, -⟩, rfl⟩
        cases v <;> cases htype
        exact ⟨_, rfl, rfl⟩
  | string =>
      refine ((decodes_readString _).map GgufValue.string).congr fun v x => ?_
      constructor
      · rintro ⟨text, ⟨hfits, rfl⟩, rfl⟩
        exact ⟨⟨rfl, hfits⟩, rfl⟩
      · rintro ⟨⟨htype, hfits⟩, rfl⟩
        cases v <;> cases htype
        exact ⟨_, ⟨hfits, rfl⟩, rfl⟩
  | array => exact absurd rfl h

theorem decodes_readElement {type : GgufValueType} (h : type ≠ .array) :
    Decodes source limits endianness accounts (readElement type) fun v x =>
      (v.valueType = type ∧ ScalarFits limits v) ∧
        x = .span accounts (v.encodeScalar endianness) 0 := by
  refine ((decodes_readScalar h).before fun v => decodes_push .arrayElements v).congr fun v x => ?_
  constructor
  · rintro ⟨_, hv, rfl⟩
    exact hv
  · exact fun hv => ⟨v, hv, rfl⟩

end GgufReader
end LightBridge.Gguf
