import LightBridge.Foundation.Alignment
import LightBridge.Foundation.BinarySearch
import LightBridge.Hy3.Schema
import LightBridge.Io.PositionedFile
import Mathlib.Data.Prod.Lex

/-! The manifest of an expert sidecar: its validation, and the reads that rest on it. -/
namespace LightBridge.Format
open Foundation Io Hy3

inductive ExpertLayout where
  | sequential
  | fusedGateUp
  deriving DecidableEq, Repr

/-- `FormatError`, of the validation and the reads. -/
inductive FormatError where
  | wrongFormat (format : String)
  | wrongVersion (expected actual : Nat)
  | wrongQuantAbi (expected actual : Nat)
  | invalidAlignment (alignment : Nat)
  | invalidSha256 (context value : String)
  | sidecarTooShort (length : Nat)
  | noSourceFiles
  | sourceOrdinal (index actual : Nat)
  | recordsNotStrictlyOrdered (key : ExpertKey)
  | unalignedRecord (key : ExpertKey) (offset alignment : Nat)
  | recordOutOfBounds (key : ExpertKey) (start stop minimum sidecarLength : Nat)
  | segmentOutOfBounds (key : ExpertKey) (segment : String)
  | overlappingSegments (key : ExpertKey)
  | unalignedSegment (key : ExpertKey)
  | invalidFusedLayout (key : ExpertKey)
  | arithmeticOverflow
  deriving DecidableEq, Repr

structure Segment where
  offset : Nat
  length : Nat
  ggmlType : String
  deriving DecidableEq, Repr

structure ExpertRecord where
  key : ExpertKey
  offset : Nat
  length : Nat
  gate : Segment
  up : Segment
  down : Segment
  deriving DecidableEq, Repr

structure SourceFileIdentity where
  ordinal : Nat
  path : String
  length : Nat
  sha256 : String
  deriving DecidableEq, Repr

structure SidecarFileIdentity where
  length : Nat
  sha256 : String
  deriving DecidableEq, Repr

structure SidecarManifest where
  format : String
  formatVersion : Nat
  engineVersion : String
  quantAbiVersion : Nat
  alignment : Nat
  layout : ExpertLayout
  sourceFiles : List SourceFileIdentity
  tensorDirectorySha256 : String
  sidecar : SidecarFileIdentity
  records : List ExpertRecord
  deriving DecidableEq, Repr

def sidecarFormat : String := "lightbridge-expert-sidecar"
def sidecarFormatVersion : Nat := 1
def quantAbiVersion : Nat := 1
def sidecarHeaderBytes : Nat := 64

/-- The order of the keys: by layer, then by expert. -/
def rank (key : ExpertKey) : Nat ×ₗ Nat := toLex (key.layer, key.expert)

/-- `range` of a segment and of a record. -/
def rangeOf (offset length : Nat) : Except FormatError (Nat × Nat) := do
  let stop ← okOr (checkedAdd offset length) .arithmeticOverflow
  pure (offset, stop)

def Segment.range (segment : Segment) : Except FormatError (Nat × Nat) :=
  rangeOf segment.offset segment.length
def ExpertRecord.range (record : ExpertRecord) : Except FormatError (Nat × Nat) :=
  rangeOf record.offset record.length

/-- `align_up`. -/
def alignUp (value alignment : Nat) : Except FormatError Nat := do
  ensure (¬ (alignment = 0 ∨ ¬ alignment.isPowerOfTwo)) (.invalidAlignment alignment)
  okOr (Foundation.alignUp 64 value alignment) .arithmeticOverflow

/-- A lowercase hexadecimal digit. -/
def isHexDigit (c : Char) : Bool := c.isDigit || (decide ('a' ≤ c) && decide (c ≤ 'f'))

/-- The length in bytes is the number of characters, when all of them are digits. -/
def validateSha256 (value context : String) : Except FormatError Unit :=
  ensure (¬ (value.toList.length ≠ 64 ∨ value.toList.all isHexDigit = false))
    (.invalidSha256 context value)

def validateRecordSegments (record : ExpertRecord) (layout : ExpertLayout) (alignment : Nat) :
    Except FormatError Unit := do
  let recordRange ← record.range
  let gate ← record.gate.range
  let up ← record.up.range
  let down ← record.down.range
  checkAll (fun segment : String × Nat × Nat =>
      ensure (¬ (segment.2.1 ≥ segment.2.2 ∨ segment.2.1 < recordRange.1 ∨
        segment.2.2 > recordRange.2))
        (.segmentOutOfBounds record.key segment.1))
    [("gate", gate), ("up", up), ("down", down)]
  ensure (gate.2 ≤ up.1 ∧ up.2 ≤ down.1) (.overlappingSegments record.key)
  match layout with
  | .sequential =>
      ensure (¬ (gate.1 % alignment ≠ 0 ∨ up.1 % alignment ≠ 0 ∨ down.1 % alignment ≠ 0))
        (.unalignedSegment record.key)
  | .fusedGateUp =>
      ensure (¬ (gate.1 ≠ record.offset ∨ up.1 ≠ gate.2 ∨ down.1 % alignment ≠ 0))
        (.invalidFusedLayout record.key)

namespace SidecarManifest

/-- The loop over the records, with the last key and the end of the last record. -/
def validateRecords (manifest : SidecarManifest) : Option ExpertKey → Nat → List ExpertRecord →
      Except FormatError Unit
  | _, _, [] => .ok ()
  | previousKey, previousEnd, record :: records => do
      ensure (¬ ∃ key ∈ previousKey, rank key ≥ rank record.key)
        (.recordsNotStrictlyOrdered record.key)
      ensure (record.offset % manifest.alignment = 0)
        (.unalignedRecord record.key record.offset manifest.alignment)
      let range ← record.range
      ensure (¬ (range.1 < previousEnd ∨ range.2 > manifest.sidecar.length))
        (.recordOutOfBounds record.key range.1 range.2 previousEnd manifest.sidecar.length)
      validateRecordSegments record manifest.layout manifest.alignment
      validateRecords manifest (some record.key) range.2 records

def validate (manifest : SidecarManifest) : Except FormatError Unit := do
  ensure (manifest.format = sidecarFormat) (.wrongFormat manifest.format)
  ensure (manifest.formatVersion = sidecarFormatVersion)
    (.wrongVersion sidecarFormatVersion manifest.formatVersion)
  ensure (manifest.quantAbiVersion = Format.quantAbiVersion)
    (.wrongQuantAbi Format.quantAbiVersion manifest.quantAbiVersion)
  ensure (¬ (manifest.alignment < 32 ∨ ¬ manifest.alignment.isPowerOfTwo))
    (.invalidAlignment manifest.alignment)
  validateSha256 manifest.tensorDirectorySha256 "tensor directory"
  validateSha256 manifest.sidecar.sha256 "sidecar"
  ensure (sidecarHeaderBytes ≤ manifest.sidecar.length) (.sidecarTooShort manifest.sidecar.length)
  ensure (manifest.sourceFiles ≠ []) .noSourceFiles
  checkAll (fun source : SourceFileIdentity × Nat => do
      ensure (source.1.ordinal = source.2) (.sourceOrdinal source.2 source.1.ordinal)
      validateSha256 source.1.sha256 "source file")
    manifest.sourceFiles.zipIdx
  let minimum ← alignUp sidecarHeaderBytes manifest.alignment
  manifest.validateRecords none minimum manifest.records

def record (manifest : SidecarManifest) (key : ExpertKey) : Option ExpertRecord :=
  (binarySearchByKey (fun record : ExpertRecord => rank record.key) manifest.records
    (rank key)).bind (manifest.records[·]?)

end SidecarManifest

/-! ### Reads -/

/-- `SidecarError`, of the reads. -/
inductive SidecarError where
  | format (error : FormatError)
  | read (error : ReadError)
  | missingExpert (key : ExpertKey)
  deriving DecidableEq, Repr

/-- The bytes of a record, and where its matrices are in them. -/
structure ExpertBytes where
  bytes : List UInt8
  gate : Nat × Nat
  up : Nat × Nat
  down : Nat × Nat
  deriving DecidableEq, Repr

/-- An index by a range, which panics where the range is not in the bytes. -/
def indexRange (bytes : List UInt8) (range : Nat × Nat) : Option (List UInt8) :=
  if range.1 ≤ range.2 ∧ range.2 ≤ bytes.length then some (slice bytes range.1 (range.2 - range.1))
    else none

def relativeRange (record : ExpertRecord) (segment : Segment) : Except FormatError (Nat × Nat) := do
  let start ← okOr (checkedSub segment.offset record.offset) .arithmeticOverflow
  let stop ← okOr (checkedAdd start segment.length) .arithmeticOverflow
  ensure (start ≤ usizeMax) .arithmeticOverflow
  ensure (stop ≤ usizeMax) .arithmeticOverflow
  pure (start, stop)

/-- `Sidecar`, which `open` makes of a manifest that it has validated and a file of the declared
length. -/
structure Sidecar where
  data : PositionedFile
  manifest : SidecarManifest
  valid : manifest.validate = .ok ()
  length : data.content.length = manifest.sidecar.length

def Sidecar.readExpert (sidecar : Sidecar) (key : ExpertKey) : Except SidecarError ExpertBytes := do
  let record ← okOr (sidecar.manifest.record key) (.missingExpert key)
  let range ← wrap .format record.range
  let bytes ← wrap .read (sidecar.data.readExactAt range.1 range.2)
  let gate ← wrap .format (relativeRange record record.gate)
  let up ← wrap .format (relativeRange record record.up)
  let down ← wrap .format (relativeRange record record.down)
  pure { bytes, gate, up, down }

/-! ### What the validation says -/

/-- The segment is a non-empty part of the record. -/
structure Segment.Inside (segment : Segment) (record : ExpertRecord) : Prop where
  nonempty : 0 < segment.length
  start : record.offset ≤ segment.offset
  stop : segment.offset + segment.length ≤ record.offset + record.length

/-- The matrices of a record are in it one after the other. -/
structure ExpertRecord.Tidy (record : ExpertRecord) : Prop where
  gate : record.gate.Inside record
  up : record.up.Inside record
  down : record.down.Inside record
  gateUp : record.gate.offset + record.gate.length ≤ record.up.offset
  upDown : record.up.offset + record.up.length ≤ record.down.offset

/-- The matrices are where the layout puts them. -/
def ExpertRecord.Placed (record : ExpertRecord) (alignment : Nat) : ExpertLayout → Prop
  | .sequential =>
      alignment ∣ record.gate.offset ∧ alignment ∣ record.up.offset ∧ alignment ∣ record.down.offset
  | .fusedGateUp =>
      record.gate.offset = record.offset ∧
        record.up.offset = record.gate.offset + record.gate.length ∧
      alignment ∣ record.down.offset

theorem rangeOf_eq_ok {offset length : Nat} {range : Nat × Nat} :
    rangeOf offset length = .ok range ↔ offset + length ≤ usizeMax ∧
      range = (offset, offset + length) := by
  unfold rangeOf
  rw [except_bind_ok_iff]
  simp only [okOr_eq_ok, checkedAdd_eq_some]
  constructor
  · rintro ⟨_, ⟨hfits, rfl⟩, h⟩
    exact ⟨hfits, (Except.ok.inj h).symm⟩
  · rintro ⟨hfits, rfl⟩
    exact ⟨_, ⟨hfits, rfl⟩, rfl⟩

theorem validateRecordSegments_eq_ok {record : ExpertRecord} {layout : ExpertLayout}
    {alignment : Nat} (hrecord : record.offset + record.length ≤ usizeMax) {u : Unit} :
    validateRecordSegments record layout alignment = .ok u ↔ record.Tidy ∧
      record.Placed alignment layout := by
  simp only [validateRecordSegments, ExpertRecord.range, Segment.range, except_bind_ok_iff,
    rangeOf_eq_ok, checkAll_eq_ok, ensure_eq_ok, exists_const, List.forall_mem_cons,
    List.not_mem_nil, IsEmpty.forall_iff, implies_true, and_true]
  constructor
  · rintro ⟨_, ⟨-, rfl⟩, _, ⟨-, rfl⟩, _, ⟨-, rfl⟩, _, ⟨-, rfl⟩, ⟨hgate, hup, hdown⟩,
      ⟨hgateUp, hupDown⟩, hlayout⟩
    dsimp only at *
    refine ⟨⟨⟨by omega, by omega, by omega⟩, ⟨by omega, by omega, by omega⟩,
      ⟨by omega, by omega, by omega⟩, hgateUp, hupDown⟩, ?_⟩
    cases layout with
    | sequential =>
        simp only [ensure_eq_ok, not_or, not_not] at hlayout
        exact ⟨Nat.dvd_of_mod_eq_zero hlayout.1, Nat.dvd_of_mod_eq_zero hlayout.2.1,
          Nat.dvd_of_mod_eq_zero hlayout.2.2⟩
    | fusedGateUp =>
        simp only [ensure_eq_ok, not_or, not_not] at hlayout
        exact ⟨hlayout.1, hlayout.2.1, Nat.dvd_of_mod_eq_zero hlayout.2.2⟩
  · rintro ⟨⟨hgate, hup, hdown, hgateUp, hupDown⟩, hplaced⟩
    have hgateStop := hgate.stop
    have hupStop := hup.stop
    have hdownStop := hdown.stop
    refine ⟨_, ⟨hrecord, rfl⟩, _, ⟨by omega, rfl⟩, _, ⟨by omega, rfl⟩, _, ⟨by omega, rfl⟩, ?_,
      ⟨hgateUp, hupDown⟩, ?_⟩
    · have hinside : ∀ {segment : Segment}, segment.Inside record →
          ¬ (segment.offset ≥ segment.offset + segment.length ∨
          segment.offset < record.offset ∨
          segment.offset + segment.length > record.offset + record.length) := by
        rintro segment ⟨hnonempty, hstart, hstop⟩
        omega
      exact ⟨hinside hgate, hinside hup, hinside hdown⟩
    · cases layout with
      | sequential =>
          simp only [ensure_eq_ok, not_or, not_not]
          exact ⟨Nat.mod_eq_zero_of_dvd hplaced.1, Nat.mod_eq_zero_of_dvd hplaced.2.1,
            Nat.mod_eq_zero_of_dvd hplaced.2.2⟩
      | fusedGateUp =>
          simp only [ensure_eq_ok, not_or, not_not]
          exact ⟨hplaced.1, hplaced.2.1, Nat.mod_eq_zero_of_dvd hplaced.2.2⟩

/-- A record is where the manifest allows it. -/
structure SidecarManifest.Holds (manifest : SidecarManifest) (record : ExpertRecord) : Prop where
  aligned : manifest.alignment ∣ record.offset
  fits : record.offset + record.length ≤ usizeMax
  inside : record.offset + record.length ≤ manifest.sidecar.length
  tidy : record.Tidy
  placed : record.Placed manifest.alignment manifest.layout

/-- The first record has the smaller key, and ends before the second one begins. -/
def Precedes (first second : ExpertRecord) : Prop :=
  rank first.key < rank second.key ∧ first.offset + first.length ≤ second.offset

namespace SidecarManifest

theorem validateRecords_eq_ok {manifest : SidecarManifest} {previousKey : Option ExpertKey}
    {previousEnd : Nat} {records : List ExpertRecord} :
    manifest.validateRecords previousKey previousEnd records = .ok () ↔
      (∀ record ∈ records, manifest.Holds record) ∧ records.Pairwise Precedes ∧
        ∀ record ∈ records, (∀ key ∈ previousKey, rank key < rank record.key) ∧
        previousEnd ≤ record.offset := by
  induction records generalizing previousKey previousEnd with
  | nil => simp [validateRecords]
  | cons record records ih =>
      simp only [validateRecords, ExpertRecord.range, except_bind_ok_iff, rangeOf_eq_ok,
        ensure_eq_ok, exists_const, ih, List.forall_mem_cons, List.pairwise_cons]
      constructor
      · rintro ⟨hkey, haligned, _, ⟨hfits, rfl⟩, hbounds, hrest⟩
        dsimp only at hbounds
        obtain ⟨_, hsegments, hall, hpairwise, hbehind⟩ := hrest
        obtain ⟨htidy, hplaced⟩ := (validateRecordSegments_eq_ok hfits).mp hsegments
        dsimp only at hbehind
        have hfirst : ∀ key ∈ previousKey, rank key < rank record.key := fun key hmem =>
          lt_of_not_ge fun hge => hkey ⟨key, hmem, hge⟩
        refine ⟨⟨⟨Nat.dvd_of_mod_eq_zero haligned, hfits, by omega, htidy, hplaced⟩, hall⟩,
          ⟨?_, hpairwise⟩, ⟨hfirst, by omega⟩, ?_⟩
        · intro other hother
          exact ⟨(hbehind other hother).1 record.key rfl, (hbehind other hother).2⟩
        · intro other hother
          have hnext := hbehind other hother
          refine ⟨fun key hmem => (hfirst key hmem).trans (hnext.1 record.key rfl), ?_⟩
          omega
      · rintro ⟨⟨hrecord, hall⟩, ⟨hnext, hpairwise⟩, ⟨hfirst, hbefore⟩, -⟩
        refine ⟨?_, Nat.mod_eq_zero_of_dvd hrecord.aligned, _, ⟨hrecord.fits, rfl⟩, ?_,
          (), (validateRecordSegments_eq_ok hrecord.fits).mpr ⟨hrecord.tidy, hrecord.placed⟩, hall,
          hpairwise, ?_⟩
        · rintro ⟨key, hmem, hge⟩
          exact absurd (hfirst key hmem) hge.not_gt
        · have hinside := hrecord.inside
          dsimp only
          omega
        · intro other hother
          refine ⟨fun key hmem => ?_, (hnext other hother).2⟩
          rw [← Option.some.inj hmem]
          exact (hnext other hother).1

end SidecarManifest

/-- Sixty-four lowercase hexadecimal digits. -/
def IsSha256 (value : String) : Prop :=
  value.toList.length = 64 ∧ value.toList.all isHexDigit = true

theorem validateSha256_eq_ok {value context : String} {u : Unit} :
    validateSha256 value context = .ok u ↔ IsSha256 value := by
  rw [validateSha256, ensure_eq_ok, not_or, not_not, Bool.not_eq_false]
  exact Iff.rfl

theorem alignUp_eq_ok {value alignment rounded : Nat} :
    alignUp value alignment = .ok rounded ↔ alignment.isPowerOfTwo ∧
      Foundation.alignUp 64 value alignment = some rounded := by
  rw [alignUp, except_bind_ok_iff]
  simp only [ensure_eq_ok, exists_const, okOr_eq_ok, not_or, not_not]
  refine and_congr_left fun _ => ⟨And.right, fun hpower => ⟨?_, hpower⟩⟩
  rintro rfl
  exact Nat.not_isPowerOfTwo_zero hpower

/-- What a validated manifest is. -/
structure SidecarManifest.Valid (manifest : SidecarManifest) : Prop where
  format : manifest.format = sidecarFormat
  formatVersion : manifest.formatVersion = sidecarFormatVersion
  quantAbiVersion : manifest.quantAbiVersion = Format.quantAbiVersion
  alignment : 32 ≤ manifest.alignment ∧ manifest.alignment.isPowerOfTwo
  directory : IsSha256 manifest.tensorDirectorySha256
  sidecar : IsSha256 manifest.sidecar.sha256
  header : sidecarHeaderBytes ≤ manifest.sidecar.length
  sources : manifest.sourceFiles ≠ []
  identities : ∀ source ∈ manifest.sourceFiles.zipIdx, source.1.ordinal = source.2 ∧
    IsSha256 source.1.sha256
  behind : ∃ minimum, alignUp sidecarHeaderBytes manifest.alignment = .ok minimum ∧
    ∀ record ∈ manifest.records, minimum ≤ record.offset
  holds : ∀ record ∈ manifest.records, manifest.Holds record
  ordered : manifest.records.Pairwise Precedes

theorem SidecarManifest.validate_eq_ok {manifest : SidecarManifest} : manifest.validate = .ok () ↔
      manifest.Valid := by
  simp only [validate, except_bind_ok_iff, ensure_eq_ok, exists_const, validateSha256_eq_ok,
    checkAll_eq_ok, validateRecords_eq_ok, not_or, not_not, Nat.not_lt]
  constructor
  · rintro ⟨hformat, hversion, habi, halignment, hdirectory, hsidecar, hheader, hsources,
      hidentities, minimum, hminimum, hholds, hordered, hbehind⟩
    exact ⟨hformat, hversion, habi, halignment, hdirectory, hsidecar, hheader,
      hsources, hidentities, ⟨minimum, hminimum, fun record hrecord => (hbehind record hrecord).2⟩,
      hholds, hordered⟩
  · rintro ⟨hformat, hversion, habi, halignment, hdirectory, hsidecar, hheader, hsources,
      hidentities, ⟨minimum, hminimum, hbehind⟩, hholds, hordered⟩
    refine ⟨hformat, hversion, habi, halignment, hdirectory, hsidecar, hheader, hsources,
      hidentities, minimum, hminimum, hholds, hordered, ?_⟩
    intro record hrecord
    refine ⟨?_, hbehind record hrecord⟩
    rintro _ ⟨⟩

/-! ### What the reads rest on -/

theorem rank_injective {a b : ExpertKey} (h : rank a = rank b) : a = b := by
  obtain ⟨hlayer, hexpert⟩ := Prod.mk.inj (toLex.injective h)
  rw [ExpertKey.mk.injEq]
  exact ⟨hlayer, hexpert⟩

/-- In records whose keys ascend, the search for a key finds its own record and no other. -/
theorem find_by_rank {α : Type} {keyOf : α → ExpertKey} {records : List α}
    (sorted : records.Pairwise fun a b => rank (keyOf a) < rank (keyOf b)) {key : ExpertKey}
    {record : α} :
    (binarySearchByKey (fun record => rank (keyOf record)) records (rank key)).bind (records[·]?) =
      some record ↔
      record ∈ records ∧ keyOf record = key := by
  rw [Option.bind_eq_some_iff]
  constructor
  · rintro ⟨place, hplace, hrecord⟩
    obtain ⟨found, hfound, hkey⟩ := (binarySearchByKey_eq_some_iff sorted).mp hplace
    cases hfound.symm.trans hrecord
    exact ⟨List.mem_of_getElem? hfound, rank_injective hkey⟩
  · rintro ⟨hmem, rfl⟩
    obtain ⟨place, hplace⟩ := List.mem_iff_getElem?.mp hmem
    exact ⟨place, (binarySearchByKey_eq_some_iff sorted).mpr ⟨record, hplace, rfl⟩, hplace⟩

namespace SidecarManifest.Valid
variable {manifest : SidecarManifest}

/-- A key finds its own record and no other. -/
theorem record_eq_some_iff (h : manifest.Valid) {key : ExpertKey} {record : ExpertRecord} :
    manifest.record key = some record ↔ record ∈ manifest.records ∧ record.key = key :=
  find_by_rank (h.ordered.imp And.left)

theorem record_eq_none (h : manifest.Valid) {key : ExpertKey}
    (habsent : ∀ record ∈ manifest.records, record.key ≠ key) :
    manifest.record key = none := by
  by_contra hfound
  obtain ⟨record, hrecord⟩ := Option.ne_none_iff_exists'.mp hfound
  obtain ⟨hmem, hkey⟩ := h.record_eq_some_iff.mp hrecord
  exact habsent record hmem hkey

/-- The records lie behind the header. -/
theorem behind_header (h : manifest.Valid) {record : ExpertRecord}
    (hrecord : record ∈ manifest.records) :
    sidecarHeaderBytes ≤ record.offset := by
  obtain ⟨minimum, hminimum, hbehind⟩ := h.behind
  obtain ⟨hpower, hrounded⟩ := alignUp_eq_ok.mp hminimum
  exact (alignUp_eq_some hpower hrounded).1.trans (hbehind record hrecord)

end SidecarManifest.Valid

/-- Where a matrix is in the bytes of its record. -/
theorem Segment.Inside.relativeRange_eq {segment : Segment} {record : ExpertRecord}
    (h : segment.Inside record) (fits : record.offset + record.length ≤ usizeMax) :
    relativeRange record segment =
      .ok (segment.offset - record.offset, segment.offset - record.offset + segment.length) := by
  have hstart := h.start
  have hstop := h.stop
  have hsub : checkedSub segment.offset record.offset = some (segment.offset - record.offset) :=
    checkedSub_eq_some.mpr ⟨hstart, rfl⟩
  have hadd : checkedAdd (segment.offset - record.offset) segment.length =
      some (segment.offset - record.offset + segment.length) :=
        checkedAdd_eq_some.mpr ⟨by omega, rfl⟩
  rw [relativeRange, okOr_eq_ok.mpr hsub, except_ok_bind, okOr_eq_ok.mpr hadd, except_ok_bind,
    (ensure_eq_ok (u := ())).mpr (by omega), except_ok_bind,
    (ensure_eq_ok (u := ())).mpr (by omega), except_ok_bind]
  rfl

/-- The bytes of a matrix are in the bytes of its record. -/
theorem Segment.Inside.indexRange_eq {segment : Segment} {record : ExpertRecord}
    (h : segment.Inside record) {bytes : List UInt8} (hlength : bytes.length = record.length) :
    indexRange bytes (segment.offset - record.offset,
      segment.offset - record.offset + segment.length) =
      some (slice bytes (segment.offset - record.offset) segment.length) := by
  have hstart := h.start
  have hstop := h.stop
  rw [indexRange, if_pos (by dsimp only; omega), Nat.add_sub_cancel_left]

/-- What a read of an expert answers: the bytes of its record with the ranges of its matrices, or
what stopped the read of the bytes. -/
theorem Sidecar.readExpert_eq (sidecar : Sidecar) {key : ExpertKey} {record : ExpertRecord}
    (h : sidecar.manifest.record key = some record) : sidecar.readExpert key =
      (wrap SidecarError.read
        (sidecar.data.readExactAt record.offset (record.offset + record.length))).map fun bytes =>
        { bytes
          gate := (record.gate.offset - record.offset,
          record.gate.offset - record.offset + record.gate.length)
          up := (record.up.offset - record.offset,
          record.up.offset - record.offset + record.up.length)
          down := (record.down.offset - record.offset,
          record.down.offset - record.offset + record.down.length) } := by
  have hvalid := SidecarManifest.validate_eq_ok.mp sidecar.valid
  have hholds := hvalid.holds record (hvalid.record_eq_some_iff.mp h).1
  have hrange : record.range = .ok (record.offset, record.offset + record.length) :=
    rangeOf_eq_ok.mpr ⟨hholds.fits, rfl⟩
  rw [Sidecar.readExpert, h]
  simp only [okOr, except_ok_bind, hrange, hholds.tidy.gate.relativeRange_eq hholds.fits,
    hholds.tidy.up.relativeRange_eq hholds.fits,
    hholds.tidy.down.relativeRange_eq hholds.fits, wrap]
  cases sidecar.data.readExactAt record.offset (record.offset + record.length) with
  | error error => rfl
  | ok bytes => rfl

/-- A validated manifest is safe to read from. -/
theorem validated_manifest_safe {manifest : SidecarManifest} (h : manifest.validate = .ok ()) :
    (∀ record ∈ manifest.records, manifest.alignment ∣ record.offset ∧
      sidecarHeaderBytes ≤ record.offset ∧
        record.offset + record.length ≤ manifest.sidecar.length ∧ record.Tidy) ∧
      manifest.records.Pairwise Precedes ∧
      (∀ key record, manifest.record key = some record ↔ record ∈ manifest.records ∧
        record.key = key) ∧
      (∀ key, (∀ record ∈ manifest.records, record.key ≠ key) → manifest.record key = none) ∧
      ∀ sidecar : Sidecar, sidecar.manifest = manifest → ∀ key,
        (∀ error, sidecar.readExpert key ≠ .error (.format error)) ∧
        ∀ expert, sidecar.readExpert key = .ok expert → ∃ record,
        manifest.record key = some record ∧
          expert.bytes.length = record.length ∧
          indexRange expert.bytes expert.gate =
            some (slice expert.bytes (record.gate.offset - record.offset) record.gate.length) ∧
          indexRange expert.bytes expert.up =
          some (slice expert.bytes (record.up.offset - record.offset) record.up.length) ∧
          indexRange expert.bytes expert.down =
            some (slice expert.bytes (record.down.offset - record.offset) record.down.length) := by
  have hvalid := SidecarManifest.validate_eq_ok.mp h
  refine ⟨?_, hvalid.ordered, fun _ _ => hvalid.record_eq_some_iff, fun _ =>
    hvalid.record_eq_none, ?_⟩
  · intro record hrecord
    have hholds := hvalid.holds record hrecord
    exact ⟨hholds.aligned, hvalid.behind_header hrecord, hholds.inside, hholds.tidy⟩
  · rintro sidecar rfl key
    cases hrecord : sidecar.manifest.record key with
    | none =>
        have hread : sidecar.readExpert key = .error (.missingExpert key) := by
          rw [Sidecar.readExpert, hrecord]
          rfl
        rw [hread]
        exact ⟨fun _ => nofun, fun _ => nofun⟩
    | some record =>
        have htidy := (hvalid.holds record (hvalid.record_eq_some_iff.mp hrecord).1).tidy
        rw [sidecar.readExpert_eq hrecord]
        cases hbytes : sidecar.data.readExactAt record.offset (record.offset + record.length) with
        | error error => exact ⟨fun _ => nofun, fun _ => nofun⟩
        | ok bytes =>
            have hlength : bytes.length = record.length := by
              rw [PositionedFile.length_readExactAt hbytes, Nat.add_sub_cancel_left]
            refine ⟨fun _ => nofun, ?_⟩
            rintro expert ⟨⟩
            exact ⟨record, rfl, hlength, htidy.gate.indexRange_eq hlength,
              htidy.up.indexRange_eq hlength, htidy.down.indexRange_eq hlength⟩

/-! ### A sidecar of two experts -/

/-- The record of an expert of three matrices of four bytes. -/
def tinyRecord (expert : Nat) : ExpertRecord where
  key := ⟨1, expert⟩
  offset := 64 + 96 * expert
  length := 68
  gate := ⟨64 + 96 * expert, 4, "F32"⟩
  up := ⟨96 + 96 * expert, 4, "F32"⟩
  down := ⟨128 + 96 * expert, 4, "F32"⟩

def zeroHash : String := String.ofList (List.replicate 64 '0')

def tinyManifest : SidecarManifest where
  format := sidecarFormat
  formatVersion := 1
  engineVersion := ""
  quantAbiVersion := 1
  alignment := 32
  layout := .sequential
  sourceFiles := [⟨0, "tiny.gguf", 64, zeroHash⟩]
  tensorDirectorySha256 := zeroHash
  sidecar := ⟨228, zeroHash⟩
  records := [tinyRecord 0, tinyRecord 1]

theorem tinyManifest_validated : tinyManifest.validate = .ok () := by decide +kernel

def tinySidecar : Sidecar where
  data := ⟨List.replicate 228 0, 68, fun _ _ => none, fun _ => true⟩
  manifest := tinyManifest
  valid := tinyManifest_validated
  length := List.length_replicate

theorem validated_manifest_tiny : tinyManifest.record ⟨1, 1⟩ = some (tinyRecord 1) ∧
    ∀ error, tinySidecar.readExpert ⟨1, 1⟩ ≠ .error (.format error) := by
  obtain ⟨-, -, hrecord, -, hread⟩ := validated_manifest_safe tinyManifest_validated
  exact ⟨(hrecord _ _).mpr ⟨by simp [tinyManifest], rfl⟩, (hread tinySidecar rfl _).1⟩

end LightBridge.Format
