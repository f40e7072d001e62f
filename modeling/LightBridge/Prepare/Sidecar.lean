import LightBridge.Format.Header
import LightBridge.Hy3.Budget
import LightBridge.Prepare.Binding

/-! `prepare_sidecar` up to its manifest: the expert data written behind a header, and the manifest
of it. -/
namespace LightBridge.Prepare
open Foundation Io Hy3 Format

structure PrepareOptions where
  layout : ExpertLayout
  alignment : Nat
  overwrite : Bool
  verifyAfterWrite : Bool
  hashChunkBytes : Nat
  deriving DecidableEq, Repr

def validateOptions (options : PrepareOptions) : Except SidecarFailure Unit := do
  let _ ← wrap .format (Format.alignUp 0 options.alignment)
  validateHashChunk options.hashChunkBytes

/-- What the host answers while a sidecar is prepared. The cancellation is looked at once in the
beginning and before every record, the output fails by its length, and `nonce` is none before the
epoch of the clock. -/
structure PrepareHost extends SourceHost where
  sha256 : Sha256
  store : StoreHost
  existing : Path → Option (List UInt8)
  stopped : Option Nat → Bool
  nonce : Option Nat
  creating : Option IoError
  writing : Nat → Option IoError
  flushing : Option IoError

/-- `env!("CARGO_PKG_VERSION")`. -/
def engineVersion : String := "0.1.0"

/-! ### The expert data -/

/-- The temporary file, what its hasher has been fed, and the position in the file. -/
structure SidecarWriter where
  output : List UInt8
  hasher : List UInt8
  position : Nat

section Writing
variable (host : PrepareHost) (path : Path)

/-- `write_hashed`. -/
def writeHashed (writer : SidecarWriter) (bytes : List UInt8) :
    Except SidecarFailure SidecarWriter :=
  match host.writing writer.output.length with
  | some source => .error (.files (.outputIo path "write sidecar data" source))
  | none => .ok { writer with output := writer.output ++ bytes, hasher := writer.hasher ++ bytes }

/-- The loop that writes zeroes, with `fuel` writes at most. -/
def writeZeroes : Nat → Nat → SidecarWriter → Except SidecarFailure SidecarWriter
  | 0, _, writer => .ok writer
  | fuel + 1, remaining, writer =>
      if 0 < remaining then do
        let writer ← writeHashed host path writer (List.replicate (min remaining 8192) 0)
        writeZeroes fuel (remaining - min remaining 8192) writer
      else .ok writer

def padToAlignment (alignment : Nat) (writer : SidecarWriter) :
    Except SidecarFailure SidecarWriter := do
  let aligned ← wrap .format (Format.alignUp writer.position alignment)
  let writer ← writeZeroes host path (aligned - writer.position) (aligned - writer.position) writer
  pure { writer with position := aligned }

def copySegment (direct : DirectExpertStore) (key : ExpertKey) (source : SourceSegment)
    (writer : SidecarWriter) :
    Except SidecarFailure (Segment × SidecarWriter) := do
  let bytes ← direct.readSegment source
  ensure (bytes.length = source.length) (.segmentLengthMismatch key source.length bytes.length)
  let written ← writeHashed host path writer bytes
  let next ← okOr (checkedAdd writer.position bytes.length) .arithmeticOverflow
  pure ({ offset := writer.position, length := bytes.length, ggmlType := source.ggmlType },
    { written with position := next })

/-- The padding behind the gate, which the sequential layout has. -/
def padGate (options : PrepareOptions) (writer : SidecarWriter) :
    Except SidecarFailure SidecarWriter :=
  if options.layout = .sequential then padToAlignment host path options.alignment writer
    else .ok writer

/-- The matrices of one expert, each where the layout puts it. -/
def writeExpert (options : PrepareOptions) (direct : DirectExpertStore)
    (source : DirectExpertRecord) (writer : SidecarWriter) :
    Except SidecarFailure (ExpertRecord × SidecarWriter) := do
  let started ← padToAlignment host path options.alignment writer
  let (gate, writer) ← copySegment host path direct source.key source.gate started
  let writer ← padGate host path options writer
  let (up, writer) ← copySegment host path direct source.key source.up writer
  let writer ← padToAlignment host path options.alignment writer
  let (down, writer) ← copySegment host path direct source.key source.down writer
  let writer ← padToAlignment host path options.alignment writer
  let length ← okOr (checkedSub writer.position started.position) .arithmeticOverflow
  pure ({ key := source.key, offset := started.position, length, gate, up, down }, writer)

/-- The state of the loop over the experts. -/
structure SidecarDraft where
  writer : SidecarWriter
  expertPayloadBytes : Nat
  records : List ExpertRecord

/-- The body of the loop over the experts. -/
def draftExpert (options : PrepareOptions) (direct : DirectExpertStore) (draft : SidecarDraft)
    (source : DirectExpertRecord × Nat) : Except SidecarFailure SidecarDraft := do
  ensure (host.stopped (some source.2) = false) .cancelled
  let (record, writer) ← writeExpert host path options direct source.1 draft.writer
  let expertPayloadBytes ← okOr (((checkedAdd draft.expertPayloadBytes record.gate.length).bind
    (checkedAdd · record.up.length)).bind (checkedAdd · record.down.length)) .arithmeticOverflow
  pure { writer, expertPayloadBytes, records := draft.records ++ [record] }

/-- The header and the experts behind it. -/
def draftExperts (options : PrepareOptions) (direct : DirectExpertStore) :
    Except SidecarFailure SidecarDraft := do
  let header :=
    (SidecarHeader.new options.layout options.alignment direct.index.records.length).encode
  let writer ← writeHashed host path ⟨[], [], 0⟩ header
  let writer ← padToAlignment host path options.alignment { writer with position := header.length }
  ensure (host.reserved direct.index.records.length) (.allocationFailed direct.index.records.length)
  direct.index.records.zipIdx.foldlM (draftExpert host path options direct) ⟨writer, 0, []⟩

end Writing

/-! ### The manifest -/

/-- What is prepared before anything is put in place. -/
structure Prepared where
  manifest : SidecarManifest
  output : List UInt8
  sourceBytesHashed : Nat
  expertPayloadBytes : Nat

/-- What is known before a file is made. -/
structure SidecarPlan where
  direct : DirectExpertStore
  directoryHash : String
  sourceFiles : List SourceFileIdentity
  sourceBytesHashed : Nat
  nonce : Nat
  temporaryData : Path
  temporaryManifest : Path

/-- `prepare_sidecar` up to the first temporary file. -/
def planSidecar (host : PrepareHost) (set : GgufSet) (model : ValidatedModel)
    (dataPath manifestPath : Path) (options : PrepareOptions) :
    Except SidecarFailure SidecarPlan := do
  validateOptions options
  wrap .files
    (validateOutputTargets host.system host.existing
      (set.files.map fun shard => host.path shard.path) dataPath manifestPath options.overwrite)
  ensure (host.stopped none = false) .cancelled
  let direct ← DirectExpertStore.new host.store set model
  let directoryHash ← tensorDirectorySha256 host.sha256 set
  let sourceFiles ← hashSourceFiles host.sha256 host.toSourceHost set options.hashChunkBytes
  let sourceBytesHashed ← okOr
    (sourceFiles.foldlM (fun total source => checkedAdd total source.length) 0) .arithmeticOverflow
  let nonce ← okOr host.nonce .clockBeforeEpoch
  let temporaryData ← wrap .files (temporaryPath dataPath "data" nonce)
  let temporaryManifest ← wrap .files (temporaryPath manifestPath "manifest" nonce)
  pure { direct, directoryHash, sourceFiles, sourceBytesHashed, nonce, temporaryData,
         temporaryManifest }

/-- What is written to the temporary file, and the manifest of it. -/
def fillSidecar (host : PrepareHost) (options : PrepareOptions) (plan : SidecarPlan) :
    Except SidecarFailure Prepared := do
  let draft ← draftExperts host plan.temporaryData options plan.direct
  ensure host.flushing.isNone
    (.files (.outputIo plan.temporaryData "flush temporary sidecar"
      (host.flushing.getD .notFound)))
  let manifest := {
    format := sidecarFormat, formatVersion := sidecarFormatVersion, engineVersion, quantAbiVersion
    alignment := options.alignment, layout := options.layout, sourceFiles := plan.sourceFiles,
    tensorDirectorySha256 := plan.directoryHash
    sidecar := { length := draft.writer.position,
                 sha256 := hex (host.sha256 draft.writer.hasher).val }
    records := draft.records }
  pure { manifest, output := draft.writer.output, sourceBytesHashed := plan.sourceBytesHashed,
         expertPayloadBytes := draft.expertPayloadBytes }

/-- `prepare_sidecar` up to the manifest, for output paths that are absolute. -/
def draftSidecar (host : PrepareHost) (set : GgufSet) (model : ValidatedModel)
    (dataPath manifestPath : Path) (options : PrepareOptions) :
    Except SidecarFailure Prepared := do
  let plan ← planSidecar host set model dataPath manifestPath options
  ensure host.creating.isNone
    (.files (.outputIo plan.temporaryData "create temporary sidecar"
      (host.creating.getD .notFound)))
  fillSidecar host options plan

/-- `prepare_sidecar` up to the validation of its manifest. -/
def prepareManifest (host : PrepareHost) (set : GgufSet) (model : ValidatedModel)
    (dataPath manifestPath : Path)
    (options : PrepareOptions) : Except SidecarFailure Prepared := do
  let prepared ← draftSidecar host set model dataPath manifestPath options
  wrap .format prepared.manifest.validate
  pure prepared

/-! ### What is written -/

/-- The hasher has been fed the whole output, up to the position. -/
structure SidecarWriter.Tied (writer : SidecarWriter) : Prop where
  hasher : writer.hasher = writer.output
  position : writer.output.length = writer.position

/-- The position is rounded up, and zeroes are written up to it. -/
structure Padded (alignment : Nat) (before after : SidecarWriter) : Prop where
  rounded : Format.alignUp before.position alignment = .ok after.position
  tied : before.Tied → after.Tied

/-- The bytes of a segment are written at the position. -/
structure Copied (source : SourceSegment) (before : SidecarWriter) (segment : Segment)
    (after : SidecarWriter) : Prop where
  placed : segment = ⟨before.position, source.length, source.ggmlType⟩
  position : after.position = before.position + source.length
  tied : before.Tied → after.Tied

section Written
variable {host : PrepareHost} {path : Path} {before after : SidecarWriter}

theorem writeHashed_eq_ok {bytes : List UInt8}
    (h : writeHashed host path before bytes = .ok after) :
    after = { before with output := before.output ++ bytes, hasher := before.hasher ++ bytes } := by
  unfold writeHashed at h
  split at h
  · cases h
  · exact (Except.ok.inj h).symm

/-- The chunks of zeroes are as many zeroes as were asked for. -/
theorem writeZeroes_eq_ok {fuel remaining : Nat} (enough : remaining ≤ fuel)
    (h : writeZeroes host path fuel remaining before = .ok after) :
    after = { before with
      output := before.output ++ List.replicate remaining 0
      hasher := before.hasher ++ List.replicate remaining 0 } := by
  induction fuel generalizing remaining before with
  | zero =>
      cases h
      rw [Nat.le_zero.mp enough, List.replicate_zero, List.append_nil, List.append_nil]
  | succ fuel ih =>
      rw [writeZeroes] at h
      split at h
      · obtain ⟨written, hwritten, h⟩ := except_bind_ok_iff.mp h
        have hzeroes : List.replicate (min remaining 8192) (0 : UInt8) ++
            List.replicate (remaining - min remaining 8192) 0 = List.replicate remaining 0 := by
          rw [List.replicate_append_replicate, Nat.add_sub_cancel' (Nat.min_le_left _ _)]
        rw [ih (by omega) h, writeHashed_eq_ok hwritten]
        simp only [List.append_assoc, hzeroes]
      · cases h
        have hnone : remaining = 0 := by omega
        rw [hnone, List.replicate_zero, List.append_nil, List.append_nil]

theorem padToAlignment_eq_ok {alignment : Nat}
    (h : padToAlignment host path alignment before = .ok after) :
    Padded alignment before after := by
  obtain ⟨aligned, haligned, h⟩ := except_bind_ok_iff.mp h
  obtain ⟨written, hwritten, h⟩ := except_bind_ok_iff.mp h
  cases h
  have hrounded := wrap_eq_ok.mp haligned
  refine ⟨hrounded, ?_⟩
  rintro ⟨hhasher, hposition⟩
  obtain ⟨hpower, hsome⟩ := alignUp_eq_ok.mp hrounded
  have hle := (alignUp_eq_some hpower hsome).1
  rw [writeZeroes_eq_ok (Nat.le_refl _) hwritten]
  refine ⟨by rw [hhasher], ?_⟩
  rw [List.length_append, List.length_replicate]
  dsimp only
  omega

theorem copySegment_eq_ok {direct : DirectExpertStore} {key : ExpertKey} {source : SourceSegment}
    {segment : Segment}
    (h : copySegment host path direct key source before = .ok (segment, after)) :
    Copied source before segment after := by
  obtain ⟨bytes, -, h⟩ := except_bind_ok_iff.mp h
  obtain ⟨_, hlength, h⟩ := except_bind_ok_iff.mp h
  obtain ⟨written, hwritten, h⟩ := except_bind_ok_iff.mp h
  obtain ⟨next, hnext, h⟩ := except_bind_ok_iff.mp h
  cases h
  have hlength := ensure_eq_ok.mp hlength
  obtain ⟨-, rfl⟩ := checkedAdd_eq_some.mp (okOr_eq_ok.mp hnext)
  refine ⟨by rw [hlength], by rw [hlength], ?_⟩
  rintro ⟨hhasher, hposition⟩
  rw [writeHashed_eq_ok hwritten]
  exact ⟨by rw [hhasher], by rw [List.length_append, hposition]⟩

/-- An expert is written behind what is there, tidily and where the layout puts its matrices. -/
structure Written (options : PrepareOptions) (source : DirectExpertRecord) (before : SidecarWriter)
    (record : ExpertRecord) (after : SidecarWriter) : Prop where
  key : record.key = source.key
  behind : before.position ≤ record.offset
  aligned : options.alignment ∣ record.offset
  stop : record.offset + record.length = after.position
  fits : after.position ≤ usizeMax
  tidy : record.Tidy
  placed : record.Placed options.alignment options.layout
  tied : before.Tied → after.Tied

theorem Padded.bounds {alignment : Nat} (h : Padded alignment before after) :
    before.position ≤ after.position ∧ alignment ∣ after.position ∧ after.position ≤ usizeMax := by
  obtain ⟨hpower, hsome⟩ := alignUp_eq_ok.mp h.rounded
  obtain ⟨hle, -, hdvd, hlt⟩ := alignUp_eq_some hpower hsome
  exact ⟨hle, hdvd, Nat.le_sub_one_of_lt hlt⟩

theorem writeExpert_eq_ok {options : PrepareOptions} {direct : DirectExpertStore}
    {source : DirectExpertRecord} (gatePositive : 0 < source.gate.length)
    (upPositive : 0 < source.up.length) (downPositive : 0 < source.down.length)
    {record : ExpertRecord}
    (h : writeExpert host path options direct source before = .ok (record, after)) :
    Written options source before record after := by
  obtain ⟨started, hstarted, h⟩ := except_bind_ok_iff.mp h
  obtain ⟨⟨gate, gateEnd⟩, hgate, h⟩ := except_bind_ok_iff.mp h
  obtain ⟨upStart, hupStart, h⟩ := except_bind_ok_iff.mp h
  obtain ⟨⟨up, upEnd⟩, hup, h⟩ := except_bind_ok_iff.mp h
  obtain ⟨downStart, hdownStart, h⟩ := except_bind_ok_iff.mp h
  obtain ⟨⟨down, downEnd⟩, hdown, h⟩ := except_bind_ok_iff.mp h
  obtain ⟨last, hlast, h⟩ := except_bind_ok_iff.mp h
  obtain ⟨length, hlength, h⟩ := except_bind_ok_iff.mp h
  cases h
  have hstarted := padToAlignment_eq_ok hstarted
  have hgate := copySegment_eq_ok hgate
  have hup := copySegment_eq_ok hup
  have hdownStart := padToAlignment_eq_ok hdownStart
  have hdown := copySegment_eq_ok hdown
  have hlast := padToAlignment_eq_ok hlast
  -- The sequential layout pads behind the gate as well, the fused one does not.
  have hmiddle : gateEnd.position ≤ upStart.position ∧ (gateEnd.Tied → upStart.Tied) ∧
      (options.layout = .sequential → options.alignment ∣ upStart.position) ∧
      (options.layout ≠ .sequential → upStart.position = gateEnd.position) := by
    rw [padGate] at hupStart
    split at hupStart
    · rename_i hsequential
      have hpadded := padToAlignment_eq_ok hupStart
      exact ⟨hpadded.bounds.1, hpadded.tied, fun _ => hpadded.bounds.2.1, fun h =>
        absurd hsequential h⟩
    · rename_i hfused
      cases hupStart
      exact ⟨Nat.le_refl _, id, fun h => absurd h hfused, fun _ => rfl⟩
  obtain ⟨hupLe, hupTied, hsequential, hfused⟩ := hmiddle
  obtain ⟨hstartedLe, hstartedDvd, -⟩ := hstarted.bounds
  obtain ⟨hdownLe, hdownDvd, -⟩ := hdownStart.bounds
  obtain ⟨hlastLe, -, hfits⟩ := hlast.bounds
  obtain ⟨hpositive, rfl⟩ := checkedSub_eq_some.mp (okOr_eq_ok.mp hlength)
  have hgatePosition := hgate.position
  have hupPosition := hup.position
  have hdownPosition := hdown.position
  rw [hgate.placed, hup.placed, hdown.placed]
  refine ⟨rfl, hstartedLe, hstartedDvd, ?_, hfits, ?_, ?_, ?_⟩
  · dsimp only
    omega
  · refine ⟨⟨gatePositive, ?_, ?_⟩, ⟨upPositive, ?_, ?_⟩, ⟨downPositive, ?_, ?_⟩, ?_, ?_⟩ <;>
      dsimp only <;> omega
  · cases hlayout : options.layout with
    | sequential => exact ⟨hstartedDvd, hsequential hlayout, hdownDvd⟩
    | fusedGateUp =>
        have hplain : options.layout ≠ .sequential := by simp [hlayout]
        refine ⟨rfl, ?_, hdownDvd⟩
        dsimp only
        rw [hfused hplain, hgatePosition]
  · intro hbefore
    exact hlast.tied
      (hdown.tied (hdownStart.tied (hup.tied (hupTied (hgate.tied (hstarted.tied hbefore))))))

end Written

/-! ### The loop over the experts -/

/-- What holds of a draft behind `minimum` when the sources `done` are written. -/
structure DraftHolds (options : PrepareOptions) (minimum : Nat) (done : List DirectExpertRecord)
    (draft : SidecarDraft) : Prop where
  keys : draft.records.map ExpertRecord.key = done.map DirectExpertRecord.key
  holds : ∀ record ∈ draft.records, options.alignment ∣ record.offset ∧ minimum ≤ record.offset ∧
    record.offset + record.length ≤ draft.writer.position ∧ record.Tidy ∧
      record.Placed options.alignment options.layout
  apart : draft.records.Pairwise fun first second => first.offset + first.length ≤ second.offset
  behind : minimum ≤ draft.writer.position
  fits : draft.writer.position ≤ usizeMax
  tied : draft.writer.Tied

/-- No matrix of an expert is empty. -/
structure Filled (source : DirectExpertRecord) : Prop where
  gate : 0 < source.gate.length
  up : 0 < source.up.length
  down : 0 < source.down.length

theorem draftExpert_keeps {host : PrepareHost} {path : Path} {options : PrepareOptions}
    {direct : DirectExpertStore} {minimum : Nat} {done : List DirectExpertRecord}
    {draft after : SidecarDraft} {source : DirectExpertRecord × Nat}
    (hdraft : DraftHolds options minimum done draft) (filled : Filled source.1)
    (h : draftExpert host path options direct draft source = .ok after) :
    DraftHolds options minimum (done ++ [source.1]) after := by
  obtain ⟨_, -, h⟩ := except_bind_ok_iff.mp h
  obtain ⟨⟨record, writer⟩, hrecord, h⟩ := except_bind_ok_iff.mp h
  obtain ⟨payload, -, h⟩ := except_bind_ok_iff.mp h
  cases h
  have hwritten := writeExpert_eq_ok filled.gate filled.up filled.down hrecord
  have hbehind := hdraft.behind
  have hstart := hwritten.behind
  have hstop := hwritten.stop
  refine ⟨?_, ?_, ?_, by dsimp only; omega, hwritten.fits, hwritten.tied hdraft.tied⟩
  · rw [List.map_append, List.map_append, hdraft.keys, List.map_singleton, List.map_singleton,
      hwritten.key]
  · intro other hother
    rcases List.mem_append.mp hother with hother | hother
    · obtain ⟨haligned, hminimum, hinside, htidy, hplaced⟩ := hdraft.holds other hother
      exact ⟨haligned, hminimum, by dsimp only; omega, htidy, hplaced⟩
    · rw [List.mem_singleton.mp hother]
      exact ⟨hwritten.aligned, by omega, by dsimp only; omega, hwritten.tidy, hwritten.placed⟩
  · rw [List.pairwise_append]
    refine ⟨hdraft.apart, List.pairwise_singleton _ _, ?_⟩
    intro first hfirst second hsecond
    rw [List.mem_singleton.mp hsecond]
    have hinside := (hdraft.holds first hfirst).2.2.1
    omega

/-- The experts lie behind the header, which is padded to the first of them. -/
theorem draftExperts_eq_ok {host : PrepareHost} {path : Path} {options : PrepareOptions}
    {direct : DirectExpertStore} {draft : SidecarDraft}
    (filled : ∀ source ∈ direct.index.records, Filled source)
    (h : draftExperts host path options direct = .ok draft) :
    ∃ minimum, Format.alignUp sidecarHeaderBytes options.alignment = .ok minimum ∧
      DraftHolds options minimum direct.index.records draft := by
  obtain ⟨headed, hheaded, h⟩ := except_bind_ok_iff.mp h
  obtain ⟨started, hstarted, h⟩ := except_bind_ok_iff.mp h
  obtain ⟨_, -, h⟩ := except_bind_ok_iff.mp h
  have hpadded := padToAlignment_eq_ok hstarted
  have hrounded := hpadded.rounded
  rw [SidecarHeader.length_encode] at hrounded
  refine ⟨started.position, hrounded, ?_⟩
  have hinit : DraftHolds options started.position [] ⟨started, 0, []⟩ := by
    refine ⟨rfl, fun _ hmem => absurd hmem List.not_mem_nil, List.Pairwise.nil, Nat.le_refl _,
      hpadded.bounds.2.2, hpadded.tied ?_⟩
    rw [writeHashed_eq_ok hheaded]
    exact ⟨rfl, rfl⟩
  have hrun :=
    except_foldlM_run (P := fun done now =>
      DraftHolds options started.position (done.map Prod.fst) now) h hinit ?_
  · rwa [List.zipIdx_map_fst] at hrun
  · intro done source now after hsource hnow hstep
    rw [List.map_append, List.map_singleton]
    exact draftExpert_keeps hnow (filled source.1 (List.fst_mem_of_mem_zipIdx hsource)) hstep

/-- The matrices of the experts of a validated model are not empty. -/
theorem filled_of_build {reserved : Nat → Bool} {model : ValidatedModel} {index : DirectExpertIndex}
    (h : DirectExpertIndex.build reserved model = .ok index) : ∀ source ∈ index.records,
      Filled source := by
  intro source hsource
  obtain ⟨gate, up, down, hsources⟩ := (DirectExpertIndex.build_eq_ok h).2 source hsource
  exact ⟨sourceSegment_positive hsources.gateSegment, sourceSegment_positive hsources.upSegment,
    sourceSegment_positive hsources.downSegment⟩

/-! ### The manifest that is built -/

/-- The identities of the sources are in their order, and one for each. -/
theorem hashSourceFiles_eq_ok {sha : Sha256} {host : SourceHost} {set : GgufSet} {chunkSize : Nat}
    {identities : List SourceFileIdentity}
    (h : hashSourceFiles sha host set chunkSize = .ok identities) :
    identities.length = set.files.length ∧
      ∀ source ∈ identities.zipIdx, source.1.ordinal = source.2 ∧ IsSha256 source.1.sha256 := by
  obtain ⟨_, hchunk, h⟩ := except_bind_ok_iff.mp h
  obtain ⟨_, -, h⟩ := except_bind_ok_iff.mp h
  have hpositive : 0 < chunkSize := by
    have hrange := ensure_eq_ok.mp hchunk
    omega
  have hlength := (except_mapM_ok_iff.mp h).length_eq
  rw [List.length_zipIdx] at hlength
  refine ⟨hlength.symm, ?_⟩
  intro source hsource
  obtain ⟨i, hi, rfl⟩ := List.mem_iff_getElem.mp hsource
  rw [List.length_zipIdx] at hi
  obtain ⟨hordinal, -, hsha⟩ :=
    hashSourceFile_eq_ok hpositive (except_mapM_getElem h (by rw [List.length_zipIdx]; omega) hi)
  rw [List.getElem_zipIdx] at hordinal hsha ⊢
  rw [hordinal, hsha]
  exact ⟨rfl, isSha256_hex _⟩

/-- What a draft is made of. -/
structure DraftedFrom (host : PrepareHost) (set : GgufSet) (model : ValidatedModel)
    (options : PrepareOptions) (prepared : Prepared) (draft : SidecarDraft)
    (index : DirectExpertIndex) : Prop where
  accepted : validateOptions options = .ok ()
  indexed : DirectExpertIndex.build host.store.reserved model = .ok index
  directory : tensorDirectorySha256 host.sha256 set = .ok prepared.manifest.tensorDirectorySha256
  sources : hashSourceFiles host.sha256 host.toSourceHost set options.hashChunkBytes =
    .ok prepared.manifest.sourceFiles
  experts : ∃ path readers, draftExperts host path options ⟨readers, index⟩ = .ok draft
  manifest : prepared.manifest = {
    format := sidecarFormat, formatVersion := sidecarFormatVersion, engineVersion, quantAbiVersion
    alignment := options.alignment, layout := options.layout,
    sourceFiles := prepared.manifest.sourceFiles
    tensorDirectorySha256 := prepared.manifest.tensorDirectorySha256
    sidecar := { length := draft.writer.position,
                 sha256 := hex (host.sha256 draft.writer.hasher).val }
    records := draft.records }
  output : prepared.output = draft.writer.output

theorem draftSidecar_eq_ok {host : PrepareHost} {set : GgufSet} {model : ValidatedModel}
    {dataPath manifestPath : Path} {options : PrepareOptions} {prepared : Prepared}
    (h : draftSidecar host set model dataPath manifestPath options = .ok prepared) :
    ∃ draft index, DraftedFrom host set model options prepared draft index := by
  obtain ⟨plan, hplan, h⟩ := except_bind_ok_iff.mp h
  obtain ⟨_, -, h⟩ := except_bind_ok_iff.mp h
  obtain ⟨draft, hdraft, h⟩ := except_bind_ok_iff.mp h
  obtain ⟨_, -, h⟩ := except_bind_ok_iff.mp h
  cases h
  obtain ⟨_, haccepted, hplan⟩ := except_bind_ok_iff.mp hplan
  obtain ⟨_, -, hplan⟩ := except_bind_ok_iff.mp hplan
  obtain ⟨_, -, hplan⟩ := except_bind_ok_iff.mp hplan
  obtain ⟨direct, hdirect, hplan⟩ := except_bind_ok_iff.mp hplan
  obtain ⟨directory, hdirectory, hplan⟩ := except_bind_ok_iff.mp hplan
  obtain ⟨sources, hsources, hplan⟩ := except_bind_ok_iff.mp hplan
  iterate 4 obtain ⟨_, -, hplan⟩ := except_bind_ok_iff.mp hplan
  cases hplan
  obtain ⟨index, hindex, hdirect⟩ := except_bind_ok_iff.mp hdirect
  iterate 2 obtain ⟨_, -, hdirect⟩ := except_bind_ok_iff.mp hdirect
  obtain ⟨readers, -, hdirect⟩ := except_bind_ok_iff.mp hdirect
  cases hdirect
  exact ⟨draft, index, haccepted, hindex, hdirectory, hsources, ⟨_, _, hdraft⟩, rfl, rfl⟩

section Drafted
variable {host : PrepareHost} {set : GgufSet} {model : ValidatedModel} {options : PrepareOptions}
    {prepared : Prepared}
  {draft : SidecarDraft} {index : DirectExpertIndex}

/-- The manifest describes the output: its length, its digest, and where the experts are in it. -/
theorem DraftedFrom.output_eq (h : DraftedFrom host set model options prepared draft index) :
    prepared.output.length = prepared.manifest.sidecar.length ∧
      prepared.manifest.sidecar.sha256 = hex (host.sha256 prepared.output).val := by
  obtain ⟨_, _, hexperts⟩ := h.experts
  obtain ⟨_, -, hdraft⟩ := draftExperts_eq_ok (filled_of_build h.indexed) hexperts
  rw [h.manifest, h.output]
  exact ⟨hdraft.tied.position, by rw [hdraft.tied.hasher]⟩

/-- Whatever is accepted and drafted satisfies all that a manifest has to, the least alignment
apart. -/
theorem DraftedFrom.valid_iff (h : DraftedFrom host set model options prepared draft index)
    (sourced : set.files ≠ []) :
    prepared.manifest.Valid ↔ 32 ≤ options.alignment := by
  constructor
  · intro hvalid
    have halignment := hvalid.alignment.1
    rwa [h.manifest] at halignment
  · intro halignment
    obtain ⟨_, _, hexperts⟩ := h.experts
    obtain ⟨minimum, hminimum, hdraft⟩ := draftExperts_eq_ok (filled_of_build h.indexed) hexperts
    obtain ⟨hpower, hrounded⟩ := alignUp_eq_ok.mp hminimum
    have hheader := (alignUp_eq_some hpower hrounded).1
    obtain ⟨hcount, hidentities⟩ := hashSourceFiles_eq_ok h.sources
    obtain ⟨_, -, hdirectory⟩ := tensorDirectorySha256_eq_ok.mp h.directory
    have hbehind := hdraft.behind
    have hfits := hdraft.fits
    have hkeys : draft.records.Pairwise fun first second => rank first.key < rank second.key := by
      have hsorted := expertKeys_sorted model.config.blockCount model.config.expertCount
      rwa [← (DirectExpertIndex.build_eq_ok h.indexed).1, ← hdraft.keys,
        List.pairwise_map] at hsorted
    rw [h.manifest]
    refine ⟨rfl, rfl, rfl, ⟨halignment, hpower⟩, by rw [hdirectory]; exact isSha256_hex _,
      isSha256_hex _, hheader.trans hbehind, ?_, hidentities,
      ⟨minimum, hminimum, fun record hrecord => (hdraft.holds record hrecord).2.1⟩, ?_,
      hkeys.and hdraft.apart⟩
    · intro hnone
      rw [hnone] at hcount
      exact sourced (List.eq_nil_of_length_eq_zero hcount.symm)
    · intro record hrecord
      obtain ⟨haligned, -, hinside, htidy, hplaced⟩ := hdraft.holds record hrecord
      exact ⟨haligned, hinside.trans hfits, hinside, htidy, hplaced⟩

/-- An alignment that the manifest refuses is refused by the first check that looks at it. -/
theorem DraftedFrom.refused (h : DraftedFrom host set model options prepared draft index)
    (small : options.alignment < 32) :
    prepared.manifest.validate = .error (.invalidAlignment options.alignment) := by
  rw [h.manifest]
  simp [SidecarManifest.validate, ensure, small]

end Drafted

/-- A set that a model is validated for has a file. -/
theorem files_of_validated {N : Kernels.Arithmetic} {granted : String → Bool} {set : GgufSet}
    {profile : Hy3Profile} {model : ValidatedModel}
    (h : validateModelWithProfile N granted set profile = .ok model) : set.files ≠ [] := by
  rintro hnone
  have hempty : semanticTensors N granted set profile = .error .emptySet := by
    rw [semanticTensors, hnone]
    rfl
  rw [validateModelWithProfile] at h
  split at h
  · cases h
  · rename_i hsemantic
    cases hempty.symm.trans hsemantic

/-- The manifest that is built for accepted options is validated where the alignment is 32 or more.
Below, everything has been copied when the manifest is refused. -/
theorem prepared_manifest_valid_iff {host : PrepareHost} {set : GgufSet} {model : ValidatedModel}
    {dataPath manifestPath : Path} {options : PrepareOptions} {prepared : Prepared}
    (sourced : set.files ≠ [])
    (h : draftSidecar host set model dataPath manifestPath options = .ok prepared) :
    (prepared.manifest.validate = .ok () ↔ 32 ≤ options.alignment) ∧
      (32 ≤ options.alignment → prepareManifest host set model dataPath manifestPath options =
        .ok prepared) ∧
      (options.alignment < 32 → prepareManifest host set model dataPath manifestPath options =
        .error (.format (.invalidAlignment options.alignment))) := by
  obtain ⟨draft, index, hdrafted⟩ := draftSidecar_eq_ok h
  have hvalid : prepared.manifest.validate = .ok () ↔ 32 ≤ options.alignment :=
    SidecarManifest.validate_eq_ok.trans (hdrafted.valid_iff sourced)
  refine ⟨hvalid, fun halignment => ?_, fun hsmall => ?_⟩
  · rw [prepareManifest, h, except_ok_bind, hvalid.mpr halignment]
    rfl
  · rw [prepareManifest, h, except_ok_bind, hdrafted.refused hsmall]
    rfl

/-! ### A sidecar of two experts -/

/-- The slabs of two experts, and no other tensor. -/
def twoExpertsSchema : List TensorSpec :=
  [⟨"blk.1.ffn_gate_exps.weight", .routedGate 1, [1, 1, 2], .f32⟩,
    ⟨"blk.1.ffn_up_exps.weight", .routedUp 1, [1, 1, 2], .f32⟩,
    ⟨"blk.1.ffn_down_exps.weight", .routedDown 1, [1, 1, 2], .f32⟩]

def twoExpertsProfile : Hy3Profile :=
  ⟨configOf 2, .explicit twoExpertsSchema ⟨fun _ => true, by decide +kernel⟩⟩

def twoExpertsSet : GgufSet where
  files := [⟨"model.gguf", .little, .ok (configOf 2), selectedMetadataKeys,
    (List.range 96).map UInt8.ofNat⟩]
  tensors := twoExperts.tensors.map Hy3Tensor.location
  distinct := by decide

def quietPrepareHost : PrepareHost where
  toSourceHost := quietHost
  sha256 := zeroSha
  store := quietHost.toStoreHost
  existing := fun _ => none
  stopped := fun _ => false
  nonce := some 0
  creating := none
  writing := fun _ => none
  flushing := none

def validatedTwo : Except Hy3Error ValidatedModel :=
  validateModelWithProfile comparingNumerics.toArithmetic
    (fun _ => true) twoExpertsSet twoExpertsProfile

def fusedTo (alignment : Nat) : PrepareOptions := ⟨.fusedGateUp, alignment, false, false, 32⟩

/-- What is prepared of the two experts. -/
def draftTwo (model : ValidatedModel) (alignment : Nat) : Except SidecarFailure Prepared :=
  draftSidecar quietPrepareHost twoExpertsSet model ⟨"", some "experts.bin"⟩
    ⟨"", some "experts.json"⟩ (fusedTo alignment)

theorem draftTwo_answers : ∃ model, validatedTwo = .ok model ∧
    (∃ prepared, draftTwo model 16 = .ok prepared) ∧ ∃ prepared,
      draftTwo model 32 = .ok prepared := by
  have hrun : (validatedTwo.toOption.map fun model =>
      ((draftTwo model 16).toOption.isSome, (draftTwo model 32).toOption.isSome)) =
        some (true, true) := by decide +kernel
  obtain ⟨model, hmodel, hdrafts⟩ := Option.map_eq_some_iff.mp hrun
  obtain ⟨hsmall, hlarge⟩ := Prod.mk.inj hdrafts
  obtain ⟨small, hsmall⟩ := Option.isSome_iff_exists.mp hsmall
  obtain ⟨large, hlarge⟩ := Option.isSome_iff_exists.mp hlarge
  exact ⟨model, toOption_eq_some.mp hmodel, ⟨small, toOption_eq_some.mp hsmall⟩, large,
    toOption_eq_some.mp hlarge⟩

theorem prepared_manifest_valid_two : ∃ model prepared, validatedTwo = .ok model ∧
      draftTwo model 32 = .ok prepared ∧
    prepared.manifest.validate = .ok () := by
  obtain ⟨model, hmodel, -, prepared, hdraft⟩ := draftTwo_answers
  exact ⟨model, prepared, hmodel, hdraft,
    (prepared_manifest_valid_iff (List.cons_ne_nil _ _) hdraft).1.mpr (Nat.le_refl _)⟩

/-- A model that is validated, options that are accepted, and a manifest built for them that is
refused. -/
theorem accepted_manifest_refused :
    ¬ ∀ (N : Kernels.Arithmetic) (granted : String → Bool) (profile : Hy3Profile) (set : GgufSet)
        (model : ValidatedModel) (host : PrepareHost) (dataPath manifestPath : Path)
        (options : PrepareOptions) (prepared : Prepared),
      validateModelWithProfile N granted set profile = .ok model →
      validateOptions options = .ok () →
      draftSidecar host set model dataPath manifestPath options = .ok prepared →
      prepared.manifest.validate = .ok () := by
  intro hall
  obtain ⟨model, hmodel, ⟨prepared, hdraft⟩, -⟩ := draftTwo_answers
  obtain ⟨draft, index, hdrafted⟩ := draftSidecar_eq_ok hdraft
  have hvalid := hall _ _ _ _ _ _ _ _ _ prepared hmodel hdrafted.accepted hdraft
  have hrefused := hdrafted.refused (by decide)
  rw [hvalid] at hrefused
  cases hrefused

end LightBridge.Prepare
