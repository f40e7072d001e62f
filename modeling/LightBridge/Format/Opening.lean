import LightBridge.Format.Header
import LightBridge.Prepare.Commit

/-! `Sidecar::open`, which lets a manifest and its data file in. -/
namespace LightBridge.Format
open Foundation Io Prepare

def maxManifestBytes : Nat := 32 * 1024 * 1024

/-- `SidecarError`, of `open`. -/
inductive OpenError where
  | manifestIo (path : Path) (source : IoError)
  | manifestNotAFile (path : Path)
  | manifestTooLarge (actual maximum : Nat)
  | manifestJson (text : String)
  | format (error : FormatError)
  | header (error : HeaderError)
  | read (error : ReadError)
  | dataLength (expected actual : Nat)
  | headerManifestMismatch
  deriving DecidableEq, Repr

/-- `serde_json` on manifests; an error stands for its text. -/
structure ManifestJson where
  toVecPretty : SidecarManifest → Except String (List UInt8)
  fromSlice : List UInt8 → Except String SidecarManifest

/-- What is written is read back. -/
def ManifestJson.RoundTrips (json : ManifestJson) : Prop :=
  ∀ manifest bytes, json.toVecPretty manifest = .ok bytes → json.fromSlice bytes = .ok manifest

/-- What the host answers while files are opened and read. -/
structure OpenHost where
  metadata : Path → Option IoError
  isFile : Path → Bool
  reading : Path → Option IoError
  absent : Path → ReadError
  opening : Path → Option ReadError
  fault : Path → Nat → Nat → Option ReadError
  granted : Path → Nat → Bool

section Opening
variable (host : OpenHost) (files : Path → Option (List UInt8))

/-- The bytes of the manifest, of a bounded size. -/
def readManifest (path : Path) : Except OpenError (List UInt8) := do
  ensure (host.metadata path).isNone
    (.manifestIo path ((host.metadata path).getD .notFound))
  let content ← okOr (files path) (.manifestIo path .notFound)
  ensure (host.isFile path = true) (.manifestNotAFile path)
  ensure (content.length ≤ maxManifestBytes) (.manifestTooLarge content.length maxManifestBytes)
  ensure (host.reading path).isNone (.manifestIo path ((host.reading path).getD .notFound))
  pure content

/-- `PositionedFile::open`. -/
def openPositioned (path : Path) (maxRequestBytes : Nat) : Except ReadError PositionedFile := do
  ensure (maxRequestBytes ≠ 0) .zeroRequestLimit
  let content ← okOr (files path) (host.absent path)
  ensure (host.opening path).isNone ((host.opening path).getD (host.absent path))
  pure { content, maxRequestBytes, fault := host.fault path, granted := host.granted path }

/-- The longest read that a manifest asks for. -/
def SidecarManifest.maximumRecord (manifest : SidecarManifest) : Nat :=
  max ((manifest.records.map ExpertRecord.length).max?.getD sidecarHeaderBytes) sidecarHeaderBytes

/-- The header that belongs to a manifest. -/
def SidecarManifest.header (manifest : SidecarManifest) : SidecarHeader :=
  ⟨manifest.formatVersion, manifest.layout, manifest.alignment, manifest.records.length⟩

/-- `Sidecar::open` behind the validation of the manifest. -/
def openData (dataPath : Path) (manifest : SidecarManifest) (valid : manifest.validate = .ok ()) :
    Except OpenError Sidecar := do
  ensure (manifest.maximumRecord ≤ usizeMax) (.format .arithmeticOverflow)
  let data ← wrap .read (openPositioned host files dataPath manifest.maximumRecord)
  if length : data.content.length = manifest.sidecar.length then do
    let headerBytes ← wrap .read (data.readExactAt 0 sidecarHeaderBytes)
    let header ← wrap .header (SidecarHeader.decode headerBytes)
    ensure (header = manifest.header) .headerManifestMismatch
    pure { data, manifest, valid, length }
  else .error (.dataLength manifest.sidecar.length data.content.length)

/-- `Sidecar::open`. -/
def Sidecar.open (json : ManifestJson) (dataPath manifestPath : Path) :
    Except OpenError Sidecar := do
  let bytes ← readManifest host files manifestPath
  let manifest ← wrap .manifestJson (json.fromSlice bytes)
  match valid : manifest.validate with
  | .error error => .error (.format error)
  | .ok () => openData host files dataPath manifest valid

/-! ### What is let in -/

/-- Two files that make a sidecar. -/
structure Admitted (json : ManifestJson) (dataPath manifestPath : Path)
    (manifest : SidecarManifest) (content : List UInt8) : Prop where
  manifestFile : ∃ bytes, files manifestPath = some bytes ∧ bytes.length ≤ maxManifestBytes ∧
    json.fromSlice bytes = .ok manifest
  valid : manifest.validate = .ok ()
  dataFile : files dataPath = some content
  length : content.length = manifest.sidecar.length
  count : manifest.records.length < 256 ^ 8
  header : slice content 0 sidecarHeaderBytes = manifest.header.encode

/-- Nothing stops the host from opening and reading the two files. -/
structure OpenHost.Quiet (host : OpenHost) (dataPath manifestPath : Path) : Prop where
  metadata : host.metadata manifestPath = none
  isFile : host.isFile manifestPath = true
  reading : host.reading manifestPath = none
  opening : host.opening dataPath = none
  fault : ∀ offset length, host.fault dataPath offset length = none
  granted : ∀ length, host.granted dataPath length = true

variable {host files}

theorem readManifest_eq_ok {path : Path} {bytes : List UInt8}
    (h : readManifest host files path = .ok bytes) :
    files path = some bytes ∧ bytes.length ≤ maxManifestBytes := by
  simp only [readManifest, except_bind_ok_iff, ensure_eq_ok, exists_const, okOr_eq_ok] at h
  obtain ⟨-, content, hfile, -, hsize, -, h⟩ := h
  cases h
  exact ⟨hfile, hsize⟩

theorem openPositioned_eq_ok {path : Path} {maxRequestBytes : Nat} {data : PositionedFile}
    (h : openPositioned host files path maxRequestBytes = .ok data) :
    files path = some data.content := by
  simp only [openPositioned, except_bind_ok_iff, ensure_eq_ok, exists_const, okOr_eq_ok] at h
  obtain ⟨-, content, hfile, -, h⟩ := h
  cases h
  exact hfile

theorem openData_eq_ok {dataPath : Path} {manifest : SidecarManifest}
    {valid : manifest.validate = .ok ()} {sidecar : Sidecar}
    (h : openData host files dataPath manifest valid = .ok sidecar) :
    sidecar.manifest = manifest ∧ files dataPath = some sidecar.data.content ∧
      manifest.header.Fits ∧
      slice sidecar.data.content 0 sidecarHeaderBytes = manifest.header.encode := by
  obtain ⟨_, -, h⟩ := except_bind_ok_iff.mp h
  obtain ⟨data, hdata, h⟩ := except_bind_ok_iff.mp h
  split at h
  · obtain ⟨headerBytes, hread, h⟩ := except_bind_ok_iff.mp h
    obtain ⟨header, hheader, h⟩ := except_bind_ok_iff.mp h
    obtain ⟨_, hsame, h⟩ := except_bind_ok_iff.mp h
    cases h
    obtain ⟨hfits, hencoded⟩ := SidecarHeader.decode_eq_ok.mp (wrap_eq_ok.mp hheader)
    rw [ensure_eq_ok.mp hsame] at hfits hencoded
    rw [PositionedFile.readExactAt_eq_ok (wrap_eq_ok.mp hread)] at hencoded
    exact ⟨rfl, openPositioned_eq_ok (wrap_eq_ok.mp hdata), hfits, hencoded⟩
  · cases h

/-- What is opened is a sidecar. -/
theorem Sidecar.open_eq_ok {json : ManifestJson} {dataPath manifestPath : Path} {sidecar : Sidecar}
    (h : Sidecar.open host files json dataPath manifestPath = .ok sidecar) :
    Admitted files json dataPath manifestPath sidecar.manifest sidecar.data.content := by
  obtain ⟨bytes, hbytes, h⟩ := except_bind_ok_iff.mp h
  obtain ⟨manifest, hmanifest, h⟩ := except_bind_ok_iff.mp h
  split at h
  · cases h
  · obtain ⟨hfile, hsize⟩ := readManifest_eq_ok hbytes
    obtain ⟨hsame, hdata, hfits, hheader⟩ := openData_eq_ok h
    have hlength := sidecar.length
    rw [hsame] at hlength ⊢
    exact ⟨⟨bytes, hfile, hsize, wrap_eq_ok.mp hmanifest⟩, ‹_›, hdata, hlength,
      hfits.recordCount, hheader⟩

theorem header_fits {manifest : SidecarManifest} (h : manifest.Valid)
    (count : manifest.records.length < 256 ^ 8) : manifest.header.Fits := by
  obtain ⟨minimum, hminimum, -⟩ := h.behind
  obtain ⟨hpower, hrounded⟩ := alignUp_eq_ok.mp hminimum
  obtain ⟨hlt, -⟩ := (alignUp_eq_some_iff hpower).mp hrounded
  refine ⟨?_, ?_, count⟩
  · have hversion : manifest.header.formatVersion = sidecarFormatVersion := h.formatVersion
    rw [hversion]
    decide
  · have hbits : (256 : Nat) ^ 8 = 2 ^ 64 := by decide
    have halignment : manifest.header.alignment = manifest.alignment := rfl
    have hheader : sidecarHeaderBytes = 64 := rfl
    omega

/-- A record can be read at once, and so can the header. -/
theorem maximumRecord_bounds {manifest : SidecarManifest} (h : manifest.Valid) :
    sidecarHeaderBytes ≤ manifest.maximumRecord ∧ manifest.maximumRecord ≤ usizeMax ∧
      ∀ record ∈ manifest.records, record.length ≤ manifest.maximumRecord := by
  refine ⟨Nat.le_max_right _ _, ?_, fun record hrecord => ?_⟩
  · refine Nat.max_le.mpr ⟨?_, by decide⟩
    cases hmax : (manifest.records.map ExpertRecord.length).max? with
    | none => decide
    | some longest =>
        obtain ⟨record, hrecord, rfl⟩ := List.mem_map.mp (List.max?_mem hmax)
        have hfits := (h.holds record hrecord).fits
        rw [Option.getD_some]
        omega
  · refine Nat.le_trans ?_ (Nat.le_max_left _ _)
    exact List.le_max?_getD_of_mem (List.mem_map_of_mem hrecord)

theorem readExactAt_ok (file : PositionedFile) {start stop : Nat} (ordered : start ≤ stop)
    (inside : stop ≤ file.content.length) (small : stop - start ≤ file.maxRequestBytes)
    (fits : stop - start ≤ isizeMax) (fault : ∀ offset length, file.fault offset length = none)
    (granted : ∀ length, file.granted length = true) :
    file.readExactAt start stop = .ok (slice file.content start (stop - start)) := by
  have hfits : stop - start ≤ usizeMax := fits.trans (by decide)
  have hgranted : tryReserve (file.granted (stop - start)) 1 (stop - start) = true :=
    tryReserve_eq_true.mpr ⟨granted _, by rwa [Nat.one_mul]⟩
  rw [PositionedFile.readExactAt, PositionedFile.validateRange,
    (ensure_eq_ok (u := ())).mpr ordered, except_ok_bind,
    (ensure_eq_ok (u := ())).mpr inside, except_ok_bind, (ensure_eq_ok (u := ())).mpr hfits,
    except_ok_bind, (ensure_eq_ok (u := ())).mpr small, except_ok_bind]
  simp only [pure, Except.pure, except_ok_bind, hgranted, ensure, if_pos, fault]

theorem openData_of_admitted {json : ManifestJson} {dataPath manifestPath : Path}
    {manifest : SidecarManifest} {content : List UInt8}
    (h : Admitted files json dataPath manifestPath manifest content)
    (quiet : host.Quiet dataPath manifestPath) :
    ∃ sidecar, openData host files dataPath manifest h.valid = .ok sidecar ∧
      sidecar.manifest = manifest ∧ sidecar.data =
        ⟨content, manifest.maximumRecord, host.fault dataPath, host.granted dataPath⟩ := by
  have hvalid := SidecarManifest.validate_eq_ok.mp h.valid
  obtain ⟨hheader, hmaximum, -⟩ := maximumRecord_bounds hvalid
  have hdata : openPositioned host files dataPath manifest.maximumRecord =
      .ok ⟨content, manifest.maximumRecord, host.fault dataPath, host.granted dataPath⟩ := by
    have hpositive : manifest.maximumRecord ≠ 0 := by
      unfold sidecarHeaderBytes at hheader
      omega
    simp [openPositioned, ensure, hpositive, h.dataFile, okOr, quiet.opening]
  have hread := readExactAt_ok
    ⟨content, manifest.maximumRecord, host.fault dataPath, host.granted dataPath⟩
    (Nat.zero_le sidecarHeaderBytes) (by rw [h.length]; exact hvalid.header) hheader (by decide)
    quiet.fault quiet.granted
  have hdecode := SidecarHeader.decode_eq_ok.mpr ⟨header_fits hvalid h.count, h.header⟩
  refine ⟨⟨_, manifest, h.valid, h.length⟩, ?_, rfl, rfl⟩
  rw [openData, (ensure_eq_ok (u := ())).mpr hmaximum, except_ok_bind, hdata]
  simp only [wrap, except_ok_bind, h.length, dite_true, hread, Nat.sub_zero, hdecode, ensure,
    if_pos]
  rfl

/-- Two files that make a sidecar are opened. -/
theorem Sidecar.open_of_admitted {json : ManifestJson} {dataPath manifestPath : Path}
    {manifest : SidecarManifest} {content : List UInt8}
    (h : Admitted files json dataPath manifestPath manifest content)
    (quiet : host.Quiet dataPath manifestPath) :
    ∃ sidecar, Sidecar.open host files json dataPath manifestPath = .ok sidecar ∧
      sidecar.manifest = manifest ∧ sidecar.data =
        ⟨content, manifest.maximumRecord, host.fault dataPath, host.granted dataPath⟩ := by
  obtain ⟨bytes, hfile, hsize, hjson⟩ := h.manifestFile
  have hbytes : readManifest host files manifestPath = .ok bytes := by
    simp [readManifest, ensure, quiet.metadata, hfile, okOr, quiet.isFile, hsize, quiet.reading]
  obtain ⟨sidecar, hopen, hmanifest, hdata⟩ := openData_of_admitted h quiet
  refine ⟨sidecar, ?_, hmanifest, hdata⟩
  rw [Sidecar.open, hbytes, except_ok_bind, hjson]
  simp only [wrap, except_ok_bind]
  split
  · rename_i error hinvalid
    cases h.valid.symm.trans hinvalid
  · exact hopen

/-- `Sidecar::open` lets in what makes a sidecar, and nothing else: a manifest of a bounded size
that is validated, and data of the declared length behind the header that belongs to it. -/
theorem Sidecar.open_iff {json : ManifestJson} {dataPath manifestPath : Path}
    (quiet : host.Quiet dataPath manifestPath) (manifest : SidecarManifest)
    (content : List UInt8) :
    (∃ sidecar, Sidecar.open host files json dataPath manifestPath = .ok sidecar ∧
      sidecar.manifest = manifest ∧ sidecar.data.content = content) ↔
      Admitted files json dataPath manifestPath manifest content := by
  constructor
  · rintro ⟨sidecar, hopen, rfl, rfl⟩
    exact Sidecar.open_eq_ok hopen
  · intro h
    obtain ⟨sidecar, hopen, hmanifest, hdata⟩ := Sidecar.open_of_admitted h quiet
    exact ⟨sidecar, hopen, hmanifest, by rw [hdata]⟩

end Opening

/-! ### Two files of a sidecar of two experts -/

/-- What `serde_json` prints at some depth. -/
abbrev Printed := Nat → String

namespace Printed

def line (depth : Nat) : String := "\n" ++ String.ofList (List.replicate (2 * depth) ' ')

def enclosed (opening closing : String) (items : List Printed) : Printed := fun depth =>
  opening ++ String.intercalate "," (items.map fun item => line (depth + 1) ++ item (depth + 1)) ++
    (if items.isEmpty then "" else line depth) ++ closing

def number (n : Nat) : Printed := fun _ => toString n

/-- A text without a character that is escaped. -/
def quoted (text : String) : Printed := fun _ => "\"" ++ text ++ "\""

def field (name : String) (value : Printed) : Printed := fun depth =>
  "\"" ++ name ++ "\": " ++ value depth

def segment (segment : Segment) : Printed :=
  enclosed "\x7b" "\x7d" [field "offset" (number segment.offset),
    field "length" (number segment.length), field "ggml_type" (quoted segment.ggmlType)]

def key (key : Hy3.ExpertKey) : Printed :=
  enclosed "\x7b" "\x7d" [field "layer" (number key.layer), field "expert" (number key.expert)]

def record (record : ExpertRecord) : Printed :=
  enclosed "\x7b" "\x7d" [field "key" (key record.key), field "offset" (number record.offset),
    field "length" (number record.length), field "gate" (segment record.gate),
    field "up" (segment record.up), field "down" (segment record.down)]

def source (source : SourceFileIdentity) : Printed :=
  enclosed "\x7b" "\x7d" [field "ordinal" (number source.ordinal),
    field "path" (quoted source.path), field "length" (number source.length),
    field "sha256" (quoted source.sha256)]

def layout : ExpertLayout → Printed
  | .sequential => quoted "sequential"
  | .fusedGateUp => quoted "fused-gate-up"

def manifest (manifest : SidecarManifest) : Printed :=
  enclosed "\x7b" "\x7d" [field "format" (quoted manifest.format),
    field "format_version" (number manifest.formatVersion),
    field "engine_version" (quoted manifest.engineVersion),
    field "quant_abi_version" (number manifest.quantAbiVersion),
    field "alignment" (number manifest.alignment), field "layout" (layout manifest.layout),
    field "source_files" (enclosed "[" "]" (manifest.sourceFiles.map source)),
    field "tensor_directory_sha256" (quoted manifest.tensorDirectorySha256),
    field "sidecar" (enclosed "\x7b" "\x7d" [field "length" (number manifest.sidecar.length),
      field "sha256" (quoted manifest.sidecar.sha256)]),
    field "records" (enclosed "[" "]" (manifest.records.map record))]

end Printed

/-- What `serde_json` makes of one manifest. -/
def jsonOf (manifest : SidecarManifest) : ManifestJson where
  toVecPretty other := if other = manifest then .ok (asBytes (Printed.manifest manifest 0))
    else .error ""
  fromSlice bytes := if bytes = asBytes (Printed.manifest manifest 0) then .ok manifest
    else .error "expected value at line 1 column 1"

theorem jsonOf_fromSlice (manifest : SidecarManifest) :
    (jsonOf manifest).fromSlice (asBytes (Printed.manifest manifest 0)) = .ok manifest := by
  simp only [jsonOf, ite_true]

theorem jsonOf_roundTrips (manifest : SidecarManifest) : (jsonOf manifest).RoundTrips := by
  intro other bytes h
  simp only [jsonOf] at h
  split at h
  · rename_i hsame
    cases h
    rw [hsame, jsonOf_fromSlice]
  · cases h

def quietOpenHost : OpenHost where
  metadata _ := none
  isFile _ := true
  reading _ := none
  absent path := .open path.parent ""
  opening _ := none
  fault _ _ _ := none
  granted _ _ := true

theorem quietOpenHost_quiet (dataPath manifestPath : Path) :
    quietOpenHost.Quiet dataPath manifestPath := by
  constructor <;> intros <;> rfl

def tinyFiles (path : Path) : Option (List UInt8) :=
  if path.fileName = some "tiny.bin" then
    some (tinyManifest.header.encode ++ List.replicate 164 0)
  else if path.fileName = some "tiny.json" then some (asBytes (Printed.manifest tinyManifest 0))
  else none

theorem Sidecar.open_iff_tiny : ∃ sidecar,
    Sidecar.open quietOpenHost tinyFiles (jsonOf tinyManifest) ⟨"", some "tiny.bin"⟩
      ⟨"", some "tiny.json"⟩ = .ok sidecar ∧ sidecar.manifest = tinyManifest := by
  have hsize : (asBytes (Printed.manifest tinyManifest 0)).length ≤ maxManifestBytes := by
    decide +kernel
  have hadmitted : Admitted tinyFiles (jsonOf tinyManifest) ⟨"", some "tiny.bin"⟩
      ⟨"", some "tiny.json"⟩ tinyManifest
      (tinyManifest.header.encode ++ List.replicate 164 0) :=
    ⟨⟨_, rfl, hsize, jsonOf_fromSlice tinyManifest⟩, tinyManifest_validated, rfl,
      by decide +kernel, by decide, by decide +kernel⟩
  obtain ⟨sidecar, hopen, hmanifest, -⟩ :=
    (Sidecar.open_iff (quietOpenHost_quiet _ _) tinyManifest _).mpr hadmitted
  exact ⟨sidecar, hopen, hmanifest⟩

end LightBridge.Format
