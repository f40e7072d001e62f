import LightBridge.Foundation.Decimal
import LightBridge.GgufSplit.Directory

/-! The discovery of the shards of a model from any one of them. -/
namespace LightBridge.GgufSplit
open Foundation Gguf Hy3

/-! ### Numbered file names -/

structure NumberedName where
  namePrefix : String
  total : Nat
  deriving DecidableEq, Repr

namespace NumberedName

/-- The text of a numbered file name. -/
def filenameText (front : List Char) (ordinal total : Nat) : List Char :=
  front ++ "-".toList ++ padded 5 ordinal ++ "-of-".toList ++ padded 5 total ++ ".gguf".toList

def filename (numbered : NumberedName) (ordinal : Nat) : String :=
  .ofList (filenameText numbered.namePrefix.toList ordinal numbered.total)

/-- `parse::<u32>` of digits. -/
def parseU32 (digits : List Char) : Option Nat :=
  if Nat.ofDigitChars 10 digits 0 < 2 ^ 32 then some (Nat.ofDigitChars 10 digits 0) else none

/-- The prefix and the texts of the two numbers. -/
def fields (filename : List Char) : Option (List Char × List Char × List Char) := do
  let stem ← stripSuffix ".gguf".toList filename
  let (beforeTotal, totalText) ← rsplitOnce "-of-".toList stem
  let (front, ordinalText) ← rsplitOnce "-".toList beforeTotal
  pure (front, ordinalText, totalText)

/-- `NumberedName::parse` of a name that is text, with the ordinal that it checks and drops. -/
def parseOrdinal (filename : String) : Except SplitError (Option (NumberedName × Nat)) :=
  match fields filename.toList with
  | none => .ok none
  | some (front, ordinalText, totalText) =>
      if ordinalText.length ≠ 5 ∨ totalText.length ≠ 5 ∨ ordinalText.all Char.isDigit = false ∨
          totalText.all Char.isDigit = false then .ok none
      else do
        let ordinal ← okOr (parseU32 ordinalText) (.invalidNumberedFilename filename)
        let total ← okOr (parseU32 totalText) (.invalidNumberedFilename filename)
        ensure (¬ (ordinal = 0 ∨ total = 0 ∨ ordinal > total ∨ total > 65535))
          (.invalidNumberedFilename filename)
        pure (some (⟨.ofList front, total⟩, ordinal))

def parse (path : Path) : Except SplitError (Option NumberedName) :=
  match path.fileName with
  | .other _ => .ok none
  | .text filename => (parseOrdinal filename).map (Option.map Prod.fst)

end NumberedName

/-! ### Discovery -/

/-- What the file system answers while a model is opened: whether a path is a regular file, the
canonical form of a directory and of a file, and what the reader makes of a file. -/
structure FileSystem where
  isFile : Path → Bool
  canonicalizeDirectory : String → Except String String
  canonicalize : Path → Except String Path
  parse : Path → Except String GgufFile
  canonical : ∀ {name directory : String}, canonicalizeDirectory name = .ok directory →
    directory ≠ "" ∧ canonicalizeDirectory directory = .ok directory

/-- The directory of a path, as it is written. -/
def lexicalParent (path : Path) : String := if path.parent = "" then "." else path.parent

def requiredU16 (path : Path) (parsed : GgufFile) (key : String) : Except SplitError UInt16 :=
  match parsed.getU16 key with
  | .ok value => .ok value
  | .error (.missing _) => .error (.missingSplitMetadata path key)
  | .error other => .error (.metadata other)

def optionalU16 (parsed : GgufFile) (key : String) : Except SplitError (Option UInt16) :=
  match parsed.getU16 key with
  | .ok value => .ok (some value)
  | .error (.missing _) => .ok none
  | .error error => .error (.metadata error)

def validateRequiredSplitMetadata (path : Path) (parsed : GgufFile) (ordinal count : Nat) :
    Except SplitError Unit := do
  let metadataOrdinal ← requiredU16 path parsed "split.no"
  let metadataCount ← requiredU16 path parsed "split.count"
  ensure (count ≠ 1) (.numberedSingleShard path)
  ensure (metadataOrdinal.toNat = ordinal) (.splitMetadataDisagreement path "split.no")
  ensure (metadataCount.toNat = count) (.splitMetadataDisagreement path "split.count")

/-- An optional entry of the metadata, when it is there, is the number that is expected. -/
def checkOptional (path : Path) (parsed : GgufFile) (key : String) (expected : Nat) :
    Except SplitError Unit := do
  match ← optionalU16 parsed key with
  | none => pure ()
  | some value => ensure (value.toNat = expected) (.splitMetadataDisagreement path key)

def validateOptionalSplitMetadata (path : Path) (parsed : GgufFile) (ordinal count : Nat) :
    Except SplitError Unit := do
  checkOptional path parsed "split.no" ordinal
  checkOptional path parsed "split.count" count

def discoverSingle (fs : FileSystem) (path : Path) : Except SplitError (List GgufShard) := do
  let parsed ← wrap .gguf (fs.parse path)
  validateOptionalSplitMetadata path parsed 0 1
  pure [⟨path, parsed, 0, 1⟩]

/-- One iteration of `discover_numbered`. -/
def openShard (fs : FileSystem) (parent : String) (numbered : NumberedName)
    (oneBasedOrdinal : Nat) :
    Except SplitError GgufShard := do
  let expected : Path := ⟨parent, .text (numbered.filename oneBasedOrdinal)⟩
  ensure (fs.isFile expected) (.missingShard expected)
  let path ← wrap .io (fs.canonicalize expected)
  ensure (path.parent = parent) (.shardEscapesParent path)
  let parsed ← wrap .gguf (fs.parse path)
  let ordinal ← okOr (checkedSub oneBasedOrdinal 1) (.arithmeticOverflow "zero-based shard ordinal")
  validateRequiredSplitMetadata path parsed ordinal numbered.total
  pure ⟨path, parsed, ordinal, numbered.total⟩

def discoverNumbered (fs : FileSystem) (parent : String) (numbered : NumberedName) :
    Except SplitError (List GgufShard) :=
  (List.range' 1 numbered.total).mapM (openShard fs parent numbered)

def discover (fs : FileSystem) (entry : Path) : Except SplitError (List GgufShard) := do
  ensure (fs.isFile entry) (.notAFile entry)
  let parent ← wrap .io (fs.canonicalizeDirectory (lexicalParent entry))
  let entry ← wrap .io (fs.canonicalize entry)
  ensure (entry.parent = parent) (.shardEscapesParent entry)
  match ← NumberedName.parse entry with
  | some numbered => discoverNumbered fs parent numbered
  | none => discoverSingle fs entry

/-- `open_set`: the shards and their directory. -/
def openSet (fs : FileSystem) (entry : Path) :
    Except SplitError (List GgufShard × TensorDirectory) := do
  let files ← discover fs entry
  let tensors ← build files
  pure (files, tensors)

/-! ### Names -/

namespace NumberedName

theorem fields_eq_some {filename front ordinalText totalText : List Char}
    (h : fields filename = some (front, ordinalText, totalText)) :
    filename = front ++ "-".toList ++ ordinalText ++ "-of-".toList ++ totalText ++
      ".gguf".toList := by
  obtain ⟨stem, hstem, h⟩ := Option.bind_eq_some_iff.mp h
  obtain ⟨⟨beforeTotal, total⟩, htotal, h⟩ := Option.bind_eq_some_iff.mp h
  obtain ⟨⟨_, ordinal⟩, hordinal, h⟩ := Option.bind_eq_some_iff.mp h
  cases h
  rw [stripSuffix_eq_some_iff.mp hstem, rsplitOnce_eq_some htotal, rsplitOnce_eq_some hordinal]

/-- The two numbers are found from the right, whatever the prefix is. -/
theorem fields_filenameText (front : List Char) (ordinal total : Nat) :
    fields (filenameText front ordinal total) = some (front, padded 5 ordinal, padded 5 total) := by
  have hdash : ∀ n, '-' ∉ padded 5 n :=
    fun n hmem => absurd (isDigit_of_mem_padded hmem) (by decide)
  have hstem : stripSuffix ".gguf".toList (filenameText front ordinal total) =
      some (front ++ "-".toList ++ padded 5 ordinal ++ "-of-".toList ++ padded 5 total) :=
        stripSuffix_eq_some_iff.mpr rfl
  have htotal : rsplitOnce "-of-".toList
      (front ++ "-".toList ++ padded 5 ordinal ++ "-of-".toList ++ padded 5 total) =
      some (front ++ "-".toList ++ padded 5 ordinal, padded 5 total) :=
    rsplitOnce_append_of_not_mem '-' "-of".toList (hdash total)
  have hordinal : rsplitOnce "-".toList (front ++ "-".toList ++ padded 5 ordinal) =
      some (front, padded 5 ordinal) :=
    rsplitOnce_append_of_not_mem '-' [] (hdash ordinal)
  rw [fields, hstem, Option.bind_eq_bind, Option.bind_some, htotal, Option.bind_eq_bind,
    Option.bind_some]
  dsimp only
  rw [hordinal]
  rfl

theorem parseU32_eq_some {digits : List Char} {n : Nat} (h : parseU32 digits = some n) :
    Nat.ofDigitChars 10 digits 0 = n := by
  unfold parseU32 at h
  split at h
  · exact Option.some.inj h
  · cases h

/-- A name is accepted exactly when it is the name of an ordinal, which is its own, with the prefix
and the total of its set. -/
theorem parseOrdinal_eq_some_iff {filename : String} {numbered : NumberedName} {ordinal : Nat} :
    parseOrdinal filename = .ok (some (numbered, ordinal)) ↔
      1 ≤ ordinal ∧ ordinal ≤ numbered.total ∧ numbered.total ≤ 65535 ∧
      filename = numbered.filename ordinal := by
  constructor
  · intro h
    unfold parseOrdinal at h
    split at h
    · cases h
    · rename_i front ordinalText totalText hfields
      split at h
      · cases h
      · rename_i hdigits
        obtain ⟨_, hordinal, h⟩ := except_bind_ok_iff.mp h
        obtain ⟨_, htotal, h⟩ := except_bind_ok_iff.mp h
        obtain ⟨_, hrange, h⟩ := except_bind_ok_iff.mp h
        cases h
        rw [ensure_eq_ok] at hrange
        simp only [not_or, not_not, Bool.not_eq_false, List.all_eq_true] at hdigits
        obtain ⟨hordinalLength, htotalLength, hordinalDigits, htotalDigits⟩ := hdigits
        have hpadded : ∀ {text : List Char} {n : Nat}, text.length = 5 →
            (∀ c ∈ text, c.isDigit = true) →
            parseU32 text = some n → padded 5 n = text := by
          intro text n hlength hall hvalue
          rw [← parseU32_eq_some hvalue, ← hlength]
          exact padded_ofDigitChars (List.ne_nil_of_length_eq_add_one hlength) hall
        refine ⟨by omega, by dsimp only; omega, by dsimp only; omega, ?_⟩
        rw [NumberedName.filename, filenameText, String.toList_ofList,
          hpadded hordinalLength hordinalDigits (okOr_eq_ok.mp hordinal),
          hpadded htotalLength htotalDigits (okOr_eq_ok.mp htotal), ← fields_eq_some hfields,
          String.ofList_toList]
  · rintro ⟨hfirst, hlast, hfits, rfl⟩
    have hlength : ∀ n, n ≤ 65535 → (padded 5 n).length = 5 :=
      fun n hn => length_padded (by decide) (by omega)
    have hdigits : ∀ n, (padded 5 n).all Char.isDigit = true := fun n =>
      List.all_eq_true.mpr fun _ => isDigit_of_mem_padded
    have hvalue : ∀ n, n ≤ 65535 → parseU32 (padded 5 n) = some n := by
      intro n hn
      rw [parseU32, ofDigitChars_padded, if_pos (by omega)]
    have hordinal : ordinal ≤ 65535 := hlast.trans hfits
    rw [parseOrdinal, NumberedName.filename, String.toList_ofList, fields_filenameText]
    dsimp only
    rw [if_neg (by simp [hlength _ hordinal, hlength _ hfits, hdigits]), hvalue ordinal hordinal,
      hvalue _ hfits]
    simp only [okOr, except_ok_bind, String.ofList_toList]
    rw [(ensure_eq_ok (u := ())).mpr (by omega), except_ok_bind]
    rfl

theorem parse_eq_some {path : Path} {numbered : NumberedName}
    (h : parse path = .ok (some numbered)) :
    ∃ ordinal, 1 ≤ ordinal ∧ ordinal ≤ numbered.total ∧
      path.fileName = .text (numbered.filename ordinal) := by
  unfold parse at h
  split at h
  · cases h
  · rename_i name hname
    obtain ⟨found, hfound, heq⟩ := except_map_ok_iff.mp h
    obtain ⟨⟨_, ordinal⟩, rfl, rfl⟩ := Option.map_eq_some_iff.mp heq
    obtain ⟨hfirst, hlast, -, rfl⟩ := parseOrdinal_eq_some_iff.mp hfound
    exact ⟨ordinal, hfirst, hlast, hname⟩

end NumberedName

/-! ### Members -/

/-- There are no symbolic links in a directory: the canonical form of a file in it is its own name
there. -/
def FileSystem.Plain (fs : FileSystem) (directory : String) : Prop :=
  ∀ path, fs.isFile path = true → fs.canonicalizeDirectory (lexicalParent path) = .ok directory →
    fs.canonicalize path = .ok ⟨directory, path.fileName⟩

/-- A file of the numbered set. -/
structure Member (fs : FileSystem) (numbered : NumberedName) (path : Path) : Prop where
  isFile : fs.isFile path = true
  named : NumberedName.parse path = .ok (some numbered)

/-- From a member, the discovery goes through the set of its name. -/
theorem Member.discover_eq {fs : FileSystem} {numbered : NumberedName} {path : Path}
    {directory : String} (h : Member fs numbered path) (plain : fs.Plain directory)
    (hdirectory : fs.canonicalizeDirectory (lexicalParent path) = .ok directory) :
    discover fs path = discoverNumbered fs directory numbered := by
  have hnamed : NumberedName.parse ⟨directory, path.fileName⟩ = .ok (some numbered) := h.named
  rw [discover, (ensure_eq_ok (u := ())).mpr h.isFile, except_ok_bind, hdirectory,
    plain path h.isFile hdirectory]
  simp only [wrap, except_ok_bind]
  rw [(ensure_eq_ok (u := ())).mpr trivial, except_ok_bind, hnamed, except_ok_bind]

/-- A member of a directory that cannot be resolved is not discovered. -/
theorem Member.discover_error {fs : FileSystem} {numbered : NumberedName} {path : Path}
    {error : String} (h : Member fs numbered path)
    (hdirectory : fs.canonicalizeDirectory (lexicalParent path) = .error error) :
    discover fs path = .error (.io error) := by
  rw [discover, (ensure_eq_ok (u := ())).mpr h.isFile, except_ok_bind, hdirectory]
  rfl

/-- A shard that is opened is the file of its ordinal in the directory. -/
theorem openShard_eq_ok {fs : FileSystem} {directory : String} {numbered : NumberedName}
    {oneBasedOrdinal : Nat} {shard : GgufShard} (plain : fs.Plain directory) (hne : directory ≠ "")
    (hdirectory : fs.canonicalizeDirectory directory = .ok directory)
    (h : openShard fs directory numbered oneBasedOrdinal = .ok shard) :
    shard.path = ⟨directory, .text (numbered.filename oneBasedOrdinal)⟩ ∧
      shard.ordinal + 1 = oneBasedOrdinal ∧
      shard.count = numbered.total := by
  obtain ⟨_, hfile, h⟩ := except_bind_ok_iff.mp h
  obtain ⟨path, hpath, h⟩ := except_bind_ok_iff.mp h
  obtain ⟨_, -, h⟩ := except_bind_ok_iff.mp h
  obtain ⟨parsed, -, h⟩ := except_bind_ok_iff.mp h
  obtain ⟨ordinal, hordinal, h⟩ := except_bind_ok_iff.mp h
  obtain ⟨_, -, h⟩ := except_bind_ok_iff.mp h
  cases h
  rw [plain _ (ensure_eq_ok.mp hfile) (by rwa [lexicalParent, if_neg hne])] at hpath
  cases hpath
  obtain ⟨hone, rfl⟩ := checkedSub_eq_some.mp (okOr_eq_ok.mp hordinal)
  exact ⟨rfl, Nat.sub_add_cancel hone, rfl⟩

/-- The shards of a set are in the order of their names. -/
theorem discoverNumbered_eq_ok {fs : FileSystem} {directory : String} {numbered : NumberedName}
    {shards : List GgufShard} (plain : fs.Plain directory) (hne : directory ≠ "")
    (hdirectory : fs.canonicalizeDirectory directory = .ok directory)
    (h : discoverNumbered fs directory numbered = .ok shards) :
    (shards.map fun shard => (shard.path, shard.ordinal, shard.count)) =
      (List.range numbered.total).map fun ordinal =>
      (⟨directory, .text (numbered.filename (ordinal + 1))⟩, ordinal, numbered.total) := by
  have hlength := (except_mapM_ok_iff.mp h).length_eq
  rw [List.length_range'] at hlength
  apply List.ext_getElem
  · rw [List.length_map, List.length_map, List.length_range, hlength]
  · intro i hi _
    rw [List.length_map] at hi
    have hshard := except_mapM_getElem h (by rw [List.length_range', hlength]; exact hi) hi
    rw [List.getElem_range', Nat.one_mul, Nat.add_comm] at hshard
    obtain ⟨hpath, hordinal, hcount⟩ := openShard_eq_ok plain hne hdirectory hshard
    rw [List.getElem_map, List.getElem_map, List.getElem_range, hpath, hcount,
      Nat.succ.inj hordinal]

/-- A numbered name is the name of its own ordinal. In a directory without symbolic links every
member of a set leads to the same result, and what it leads to are the shards in the order of their
names, its own among them. -/
theorem discovery_from_any_member :
    (∀ name numbered ordinal, NumberedName.parseOrdinal name = .ok (some (numbered, ordinal)) ↔
        1 ≤ ordinal ∧ ordinal ≤ numbered.total ∧ numbered.total ≤ 65535 ∧
        name = numbered.filename ordinal) ∧
      ∀ (fs : FileSystem) (numbered : NumberedName) (entry other : Path), Member fs numbered entry →
      Member fs numbered other →
        fs.canonicalizeDirectory (lexicalParent entry) =
        fs.canonicalizeDirectory (lexicalParent other) →
        (∀ directory, fs.canonicalizeDirectory (lexicalParent entry) = .ok directory →
          fs.Plain directory) →
        discover fs entry = discover fs other ∧ openSet fs entry = openSet fs other ∧
        ∀ shards, discover fs entry = .ok shards →
          (shards.map fun shard => (shard.path.fileName, shard.ordinal, shard.count)) =
              ((List.range numbered.total).map fun ordinal =>
                (FileName.text (numbered.filename (ordinal + 1)), ordinal, numbered.total)) ∧
            ∃ shard ∈ shards, fs.canonicalize entry = .ok shard.path := by
  refine ⟨fun _ _ _ => NumberedName.parseOrdinal_eq_some_iff, ?_⟩
  intro fs numbered entry other hentry hother hsame hplain
  have hdiscover : discover fs entry = discover fs other := by
    cases hdirectory : fs.canonicalizeDirectory (lexicalParent entry) with
    | error error =>
        rw [hentry.discover_error hdirectory, hother.discover_error (hsame ▸ hdirectory)]
    | ok directory =>
        have hdirectory' := hsame ▸ hdirectory
        rw [hentry.discover_eq (hplain directory hdirectory) hdirectory,
          hother.discover_eq (hplain directory hdirectory) hdirectory']
  refine ⟨hdiscover, by rw [openSet, hdiscover, openSet], ?_⟩
  intro shards hshards
  cases hdirectory : fs.canonicalizeDirectory (lexicalParent entry) with
  | error error =>
      rw [hentry.discover_error hdirectory] at hshards
      cases hshards
  | ok directory =>
      have plain := hplain directory hdirectory
      obtain ⟨hne, hcanonical⟩ := fs.canonical hdirectory
      rw [hentry.discover_eq plain hdirectory] at hshards
      have hlisted := discoverNumbered_eq_ok plain hne hcanonical hshards
      constructor
      · have hnames :=
          congrArg (List.map fun (path, ordinal, count) => (path.fileName, ordinal, count)) hlisted
        rwa [List.map_map, List.map_map] at hnames
      · obtain ⟨ordinal, hfirst, hlast, hname⟩ := NumberedName.parse_eq_some hentry.named
        have hmem : (⟨directory, .text (numbered.filename (ordinal - 1 + 1))⟩, ordinal - 1,
            numbered.total) ∈
            shards.map fun shard => (shard.path, shard.ordinal, shard.count) := by
          rw [hlisted]
          exact List.mem_map_of_mem (List.mem_range.mpr (by omega))
        rw [Nat.sub_add_cancel hfirst, ← hname] at hmem
        obtain ⟨shard, hshard, heq⟩ := List.mem_map.mp hmem
        refine ⟨shard, hshard, ?_⟩
        rw [plain entry hentry.isFile hdirectory, ← (Prod.mk.inj heq).1]

/-! ### A set of two files -/

def pairName : NumberedName := ⟨"tiny-of-two", 2⟩

/-- A directory with the two files of a set. -/
def pairFiles : FileSystem where
  isFile path :=
    decide (path.fileName = .text (pairName.filename 1) ∨
      path.fileName = .text (pairName.filename 2))
  canonicalizeDirectory _ := .ok "models"
  canonicalize path := .ok ⟨"models", path.fileName⟩
  parse path := .ok {
    version := 3, endianness := .little
    metadata := [
      ("split.no", .u16 (if path.fileName = .text (pairName.filename 1) then 0 else 1)),
      ("split.count", .u16 2)]
    tensors := [], alignment := 32, dataOffset := 64, fileLen := 64 }
  canonical := by
    rintro _ _ ⟨⟩
    exact ⟨by decide, rfl⟩

theorem discovery_from_either : ∃ shards, shards.length = 2 ∧
    discover pairFiles ⟨"", .text (pairName.filename 1)⟩ = .ok shards ∧
    discover pairFiles ⟨"models", .text (pairName.filename 2)⟩ = .ok shards := by
  have hmember : ∀ parent ordinal, ordinal = 1 ∨ ordinal = 2 →
      Member pairFiles pairName ⟨parent, .text (pairName.filename ordinal)⟩ := by
    intro parent ordinal hordinal
    refine ⟨?_, ?_⟩
    · rcases hordinal with rfl | rfl
      · rfl
      · rfl
    · have hparse : NumberedName.parseOrdinal (pairName.filename ordinal) =
          .ok (some (pairName, ordinal)) :=
        NumberedName.parseOrdinal_eq_some_iff.mpr
          ⟨by omega, by rcases hordinal with rfl | rfl <;> decide, by decide, rfl⟩
      rw [NumberedName.parse]
      dsimp only
      rw [hparse]
      rfl
  obtain ⟨hsame, -, hshards⟩ :=
    discovery_from_any_member.2 pairFiles pairName _ _ (hmember "" 1 (.inl rfl))
    (hmember "models" 2 (.inr rfl)) rfl fun directory hdirectory path _ _ => by
      cases hdirectory; rfl
  have hok : (discover pairFiles ⟨"", .text (pairName.filename 1)⟩).isOk = true := by decide +kernel
  cases hdiscover : discover pairFiles ⟨"", .text (pairName.filename 1)⟩ with
  | error error =>
      rw [hdiscover] at hok
      cases hok
  | ok shards =>
      have hlength := congrArg List.length (hshards shards hdiscover).1
      rw [List.length_map, List.length_map, List.length_range] at hlength
      exact ⟨shards, hlength, rfl, hsame ▸ hdiscover⟩

end LightBridge.GgufSplit
