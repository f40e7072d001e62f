import LightBridge.Foundation.SortedMap
import LightBridge.Gguf.Metadata
import LightBridge.Hy3.Schema
import Mathlib.Data.String.Basic

/-! The tensor directory of a set of shards: one list over all of them, and an index of its names.
-/
namespace LightBridge.GgufSplit
open Foundation Gguf Hy3

/-- An `OsString`, which need not be text. -/
inductive FileName where
  | text (name : String)
  | other (units : List Nat)
  deriving DecidableEq, Repr

/-- A path by its parent, which may be empty, and its last component. -/
structure Path where
  parent : String
  fileName : FileName
  deriving DecidableEq, Repr

/-- `SplitError`. An I/O error and an error of the reader stand for their texts. -/
inductive SplitError where
  | io (source : String)
  | gguf (source : String)
  | metadata (error : MetadataError)
  | notAFile (path : Path)
  | invalidNumberedFilename (filename : String)
  | missingSplitMetadata (path : Path) (key : String)
  | splitMetadataDisagreement (path : Path) (key : String)
  | numberedSingleShard (path : Path)
  | missingShard (path : Path)
  | shardEscapesParent (path : Path)
  | duplicateTensorName (name : String)
  | heterogeneousVersion (path : Path) (expected actual : Nat)
  | heterogeneousEndianness (path : Path) (expected actual : Endianness)
  | heterogeneousAlignment (path : Path) (expected actual : Nat)
  | unalignedTensorOffset (path : Path) (name : String) (offset alignment : Nat)
  | negativeAggregateTensorCount (path : Path)
  | aggregateTensorCountDisagreement
  | aggregateTensorDirectoryDisagreement
  | arithmeticOverflow (operation : String)
  | core (error : CoreError)
  deriving DecidableEq, Repr

structure GgufShard where
  path : Path
  parsed : GgufFile
  ordinal : Nat
  count : Nat

structure TensorDirectory where
  ordered : List TensorLocation
  byName : SortedMap String Nat

/-- `TensorDirectory::get`. -/
def TensorDirectory.get (directory : TensorDirectory) (name : String) : Option TensorLocation :=
  (directory.byName.lookup name).bind (directory.ordered[·]?)

/-- A shard has the fields of the first one. -/
def validateShard (primary shard : GgufShard) : Except SplitError Unit := do
  ensure (shard.parsed.version = primary.parsed.version)
    (.heterogeneousVersion shard.path primary.parsed.version shard.parsed.version)
  ensure (shard.parsed.endianness = primary.parsed.endianness)
    (.heterogeneousEndianness shard.path primary.parsed.endianness shard.parsed.endianness)
  ensure (shard.parsed.alignment = primary.parsed.alignment)
    (.heterogeneousAlignment shard.path primary.parsed.alignment shard.parsed.alignment)

def validateCommonFields : List GgufShard → Except SplitError Unit
  | [] => .ok ()
  | primary :: shards => checkAll (validateShard primary) shards

def optionalAggregateCount (shard : GgufShard) : Except SplitError (Option Int32) :=
  match shard.parsed.getI32 "split.tensors.count" with
  | .ok value =>
      if 0 ≤ value then .ok (some value) else .error (.negativeAggregateTensorCount shard.path)
  | .error (.missing _) => .ok none
  | .error error => .error (.metadata error)

/-! ### The loops -/

/-- The locals of the loops. -/
structure Progress where
  ordered : List TensorLocation
  byName : SortedMap String Nat
  declaredCount : Option Int32

/-- The location of a tensor of a shard, with its own range. -/
def locate (shardIndex : Nat) (shard : GgufShard) (descriptor : TensorDesc) :
    Except SplitError TensorLocation :=
  match located : descriptor.checkedAbsoluteRange shard.parsed.dataOffset shard.parsed.fileLen with
  | .error error => .error (.core error)
  | .ok (start, stop) => .ok { shardIndex, descriptor, start, stop, located := ⟨_, _, located⟩ }

def addTensor (shardIndex : Nat) (shard : GgufShard) (progress : Progress)
    (descriptor : TensorDesc) :
    Except SplitError Progress := do
  ensure (descriptor.relativeOffset % shard.parsed.alignment = 0)
    (.unalignedTensorOffset shard.path descriptor.name descriptor.relativeOffset
      shard.parsed.alignment)
  let location ← locate shardIndex shard descriptor
  ensure (progress.byName.contains descriptor.name = false) (.duplicateTensorName descriptor.name)
  pure { progress with
    ordered := progress.ordered ++ [location]
    byName := progress.byName.insert descriptor.name progress.ordered.length }

/-- The aggregate count after that of one more shard. -/
def declareCount (declared : Option Int32) (shard : GgufShard) :
    Except SplitError (Option Int32) := do
  match ← optionalAggregateCount shard with
  | none => pure declared
  | some count =>
      match declared with
      | none => pure (some count)
      | some previous => do
          ensure (previous = count) .aggregateTensorCountDisagreement
          pure declared

def addShard (progress : Progress) (entry : GgufShard × Nat) : Except SplitError Progress := do
  let declaredCount ← declareCount progress.declaredCount entry.1
  entry.1.parsed.tensors.foldlM (addTensor entry.2 entry.1) { progress with declaredCount }

/-- The check of a declared aggregate count against the directory. -/
def checkDeclared (declared : Option Int32) (listed : Nat) : Except SplitError Unit :=
  match declared with
  | none => .ok ()
  | some declared => do
      ensure (listed < 2 ^ 31) (.arithmeticOverflow "aggregate tensor count")
      ensure (declared.toInt = listed) .aggregateTensorDirectoryDisagreement

def build (files : List GgufShard) : Except SplitError TensorDirectory := do
  validateCommonFields files
  let progress ← files.zipIdx.foldlM addShard
    { ordered := [], byName := .empty, declaredCount := none }
  checkDeclared progress.declaredCount progress.ordered.length
  pure { ordered := progress.ordered, byName := progress.byName }

/-! ### What the loops keep -/

/-- The tensors of the shards, each with the index of its shard. -/
def listing (entries : List (GgufShard × Nat)) : List (Nat × TensorDesc) :=
  entries.flatMap fun (shard, index) => shard.parsed.tensors.map (index, ·)

/-- The location is that of a tensor of one of the shards, at the place it has in the file. -/
def LocatedIn (entries : List (GgufShard × Nat)) (location : TensorLocation) : Prop :=
  ∃ entry ∈ entries, entry.2 = location.shardIndex ∧
    location.descriptor.checkedAbsoluteRange entry.1.parsed.dataOffset entry.1.parsed.fileLen =
      .ok (location.start, location.stop)

/-- The index names every place of the list once. -/
structure Indexed (ordered : List TensorLocation) (byName : SortedMap String Nat) : Prop where
  distinct : (ordered.map fun location => location.descriptor.name).Nodup
  entries : ∀ name place, byName.lookup name = some place ↔
    ∃ location, ordered[place]? = some location ∧ location.descriptor.name = name

/-- What the loops have done with the shards `entries`: `listed` is what they have listed. -/
structure Listed (entries : List (GgufShard × Nat)) (listed : List (Nat × TensorDesc))
    (progress : Progress) : Prop where
  listed : (progress.ordered.map fun location =>
    (location.shardIndex, location.descriptor)) = listed
  located : ∀ location ∈ progress.ordered, LocatedIn entries location
  indexed : Indexed progress.ordered progress.byName

theorem locate_eq_ok {shardIndex : Nat} {shard : GgufShard} {descriptor : TensorDesc}
    {location : TensorLocation} (h : locate shardIndex shard descriptor = .ok location) :
    location.shardIndex = shardIndex ∧ location.descriptor = descriptor ∧
      descriptor.checkedAbsoluteRange shard.parsed.dataOffset shard.parsed.fileLen =
      .ok (location.start, location.stop) := by
  unfold locate at h
  split at h
  · cases h
  · rename_i start stop located
    cases h
    exact ⟨rfl, rfl, located⟩

theorem Indexed.append {ordered : List TensorLocation} {byName : SortedMap String Nat}
    (h : Indexed ordered byName) {location : TensorLocation}
    (new : byName.lookup location.descriptor.name = none) :
    Indexed (ordered ++ [location]) (byName.insert location.descriptor.name ordered.length) := by
  have hnew : ∀ other ∈ ordered, other.descriptor.name ≠ location.descriptor.name := by
    intro other hmem hname
    obtain ⟨place, hplace⟩ := List.mem_iff_getElem?.mp hmem
    rw [(h.entries location.descriptor.name place).mpr ⟨other, hplace, hname⟩] at new
    cases new
  constructor
  · rw [List.map_append, List.nodup_append]
    refine ⟨h.distinct, List.nodup_singleton _, ?_⟩
    intro name hname other hother
    obtain ⟨first, hfirst, rfl⟩ := List.mem_map.mp hname
    rw [List.map_singleton, List.mem_singleton] at hother
    rw [hother]
    exact hnew first hfirst
  · intro name place
    rw [SortedMap.lookup_insert, List.getElem?_append]
    split
    · rename_i hname
      subst hname
      constructor
      · rintro ⟨⟩
        exact ⟨location, by simp, rfl⟩
      · rintro ⟨found, hfound, hname⟩
        split at hfound
        · exact absurd hname (hnew found (List.mem_of_getElem? hfound))
        · rename_i hplace
          have hlast := (List.getElem?_eq_some_iff.mp hfound).1
          rw [List.length_singleton] at hlast
          exact congrArg some (by omega)
    · rename_i hname
      rw [h.entries]
      constructor
      · rintro ⟨found, hfound, hfoundName⟩
        exact ⟨found, by rw [if_pos (List.getElem?_eq_some_iff.mp hfound).1, hfound], hfoundName⟩
      · rintro ⟨found, hfound, hfoundName⟩
        split at hfound
        · exact ⟨found, hfound, hfoundName⟩
        · rw [List.mem_singleton.mp (List.mem_of_getElem? hfound)] at hfoundName
          exact absurd hfoundName hname

/-- One tensor goes to the end of the list. -/
theorem Listed.addTensor {entries : List (GgufShard × Nat)} {listed : List (Nat × TensorDesc)}
    {progress next : Progress} (h : Listed entries listed progress) {entry : GgufShard × Nat}
    (hentry : entry ∈ entries) {descriptor : TensorDesc}
    (hadd : addTensor entry.2 entry.1 progress descriptor = .ok next) :
    Listed entries (listed ++ [(entry.2, descriptor)]) next ∧
      next.declaredCount = progress.declaredCount := by
  obtain ⟨_, -, hadd⟩ := except_bind_ok_iff.mp hadd
  obtain ⟨location, hlocate, hadd⟩ := except_bind_ok_iff.mp hadd
  obtain ⟨_, hnew, hadd⟩ := except_bind_ok_iff.mp hadd
  cases hadd
  obtain ⟨hshard, rfl, hrange⟩ := locate_eq_ok hlocate
  refine ⟨⟨?_, ?_, ?_⟩, rfl⟩
  · rw [List.map_append, h.listed, List.map_singleton, hshard]
  · intro other hother
    rcases List.mem_append.mp hother with hother | hother
    · exact h.located other hother
    · rw [List.mem_singleton.mp hother]
      exact ⟨entry, hentry, hshard.symm, hrange⟩
  · exact h.indexed.append (SortedMap.lookup_eq_none_iff.mpr (ensure_eq_ok.mp hnew))

theorem Listed.addTensors {entries : List (GgufShard × Nat)} {listed : List (Nat × TensorDesc)}
    {progress next : Progress} (h : Listed entries listed progress) {entry : GgufShard × Nat}
    (hentry : entry ∈ entries)
    (hadd : entry.1.parsed.tensors.foldlM (GgufSplit.addTensor entry.2 entry.1) progress =
      .ok next) :
    Listed entries (listed ++ entry.1.parsed.tensors.map (entry.2, ·)) next ∧
      next.declaredCount = progress.declaredCount := by
  refine except_foldlM_run (P := fun done now =>
    Listed entries (listed ++ done.map (entry.2, ·)) now ∧
    now.declaredCount = progress.declaredCount) hadd ?_ ?_
  · rw [List.map_nil, List.append_nil]
    exact ⟨h, rfl⟩
  · rintro done descriptor now after - ⟨hnow, hcount⟩ hstep
    obtain ⟨hafter, hsame⟩ := hnow.addTensor hentry hstep
    rw [List.map_append, List.map_singleton, ← List.append_assoc]
    exact ⟨hafter, hsame.trans hcount⟩

/-- Every count that one of the shards declares is the one that is kept. -/
def Declared (entries : List (GgufShard × Nat)) (declared : Option Int32) : Prop :=
  ∀ entry ∈ entries, ∀ count, entry.1.parsed.getI32 "split.tensors.count" = .ok count →
    declared = some count

theorem optionalAggregateCount_of_getI32 {shard : GgufShard} {count : Int32} {found : Option Int32}
    (hcount : shard.parsed.getI32 "split.tensors.count" = .ok count)
    (h : optionalAggregateCount shard = .ok found) :
    found = some count := by
  unfold optionalAggregateCount at h
  rw [hcount] at h
  dsimp only at h
  split at h
  · cases h
    rfl
  · cases h

theorem Declared.declareCount {entries : List (GgufShard × Nat)} {declared next : Option Int32}
    (h : Declared entries declared)
    {entry : GgufShard × Nat} (hdeclare : declareCount declared entry.1 = .ok next) :
    Declared (entries ++ [entry]) next := by
  obtain ⟨found, hfound, hdeclare⟩ := except_bind_ok_iff.mp hdeclare
  -- a count that was declared before stays, and this one is the first or the same
  have hkept : (∀ count, declared = some count → next = some count) ∧ ∀ count, found = some count →
      next = some count := by
    cases found with
    | none =>
        cases hdeclare
        exact ⟨fun _ hcount => hcount, nofun⟩
    | some value =>
        cases declared with
        | none =>
            cases hdeclare
            exact ⟨nofun, fun _ hcount => hcount⟩
        | some previous =>
            obtain ⟨_, hsame, hdeclare⟩ := except_bind_ok_iff.mp hdeclare
            cases hdeclare
            rw [ensure_eq_ok.mp hsame]
            exact ⟨fun _ hcount => hcount, fun _ hcount => hcount⟩
  intro other hother count hcount
  rw [List.mem_append, List.mem_singleton] at hother
  rcases hother with hother | rfl
  · exact hkept.1 count (h other hother count hcount)
  · exact hkept.2 count (optionalAggregateCount_of_getI32 hcount hfound)

/-- One shard puts its tensors behind those of the shards before it. -/
theorem Listed.addShard {entries done : List (GgufShard × Nat)} {progress next : Progress}
    (h : Listed entries (listing done) progress) (hdeclared : Declared done progress.declaredCount)
    {entry : GgufShard × Nat} (hentry : entry ∈ entries)
    (hadd : addShard progress entry = .ok next) :
    Listed entries (listing (done ++ [entry])) next ∧
      Declared (done ++ [entry]) next.declaredCount := by
  obtain ⟨declaredCount, hdeclare, hadd⟩ := except_bind_ok_iff.mp hadd
  have hbefore : Listed entries (listing done) { progress with declaredCount } :=
    ⟨h.listed, h.located, h.indexed⟩
  obtain ⟨hlisted, hcount⟩ := hbefore.addTensors hentry hadd
  refine ⟨?_, hcount ▸ hdeclared.declareCount hdeclare⟩
  rw [listing, List.flatMap_append, List.flatMap_singleton]
  exact hlisted

theorem checkDeclared_eq_ok {declared : Option Int32} {listed : Nat}
    (h : checkDeclared declared listed = .ok ())
    {count : Int32} (hcount : declared = some count) : count.toInt = listed := by
  subst hcount
  obtain ⟨_, -, h⟩ := except_bind_ok_iff.mp h
  exact ensure_eq_ok.mp h

theorem build_listed {files : List GgufShard} {directory : TensorDirectory}
    (h : build files = .ok directory) :
    ∃ declared, Listed files.zipIdx (listing files.zipIdx)
      ⟨directory.ordered, directory.byName, declared⟩ ∧
      Declared files.zipIdx declared ∧
      checkDeclared declared directory.ordered.length = .ok () := by
  obtain ⟨_, -, h⟩ := except_bind_ok_iff.mp h
  obtain ⟨progress, hloop, h⟩ := except_bind_ok_iff.mp h
  obtain ⟨_, hcheck, h⟩ := except_bind_ok_iff.mp h
  cases h
  refine ⟨progress.declaredCount, ?_⟩
  rw [← and_assoc]
  refine ⟨?_, hcheck⟩
  refine except_foldlM_run (P := fun done now => Listed files.zipIdx (listing done) now ∧
    Declared done now.declaredCount)
    hloop ?_ ?_
  · refine ⟨⟨rfl, by simp, ⟨List.nodup_nil, ?_⟩⟩, by simp [Declared]⟩
    simp [SortedMap.lookup_empty]
  · rintro done entry now after hentry ⟨hlisted, hdeclared⟩ hstep
    exact hlisted.addShard hdeclared hentry hstep

/-! ### The directory -/

theorem Indexed.get_eq_some_iff {ordered : List TensorLocation} {byName : SortedMap String Nat}
    (h : Indexed ordered byName) {name : String} {location : TensorLocation} :
    TensorDirectory.get ⟨ordered, byName⟩ name = some location ↔
      location ∈ ordered ∧ location.descriptor.name = name := by
  unfold TensorDirectory.get
  rw [Option.bind_eq_some_iff]
  constructor
  · rintro ⟨place, hplace, hlocation⟩
    obtain ⟨found, hfound, hname⟩ := (h.entries name place).mp hplace
    cases hfound.symm.trans hlocation
    exact ⟨List.mem_of_getElem? hfound, hname⟩
  · rintro ⟨hmem, hname⟩
    obtain ⟨place, hplace⟩ := List.mem_iff_getElem?.mp hmem
    exact ⟨place, (h.entries name place).mpr ⟨location, hplace, hname⟩, hplace⟩

/-- A directory that is built lists the tensors of the shards one after the other, each at its own
place in its own shard, finds each by its name and nothing by another name, and has as many of them
as any shard declares. -/
theorem build_directory {files : List GgufShard} {directory : TensorDirectory}
    (h : build files = .ok directory) :
    (directory.ordered.map fun location => (location.shardIndex, location.descriptor)) =
      listing files.zipIdx ∧
      (∀ location ∈ directory.ordered, ∃ shard, files[location.shardIndex]? = some shard ∧
        location.descriptor.checkedAbsoluteRange shard.parsed.dataOffset shard.parsed.fileLen =
          .ok (location.start, location.stop)) ∧
      (directory.ordered.map fun location => location.descriptor.name).Nodup ∧
      (∀ location ∈ directory.ordered, directory.get location.descriptor.name = some location) ∧
      (∀ name, (∀ location ∈ directory.ordered, location.descriptor.name ≠ name) →
        directory.get name = none) ∧
      ∀ shard ∈ files, ∀ count, shard.parsed.getI32 "split.tensors.count" = .ok count →
        count.toInt = directory.ordered.length := by
  obtain ⟨declared, hlisted, hdeclared, hcheck⟩ := build_listed h
  refine ⟨hlisted.listed, ?_, hlisted.indexed.distinct, ?_, ?_, ?_⟩
  · intro location hmem
    obtain ⟨⟨shard, index⟩, hentry, rfl, hrange⟩ := hlisted.located location hmem
    exact ⟨shard, List.mk_mem_zipIdx_iff_getElem?.mp hentry, hrange⟩
  · intro location hmem
    exact hlisted.indexed.get_eq_some_iff.mpr ⟨hmem, rfl⟩
  · intro name hname
    by_contra hfound
    obtain ⟨location, hlocation⟩ := Option.ne_none_iff_exists'.mp hfound
    obtain ⟨hmem, hsame⟩ := hlisted.indexed.get_eq_some_iff.mp hlocation
    exact hname location hmem hsame
  · intro shard hshard count hcount
    obtain ⟨index, hindex⟩ := List.mem_iff_getElem?.mp hshard
    exact checkDeclared_eq_ok hcheck
      (hdeclared (shard, index) (List.mk_mem_zipIdx_iff_getElem?.mpr hindex) count hcount)

/-! ### A set of two shards -/

/-- A weight of one element, in the first bytes of its shard. -/
def smallTensor (name : String) : TensorDesc where
  name := name
  shape := [1]
  ty := .f32
  relativeOffset := 0
  strides := [4]
  computed := rfl

/-- A shard of one tensor that declares two of them. -/
def smallShard (ordinal : Nat) : GgufShard where
  path := ⟨"models", .text (toString ordinal)⟩
  parsed := {
    version := 3, endianness := .little, metadata := [("split.tensors.count", .i32 2)]
    tensors := [smallTensor (toString ordinal)], alignment := 32, dataOffset := 64, fileLen := 68 }
  ordinal := ordinal
  count := 2

theorem build_directory_two : ∃ directory, build [smallShard 0, smallShard 1] = .ok directory ∧
    directory.ordered.length = 2 ∧ ∀ location ∈ directory.ordered,
      directory.get location.descriptor.name = some location := by
  have hok : (build [smallShard 0, smallShard 1]).isOk = true := by decide +kernel
  cases hbuild : build [smallShard 0, smallShard 1] with
  | error error =>
      rw [hbuild] at hok
      cases hok
  | ok directory =>
      obtain ⟨hlisting, -, -, hget, -⟩ := build_directory hbuild
      refine ⟨directory, rfl, ?_, hget⟩
      have hlength := congrArg List.length hlisting
      rwa [List.length_map] at hlength

end LightBridge.GgufSplit
