import LightBridge.Foundation.Framing
import LightBridge.Hy3.ExpertSource
import LightBridge.Kv.Snapshot

/-! The hashes that bind a sidecar and a session to a model: what is fed to their hashers, and that
it can be fed by no other model. -/
namespace LightBridge.Prepare
open Foundation Io Hy3 Format

def maxHashChunkBytes : Nat := 64 * 1024 * 1024

def validateHashChunk (chunkSize : Nat) : Except SidecarFailure Unit :=
  ensure (¬ (chunkSize = 0 ∨ chunkSize > maxHashChunkBytes))
    (.invalidHashChunk chunkSize maxHashChunkBytes)

/-- The loop that feeds a file to a hasher, with `fuel` chunks at most. `check` looks at the
cancellation. -/
def hashChunks {ε : Type} (check : Nat → Except ε Unit) (read : ReadError → ε) (overflow : ε)
    (reader : PositionedFile) (chunkSize : Nat) : Nat → Nat → List UInt8 → Except ε (List UInt8)
  | 0, _, hasher => .ok hasher
  | fuel + 1, offset, hasher =>
      if offset < reader.content.length then do
        check offset
        let bytes ← wrap read
          (reader.readExactAtInto offset (min (reader.content.length - offset) chunkSize))
        let next ← okOr (checkedAdd offset (min (reader.content.length - offset) chunkSize))
          overflow
        hashChunks check read overflow reader chunkSize fuel next (hasher ++ bytes)
      else .ok hasher

/-! ### The source files -/

/-- What the host answers while the sources are hashed. -/
structure SourceHost extends StoreHost where
  system : System
  path : String → Path
  lossy : Path → String
  cancelled : Nat → Nat → Bool

def hashSourceFile (sha : Sha256) (host : SourceHost) (chunkSize : Nat) (shard : GgufShard × Nat) :
    Except SidecarFailure SourceFileIdentity := do
  let path ← wrap (fun source =>
    .files (.sourceIo (host.path shard.1.path) "canonicalize source" source))
    (host.system.canonicalize (host.path shard.1.path))
  let reader ← DirectExpertStore.openReader host.toStoreHost chunkSize shard
  ensure (host.reserved chunkSize) (.allocationFailed chunkSize)
  let hasher ← hashChunks (fun offset => ensure (host.cancelled shard.2 offset = false) .cancelled)
    .read .arithmeticOverflow
    reader chunkSize reader.content.length 0 []
  ensure (shard.2 < 2 ^ 32) .arithmeticOverflow
  pure { ordinal := shard.2, path := host.lossy path, length := reader.content.length,
         sha256 := hex (sha hasher).val }

def hashSourceFiles (sha : Sha256) (host : SourceHost) (set : GgufSet) (chunkSize : Nat) :
    Except SidecarFailure (List SourceFileIdentity) := do
  validateHashChunk chunkSize
  ensure (host.reserved set.files.length) (.allocationFailed set.files.length)
  set.files.zipIdx.mapM (hashSourceFile sha host chunkSize)

/-! ### The tensor directory -/

def hashU64 (hasher : List UInt8) (value : Nat) : List UInt8 := hasher ++ leBytes 8 value

def hashBytes (hasher bytes : List UInt8) : Except SidecarFailure (List UInt8) := do
  ensure (bytes.length < 2 ^ 64) .arithmeticOverflow
  pure (hashU64 hasher bytes.length ++ bytes)

/-- `[u64; 4]`: the strides, and zero behind the last dimension. -/
def strideArray (strides : List Nat) : List Nat := strides ++ List.replicate (4 - strides.length) 0

/-- The body of the loop over the directory. -/
def hashLocation (hasher : List UInt8) (location : TensorLocation) :
    Except SidecarFailure (List UInt8) := do
  let hasher ← hashBytes hasher (asBytes location.descriptor.name)
  ensure (location.shardIndex < 2 ^ 64) .arithmeticOverflow
  let hasher := hashU64 hasher location.shardIndex
  let hasher := hashU64 hasher location.start
  let hasher := hashU64 hasher location.stop
  let hasher := hashU64 hasher location.descriptor.shape.length
  let hasher := location.descriptor.shape.foldl hashU64 hasher
  let hasher := (strideArray location.descriptor.strides).foldl hashU64 hasher
  hashBytes hasher (asBytes location.descriptor.ty.name)

/-- What `tensor_directory_sha256` feeds to its hasher. -/
def tensorDirectoryStream (set : GgufSet) : Except SidecarFailure (List UInt8) :=
  set.tensors.foldlM hashLocation (asBytes "lightbridge-tensor-directory-v1\x00")

def tensorDirectorySha256 (sha : Sha256) (set : GgufSet) : Except SidecarFailure String := do
  let hasher ← tensorDirectoryStream set
  pure (hex (sha hasher).val)

def verifySourceBindings (sha : Sha256) (host : SourceHost) (set : GgufSet)
    (manifest : SidecarManifest) (hashChunkBytes : Nat) :
    Except SidecarFailure Unit := do
  validateHashChunk hashChunkBytes
  let directory ← tensorDirectorySha256 sha set
  ensure (directory = manifest.tensorDirectorySha256)
    (.directoryHashMismatch manifest.tensorDirectorySha256 directory)
  let actual ← hashSourceFiles sha host set hashChunkBytes
  ensure (actual.length = manifest.sourceFiles.length)
    (.sourceCountMismatch manifest.sourceFiles.length actual.length)
  checkAll (fun pair : SourceFileIdentity × SourceFileIdentity =>
      ensure (¬ (pair.1.ordinal ≠ pair.2.ordinal ∨ pair.1.length ≠ pair.2.length ∨
        pair.1.sha256 ≠ pair.2.sha256))
        (.sourceIdentityMismatch pair.1.ordinal pair.1.length pair.2.length pair.1.sha256
          pair.2.sha256))
    (manifest.sourceFiles.zip actual)

/-! ### The fingerprint of the scalar runtime -/

/-- The errors of `Hy3ScalarError` that the check of the files has. -/
inductive IntegrityError where
  | integrityFileCount (expected actual : Nat)
  | integrityHash (path expected actual : String)
  | read (error : ReadError)
  | allocationFailed (context : String) (requested : Nat)
  | arithmeticOverflow

/-- `HASH_CHUNK_BYTES`. -/
def integrityChunkBytes : Nat := 8 * 1024 * 1024

/-- The body of the loop over the files. -/
def verifyFileHash (sha : Sha256) (host : StoreHost) (entry : (GgufShard × Nat) × String) :
    Except IntegrityError String := do
  if let some error := host.opening entry.1.2 then throw (.read error)
  let reader : PositionedFile := {
    content := entry.1.1.content, maxRequestBytes := integrityChunkBytes,
    fault := host.fault entry.1.2
    granted := host.readGranted entry.1.2 }
  let hasher ← hashChunks (fun _ => .ok ()) .read .arithmeticOverflow reader integrityChunkBytes
    reader.content.length 0 []
  let actual := hex (sha hasher).val
  ensure (actual = entry.2) (.integrityHash entry.1.1.path entry.2 actual)
  pure actual

def verifyFileHashes (sha : Sha256) (host : StoreHost) (set : GgufSet) (expected : List String) :
    Except IntegrityError (List String) := do
  ensure (set.files.length = expected.length) (.integrityFileCount expected.length set.files.length)
  ensure (host.reserved expected.length) (.allocationFailed "source hashes" expected.length)
  ensure (host.reserved integrityChunkBytes)
    (.allocationFailed "integrity hash buffer" integrityChunkBytes)
  (set.files.zipIdx.zip expected).mapM (verifyFileHash sha host)

/-- What `build_model_fingerprint` feeds to its hasher. -/
def modelFingerprintStream (sha : Sha256) (set : GgufSet) (sourceSha256 : List String) :
    Except SidecarFailure (List UInt8) := do
  let directory ← tensorDirectorySha256 sha set
  pure (asBytes "lightbridge-hy3-kv-v1\x00" ++ asBytes directory ++ sourceSha256.flatMap fun hash =>
    0 :: asBytes hash)

def buildModelFingerprint (sha : Sha256) (set : GgufSet) (sourceSha256 : List String) :
    Except SidecarFailure Bytes32 := do
  let hasher ← modelFingerprintStream sha set sourceSha256
  pure (sha hasher)

/-! ### What is hashed -/

/-- A file is fed to the hasher from the offset to its end. -/
theorem hashChunks_eq_ok {ε : Type} {check : Nat → Except ε Unit} {read : ReadError → ε}
    {overflow : ε} {reader : PositionedFile} {chunkSize fuel offset : Nat}
    {hasher hashed : List UInt8} (positive : 0 < chunkSize)
    (enough : reader.content.length - offset ≤ fuel)
    (h : hashChunks check read overflow reader chunkSize fuel offset hasher = .ok hashed) :
    hashed = hasher ++ reader.content.drop offset := by
  induction fuel generalizing offset hasher with
  | zero =>
      cases h
      rw [List.drop_eq_nil_of_le (by omega), List.append_nil]
  | succ fuel ih =>
      rw [hashChunks] at h
      split at h
      · rename_i hinside
        obtain ⟨_, -, h⟩ := except_bind_ok_iff.mp h
        obtain ⟨bytes, hbytes, h⟩ := except_bind_ok_iff.mp h
        obtain ⟨next, hnext, h⟩ := except_bind_ok_iff.mp h
        obtain ⟨-, rfl⟩ := checkedAdd_eq_some.mp (okOr_eq_ok.mp hnext)
        rw [ih (by omega) h, PositionedFile.readExactAtInto_eq_ok (wrap_eq_ok.mp hbytes), slice,
          List.append_assoc, ← List.drop_drop, List.take_append_drop]
      · rename_i hend
        cases h
        rw [List.drop_eq_nil_of_le (Nat.le_of_not_lt hend), List.append_nil]

/-- The identity of a source file is that of its bytes. -/
theorem hashSourceFile_eq_ok {sha : Sha256} {host : SourceHost} {chunkSize : Nat}
    {shard : GgufShard × Nat} {identity : SourceFileIdentity} (positive : 0 < chunkSize)
    (h : hashSourceFile sha host chunkSize shard = .ok identity) :
    identity.ordinal = shard.2 ∧ identity.length = shard.1.content.length ∧
      identity.sha256 = hex (sha shard.1.content).val := by
  obtain ⟨path, -, h⟩ := except_bind_ok_iff.mp h
  obtain ⟨reader, hreader, h⟩ := except_bind_ok_iff.mp h
  obtain ⟨_, -, h⟩ := except_bind_ok_iff.mp h
  obtain ⟨hasher, hhasher, h⟩ := except_bind_ok_iff.mp h
  obtain ⟨_, -, h⟩ := except_bind_ok_iff.mp h
  cases h
  have hcontent : reader.content = shard.1.content := by
    rw [DirectExpertStore.openReader] at hreader
    split at hreader
    · cases hreader
    · cases hreader
      rfl
  have hhashed := hashChunks_eq_ok positive (Nat.sub_le _ _) hhasher
  rw [List.nil_append, List.drop_zero] at hhashed
  exact ⟨rfl, by rw [hcontent], by rw [hhashed, hcontent]⟩

/-- What a directory says of a tensor. -/
structure DirectoryEntry where
  name : String
  shardIndex : Nat
  range : Nat × Nat
  dimensions : List Nat
  strides : List Nat
  ty : GgmlType
  deriving DecidableEq, Repr

def directoryEntry (location : TensorLocation) : DirectoryEntry where
  name := location.descriptor.name
  shardIndex := location.shardIndex
  range := (location.start, location.stop)
  dimensions := location.descriptor.shape
  strides := location.descriptor.strides
  ty := location.descriptor.ty

/-- The directory of a set, entry by entry. -/
def directory (set : GgufSet) : List DirectoryEntry := set.tensors.map directoryEntry

/-- The bytes of an entry. -/
def entryBytes (entry : DirectoryEntry) : List UInt8 :=
  lengthPrefixed 8 (asBytes entry.name) ++
    (leBytes 8 entry.shardIndex ++ (leBytes 8 entry.range.1 ++
    (leBytes 8 entry.range.2 ++
      (leBytes 8 entry.dimensions.length ++ (entry.dimensions.flatMap (leBytes 8) ++
      ((strideArray entry.strides).flatMap (leBytes 8) ++
        lengthPrefixed 8 (asBytes entry.ty.name)))))))

theorem foldl_hashU64 (hasher : List UInt8) (values : List Nat) :
    values.foldl hashU64 hasher = hasher ++ values.flatMap (leBytes 8) := by
  induction values generalizing hasher with
  | nil => exact (List.append_nil hasher).symm
  | cons value values ih => rw [List.foldl_cons, ih, hashU64, List.flatMap_cons, List.append_assoc]

theorem hashBytes_eq_ok {hasher bytes hashed : List UInt8} :
    hashBytes hasher bytes = .ok hashed ↔ bytes.length < 2 ^ 64 ∧
      hashed = hasher ++ lengthPrefixed 8 bytes := by
  rw [hashBytes, ensure_pure_eq_ok, hashU64, lengthPrefixed, List.append_assoc]

theorem hashLocation_eq_ok {hasher hashed : List UInt8} {location : TensorLocation}
    (h : hashLocation hasher location = .ok hashed) :
    (asBytes location.descriptor.name).length < 2 ^ 64 ∧ location.shardIndex < 2 ^ 64 ∧
      hashed = hasher ++ entryBytes (directoryEntry location) := by
  simp only [hashLocation, except_bind_ok_iff, hashBytes_eq_ok, ensure_eq_ok, exists_const,
    foldl_hashU64] at h
  obtain ⟨_, ⟨hname, rfl⟩, hshard, -, rfl⟩ := h
  refine ⟨hname, hshard, ?_⟩
  simp only [hashU64, entryBytes, directoryEntry, List.append_assoc]

/-- What is hashed of a directory is its entries, one behind the other. -/
theorem tensorDirectoryStream_eq_ok {set : GgufSet} {stream : List UInt8}
    (h : tensorDirectoryStream set = .ok stream) :
    (∀ location ∈ set.tensors, (asBytes location.descriptor.name).length < 2 ^ 64 ∧
      location.shardIndex < 2 ^ 64) ∧
      stream = asBytes "lightbridge-tensor-directory-v1\x00" ++
      (directory set).flatMap entryBytes := by
  refine except_foldlM_run (P := fun done hasher =>
    (∀ location ∈ done, (asBytes location.descriptor.name).length < 2 ^ 64 ∧
    location.shardIndex < 2 ^ 64) ∧
      hasher = asBytes "lightbridge-tensor-directory-v1\x00" ++
        (done.map directoryEntry).flatMap entryBytes) h ?_ ?_
  · exact ⟨fun _ hmem => absurd hmem List.not_mem_nil, (List.append_nil _).symm⟩
  · rintro done location _ after - ⟨hdone, rfl⟩ hstep
    obtain ⟨hname, hshard, rfl⟩ := hashLocation_eq_ok hstep
    constructor
    · intro other hother
      rcases List.mem_append.mp hother with hother | hother
      · exact hdone other hother
      · rw [List.mem_singleton.mp hother]
        exact ⟨hname, hshard⟩
    · rw [List.map_append, List.map_singleton, List.flatMap_append, List.flatMap_singleton,
        List.append_assoc]

/-! ### What the hashes tell apart -/

/-- The numbers of an entry are those of 64 bits, and its strides those of its shape. -/
structure Encodable (entry : DirectoryEntry) : Prop where
  name : (asBytes entry.name).length < 2 ^ 64
  shardIndex : entry.shardIndex < 2 ^ 64
  start : entry.range.1 < 2 ^ 64
  stop : entry.range.2 < 2 ^ 64
  dimensions : ∀ dimension ∈ entry.dimensions, dimension < 2 ^ 64
  computed : computeStrides entry.dimensions entry.ty = .ok entry.strides

theorem name_injective : Function.Injective GgmlType.name := by
  intro a b
  cases a <;> cases b <;> decide

theorem length_strideArray {dimensions strides : List Nat} {ty : GgmlType}
    (h : computeStrides dimensions ty = .ok strides) :
    ((strideArray strides).flatMap (leBytes 8)).length = 32 := by
  obtain ⟨hrank, -, row, outer, -, houter, rfl⟩ := computeStrides_eq_ok h
  have hlength := outerStrides_length houter
  rw [List.length_tail] at hlength
  have hfour : (strideArray (ty.typeSize :: outer)).length = 4 := by
    rw [strideArray, List.length_append, List.length_replicate, List.length_cons]
    omega
  simp [List.length_flatMap, hfour]

/-- A stream begins with one entry at most. -/
theorem framed_entryBytes : Framed entryBytes Encodable := by
  intro a b rest rest' ha hb h
  have hwidth : 256 ^ 8 = 2 ^ 64 := by decide
  have hnumber := framed_leBytes 8
  have hbytes := framed_lengthPrefixed 8
  rw [hwidth] at hnumber hbytes
  have hrank : ∀ {entry : DirectoryEntry}, Encodable entry → entry.dimensions.length < 2 ^ 64 := by
    intro entry hentry
    have hfour := (computeStrides_eq_ok hentry.computed).1
    omega
  have htyName : ∀ ty : GgmlType, (asBytes ty.name).length < 2 ^ 64 := by
    intro ty
    cases ty <;> decide
  simp only [entryBytes, List.append_assoc] at h
  obtain ⟨hname, h⟩ := hbytes _ _ _ _ ha.name hb.name h
  obtain ⟨hshard, h⟩ := hnumber _ _ _ _ ha.shardIndex hb.shardIndex h
  obtain ⟨hstart, h⟩ := hnumber _ _ _ _ ha.start hb.start h
  obtain ⟨hstop, h⟩ := hnumber _ _ _ _ ha.stop hb.stop h
  obtain ⟨hcount, h⟩ := hnumber _ _ _ _ (hrank ha) (hrank hb) h
  obtain ⟨hshape, h⟩ := hnumber.counted b.dimensions.length _ _ _ _ ⟨hcount, ha.dimensions⟩
    ⟨rfl, hb.dimensions⟩ h
  obtain ⟨-, h⟩ :=
    List.append_inj h ((length_strideArray ha.computed).trans (length_strideArray hb.computed).symm)
  obtain ⟨hty, hrest⟩ := hbytes _ _ _ _ (htyName _) (htyName _) h
  have htype := name_injective (asBytes_injective hty)
  -- The strides are those of the shape and the type.
  have hstrides : a.strides = b.strides := by
    have hcomputed := ha.computed
    rw [hshape, htype, hb.computed] at hcomputed
    exact (Except.ok.inj hcomputed).symm
  refine ⟨?_, hrest⟩
  rw [DirectoryEntry.mk.injEq, Prod.ext_iff]
  exact ⟨asBytes_injective hname, hshard, ⟨hstart, hstop⟩, hshape, hstrides, htype⟩

/-- The dimensions are `u64`. -/
def DimensionsFit (set : GgufSet) : Prop :=
  ∀ location ∈ set.tensors, ∀ dimension ∈ location.descriptor.shape, dimension < 2 ^ 64

theorem encodable_of_stream {set : GgufSet} {stream : List UInt8} (fit : DimensionsFit set)
    (h : tensorDirectoryStream set = .ok stream) : ∀ entry ∈ directory set, Encodable entry := by
  intro entry hentry
  obtain ⟨location, hlocation, rfl⟩ := List.mem_map.mp hentry
  obtain ⟨hname, hshard⟩ := (tensorDirectoryStream_eq_ok h).1 location hlocation
  obtain ⟨dataOffset, fileLen, hlocated⟩ := location.located
  simp only [TensorDesc.checkedAbsoluteRange, except_bind_ok_iff, okOr_eq_ok,
    checkedAdd_eq_some] at hlocated
  obtain ⟨start, ⟨hstart, rfl⟩, bytes, -, stop, ⟨hstop, rfl⟩, _, -, hrange⟩ := hlocated
  have hrange := Except.ok.inj hrange
  refine ⟨hname, hshard, ?_, ?_, fit location hlocation, location.descriptor.computed⟩
  · rw [directoryEntry, ← hrange]
    exact Nat.lt_of_le_of_lt hstart (by decide)
  · rw [directoryEntry, ← hrange]
    exact Nat.lt_of_le_of_lt hstop (by decide)

/-- One stream is that of one directory. -/
theorem directory_of_stream {set set' : GgufSet} {stream : List UInt8} (fit : DimensionsFit set)
    (fit' : DimensionsFit set')
    (h : tensorDirectoryStream set = .ok stream) (h' : tensorDirectoryStream set' = .ok stream) :
    directory set = directory set' := by
  have hentries := encodable_of_stream fit h
  have hentries' := encodable_of_stream fit' h'
  obtain ⟨-, hstream⟩ := tensorDirectoryStream_eq_ok h
  obtain ⟨-, hstream'⟩ := tensorDirectoryStream_eq_ok h'
  have hbytes := List.append_cancel_left (hstream.symm.trans hstream')
  refine framed_entryBytes.flatMap_injective ?_ hentries hentries' hbytes
  intro entry _ hnil
  have hlength := congrArg List.length hnil
  simp [entryBytes, lengthPrefixed] at hlength

/-! ### Digests in text -/

theorem isSha256_hex (digest : Bytes32) : IsSha256 (hex digest.val) := by
  refine ⟨by rw [length_hex, digest.property], ?_⟩
  rw [hex, String.toList_ofList, List.all_flatMap, List.all_eq_true]
  intro byte _
  have hdigit : ∀ n < 16, isHexDigit n.digitChar = true := by decide
  have hbyte := byte.toNat_lt
  rw [hexByte, List.all_cons, List.all_cons, List.all_nil, hdigit _ (by omega), hdigit _ (by omega)]
  rfl

theorem length_of_isSha256 {value : String} (h : IsSha256 value) : (asBytes value).length = 64 := by
  rw [length_asBytes, h.1]
  intro c hc
  have hdigit := List.all_eq_true.mp h.2 c hc
  rw [isHexDigit, Bool.or_eq_true, Bool.and_eq_true, decide_eq_true_eq, decide_eq_true_eq] at hdigit
  rcases hdigit with hdigit | hdigit
  · rw [Char.isDigit, Bool.and_eq_true, decide_eq_true_eq, decide_eq_true_eq] at hdigit
    exact UInt32.le_trans hdigit.2 (by decide)
  · exact UInt32.le_trans (Char.le_def.mp hdigit.2) (by decide)

theorem framed_hash : Framed (fun hash => (0 : UInt8) :: asBytes hash) IsSha256 := by
  refine Framed.of_length (fun hash h => (congrArg Nat.succ (length_of_isSha256 h) : _ = 65)) ?_
  intro a b _ _ h
  exact asBytes_injective (List.cons_eq_cons.mp h).2

theorem tensorDirectorySha256_eq_ok {sha : Sha256} {set : GgufSet} {value : String} :
    tensorDirectorySha256 sha set = .ok value ↔ ∃ stream, tensorDirectoryStream set = .ok stream ∧
      value = hex (sha stream).val := by
  rw [tensorDirectorySha256, except_bind_ok_iff]
  exact ⟨fun ⟨stream, h, hvalue⟩ => ⟨stream, h, (Except.ok.inj hvalue).symm⟩,
    fun ⟨stream, h, hvalue⟩ => ⟨stream, h, hvalue ▸ rfl⟩⟩

/-- One stream is that of one directory hash and of one list of source hashes. -/
theorem sources_of_stream {sha : Sha256} {set set' : GgufSet} {sources sources' : List String}
    {stream : List UInt8} (hashes : ∀ hash ∈ sources, IsSha256 hash)
    (hashes' : ∀ hash ∈ sources', IsSha256 hash)
    (h : modelFingerprintStream sha set sources = .ok stream)
    (h' : modelFingerprintStream sha set' sources' = .ok stream) :
    tensorDirectorySha256 sha set = tensorDirectorySha256 sha set' ∧ sources = sources' := by
  obtain ⟨value, hvalue, h⟩ := except_bind_ok_iff.mp h
  obtain ⟨value', hvalue', h'⟩ := except_bind_ok_iff.mp h'
  have hstream := (Except.ok.inj h).trans (Except.ok.inj h').symm
  rw [List.append_assoc, List.append_assoc] at hstream
  have hlength : (asBytes value).length = (asBytes value').length := by
    obtain ⟨_, -, rfl⟩ := tensorDirectorySha256_eq_ok.mp hvalue
    obtain ⟨_, -, rfl⟩ := tensorDirectorySha256_eq_ok.mp hvalue'
    rw [length_of_isSha256 (isSha256_hex _), length_of_isSha256 (isSha256_hex _)]
  obtain ⟨hdirectory, hsources⟩ := List.append_inj (List.append_cancel_left hstream) hlength
  constructor
  · rw [hvalue, hvalue', asBytes_injective hdirectory]
  · exact framed_hash.flatMap_injective (fun _ _ => List.cons_ne_nil _ _) hashes hashes' hsources

/-- The hashes that the runtime checks its files against are digests. -/
theorem verifyFileHashes_eq_ok {sha : Sha256} {host : StoreHost} {set : GgufSet}
    {expected hashes : List String}
    (h : verifyFileHashes sha host set expected = .ok hashes) : ∀ hash ∈ hashes, IsSha256 hash := by
  obtain ⟨_, -, h⟩ := except_bind_ok_iff.mp h
  obtain ⟨_, -, h⟩ := except_bind_ok_iff.mp h
  obtain ⟨_, -, h⟩ := except_bind_ok_iff.mp h
  refine except_mapM_forall h fun entry _ hash hhash => ?_
  rw [verifyFileHash] at hhash
  split at hhash
  · cases hhash
  · obtain ⟨hasher, -, hhash⟩ := except_bind_ok_iff.mp hhash
    obtain ⟨_, -, hhash⟩ := except_bind_ok_iff.mp hhash
    cases hhash
    exact isSha256_hex _

/-! ### Bindings that match -/

/-- Two computations feed different bytes of one digest to the hasher. -/
def StreamsCollide (sha : Sha256) (fed fed' : Except SidecarFailure (List UInt8)) : Prop :=
  ∃ bytes other, fed = .ok bytes ∧ fed' = .ok other ∧ bytes ≠ other ∧ sha bytes = sha other

theorem streams_eq_or_collide {sha : Sha256} {fed fed' : Except SidecarFailure (List UInt8)}
    {bytes other : List UInt8}
    (h : fed = .ok bytes) (h' : fed' = .ok other) (digest : sha bytes = sha other) :
    fed = fed' ∨ StreamsCollide sha fed fed' := by
  by_cases heq : bytes = other
  · exact .inl (by rw [h, h', heq])
  · exact .inr ⟨bytes, other, h, h', heq, digest⟩

/-- One directory hash is that of one directory, or of two streams that collide. -/
theorem directory_of_hash {sha : Sha256} {set set' : GgufSet} {value : String}
    (fit : DimensionsFit set) (fit' : DimensionsFit set')
    (h : tensorDirectorySha256 sha set = .ok value)
    (h' : tensorDirectorySha256 sha set' = .ok value) :
    directory set = directory set' ∨
      StreamsCollide sha (tensorDirectoryStream set) (tensorDirectoryStream set') := by
  obtain ⟨stream, hstream, rfl⟩ := tensorDirectorySha256_eq_ok.mp h
  obtain ⟨stream', hstream', hvalue⟩ := tensorDirectorySha256_eq_ok.mp h'
  have hdigest : sha stream = sha stream' := Subtype.ext (hex_injective hvalue)
  refine (streams_eq_or_collide hstream hstream' hdigest).imp_left fun heq => ?_
  exact directory_of_stream fit fit' hstream (heq ▸ hstream)

/-- A manifest whose bindings hold names the directory and the files of the set. -/
theorem verifySourceBindings_eq_ok {sha : Sha256} {host : SourceHost} {set : GgufSet}
    {manifest : SidecarManifest} {chunkSize : Nat}
    (h : verifySourceBindings sha host set manifest chunkSize = .ok ()) :
    tensorDirectorySha256 sha set = .ok manifest.tensorDirectorySha256 ∧
      manifest.sourceFiles.map SourceFileIdentity.sha256 = set.files.map fun shard =>
      hex (sha shard.content).val := by
  obtain ⟨_, hchunk, h⟩ := except_bind_ok_iff.mp h
  obtain ⟨directory, hdirectory, h⟩ := except_bind_ok_iff.mp h
  obtain ⟨_, hsame, h⟩ := except_bind_ok_iff.mp h
  obtain ⟨actual, hactual, h⟩ := except_bind_ok_iff.mp h
  obtain ⟨_, hlength, h⟩ := except_bind_ok_iff.mp h
  have hpositive : 0 < chunkSize := by
    have := ensure_eq_ok.mp hchunk
    omega
  have hlength := ensure_eq_ok.mp hlength
  obtain ⟨_, -, hactual⟩ := except_bind_ok_iff.mp hactual
  obtain ⟨_, -, hactual⟩ := except_bind_ok_iff.mp hactual
  have hfiles := (except_mapM_ok_iff.mp hactual).length_eq
  rw [List.length_zipIdx] at hfiles
  refine ⟨by rw [hdirectory, ensure_eq_ok.mp hsame], ?_⟩
  apply List.ext_getElem
  · rw [List.length_map, List.length_map, ← hlength, hfiles]
  · intro i hi hi'
    rw [List.length_map] at hi hi'
    have hidentity :=
      (hashSourceFile_eq_ok hpositive (except_mapM_getElem hactual (by rwa [List.length_zipIdx])
      (by omega : i < actual.length))).2.2
    have hpair : (manifest.sourceFiles[i], actual[i]) ∈ manifest.sourceFiles.zip actual := by
      rw [List.mem_iff_getElem]
      exact ⟨i, by rw [List.length_zip]; omega, List.getElem_zip⟩
    have hmatch := ensure_eq_ok.mp (checkAll_eq_ok.mp h _ hpair)
    simp only [not_or, not_not] at hmatch
    rw [List.getElem_map, List.getElem_map, hmatch.2.2, hidentity, List.getElem_zipIdx]

/-- A manifest names its sources by the digests of their bytes. -/
theorem digests_of_hashSourceFiles {sha : Sha256} {host : SourceHost} {set : GgufSet}
    {chunkSize : Nat} {identities : List SourceFileIdentity}
    (h : hashSourceFiles sha host set chunkSize = .ok identities) :
    identities.map SourceFileIdentity.sha256 =
      set.files.map fun shard => hex (sha shard.content).val := by
  obtain ⟨_, hchunk, h⟩ := except_bind_ok_iff.mp h
  obtain ⟨_, -, h⟩ := except_bind_ok_iff.mp h
  have hpositive : 0 < chunkSize := by
    have hrange := ensure_eq_ok.mp hchunk
    omega
  have hlength := (except_mapM_ok_iff.mp h).length_eq
  rw [List.length_zipIdx] at hlength
  apply List.ext_getElem
  · rw [List.length_map, List.length_map, hlength]
  · intro i hi hi'
    rw [List.length_map] at hi hi'
    have hidentity := (hashSourceFile_eq_ok hpositive
      (except_mapM_getElem h (by rwa [List.length_zipIdx]) hi)).2.2
    rw [List.getElem_map, List.getElem_map, hidentity, List.getElem_zipIdx]

theorem hex_digest_injective : Function.Injective fun digest : Bytes32 => hex digest.val :=
  hex_injective.comp Subtype.val_injective

/-- Two sets have files of different bytes and of one digest. -/
def FilesCollide (sha : Sha256) (set set' : GgufSet) : Prop :=
  ∃ shard ∈ set.files, ∃ shard' ∈ set'.files, shard.content ≠ shard'.content ∧
    sha shard.content = sha shard'.content

/-- The digests of two lists of files are those of one, or two of the files collide. -/
theorem files_of_digests {sha : Sha256} {files files' : List GgufShard}
    (h : (files.map fun shard => sha shard.content) = files'.map fun shard => sha shard.content) :
    files.map GgufShard.content = files'.map GgufShard.content ∨
      ∃ shard ∈ files, ∃ shard' ∈ files', shard.content ≠ shard'.content ∧
        sha shard.content = sha shard'.content := by
  induction files generalizing files' with
  | nil =>
      rw [List.map_nil, eq_comm, List.map_eq_nil_iff] at h
      rw [h]
      exact .inl rfl
  | cons shard files ih =>
      cases files' with
      | nil => cases h
      | cons shard' files' =>
          obtain ⟨hdigest, hrest⟩ := List.cons_eq_cons.mp h
          by_cases hsame : shard.content = shard'.content
          · rcases ih hrest with heq | ⟨first, hfirst, second, hsecond, hcollide⟩
            · rw [List.map_cons, List.map_cons, hsame, heq]
              exact .inl rfl
            · exact .inr ⟨first, List.mem_cons_of_mem _ hfirst, second,
                List.mem_cons_of_mem _ hsecond, hcollide⟩
          · exact .inr ⟨shard, List.mem_cons_self, shard', List.mem_cons_self, hsame, hdigest⟩

/-- The streams behind the binding hashes tell models apart. A sidecar or a fingerprint that matches
two models is one of equal directories, and of equal source hashes, or two streams of one digest are
known; and a sidecar is one of equal source files, or two files of one digest are known. -/
theorem binding_hashes_unambiguous (sha : Sha256) {set set' : GgufSet} (fit : DimensionsFit set)
    (fit' : DimensionsFit set') :
    (∀ stream, tensorDirectoryStream set = .ok stream → tensorDirectoryStream set' = .ok stream →
      directory set = directory set') ∧
      (∀ sources sources' : List String, (∀ hash ∈ sources, IsSha256 hash) →
        (∀ hash ∈ sources', IsSha256 hash) →
        (∀ stream, modelFingerprintStream sha set sources = .ok stream →
          modelFingerprintStream sha set' sources' = .ok stream →
          tensorDirectorySha256 sha set = tensorDirectorySha256 sha set' ∧ sources = sources') ∧
        ∀ fingerprint, buildModelFingerprint sha set sources = .ok fingerprint →
          buildModelFingerprint sha set' sources' = .ok fingerprint →
          (directory set = directory set' ∧ sources = sources') ∨
            StreamsCollide sha (tensorDirectoryStream set) (tensorDirectoryStream set') ∨
            StreamsCollide sha (modelFingerprintStream sha set sources)
              (modelFingerprintStream sha set' sources')) ∧
      ∀ (host : SourceHost) (manifest : SidecarManifest) (hashChunkBytes : Nat),
        tensorDirectorySha256 sha set = .ok manifest.tensorDirectorySha256 →
        verifySourceBindings sha host set' manifest hashChunkBytes = .ok () →
        (directory set = directory set' ∨ StreamsCollide sha (tensorDirectoryStream set)
          (tensorDirectoryStream set')) ∧
        ∀ (maker : SourceHost) (makerChunkBytes : Nat),
          hashSourceFiles sha maker set makerChunkBytes = .ok manifest.sourceFiles →
          set.files.map GgufShard.content = set'.files.map GgufShard.content ∨
            FilesCollide sha set set' := by
  refine ⟨fun _ => directory_of_stream fit fit', ?_, ?_⟩
  · intro sources sources' hashes hashes'
    refine ⟨fun _ => sources_of_stream hashes hashes', ?_⟩
    intro fingerprint h h'
    obtain ⟨stream, hstream, h⟩ := except_bind_ok_iff.mp h
    obtain ⟨stream', hstream', h'⟩ := except_bind_ok_iff.mp h'
    have hdigest : sha stream = sha stream' := (Except.ok.inj h).trans (Except.ok.inj h').symm
    rcases streams_eq_or_collide hstream hstream' hdigest with heq | hcollide
    · obtain ⟨hdirectory, hsources⟩ := sources_of_stream hashes hashes' hstream (heq ▸ hstream)
      obtain ⟨value, hvalue, -⟩ := except_bind_ok_iff.mp hstream
      rcases directory_of_hash fit fit' hvalue (hdirectory ▸ hvalue) with hsame | hcollide
      · exact .inl ⟨hsame, hsources⟩
      · exact .inr (.inl hcollide)
    · exact .inr (.inr hcollide)
  · intro host manifest hashChunkBytes h h'
    obtain ⟨hdirectory, hdigests⟩ := verifySourceBindings_eq_ok h'
    refine ⟨directory_of_hash fit fit' h hdirectory, fun maker makerChunkBytes hmade => ?_⟩
    rw [digests_of_hashSourceFiles hmade] at hdigests
    refine files_of_digests (List.map_injective_iff.mpr hex_digest_injective ?_)
    rw [List.map_map, List.map_map]
    exact hdigests

/-! ### Two models of one slab -/

theorem slab_inside : 0 + 8 ≤ 96 := by decide

/-- A file that holds its name, and a slab of that name. -/
def oneSlab (name : String) : GgufSet where
  files := [⟨name, .little, .ok (configOf 2), [], asBytes name⟩]
  tensors := [slabLocation name 0 slab_inside]
  distinct := List.nodup_singleton _

theorem oneSlab_fits (name : String) : DimensionsFit (oneSlab name) := by
  simp [DimensionsFit, oneSlab, slabLocation, slabAt, slabTensor]

/-- A manifest under a digest that is the same for all bytes. -/
def oneSlabManifest : SidecarManifest :=
  { tinyManifest with sourceFiles := [⟨0, "a", 1, zeroHash⟩] }

def quietHost : SourceHost where
  opening := fun _ => none
  fault := fun _ _ _ => none
  readGranted := fun _ _ => true
  reserved := fun _ => true
  system := ⟨fun path => .ok path, fun _ => .ok true⟩
  path := fun text => ⟨"", some text⟩
  lossy := fun path => path.fileName.getD ""
  cancelled := fun _ _ => false

/-- Two names make two streams, and a manifest of the one that the other satisfies shows a
collision. -/
theorem binding_hashes_unambiguous_slab :
    (∀ stream, tensorDirectoryStream (oneSlab "a") = .ok stream →
      tensorDirectoryStream (oneSlab "b") ≠ .ok stream) ∧
      (∀ stream, modelFingerprintStream zeroSha (oneSlab "a") [zeroHash] = .ok stream →
        modelFingerprintStream zeroSha (oneSlab "b") [] ≠ .ok stream) ∧
      StreamsCollide zeroSha (tensorDirectoryStream (oneSlab "a"))
        (tensorDirectoryStream (oneSlab "b")) ∧
      FilesCollide zeroSha (oneSlab "a") (oneSlab "b") := by
  obtain ⟨hstreams, hfingerprints, hsidecars⟩ :=
    binding_hashes_unambiguous zeroSha (oneSlab_fits "a") (oneSlab_fits "b")
  have hdiffer : directory (oneSlab "a") ≠ directory (oneSlab "b") := by decide
  obtain ⟨hdirectories, hfiles⟩ := hsidecars quietHost oneSlabManifest 1 rfl rfl
  refine ⟨fun stream h h' => hdiffer (hstreams stream h h'), ?_,
    hdirectories.resolve_left hdiffer,
    (hfiles quietHost 1 rfl).resolve_left (by decide)⟩
  · intro stream h h'
    have hzero : ∀ hash ∈ [zeroHash], IsSha256 hash := by
      intro hash hhash
      rw [List.mem_singleton.mp hhash]
      exact ⟨by decide, by decide⟩
    have hsources :=
      ((hfingerprints [zeroHash] [] hzero (fun _ h => absurd h List.not_mem_nil)).1 stream h h').2
    cases hsources

end LightBridge.Prepare
