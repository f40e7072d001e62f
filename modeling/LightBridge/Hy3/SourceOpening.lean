import LightBridge.Prepare.Lossless

/-! `ExpertSource::open`: the runtime takes a sidecar for the experts of its shards, and what it
has then checked. -/
namespace LightBridge.Hy3
open Foundation Io Format Prepare

inductive ExpertSourceOptions where
  | direct
  | sidecar (dataPath manifestPath : Path) (verifyDataHash verifySourceBindings : Bool)

/-- The errors of `Hy3ScalarError` that the opening of a source has. -/
inductive SourceError where
  | prepare (error : SidecarFailure)
  | opening (error : OpenError)
  | sidecarDirectoryHash (expected actual : String)
  | verifying (error : SidecarHashError)

/-- What the host answers while a source is opened. -/
structure SourceOpening extends SourceHost where
  sha256 : Sha256
  json : ManifestJson
  reader : OpenHost

/-- A token that nobody cancels. -/
def SourceOpening.uncancelled (host : SourceOpening) : SourceHost :=
  { host.toSourceHost with cancelled := fun _ _ => false }

/-- `ExpertSource::open`, with the files that there are. -/
def ExpertSource.open (host : SourceOpening) (files : Path → Option (List UInt8)) (set : GgufSet)
    (model : ValidatedModel) : ExpertSourceOptions → Except SourceError ExpertSource
  | .direct => do
      let store ← wrap .prepare (DirectExpertStore.new host.toStoreHost set model)
      pure (.direct store)
  | .sidecar dataPath manifestPath verifyDataHash verifyBindings => do
      let sidecar ← wrap .opening
        (Sidecar.open host.reader files host.json dataPath manifestPath)
      let actualDirectory ← wrap .prepare (tensorDirectorySha256 host.sha256 set)
      ensure (sidecar.manifest.tensorDirectorySha256 = actualDirectory)
        (.sidecarDirectoryHash sidecar.manifest.tensorDirectorySha256 actualDirectory)
      if verifyBindings then
        wrap .prepare (verifySourceBindings host.sha256 host.uncancelled set sidecar.manifest
          integrityChunkBytes)
      if verifyDataHash then wrap .verifying (verifySidecar host.sha256 sidecar)
      pure (.sidecar sidecar)

/-! ### What a sidecar is checked for -/

/-- A sidecar passes the checks that are asked for. -/
structure Bound (host : SourceOpening) (set : GgufSet) (sidecar : Sidecar)
    (verifyDataHash verifyBindings : Bool) : Prop where
  directory : tensorDirectorySha256 host.sha256 set = .ok sidecar.manifest.tensorDirectorySha256
  bindings : verifyBindings = true → verifySourceBindings host.sha256 host.uncancelled set
    sidecar.manifest integrityChunkBytes = .ok ()
  data : verifyDataHash = true → verifySidecar host.sha256 sidecar = .ok ()

variable {host : SourceOpening} {files : Path → Option (List UInt8)} {set : GgufSet}
  {model : ValidatedModel} {dataPath manifestPath : Path}

theorem ExpertSource.open_sidecar_eq_ok {verifyDataHash verifyBindings : Bool}
    {source : ExpertSource} :
    ExpertSource.open host files set model
      (.sidecar dataPath manifestPath verifyDataHash verifyBindings) = .ok source ↔
      ∃ sidecar, Sidecar.open host.reader files host.json dataPath manifestPath = .ok sidecar ∧
        Bound host set sidecar verifyDataHash verifyBindings ∧ source = .sidecar sidecar := by
  rw [ExpertSource.open, except_bind_ok_iff]
  simp only [wrap_eq_ok]
  refine exists_congr fun sidecar => and_congr_right fun _ => ?_
  constructor
  · intro h
    obtain ⟨directory, hdirectory, h⟩ := except_bind_ok_iff.mp h
    obtain ⟨_, hsame, h⟩ := except_bind_ok_iff.mp h
    have hdirectory := wrap_eq_ok.mp hdirectory
    rw [← ensure_eq_ok.mp hsame] at hdirectory
    cases verifyBindings <;> cases verifyDataHash <;>
      simp only [Bool.false_eq_true, if_false, if_true, except_bind_ok_iff, wrap_eq_ok] at h
    · exact ⟨⟨hdirectory, nofun, nofun⟩, (Except.ok.inj h).symm⟩
    · obtain ⟨_, hdata, h⟩ := h
      exact ⟨⟨hdirectory, nofun, fun _ => hdata⟩, (Except.ok.inj h).symm⟩
    · obtain ⟨_, hbindings, h⟩ := h
      exact ⟨⟨hdirectory, fun _ => hbindings, nofun⟩, (Except.ok.inj h).symm⟩
    · obtain ⟨_, hbindings, _, hdata, h⟩ := h
      exact ⟨⟨hdirectory, fun _ => hbindings, fun _ => hdata⟩, (Except.ok.inj h).symm⟩
  · rintro ⟨⟨hdirectory, hbindings, hdata⟩, rfl⟩
    rw [hdirectory]
    cases verifyBindings <;> cases verifyDataHash <;>
      simp_all [wrap, ensure, pure, Except.pure]

/-! ### Hashing without faults -/

/-- The chunks of a file that can be read are its bytes. -/
theorem hashChunks_quiet {ε : Type} (check : Nat → Except ε Unit) (read : ReadError → ε)
    (overflow : ε) (reader : PositionedFile) {chunkSize fuel offset : Nat} {hasher : List UInt8}
    (fits : reader.content.length ≤ usizeMax) (positive : 0 < chunkSize)
    (small : chunkSize ≤ reader.maxRequestBytes) (checked : ∀ offset, check offset = .ok ())
    (fault : ∀ offset length, reader.fault offset length = none)
    (inside : offset ≤ reader.content.length)
    (enough : reader.content.length ≤ offset + fuel) :
    hashChunks check read overflow reader chunkSize fuel offset hasher =
      .ok (hasher ++ reader.content.drop offset) := by
  induction fuel generalizing offset hasher with
  | zero =>
      rw [hashChunks, List.drop_eq_nil_of_le (by omega), List.append_nil]
  | succ fuel ih =>
      rw [hashChunks]
      split
      · have hleft := Nat.min_le_left (reader.content.length - offset) chunkSize
        have hright := Nat.min_le_right (reader.content.length - offset) chunkSize
        have hsome : 0 < min (reader.content.length - offset) chunkSize := by omega
        generalize min (reader.content.length - offset) chunkSize = length at hleft hright hsome ⊢
        have hstop : checkedAdd offset length = some (offset + length) :=
          checkedAdd_eq_some.mpr ⟨by omega, rfl⟩
        have hrange : reader.validateRange offset (offset + length) = .ok length := by
          simp only [PositionedFile.validateRange, Nat.add_sub_cancel_left]
          rw [(ensure_eq_ok (u := ())).mpr (Nat.le_add_right _ _), except_ok_bind,
            (ensure_eq_ok (u := ())).mpr (by omega), except_ok_bind,
            (ensure_eq_ok (u := ())).mpr (by omega), except_ok_bind,
            (ensure_eq_ok (u := ())).mpr (by omega), except_ok_bind]
          rfl
        have hread : reader.readExactAtInto offset length =
            .ok (slice reader.content offset length) := by
          rw [PositionedFile.readExactAtInto, hstop, okOr, except_ok_bind, hrange, except_ok_bind,
            fault]
        rw [checked, except_ok_bind, hread, wrap, except_ok_bind, hstop, okOr, except_ok_bind,
          ih (by omega) (by omega), List.append_assoc, slice, ← List.drop_drop,
          List.take_append_drop]
      · rw [List.drop_eq_nil_of_le (by omega), List.append_nil]

/-- Only a file of a length that fits is hashed. -/
theorem hashChunks_fits {ε : Type} {check : Nat → Except ε Unit} {read : ReadError → ε}
    {overflow : ε} {reader : PositionedFile} {chunkSize fuel offset : Nat}
    {hasher hashed : List UInt8} (positive : 0 < chunkSize) (inside : offset ≤ usizeMax)
    (enough : reader.content.length ≤ offset + fuel)
    (h : hashChunks check read overflow reader chunkSize fuel offset hasher = .ok hashed) :
    reader.content.length ≤ usizeMax := by
  induction fuel generalizing offset hasher with
  | zero => omega
  | succ fuel ih =>
      rw [hashChunks] at h
      split at h
      · obtain ⟨_, -, h⟩ := except_bind_ok_iff.mp h
        obtain ⟨_, -, h⟩ := except_bind_ok_iff.mp h
        obtain ⟨next, hnext, h⟩ := except_bind_ok_iff.mp h
        obtain ⟨hfits, rfl⟩ := checkedAdd_eq_some.mp (okOr_eq_ok.mp hnext)
        exact ih hfits (by omega) h
      · omega

/-- Nothing stops the host from reading the shards, or the files of the sidecar. -/
structure SourceOpening.Calm (host : SourceOpening) (set : GgufSet) (dataPath manifestPath : Path) :
    Prop where
  sidecar : host.reader.Quiet dataPath manifestPath
  shards : host.toStoreHost.Quiet
  opening : ∀ shard, host.opening shard = none
  reserved : ∀ size, host.reserved size = true
  located : ∀ shard ∈ set.files, ∃ path,
    host.system.canonicalize (host.path shard.path) = .ok path

/-- Two identities of one file, perhaps at two paths. -/
structure SourceFileIdentity.SameFile (source found : SourceFileIdentity) : Prop where
  ordinal : source.ordinal = found.ordinal
  length : source.length = found.length
  sha256 : source.sha256 = found.sha256

/-- What one host has hashed, a calm one hashes alike, at a path of its own. -/
theorem SourceOpening.Calm.hashSourceFile_eq (calm : host.Calm set dataPath manifestPath)
    {sha : Sha256} {first : SourceHost} {chunkSize : Nat} {shard : GgufShard × Nat}
    {identity : SourceFileIdentity} (positive : 0 < chunkSize) (mem : shard.1 ∈ set.files)
    (h : hashSourceFile sha first chunkSize shard = .ok identity) :
    ∃ path, hashSourceFile sha host.uncancelled integrityChunkBytes shard =
      .ok { identity with path } := by
  obtain ⟨hordinal, hlength, hsha⟩ := hashSourceFile_eq_ok positive h
  obtain ⟨path, hpath⟩ := calm.located shard.1 mem
  obtain ⟨_, -, h⟩ := except_bind_ok_iff.mp h
  obtain ⟨reader, hreader, h⟩ := except_bind_ok_iff.mp h
  obtain ⟨_, -, h⟩ := except_bind_ok_iff.mp h
  obtain ⟨hasher, hhasher, h⟩ := except_bind_ok_iff.mp h
  obtain ⟨_, hsmall, -⟩ := except_bind_ok_iff.mp h
  have hfits := hashChunks_fits positive (Nat.zero_le _) (Nat.le_add_left _ _) hhasher
  rw [DirectExpertStore.openReader] at hreader
  split at hreader
  · cases hreader
  · cases hreader
    refine ⟨host.uncancelled.lossy path, ?_⟩
    have hquiet : host.uncancelled.opening shard.2 = none := calm.opening _
    have hopened : DirectExpertStore.openReader host.uncancelled.toStoreHost integrityChunkBytes
        shard = .ok ⟨shard.1.content, integrityChunkBytes, host.fault shard.2,
          host.readGranted shard.2⟩ := by
      rw [DirectExpertStore.openReader, hquiet]
      rfl
    have hcanonical : host.uncancelled.system.canonicalize (host.uncancelled.path shard.1.path) =
        .ok path := hpath
    have hreserved : host.uncancelled.reserved integrityChunkBytes = true := calm.reserved _
    have hchunk : 0 < integrityChunkBytes := by decide
    rw [hashSourceFile, hcanonical, wrap, except_ok_bind, hopened, except_ok_bind,
      (ensure_eq_ok (u := ())).mpr hreserved, except_ok_bind,
      hashChunks_quiet
        (fun offset => ensure (host.uncancelled.cancelled shard.2 offset = false) .cancelled)
        SidecarFailure.read .arithmeticOverflow
        ⟨shard.1.content, integrityChunkBytes, host.fault shard.2, host.readGranted shard.2⟩
        hfits hchunk (Nat.le_refl _) (fun _ => rfl) (calm.shards.fault _) (Nat.zero_le _)
        (Nat.le_add_left _ _), except_ok_bind, hsmall, except_ok_bind]
    simp only [pure, Except.pure, List.nil_append, List.drop_zero, hordinal, hlength, hsha]

theorem SourceOpening.Calm.verifySourceBindings_eq (calm : host.Calm set dataPath manifestPath)
    {sha : Sha256} {first : SourceHost} {chunkSize : Nat} {manifest : SidecarManifest}
    (directory : tensorDirectorySha256 sha set = .ok manifest.tensorDirectorySha256)
    (sources : hashSourceFiles sha first set chunkSize = .ok manifest.sourceFiles) :
    verifySourceBindings sha host.uncancelled set manifest integrityChunkBytes = .ok () := by
  obtain ⟨_, hchunk, h⟩ := except_bind_ok_iff.mp sources
  obtain ⟨_, -, h⟩ := except_bind_ok_iff.mp h
  have hpositive : 0 < chunkSize := by
    have hrange := ensure_eq_ok.mp hchunk
    omega
  have hagain : ∃ actual, set.files.zipIdx.mapM
      (hashSourceFile sha host.uncancelled integrityChunkBytes) = .ok actual ∧
      List.Forall₂ SourceFileIdentity.SameFile manifest.sourceFiles actual := by
    refine except_mapM_related h fun shard hshard identity hidentity => ?_
    obtain ⟨path, hpath⟩ := calm.hashSourceFile_eq hpositive
      (List.fst_mem_of_mem_zipIdx hshard) hidentity
    exact ⟨_, hpath, rfl, rfl, rfl⟩
  obtain ⟨actual, hactual, hsame⟩ := hagain
  have hhashed : hashSourceFiles sha host.uncancelled set integrityChunkBytes = .ok actual := by
    have hreserved : host.uncancelled.reserved set.files.length = true := calm.reserved _
    rw [hashSourceFiles, validateHashChunk, (ensure_eq_ok (u := ())).mpr (by decide),
      except_ok_bind, (ensure_eq_ok (u := ())).mpr hreserved, except_ok_bind, hactual]
  rw [verifySourceBindings, validateHashChunk, (ensure_eq_ok (u := ())).mpr (by decide),
    except_ok_bind, directory, except_ok_bind, (ensure_eq_ok (u := ())).mpr rfl, except_ok_bind,
    hhashed, except_ok_bind, (ensure_eq_ok (u := ())).mpr hsame.length_eq.symm, except_ok_bind,
    checkAll_eq_ok]
  intro pair hpair
  obtain ⟨hordinal, hlength, hsha⟩ := List.forall₂_zip hsame hpair
  exact (ensure_eq_ok (u := ())).mpr (by simp [hordinal, hlength, hsha])

/-! ### A sidecar that was prepared -/

theorem DirectExpertIndex.build_granted {reserved granted : Nat → Bool} {index : DirectExpertIndex}
    (h : DirectExpertIndex.build reserved model = .ok index)
    (hgranted : ∀ size, granted size = true) :
    DirectExpertIndex.build granted model = .ok index := by
  obtain ⟨layers, hlayers, h⟩ := except_bind_ok_iff.mp h
  obtain ⟨capacity, hcapacity, h⟩ := except_bind_ok_iff.mp h
  obtain ⟨_, -, h⟩ := except_bind_ok_iff.mp h
  rw [DirectExpertIndex.build, hlayers, except_ok_bind, hcapacity, except_ok_bind,
    (ensure_eq_ok (u := ())).mpr (hgranted _), except_ok_bind, h]

/-- A store that was opened once, a calm host opens. -/
theorem SourceOpening.Calm.new_ok (calm : host.Calm set dataPath manifestPath) {first : StoreHost}
    {store : DirectExpertStore} (h : DirectExpertStore.new first set model = .ok store) :
    ∃ direct, DirectExpertStore.new host.toStoreHost set model = .ok direct := by
  obtain ⟨index, hindex, h⟩ := except_bind_ok_iff.mp h
  obtain ⟨maximum, hmaximum, -⟩ := except_bind_ok_iff.mp h
  have hopened : ∀ shard ∈ set.files.zipIdx,
      DirectExpertStore.openReader host.toStoreHost (max maximum 1) shard =
        .ok ⟨shard.1.content, max maximum 1, host.fault shard.2, host.readGranted shard.2⟩ := by
    intro shard _
    rw [DirectExpertStore.openReader, calm.opening]
  obtain ⟨readers, hreaders⟩ : ∃ readers, set.files.zipIdx.mapM
      (DirectExpertStore.openReader host.toStoreHost (max maximum 1)) = .ok readers :=
    ⟨_, except_mapM_of_ok hopened⟩
  refine ⟨⟨readers, index⟩, ?_⟩
  rw [DirectExpertStore.new, DirectExpertIndex.build_granted hindex calm.reserved, except_ok_bind,
    hmaximum, except_ok_bind, (ensure_eq_ok (u := ())).mpr (calm.reserved _), except_ok_bind,
    hreaders]
  rfl

/-- What `prepare_sidecar` has made of the shards is taken for their experts, whichever checks are
asked for. -/
theorem ExpertSource.open_prepared {system : PrepareSystem} {options : PrepareOptions} {nonce : Nat}
    (hnonce : system.nonce = some nonce) (names : Names dataPath manifestPath nonce)
    {before after : Files (List UInt8)}
    (fresh : before.files names.backupData = none ∧ before.files names.backupManifest = none)
    {report : PrepareReport}
    (h : prepareSidecar system set model dataPath manifestPath options before =
      (.ok report, after))
    (json : system.json.RoundTrips) (size : report.sidecarBytes ≤ isizeMax)
    (calm : host.Calm set dataPath manifestPath) (sameJson : host.json = system.json)
    (sameSha : host.sha256 = system.sha256) :
    ∃ direct sidecar, ExpertSource.open host after.files set model .direct = .ok (.direct direct) ∧
      (∀ verifyDataHash verifyBindings, ExpertSource.open host after.files set model
        (.sidecar dataPath manifestPath verifyDataHash verifyBindings) = .ok (.sidecar sidecar)) ∧
      Copies direct (expertKeys model.config.blockCount model.config.expertCount) sidecar := by
  obtain ⟨plan, -, hplan, -⟩ := (prepareSidecar_ends hnonce fresh).of_ok h
  obtain ⟨direct, hdirect⟩ := calm.new_ok (planSidecar_eq_ok hplan).1
  obtain ⟨sidecar, hopen, reopened⟩ :=
    prepareSidecar_copies hnonce names fresh h json size calm.sidecar calm.shards hdirect
  refine ⟨direct, sidecar, ?_, fun verifyDataHash verifyBindings => ?_, reopened.copies⟩
  · rw [ExpertSource.open, hdirect]
    rfl
  · refine ExpertSource.open_sidecar_eq_ok.mpr ⟨sidecar, ?_, ⟨?_, fun _ => ?_, fun _ => ?_⟩, rfl⟩
    · rw [sameJson]
      exact hopen
    · rw [sameSha]
      exact reopened.directory
    · rw [sameSha]
      exact calm.verifySourceBindings_eq reopened.directory reopened.sources
    · rw [sameSha]
      exact (verifySidecar_eq_ok reopened.readable reopened.positive).mpr reopened.digest

/-! ### A sidecar that is taken -/

/-- What has been hashed is the data, up to its end. -/
theorem hashSidecar_eq_ok {data : PositionedFile} {chunkSize fuel offset : Nat}
    {hasher hashed : List UInt8} (positive : 0 < chunkSize)
    (enough : data.content.length ≤ offset + fuel)
    (h : hashSidecar data chunkSize fuel offset hasher = .ok hashed) :
    hashed = hasher ++ data.content.drop offset := by
  induction fuel generalizing offset hasher with
  | zero =>
      cases h
      rw [List.drop_eq_nil_of_le (by omega), List.append_nil]
  | succ fuel ih =>
      rw [hashSidecar] at h
      split at h
      · obtain ⟨stop, hstop, h⟩ := except_bind_ok_iff.mp h
        obtain ⟨bytes, hbytes, h⟩ := except_bind_ok_iff.mp h
        obtain ⟨-, rfl⟩ := checkedAdd_eq_some.mp (okOr_eq_ok.mp hstop)
        have hslice := PositionedFile.readExactAt_eq_ok (wrap_eq_ok.mp hbytes)
        rw [Nat.add_sub_cancel_left] at hslice
        rw [ih (by omega) h, hslice, slice, List.append_assoc, ← List.drop_drop,
          List.take_append_drop]
      · cases h
        rw [List.drop_eq_nil_of_le (by omega), List.append_nil]

theorem Sidecar.open_positive {reader : OpenHost} {json : ManifestJson} {sidecar : Sidecar}
    (h : Sidecar.open reader files json dataPath manifestPath = .ok sidecar) :
    0 < sidecar.data.maxRequestBytes := by
  obtain ⟨bytes, -, h⟩ := except_bind_ok_iff.mp h
  obtain ⟨manifest, -, h⟩ := except_bind_ok_iff.mp h
  split at h
  · cases h
  · obtain ⟨_, -, h⟩ := except_bind_ok_iff.mp h
    obtain ⟨data, hdata, h⟩ := except_bind_ok_iff.mp h
    obtain ⟨_, hlimit, hdata⟩ := except_bind_ok_iff.mp (wrap_eq_ok.mp hdata)
    obtain ⟨_, -, hdata⟩ := except_bind_ok_iff.mp hdata
    obtain ⟨_, -, hdata⟩ := except_bind_ok_iff.mp hdata
    cases hdata
    split at h
    · obtain ⟨_, -, h⟩ := except_bind_ok_iff.mp h
      obtain ⟨_, -, h⟩ := except_bind_ok_iff.mp h
      obtain ⟨_, -, h⟩ := except_bind_ok_iff.mp h
      cases h
      exact Nat.pos_of_ne_zero (ensure_eq_ok.mp hlimit)
    · cases h

/-- Data that `verify_data_hash` accepts has the declared digest. -/
theorem digest_of_verifySidecar {sha : Sha256} {sidecar : Sidecar}
    (positive : 0 < sidecar.data.maxRequestBytes) (h : verifySidecar sha sidecar = .ok ()) :
    sidecar.manifest.sidecar.sha256 = hex (sha sidecar.data.content).val := by
  obtain ⟨hasher, hhasher, h⟩ := except_bind_ok_iff.mp h
  have hhashed := hashSidecar_eq_ok (by omega) (by omega) hhasher
  rw [List.nil_append, List.drop_zero] at hhashed
  rw [← ensure_eq_ok.mp h, hhashed]

/-- A sidecar that is taken with both checks, under the manifest that `prepare_sidecar` has
written, has the digests of what was prepared: of the directory, of every shard and of the data.
-/
theorem ExpertSource.open_checked {system : PrepareSystem} {options : PrepareOptions} {nonce : Nat}
    (hnonce : system.nonce = some nonce) (names : Names dataPath manifestPath nonce)
    {before after : Files (List UInt8)}
    (fresh : before.files names.backupData = none ∧ before.files names.backupManifest = none)
    {report : PrepareReport}
    (h : prepareSidecar system set model dataPath manifestPath options before =
      (.ok report, after))
    (json : system.json.RoundTrips) (fit : DimensionsFit set) {set' : GgufSet}
    (fit' : DimensionsFit set') {model' : ValidatedModel} (sameJson : host.json = system.json)
    (sameSha : host.sha256 = system.sha256)
    (written : files manifestPath = after.files manifestPath)
    {source : ExpertSource}
    (taken : ExpertSource.open host files set' model' (.sidecar dataPath manifestPath true true) =
      .ok source) :
    (directory set = directory set' ∨ StreamsCollide system.sha256 (tensorDirectoryStream set)
      (tensorDirectoryStream set')) ∧
      (set'.files.map fun shard => system.sha256 shard.content) =
        (set.files.map fun shard => system.sha256 shard.content) ∧
      ∃ data data', after.files dataPath = some data ∧ files dataPath = some data' ∧
        data'.length = data.length ∧ system.sha256 data' = system.sha256 data := by
  obtain ⟨plan, prepared, hplan, place, rfl⟩ := (prepareSidecar_ends hnonce fresh).of_ok h
  obtain ⟨-, hsources, hdirectory, -⟩ := planSidecar_eq_ok hplan
  obtain ⟨hsameDirectory, hsameSources⟩ := fillSidecar_manifest place.filled
  have hfilled := fillSidecar_eq_ok place.filled
  obtain ⟨sidecar, hopen, bound, rfl⟩ := ExpertSource.open_sidecar_eq_ok.mp taken
  have hadmitted := Sidecar.open_eq_ok hopen
  have hmanifest : sidecar.manifest = prepared.manifest := by
    obtain ⟨bytes, hbytes, -, hread⟩ := hadmitted.manifestFile
    obtain ⟨bytes', hbytes', -, hfile⟩ := place.manifest
    rw [written, hfile] at hbytes
    cases hbytes
    rw [sameJson, json _ _ hbytes'] at hread
    exact (Except.ok.inj hread).symm
  refine ⟨?_, ?_, prepared.output, sidecar.data.content, place.data, hadmitted.dataFile, ?_, ?_⟩
  · refine directory_of_hash fit fit' hdirectory ?_
    rw [← hsameDirectory, ← hmanifest, ← sameSha]
    exact bound.directory
  · obtain ⟨-, hfound⟩ := verifySourceBindings_eq_ok (bound.bindings rfl)
    have hnamed := digests_of_hashSourceFiles hsources
    rw [hmanifest, hsameSources, sameSha] at hfound
    refine List.map_injective_iff.mpr hex_digest_injective ?_
    rw [List.map_map, List.map_map]
    exact hfound.symm.trans hnamed
  · rw [hadmitted.length, hmanifest, hfilled.length]
  · have hfound := digest_of_verifySidecar (Sidecar.open_positive hopen) (bound.data rfl)
    rw [hmanifest, sameSha] at hfound
    exact hex_digest_injective (hfound.symm.trans hfilled.digest)

/-! ### Two experts, taken again -/

def openingOf (manifest : SidecarManifest) : SourceOpening where
  toSourceHost := quietHost
  sha256 := zeroSha
  json := jsonOf manifest
  reader := quietOpenHost

theorem openingOf_calm (manifest : SidecarManifest) (set : GgufSet) (dataPath manifestPath : Path) :
    (openingOf manifest).Calm set dataPath manifestPath where
  sidecar := quietOpenHost_quiet _ _
  shards := ⟨fun _ _ _ => rfl, fun _ _ => rfl⟩
  opening _ := rfl
  reserved _ := rfl
  located _ _ := ⟨_, rfl⟩

theorem twoExperts_fit : DimensionsFit twoExpertsSet := by
  unfold DimensionsFit
  decide +kernel

/-- The sidecar of two experts is taken with both checks, and its data is what was put there. -/
theorem ExpertSource.open_checked_two : ∃ model report after source data,
    validatedTwo = .ok model ∧ prepareTwo (fusedTo 32) model emptyDisk = (.ok report, after) ∧
    ExpertSource.open (openingOf manifestTwo) after.files twoExpertsSet model
      (.sidecar ⟨"", some "experts.bin"⟩ ⟨"", some "experts.json"⟩ true true) = .ok source ∧
    after.files ⟨"", some "experts.bin"⟩ = some data := by
  obtain ⟨model, report, after, -, hmodel, hprepared, hsize, -⟩ := prepareTwo_answers
  obtain ⟨direct, sidecar, -, hopen, -⟩ := ExpertSource.open_prepared rfl namesTwo ⟨rfl, rfl⟩
    hprepared (jsonOf_roundTrips manifestTwo) (by rw [hsize]; decide)
    (openingOf_calm _ _ _ _) rfl rfl
  obtain ⟨-, -, data, _, hdata, -⟩ := ExpertSource.open_checked rfl namesTwo ⟨rfl, rfl⟩ hprepared
    (jsonOf_roundTrips manifestTwo) twoExperts_fit twoExperts_fit rfl rfl rfl
    (hopen true true)
  exact ⟨model, report, after, _, data, hmodel, hprepared, hopen true true, hdata⟩

end LightBridge.Hy3
