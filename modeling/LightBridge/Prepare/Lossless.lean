import LightBridge.Hy3.ExpertSource
import LightBridge.Prepare.Preparing

/-! A sidecar that is prepared has the experts of its model as the shards have them. -/
namespace LightBridge.Prepare
open Foundation Io Hy3 Format

/-! ### The digest of the data -/

/-- Nothing but its range stops a read of the file. -/
structure Readable (file : PositionedFile) : Prop where
  size : file.content.length ≤ isizeMax
  fault : ∀ offset length, file.fault offset length = none
  granted : ∀ length, file.granted length = true

theorem Readable.readExactAt_eq {file : PositionedFile} (h : Readable file) {start length : Nat}
    (inside : start + length ≤ file.content.length) (small : length ≤ file.maxRequestBytes) :
    file.readExactAt start (start + length) = .ok (slice file.content start length) := by
  have hsize := h.size
  have hread := readExactAt_ok file (Nat.le_add_right start length) inside
    (by rwa [Nat.add_sub_cancel_left]) (by omega) h.fault h.granted
  rwa [Nat.add_sub_cancel_left] at hread

/-- What is read of a file is read of one of the same content where nothing stops the read. -/
theorem readExactAt_same {file other : PositionedFile} {start stop : Nat} {bytes : List UInt8}
    (h : file.readExactAt start stop = .ok bytes) (content : other.content = file.content)
    (limit : other.maxRequestBytes = file.maxRequestBytes)
    (fault : ∀ offset length, other.fault offset length = none)
    (granted : ∀ length, other.granted length = true) :
    other.readExactAt start stop = .ok bytes := by
  have hbytes := PositionedFile.readExactAt_eq_ok h
  obtain ⟨length, hrange, h⟩ := except_bind_ok_iff.mp h
  obtain ⟨_, hgranted, -⟩ := except_bind_ok_iff.mp h
  have hfits := (tryReserve_eq_true.mp (ensure_eq_ok.mp hgranted)).2
  have hreserved : tryReserve (other.granted length) 1 length = true :=
    tryReserve_eq_true.mpr ⟨granted length, hfits⟩
  have hrange' : other.validateRange start stop = .ok length := by
    rwa [PositionedFile.validateRange, content, limit]
  rw [PositionedFile.readExactAt, hrange', except_ok_bind,
    (ensure_eq_ok (u := ())).mpr hreserved, except_ok_bind, fault, content, hbytes,
    (PositionedFile.validateRange_eq_ok hrange).2.2]

section Digest
variable {file : PositionedFile}

/-- The chunks are the data, one after the other. -/
theorem hashSidecar_eq (readable : Readable file) {chunkSize : Nat} (positive : 0 < chunkSize)
    (small : chunkSize ≤ file.maxRequestBytes) {fuel offset : Nat}
    (inside : offset ≤ file.content.length) (enough : file.content.length ≤ offset + fuel) :
    hashSidecar file chunkSize fuel offset (file.content.take offset) = .ok file.content := by
  induction fuel generalizing offset with
  | zero =>
      rw [hashSidecar, List.take_of_length_le (by omega)]
  | succ fuel ih =>
      rw [hashSidecar]
      split
      · have hsize := readable.size
        have hword : isizeMax ≤ usizeMax := by decide
        have hleft := Nat.min_le_left (file.content.length - offset) chunkSize
        have hright := Nat.min_le_right (file.content.length - offset) chunkSize
        have hsome : 0 < min (file.content.length - offset) chunkSize := by omega
        generalize min (file.content.length - offset) chunkSize = length at hleft hright hsome ⊢
        have hstop : checkedAdd offset length = some (offset + length) :=
          checkedAdd_eq_some.mpr ⟨by omega, rfl⟩
        rw [okOr_eq_ok.mpr hstop, except_ok_bind,
          readable.readExactAt_eq (by omega) (hright.trans small), wrap, except_ok_bind,
          slice, ← List.take_add]
        exact ih (by omega) (by omega)
      · rw [List.take_of_length_le (by omega)]

/-- `verify_data_hash` accepts the data of the declared digest. -/
theorem verifySidecar_eq_ok {sha : Sha256} {sidecar : Sidecar} (readable : Readable sidecar.data)
    (positive : 0 < sidecar.data.maxRequestBytes) :
    verifySidecar sha sidecar = .ok () ↔
      sidecar.manifest.sidecar.sha256 = hex (sha sidecar.data.content).val := by
  have hhash : hashSidecar sidecar.data (min sidecar.data.maxRequestBytes (8 * 1024 * 1024))
      sidecar.data.content.length 0 [] = .ok sidecar.data.content :=
    hashSidecar_eq readable (by omega) (Nat.min_le_left _ _) (Nat.zero_le _) (by omega)
  rw [verifySidecar, hhash, except_ok_bind, ensure_eq_ok]
  exact eq_comm

end Digest

/-! ### Two stores over the same shards -/

/-- Nothing stops the host from reading the shards. -/
structure StoreHost.Quiet (host : StoreHost) : Prop where
  fault : ∀ shard offset length, host.fault shard offset length = none
  granted : ∀ shard length, host.readGranted shard length = true

namespace DirectExpertStore
variable {set : GgufSet} {model : ValidatedModel}

theorem new_eq_ok {host : StoreHost} {store : DirectExpertStore}
    (h : DirectExpertStore.new host set model = .ok store) :
    DirectExpertIndex.build host.reserved model = .ok store.index ∧
      ∃ maximum, store.index.maximumSegmentBytes = .ok maximum ∧ ∀ i : Nat,
        store.readers[i]? = set.files[i]?.map fun shard =>
          ⟨shard.content, max maximum 1, host.fault i, host.readGranted i⟩ := by
  obtain ⟨index, hindex, h⟩ := except_bind_ok_iff.mp h
  obtain ⟨maximum, hmaximum, h⟩ := except_bind_ok_iff.mp h
  obtain ⟨_, -, h⟩ := except_bind_ok_iff.mp h
  obtain ⟨readers, hreaders, h⟩ := except_bind_ok_iff.mp h
  cases h
  refine ⟨hindex, maximum, hmaximum, fun i => ?_⟩
  have hlength := (except_mapM_ok_iff.mp hreaders).length_eq
  rw [List.length_zipIdx] at hlength
  dsimp only
  by_cases hi : i < set.files.length
  · have hopened := except_mapM_getElem hreaders (by rwa [List.length_zipIdx])
      (hlength ▸ hi : i < readers.length)
    rw [List.getElem_zipIdx, openReader] at hopened
    split at hopened
    · cases hopened
    · rw [List.getElem?_eq_getElem hi, List.getElem?_eq_getElem (hlength ▸ hi), Option.map_some,
        ← Except.ok.inj hopened, Nat.zero_add]
  · rw [List.getElem?_eq_none (Nat.not_lt.mp hi), List.getElem?_eq_none (by omega)]
    rfl

/-- The answers of the allocator change nothing of an index. -/
theorem build_unique {reserved reserved' : Nat → Bool} {index index' : DirectExpertIndex}
    (h : DirectExpertIndex.build reserved model = .ok index)
    (h' : DirectExpertIndex.build reserved' model = .ok index') : index = index' := by
  obtain ⟨_, -, h⟩ := except_bind_ok_iff.mp h
  obtain ⟨_, -, h⟩ := except_bind_ok_iff.mp h
  obtain ⟨_, -, h⟩ := except_bind_ok_iff.mp h
  obtain ⟨layers, hlayers, h⟩ := except_bind_ok_iff.mp h
  obtain ⟨_, -, h'⟩ := except_bind_ok_iff.mp h'
  obtain ⟨_, -, h'⟩ := except_bind_ok_iff.mp h'
  obtain ⟨_, -, h'⟩ := except_bind_ok_iff.mp h'
  obtain ⟨layers', hlayers', h'⟩ := except_bind_ok_iff.mp h'
  cases h
  cases h'
  rw [Except.ok.inj (hlayers.symm.trans hlayers')]

/-- What one store has read, a quiet one over the same shards reads. -/
theorem readSegment_same {host quiet : StoreHost} {store other : DirectExpertStore}
    (h : DirectExpertStore.new host set model = .ok store)
    (h' : DirectExpertStore.new quiet set model = .ok other) (hquiet : quiet.Quiet)
    {segment : SourceSegment} {bytes : List UInt8} (hread : store.readSegment segment = .ok bytes) :
    other.readSegment segment = .ok bytes := by
  obtain ⟨hindex, maximum, hmaximum, hreaders⟩ := new_eq_ok h
  obtain ⟨hindex', maximum', hmaximum', hreaders'⟩ := new_eq_ok h'
  rw [← build_unique hindex hindex', hmaximum] at hmaximum'
  cases hmaximum'
  obtain ⟨reader, hreader, hread⟩ := except_bind_ok_iff.mp hread
  have hreader := okOr_eq_ok.mp hreader
  rw [hreaders, Option.map_eq_some_iff] at hreader
  obtain ⟨shard, hshard, rfl⟩ := hreader
  have hother : other.readers[segment.shardIndex]? = some ⟨shard.content, max maximum 1,
      quiet.fault segment.shardIndex, quiet.readGranted segment.shardIndex⟩ := by
    rw [hreaders', hshard]
    rfl
  rw [readSegment, hother, okOr, except_ok_bind, wrap_eq_ok]
  exact readExactAt_same (wrap_eq_ok.mp hread) rfl rfl (hquiet.fault _) (hquiet.granted _)

end DirectExpertStore

/-! ### What is filled -/

/-- The output of a filled sidecar, and the manifest of it. -/
structure FilledWith (sha : Sha256) (plan : SidecarPlan) (prepared : Prepared) : Prop where
  header : slice prepared.output 0 sidecarHeaderBytes = prepared.manifest.header.encode
  length : prepared.output.length = prepared.manifest.sidecar.length
  digest : prepared.manifest.sidecar.sha256 = hex (sha prepared.output).val
  stored : List.Forall₂ (Stored plan.direct prepared.output) plan.direct.index.records
    prepared.manifest.records

theorem fillSidecar_eq_ok {host : PrepareHost} {options : PrepareOptions} {plan : SidecarPlan}
    {prepared : Prepared} (h : fillSidecar host options plan = .ok prepared) :
    FilledWith host.sha256 plan prepared := by
  obtain ⟨draft, hdraft, h⟩ := except_bind_ok_iff.mp h
  obtain ⟨_, -, h⟩ := except_bind_ok_iff.mp h
  cases h
  obtain ⟨⟨hhasher, hposition⟩, ⟨rest, hrest⟩, hstored⟩ := draftExperts_contains hdraft
  refine ⟨?_, hposition, by rw [hhasher], hstored⟩
  have hlength := SidecarHeader.length_encode
    (.new options.layout options.alignment plan.direct.index.records.length)
  rw [hstored.length_eq] at hlength hrest
  rw [← hrest, slice_append_left (by omega), ← hlength, slice_zero_length]
  rfl

/-! ### What is read -/

/-- An expert that is stored is read from the sidecar as it is from the shards. -/
theorem Stored.readParts_eq {direct : DirectExpertStore} {sidecar : Sidecar}
    {source : DirectExpertRecord} {record : ExpertRecord}
    (stored : Stored direct sidecar.data.content source record) {key : ExpertKey}
    (hsource : direct.index.get key = some source)
    (hrecord : sidecar.manifest.record key = some record) (readable : Readable sidecar.data)
    (small : record.length ≤ sidecar.data.maxRequestBytes) :
    ∃ parts, (ExpertSource.direct direct).readParts key = .ok parts ∧
      (ExpertSource.sidecar sidecar).readParts key = .ok parts := by
  have hvalid := SidecarManifest.validate_eq_ok.mp sidecar.valid
  have hholds := hvalid.holds record (hvalid.record_eq_some_iff.mp hrecord).1
  have hinside : record.offset + record.length ≤ sidecar.data.content.length := by
    rw [sidecar.length]
    exact hholds.inside
  have hlength := length_slice hinside
  have hpart {segment : Segment} (h : segment.Inside record) :
      indexRange (slice sidecar.data.content record.offset record.length)
        (segment.offset - record.offset, segment.offset - record.offset + segment.length) =
        some (slice sidecar.data.content segment.offset segment.length) := by
    have hstart := h.start
    have hstop := h.stop
    rw [h.indexRange_eq hlength, slice_slice _ _ _ _ _ (by omega), Nat.add_sub_cancel' hstart]
  refine ⟨⟨slice sidecar.data.content record.gate.offset record.gate.length,
    slice sidecar.data.content record.up.offset record.up.length,
    slice sidecar.data.content record.down.offset record.down.length⟩, ?_, ?_⟩
  · rw [ExpertSource.readParts, DirectExpertStore.readExpert, hsource]
    simp only [okOr, except_ok_bind, stored.gate.bytes, stored.up.bytes, stored.down.bytes, wrap,
      pure, Except.pure]
  · rw [ExpertSource.readParts, sidecar.readExpert_eq hrecord,
      readable.readExactAt_eq hinside small]
    simp only [wrap, Except.map, except_ok_bind, hpart hholds.tidy.gate, hpart hholds.tidy.up,
      hpart hholds.tidy.down, Option.getD_some, pure, Except.pure]

/-- There are fewer experts than an index can count. -/
theorem length_records_lt {reserved : Nat → Bool} {model : ValidatedModel}
    {index : DirectExpertIndex} (h : DirectExpertIndex.build reserved model = .ok index) :
    index.records.length < 256 ^ 8 := by
  have hkeys := congrArg List.length (DirectExpertIndex.build_eq_ok h).1
  obtain ⟨layers, hlayers, h⟩ := except_bind_ok_iff.mp h
  obtain ⟨capacity, hcapacity, -⟩ := except_bind_ok_iff.mp h
  obtain ⟨-, rfl⟩ := checkedSub_eq_some.mp (okOr_eq_ok.mp hlayers)
  obtain ⟨hfits, -⟩ := checkedMul_eq_some.mp (okOr_eq_ok.mp hcapacity)
  rw [List.length_map] at hkeys
  have hcount : (expertKeys model.config.blockCount model.config.expertCount).length =
      (model.config.blockCount - 1) * model.config.expertCount := by
    simp [expertKeys, List.length_flatMap]
  rw [hkeys, hcount]
  exact Nat.lt_of_le_of_lt hfits (by decide)

section Lossless
variable {system : PrepareSystem} {set : GgufSet} {model : ValidatedModel}
  {dataPath manifestPath : Path} {options : PrepareOptions} {plan : SidecarPlan}
  {prepared : Prepared} {after : Files (List UInt8)}

/-- What is put in place is a sidecar. -/
theorem InPlace.admitted (place : InPlace system options plan prepared dataPath manifestPath after)
    {reserved : Nat → Bool} (indexed : DirectExpertIndex.build reserved model =
      .ok plan.direct.index) (json : system.json.RoundTrips) :
    Admitted after.files system.json dataPath manifestPath prepared.manifest prepared.output := by
  have hfilled := fillSidecar_eq_ok place.filled
  obtain ⟨bytes, hbytes, hsize, hfile⟩ := place.manifest
  exact ⟨⟨bytes, hfile, hsize, json _ _ hbytes⟩, place.valid, place.data, hfilled.length,
    hfilled.stored.length_eq ▸ length_records_lt indexed, hfilled.header⟩

/-- Every expert of the model is found in both, and no other is. -/
theorem FilledWith.finds {sha : Sha256} (filled : FilledWith sha plan prepared)
    (valid : prepared.manifest.Valid) {reserved : Nat → Bool}
    (indexed : DirectExpertIndex.build reserved model = .ok plan.direct.index) (key : ExpertKey) :
    (key ∈ expertKeys model.config.blockCount model.config.expertCount →
      ∃ source record, plan.direct.index.get key = some source ∧
        prepared.manifest.record key = some record ∧
        Stored plan.direct prepared.output source record) ∧
      (key ∉ expertKeys model.config.blockCount model.config.expertCount →
        plan.direct.index.get key = none ∧ prepared.manifest.record key = none) := by
  have hkeys := (DirectExpertIndex.build_eq_ok indexed).1
  rw [← hkeys]
  constructor
  · intro hkey
    obtain ⟨source, hsource, hsame⟩ := List.mem_map.mp hkey
    obtain ⟨place, hplace, rfl⟩ := List.mem_iff_getElem.mp hsource
    have hplace' := filled.stored.length_eq ▸ hplace
    have hstored := filled.stored.get hplace hplace'
    refine ⟨_, _, (DirectExpertIndex.get_eq_some indexed).mpr ⟨hsource, hsame⟩,
      valid.record_eq_some_iff.mpr ⟨List.getElem_mem hplace', ?_⟩, hstored⟩
    exact hstored.key.trans hsame
  · intro hkey
    constructor
    · refine Option.eq_none_iff_forall_ne_some.mpr fun source hsource => hkey ?_
      obtain ⟨hmem, hsame⟩ := (DirectExpertIndex.get_eq_some indexed).mp hsource
      exact List.mem_map.mpr ⟨source, hmem, hsame⟩
    · refine valid.record_eq_none fun record hrecord hsame => hkey ?_
      obtain ⟨place, hplace, rfl⟩ := List.mem_iff_getElem.mp hrecord
      have hplace' := filled.stored.length_eq ▸ hplace
      have hstored := filled.stored.get hplace' hplace
      exact List.mem_map.mpr ⟨_, List.getElem_mem hplace', hstored.key.symm.trans hsame⟩

/-- `Stored` of a store that reads what another has read. -/
theorem Stored.of_reads {direct other : DirectExpertStore} {output : List UInt8}
    {source : DirectExpertRecord} {record : ExpertRecord}
    (h : Stored direct output source record)
    (reads : ∀ segment bytes, direct.readSegment segment = .ok bytes →
      other.readSegment segment = .ok bytes) : Stored other output source record :=
  ⟨h.key, ⟨h.gate.inside, reads _ _ h.gate.bytes, h.gate.type⟩,
    ⟨h.up.inside, reads _ _ h.up.bytes, h.up.type⟩,
    ⟨h.down.inside, reads _ _ h.down.bytes, h.down.type⟩⟩

/-- The sidecar answers for the keys what the shards answer, and for no other key. -/
structure Copies (direct : DirectExpertStore) (keys : List ExpertKey) (sidecar : Sidecar) :
    Prop where
  found : ∀ key ∈ keys, ∃ parts, (ExpertSource.direct direct).readParts key = .ok parts ∧
    (ExpertSource.sidecar sidecar).readParts key = .ok parts
  missing : ∀ key ∉ keys,
    (ExpertSource.direct direct).readParts key = .error (.direct (.missingExpert key)) ∧
      (ExpertSource.sidecar sidecar).readParts key = .error (.sidecar (.missingExpert key))

theorem FilledWith.copies {sha : Sha256} (filled : FilledWith sha plan prepared)
    (valid : prepared.manifest.Valid) {host store : StoreHost}
    (planned : DirectExpertStore.new host set model = .ok plan.direct) (shards : store.Quiet)
    {direct : DirectExpertStore} (hdirect : DirectExpertStore.new store set model = .ok direct)
    {sidecar : Sidecar} (hmanifest : sidecar.manifest = prepared.manifest)
    (hcontent : sidecar.data.content = prepared.output) (readable : Readable sidecar.data)
    (limit : sidecar.data.maxRequestBytes = prepared.manifest.maximumRecord) :
    Copies direct (expertKeys model.config.blockCount model.config.expertCount) sidecar := by
  have hindexed := (DirectExpertStore.new_eq_ok planned).1
  have hindex := DirectExpertStore.build_unique hindexed (DirectExpertStore.new_eq_ok hdirect).1
  obtain ⟨-, -, hrecords⟩ := maximumRecord_bounds valid
  constructor
  · intro key hkey
    obtain ⟨source, record, hsource, hrecord, hstored⟩ := (filled.finds valid hindexed key).1 hkey
    have hmem := (valid.record_eq_some_iff.mp hrecord).1
    rw [hindex] at hsource
    rw [← hmanifest] at hrecord
    rw [← hcontent] at hstored
    refine Stored.readParts_eq (hstored.of_reads fun segment bytes hread => ?_) hsource hrecord
      readable (limit ▸ hrecords record hmem)
    exact DirectExpertStore.readSegment_same planned hdirect shards hread
  · intro key hkey
    obtain ⟨hnone, hnone'⟩ := (filled.finds valid hindexed key).2 hkey
    rw [hindex] at hnone
    rw [← hmanifest] at hnone'
    constructor
    · rw [ExpertSource.readParts, DirectExpertStore.readExpert, hnone]
      rfl
    · simp only [ExpertSource.readParts, Sidecar.readExpert, hnone', okOr, wrap,
        except_error_bind]

theorem fillSidecar_manifest {host : PrepareHost}
    (h : fillSidecar host options plan = .ok prepared) :
    prepared.manifest.tensorDirectorySha256 = plan.directoryHash ∧
      prepared.manifest.sourceFiles = plan.sourceFiles := by
  obtain ⟨_, -, h⟩ := except_bind_ok_iff.mp h
  obtain ⟨_, -, h⟩ := except_bind_ok_iff.mp h
  cases h
  exact ⟨rfl, rfl⟩

/-- A sidecar that was opened is the one that was prepared from the shards. -/
structure Reopened (system : PrepareSystem) (set : GgufSet) (model : ValidatedModel)
    (options : PrepareOptions) (direct : DirectExpertStore) (sidecar : Sidecar) : Prop where
  readable : Readable sidecar.data
  positive : 0 < sidecar.data.maxRequestBytes
  digest : sidecar.manifest.sidecar.sha256 = hex (system.sha256 sidecar.data.content).val
  directory : tensorDirectorySha256 system.sha256 set =
    .ok sidecar.manifest.tensorDirectorySha256
  sources : hashSourceFiles system.sha256 system.toSourceHost set options.hashChunkBytes =
    .ok sidecar.manifest.sourceFiles
  copies : Copies direct (expertKeys model.config.blockCount model.config.expertCount) sidecar

/-- The files of a report are opened, and copy the experts. -/
theorem prepareSidecar_copies {nonce : Nat} (hnonce : system.nonce = some nonce)
    (names : Names dataPath manifestPath nonce) {before : Files (List UInt8)}
    (fresh : before.files names.backupData = none ∧ before.files names.backupManifest = none)
    {report : PrepareReport}
    (h : prepareSidecar system set model dataPath manifestPath options before =
      (.ok report, after))
    (json : system.json.RoundTrips) (size : report.sidecarBytes ≤ isizeMax)
    {reader : OpenHost} (quiet : reader.Quiet dataPath manifestPath) {store : StoreHost}
    (shards : store.Quiet) {direct : DirectExpertStore}
    (hdirect : DirectExpertStore.new store set model = .ok direct) :
    ∃ sidecar, Sidecar.open reader after.files system.json dataPath manifestPath = .ok sidecar ∧
      Reopened system set model options direct sidecar := by
  obtain ⟨plan, prepared, hplan, place, rfl⟩ := (prepareSidecar_ends hnonce fresh).of_ok h
  obtain ⟨hplanned, hsources, hdirectory, -⟩ := planSidecar_eq_ok hplan
  have hfilled := fillSidecar_eq_ok place.filled
  have hvalid := SidecarManifest.validate_eq_ok.mp place.valid
  obtain ⟨hheader, -, -⟩ := maximumRecord_bounds hvalid
  obtain ⟨sidecar, hopen, hmanifest, hdata⟩ := Sidecar.open_of_admitted
    (place.admitted (DirectExpertStore.new_eq_ok hplanned).1 json) quiet
  have hreadable : Readable sidecar.data := by
    rw [hdata]
    exact ⟨hfilled.length ▸ size, quiet.fault, quiet.granted⟩
  obtain ⟨hsameDirectory, hsameSources⟩ := fillSidecar_manifest place.filled
  refine ⟨sidecar, hopen, hreadable, ?_, ?_, ?_, ?_, ?_⟩
  · rw [hdata]
    exact Nat.lt_of_lt_of_le (by decide) hheader
  · rw [hmanifest, hdata]
    exact hfilled.digest
  · rw [hmanifest, hsameDirectory]
    exact hdirectory
  · rw [hmanifest, hsameSources]
    exact hsources
  · exact hfilled.copies hvalid hplanned shards hdirect hmanifest (by rw [hdata]) hreadable
      (by rw [hdata])

/-- A sidecar that `prepare_sidecar` reports is opened where it was put, with data of the declared
digest, and answers for the experts of the model the bytes that the shards have, and for no other
key. -/
theorem prepareSidecar_lossless {nonce : Nat} (hnonce : system.nonce = some nonce)
    (names : Names dataPath manifestPath nonce) {before : Files (List UInt8)}
    (fresh : before.files names.backupData = none ∧ before.files names.backupManifest = none)
    {report : PrepareReport}
    (h : prepareSidecar system set model dataPath manifestPath options before =
      (.ok report, after))
    (json : system.json.RoundTrips) (size : report.sidecarBytes ≤ isizeMax)
    {reader : OpenHost} (quiet : reader.Quiet dataPath manifestPath) {store : StoreHost}
    (shards : store.Quiet) {direct : DirectExpertStore}
    (hdirect : DirectExpertStore.new store set model = .ok direct) :
    ∃ sidecar, Sidecar.open reader after.files system.json dataPath manifestPath = .ok sidecar ∧
      verifySidecar system.sha256 sidecar = .ok () ∧ ∀ key,
        (key ∈ expertKeys model.config.blockCount model.config.expertCount →
          ∃ parts, (ExpertSource.direct direct).readParts key = .ok parts ∧
            (ExpertSource.sidecar sidecar).readParts key = .ok parts) ∧
        (key ∉ expertKeys model.config.blockCount model.config.expertCount →
          (ExpertSource.direct direct).readParts key = .error (.direct (.missingExpert key)) ∧
          (ExpertSource.sidecar sidecar).readParts key =
            .error (.sidecar (.missingExpert key))) := by
  obtain ⟨sidecar, hopen, reopened⟩ :=
    prepareSidecar_copies hnonce names fresh h json size quiet shards hdirect
  exact ⟨sidecar, hopen, (verifySidecar_eq_ok reopened.readable reopened.positive).mpr
    reopened.digest, fun key => ⟨reopened.copies.found key, reopened.copies.missing key⟩⟩

end Lossless

/-! ### Two experts, prepared -/

/-- The two experts are prepared, and found in their shard. -/
theorem prepareTwo_answers : ∃ model report after direct,
    validatedTwo = .ok model ∧ prepareTwo (fusedTo 32) model emptyDisk = (.ok report, after) ∧
    report.sidecarBytes = 192 ∧
    DirectExpertStore.new quietHost.toStoreHost twoExpertsSet model = .ok direct ∧
    expertKeys model.config.blockCount model.config.expertCount = [⟨1, 0⟩, ⟨1, 1⟩] := by
  have hrun : (validatedTwo.toOption.map fun model =>
      ((prepareTwo (fusedTo 32) model emptyDisk).1.toOption.map PrepareReport.sidecarBytes,
        (DirectExpertStore.new quietHost.toStoreHost twoExpertsSet model).toOption.isSome,
        expertKeys model.config.blockCount model.config.expertCount)) =
      some (some 192, true, [⟨1, 0⟩, ⟨1, 1⟩]) := by decide +kernel
  obtain ⟨model, hmodel, hparts⟩ := Option.map_eq_some_iff.mp hrun
  obtain ⟨hreport, hparts⟩ := Prod.mk.inj hparts
  obtain ⟨hdirect, hkeys⟩ := Prod.mk.inj hparts
  obtain ⟨report, hreport, hsize⟩ := Option.map_eq_some_iff.mp hreport
  obtain ⟨direct, hdirect⟩ := Option.isSome_iff_exists.mp hdirect
  exact ⟨model, report, _, direct, toOption_eq_some.mp hmodel,
    Prod.ext (toOption_eq_some.mp hreport) rfl, hsize, toOption_eq_some.mp hdirect, hkeys⟩

/-- The second expert is read from its sidecar as from the file of the model. -/
theorem prepareSidecar_lossless_two : ∃ model report after sidecar direct parts,
    validatedTwo = .ok model ∧ prepareTwo (fusedTo 32) model emptyDisk = (.ok report, after) ∧
    Sidecar.open quietOpenHost after.files (jsonOf manifestTwo) ⟨"", some "experts.bin"⟩
      ⟨"", some "experts.json"⟩ = .ok sidecar ∧
    (ExpertSource.direct direct).readParts ⟨1, 1⟩ = .ok parts ∧
    (ExpertSource.sidecar sidecar).readParts ⟨1, 1⟩ = .ok parts := by
  obtain ⟨model, report, after, direct, hmodel, hprepared, hsize, hdirect, hkeys⟩ :=
    prepareTwo_answers
  obtain ⟨sidecar, hopen, -, hread⟩ := prepareSidecar_lossless rfl namesTwo ⟨rfl, rfl⟩ hprepared
    (jsonOf_roundTrips manifestTwo) (by rw [hsize]; decide)
    (quietOpenHost_quiet _ _) ⟨fun _ _ _ => rfl, fun _ _ => rfl⟩ hdirect
  obtain ⟨parts, hshards, hsidecar⟩ := (hread ⟨1, 1⟩).1 (by rw [hkeys]; decide)
  exact ⟨model, report, after, sidecar, direct, parts, hmodel, hprepared, hopen, hshards, hsidecar⟩

end LightBridge.Prepare
