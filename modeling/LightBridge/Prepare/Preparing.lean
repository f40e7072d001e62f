import LightBridge.Format.Opening
import LightBridge.Prepare.Contents

/-! `prepare_sidecar` with the files it makes: temporary ones first, put in place at the end. -/
namespace LightBridge.Prepare
open Foundation Io Hy3 Format

/-! ### The digest of the data -/

/-- `SidecarError`, of `verify_data_hash`. -/
inductive SidecarHashError where
  | read (error : ReadError)
  | arithmeticOverflow
  | dataHash (expected actual : String)
  deriving DecidableEq, Repr

/-- The loop of `verify_data_hash`, with `fuel` chunks at most. -/
def hashSidecar (data : PositionedFile) (chunkSize : Nat) :
    Nat → Nat → List UInt8 → Except SidecarHashError (List UInt8)
  | 0, _, hasher => .ok hasher
  | fuel + 1, offset, hasher =>
      if offset < data.content.length then do
        let stop ← okOr (checkedAdd offset (min (data.content.length - offset) chunkSize))
          .arithmeticOverflow
        let bytes ← wrap .read (data.readExactAt offset stop)
        hashSidecar data chunkSize fuel stop (hasher ++ bytes)
      else .ok hasher

def verifySidecar (sha : Sha256) (sidecar : Sidecar) : Except SidecarHashError Unit := do
  let hasher ← hashSidecar sidecar.data (min sidecar.data.maxRequestBytes (8 * 1024 * 1024))
    sidecar.data.content.length 0 []
  let actual := hex (sha hasher).val
  ensure (actual = sidecar.manifest.sidecar.sha256)
    (.dataHash sidecar.manifest.sidecar.sha256 actual)

/-! ### The whole -/

/-- `PrepareError`, with the errors of the parts that only the whole has. -/
inductive PrepareFailure where
  | failure (error : SidecarFailure)
  | opening (error : OpenError)
  | verifying (error : SidecarHashError)
  | manifestSerialization (text : String)
  | manifestTooLarge (actual maximum : Nat)

/-- What else the host answers; `taken` is the error of a path that has a file. -/
structure PrepareSystem extends PrepareHost where
  json : ManifestJson
  reader : OpenHost
  taken : IoError
  writingManifest : Option IoError

/-- The host over the files that there are. -/
def PrepareSystem.over (system : PrepareSystem) (files : Path → Option (List UInt8)) :
    PrepareHost :=
  { system.toPrepareHost with existing := files }

structure PrepareReport where
  dataPath : Path
  manifestPath : Path
  sourceBytesHashed : Nat
  expertPayloadBytes : Nat
  sidecarBytes : Nat
  recordCount : Nat
  sidecarSha256 : String
  tensorDirectorySha256 : String
  deriving DecidableEq, Repr

section Preparing
variable (system : PrepareSystem) (options : PrepareOptions) (plan : SidecarPlan)

/-- `TemporaryOutputs`: its files are removed when the body fails. -/
def guarded {α : Type} (body : Command (Files (List UInt8)) PrepareFailure α) :
    Command (Files (List UInt8)) PrepareFailure α := do
  match ← body.attempt with
  | .ok answer => pure answer
  | .error error => do
      let _ ← (Disk.removeFile plan.temporaryData : Command _ IoError Unit).attempt
      let _ ← (Disk.removeFile plan.temporaryManifest : Command _ IoError Unit).attempt
      Command.raise error

def outputFailure (path : Path) (operation : String) (source : IoError) : PrepareFailure :=
  .failure (.files (.outputIo path operation source))

/-- The temporary files. -/
def writeTemporaries : Command (Files (List UInt8)) PrepareFailure Prepared := do
  (Disk.createNew system.taken plan.temporaryData []).mapError
    (outputFailure plan.temporaryData "create temporary sidecar")
  let prepared ← Command.lift (wrap .failure (fillSidecar system.toPrepareHost options plan))
  Disk.write plan.temporaryData prepared.output
  Command.lift (wrap (fun error => .failure (.format error)) prepared.manifest.validate)
  let bytes ← Command.lift (wrap .manifestSerialization
    (system.json.toVecPretty prepared.manifest))
  Command.lift (ensure (bytes.length ≤ maxManifestBytes)
    (.manifestTooLarge bytes.length maxManifestBytes))
  (Disk.createNew system.taken plan.temporaryManifest []).mapError
    (outputFailure plan.temporaryManifest "create temporary manifest")
  Command.lift (ensure system.writingManifest.isNone
    (outputFailure plan.temporaryManifest "write temporary manifest"
      (system.writingManifest.getD .notFound)))
  Disk.write plan.temporaryManifest bytes
  pure prepared

/-- The check of `verify_after_write`. -/
def verifyTemporaries : Command (Files (List UInt8)) PrepareFailure Unit :=
  if options.verifyAfterWrite then do
    let disk ← Command.read
    let sidecar ← Command.lift (wrap .opening
      (Sidecar.open system.reader disk.files system.json plan.temporaryData
        plan.temporaryManifest))
    Command.lift (wrap .verifying (verifySidecar system.sha256 sidecar))
  else pure ()

def writeSidecar (dataPath manifestPath : Path) :
    Command (Files (List UInt8)) PrepareFailure PrepareReport := do
  let prepared ← writeTemporaries system options plan
  verifyTemporaries system options plan
  (commitOutputs plan.temporaryData plan.temporaryManifest dataPath manifestPath options.overwrite
    plan.nonce).mapError fun error => .failure (.files error)
  pure {
    dataPath, manifestPath
    sourceBytesHashed := prepared.sourceBytesHashed
    expertPayloadBytes := prepared.expertPayloadBytes
    sidecarBytes := prepared.manifest.sidecar.length
    recordCount := plan.direct.index.records.length
    sidecarSha256 := prepared.manifest.sidecar.sha256
    tensorDirectorySha256 := plan.directoryHash }

end Preparing

/-- `prepare_sidecar`, for output paths that are absolute. -/
def prepareSidecar (system : PrepareSystem) (set : GgufSet) (model : ValidatedModel)
    (dataPath manifestPath : Path) (options : PrepareOptions) :
    Command (Files (List UInt8)) PrepareFailure PrepareReport := do
  let disk ← Command.read
  let plan ← Command.lift (wrap .failure
    (planSidecar (system.over disk.files) set model dataPath manifestPath options))
  guarded plan (writeSidecar system options plan dataPath manifestPath)

/-! ### What is put in place -/

theorem planSidecar_eq_ok {host : PrepareHost} {set : GgufSet} {model : ValidatedModel}
    {dataPath manifestPath : Path} {options : PrepareOptions} {plan : SidecarPlan}
    (h : planSidecar host set model dataPath manifestPath options = .ok plan) :
    DirectExpertStore.new host.store set model = .ok plan.direct ∧
      hashSourceFiles host.sha256 host.toSourceHost set options.hashChunkBytes =
        .ok plan.sourceFiles ∧
      tensorDirectorySha256 host.sha256 set = .ok plan.directoryHash ∧
      host.nonce = some plan.nonce ∧
      temporaryPath dataPath "data" plan.nonce = .ok plan.temporaryData ∧
      temporaryPath manifestPath "manifest" plan.nonce = .ok plan.temporaryManifest ∧
      (host.existing dataPath = none ∨ options.overwrite = true) ∧
      (host.existing manifestPath = none ∨ options.overwrite = true) := by
  obtain ⟨_, -, h⟩ := except_bind_ok_iff.mp h
  obtain ⟨_, htargets, h⟩ := except_bind_ok_iff.mp h
  obtain ⟨_, -, h⟩ := except_bind_ok_iff.mp h
  obtain ⟨direct, hdirect, h⟩ := except_bind_ok_iff.mp h
  obtain ⟨directory, hdirectory, h⟩ := except_bind_ok_iff.mp h
  obtain ⟨sources, hsources, h⟩ := except_bind_ok_iff.mp h
  obtain ⟨_, -, h⟩ := except_bind_ok_iff.mp h
  obtain ⟨nonce, hnonce, h⟩ := except_bind_ok_iff.mp h
  obtain ⟨data, hdata, h⟩ := except_bind_ok_iff.mp h
  obtain ⟨manifest, hmanifest, h⟩ := except_bind_ok_iff.mp h
  cases h
  obtain ⟨hold, hold'⟩ := validateOutputTargets_eq_ok (wrap_eq_ok.mp htargets)
  exact ⟨hdirect, hsources, hdirectory, okOr_eq_ok.mp hnonce, wrap_eq_ok.mp hdata,
    wrap_eq_ok.mp hmanifest, hold, hold'⟩

section CommitErrors
variable {C β : Type} {data manifest backupData backupManifest : Path} {overwrite : Bool}

/-- The error of an operation of a commit. -/
def OfCommit (error : PrepareError) : Prop :=
  ∃ operation path source, error = .commitIo operation path source

/-- The command fails with the error of an operation, if it fails. -/
def FailsOfCommit (c : Command (Files C) PrepareError β) : Prop :=
  ∀ now, Command.Ends (fun _ _ => True) (fun error _ => OfCommit error) (c now)

theorem FailsOfCommit.bind {α : Type} {c : Command (Files C) PrepareError α}
    {k : α → Command (Files C) PrepareError β} (h : FailsOfCommit c)
    (hk : ∀ a, FailsOfCommit (k a)) : FailsOfCommit (c >>= k) :=
  fun now => (h now).bind fun a after _ => hk a after

theorem failsOfCommit_pure (b : β) :
    FailsOfCommit (pure b : Command (Files C) PrepareError β) :=
  fun now => .answered b now trivial

theorem failsOfCommit_attempt {α : Type} (c : Command (Files C) IoError α) :
    FailsOfCommit (c.attempt : Command (Files C) PrepareError (Except IoError α)) :=
  fun now => .answered (c now).1 (c now).2 trivial

theorem failsOfCommit_raise (operation : String) (path : Path) (source : IoError) :
    FailsOfCommit (Command.raise (.commitIo operation path source) :
      Command (Files C) PrepareError β) :=
  fun now => .failed _ now ⟨operation, path, source, rfl⟩

theorem failsOfCommit_mapError (operation : String) (path : Path)
    (c : Command (Files C) IoError β) : FailsOfCommit (c.mapError (.commitIo operation path)) :=
  fun now => Command.Ends.mapError (.of_forall (fun _ _ => trivial)
    (fun source _ => ⟨operation, path, source, rfl⟩) (c now))

theorem failsOfCommit_ignoring (applies : Bool) (operation : Command (Files C) IoError Unit) :
    FailsOfCommit (ignoring applies operation) := by
  cases applies with
  | false => exact failsOfCommit_pure ()
  | true => exact (failsOfCommit_attempt operation).bind fun _ => failsOfCommit_pure ()

theorem failsOfCommit_restoreBackups (dataBackedUp manifestBackedUp : Bool) :
    FailsOfCommit (C := C)
      (restoreBackups data manifest backupData backupManifest dataBackedUp manifestBackedUp) :=
  (failsOfCommit_ignoring _ _).bind fun _ => failsOfCommit_ignoring _ _

theorem failsOfCommit_backUpData :
    FailsOfCommit (C := C) (backUpData data backupData overwrite) := by
  intro now
  refine .read_bind ?_
  split
  · exact (failsOfCommit_mapError _ _ _).bind (fun _ => failsOfCommit_pure true) now
  · exact .answered false now trivial

theorem failsOfCommit_backUpManifest (dataBackedUp : Bool) :
    FailsOfCommit (C := C)
      (backUpManifest data manifest backupData backupManifest overwrite dataBackedUp) := by
  intro now
  refine .read_bind ?_
  split
  · refine (failsOfCommit_attempt _).bind (fun result => ?_) now
    cases result with
    | ok _ => exact failsOfCommit_pure true
    | error source =>
        exact (failsOfCommit_ignoring _ _).bind fun _ => failsOfCommit_raise _ _ source
  · exact .answered false now trivial

/-- A commit that fails says at which of its operations. -/
theorem commitOutputs_fails {temporaryData temporaryManifest : Path} {nonce : Nat}
    (hbackupData : temporaryPath data "data-backup" nonce = .ok backupData)
    (hbackupManifest : temporaryPath manifest "manifest-backup" nonce = .ok backupManifest) :
    FailsOfCommit (C := C)
      (commitOutputs temporaryData temporaryManifest data manifest overwrite nonce) := by
  have hlift {path : Path} {r : Except PrepareError Path} (h : r = .ok path) :
      FailsOfCommit (Command.lift r : Command (Files C) PrepareError Path) :=
    fun now => h ▸ .answered path now trivial
  unfold commitOutputs
  refine (hlift hbackupData).bind fun _ => (hlift hbackupManifest).bind fun _ =>
    failsOfCommit_backUpData.bind fun _ => (failsOfCommit_backUpManifest _).bind fun _ =>
    (failsOfCommit_attempt _).bind fun result => ?_
  cases result with
  | error source =>
      exact (failsOfCommit_restoreBackups _ _).bind fun _ => failsOfCommit_raise _ _ source
  | ok _ =>
      refine (failsOfCommit_attempt _).bind fun result => ?_
      cases result with
      | error source =>
          exact (failsOfCommit_ignoring _ _).bind fun _ =>
            (failsOfCommit_restoreBackups _ _).bind fun _ => failsOfCommit_raise _ _ source
      | ok _ => exact (failsOfCommit_ignoring _ _).bind fun _ => failsOfCommit_ignoring _ _

end CommitErrors

/-- The paths that a nonce makes of the targets. -/
structure Names (dataPath manifestPath : Path) (nonce : Nat) where
  temporaryData : Path
  temporaryManifest : Path
  backupData : Path
  backupManifest : Path
  makesTemporaryData : temporaryPath dataPath "data" nonce = .ok temporaryData
  makesTemporaryManifest : temporaryPath manifestPath "manifest" nonce = .ok temporaryManifest
  makesBackupData : temporaryPath dataPath "data-backup" nonce = .ok backupData
  makesBackupManifest : temporaryPath manifestPath "manifest-backup" nonce = .ok backupManifest
  apart : [temporaryData, temporaryManifest, dataPath, manifestPath, backupData,
    backupManifest].Nodup

/-- The temporary files of one preparation, with all that was checked of them. -/
structure Temporaries (system : PrepareSystem) (options : PrepareOptions) (plan : SidecarPlan)
    (prepared : Prepared) (before after : Files (List UInt8)) : Prop where
  filled : fillSidecar system.toPrepareHost options plan = .ok prepared
  valid : prepared.manifest.validate = .ok ()
  data : after.files plan.temporaryData = some prepared.output
  manifest : ∃ bytes, system.json.toVecPretty prepared.manifest = .ok bytes ∧
    bytes.length ≤ maxManifestBytes ∧ after.files plan.temporaryManifest = some bytes
  elsewhere : Disk.Elsewhere before [plan.temporaryData, plan.temporaryManifest] after

section Ends
variable {system : PrepareSystem} {options : PrepareOptions} {plan : SidecarPlan}
  {before : Files (List UInt8)}

theorem elsewhere_placed {now after : Files (List UInt8)} {paths : List Path} {path : Path}
    {content : List UInt8} (h : Disk.Elsewhere before paths now) (hpath : path ∈ paths)
    (hfiles : after.files = Disk.placed path content now.files) :
    Disk.Elsewhere before paths after := by
  intro other hother
  rw [hfiles, Disk.placed_of_ne (ne_of_mem_of_not_mem hpath hother).symm]
  exact h other hother

theorem create_ends {now : Files (List UInt8)} {paths : List Path} {path : Path}
    (h : Disk.Elsewhere before paths now) (hpath : path ∈ paths) (operation : String) :
    Command.Ends
      (fun _ after => now.files path = none ∧ after.files = Disk.placed path [] now.files ∧
        Disk.Elsewhere before paths after)
      (fun _ after => Disk.Elsewhere before paths after)
      ((Disk.createNew system.taken path []).mapError (outputFailure path operation) now) := by
  refine Command.Ends.mapError ((Disk.createNew_ends system.taken path [] now).mono ?_ ?_)
  · rintro _ after ⟨hnone, hfiles⟩
    exact ⟨hnone, hfiles, elsewhere_placed h hpath hfiles⟩
  · intro _ after hunchanged other hother
    rw [hunchanged.files]
    exact h other hother

theorem write_bind {β : Type} {path : Path} {content : List UInt8}
    {k : Unit → Command (Files (List UInt8)) PrepareFailure β} {now : Files (List UInt8)}
    {Q : β → Files (List UInt8) → Prop} {E : PrepareFailure → Files (List UInt8) → Prop}
    (h : Command.Ends Q E (k () { now with files := Disk.placed path content now.files })) :
    Command.Ends Q E ((Disk.write path content >>= k) now) := h

theorem writeTemporaries_ends (apart : plan.temporaryData ≠ plan.temporaryManifest) :
    Command.Ends (fun prepared after => Temporaries system options plan prepared before after)
      (fun _ after => Disk.Elsewhere before [plan.temporaryData, plan.temporaryManifest] after)
      (writeTemporaries system options plan before) := by
  have hdata : plan.temporaryData ∈ [plan.temporaryData, plan.temporaryManifest] := by simp
  have hmanifest : plan.temporaryManifest ∈ [plan.temporaryData, plan.temporaryManifest] := by simp
  unfold writeTemporaries
  refine Command.Ends.bind (create_ends (fun _ _ => rfl) hdata _) ?_
  rintro _ created ⟨-, -, hcreated⟩
  refine .lift_bind (fun _ _ => hcreated) fun prepared hprepared => write_bind ?_
  have hwritten : Disk.Elsewhere before [plan.temporaryData, plan.temporaryManifest]
      { created with
        files := Disk.placed plan.temporaryData prepared.output created.files } :=
    elsewhere_placed hcreated hdata rfl
  refine .lift_bind (fun _ _ => hwritten) fun _ hvalid => ?_
  refine .lift_bind (fun _ _ => hwritten) fun bytes hbytes => ?_
  refine .lift_bind (fun _ _ => hwritten) fun _ hsize => ?_
  refine Command.Ends.bind (create_ends hwritten hmanifest _) ?_
  rintro _ both ⟨-, hboth, helsewhere⟩
  refine .lift_bind (fun _ _ => helsewhere) fun _ _ => write_bind (.answered prepared _ ?_)
  refine ⟨wrap_eq_ok.mp hprepared, wrap_eq_ok.mp hvalid, ?_,
    ⟨bytes, wrap_eq_ok.mp hbytes, ensure_eq_ok.mp hsize, if_pos rfl⟩,
    elsewhere_placed helsewhere hmanifest rfl⟩
  dsimp only
  rw [Disk.placed_of_ne apart, hboth, Disk.placed_of_ne apart]
  exact if_pos rfl

/-- The earlier contents of the targets are at them or at their backups. -/
def Preserved {dataPath manifestPath : Path} {nonce : Nat}
    (names : Names dataPath manifestPath nonce) (before after : Files (List UInt8)) : Prop :=
  Safe before after dataPath names.backupData ∧ Safe before after manifestPath names.backupManifest

/-- The files of a sidecar are in place. -/
structure InPlace (system : PrepareSystem) (options : PrepareOptions) (plan : SidecarPlan)
    (prepared : Prepared) (dataPath manifestPath : Path) (after : Files (List UInt8)) : Prop where
  filled : fillSidecar system.toPrepareHost options plan = .ok prepared
  valid : prepared.manifest.validate = .ok ()
  data : after.files dataPath = some prepared.output
  manifest : ∃ bytes, system.json.toVecPretty prepared.manifest = .ok bytes ∧
    bytes.length ≤ maxManifestBytes ∧ after.files manifestPath = some bytes

variable {dataPath manifestPath : Path}

theorem Preserved.of_elsewhere {nonce : Nat} {names : Names dataPath manifestPath nonce}
    {middle after : Files (List UInt8)} (h : Preserved names before middle)
    (elsewhere : Disk.Elsewhere middle [names.temporaryData, names.temporaryManifest] after) :
    Preserved names before after := by
  have hapart := names.apart
  simp only [List.nodup_cons, List.mem_cons, List.not_mem_nil, or_false, not_or] at hapart
  obtain ⟨⟨-, htd, htm, htbd, htbm⟩, ⟨hmd, hmm, hmbd, hmbm⟩, -⟩ := hapart
  have hkeeps (path : Path) (hdata : path ≠ names.temporaryData)
      (hmanifest : path ≠ names.temporaryManifest) : after.files path = middle.files path :=
    elsewhere path (by simp [hdata, hmanifest])
  refine ⟨fun content hcontent => ?_, fun content hcontent => ?_⟩
  · rw [hkeeps dataPath (Ne.symm htd) (Ne.symm hmd),
      hkeeps names.backupData (Ne.symm htbd) (Ne.symm hmbd)]
    exact h.1 content hcontent
  · rw [hkeeps manifestPath (Ne.symm htm) (Ne.symm hmm),
      hkeeps names.backupManifest (Ne.symm htbm) (Ne.symm hmbm)]
    exact h.2 content hcontent

theorem guarded_ends {α : Type} {body : Command (Files (List UInt8)) PrepareFailure α}
    {Q : α → Files (List UInt8) → Prop} {E : PrepareFailure → Files (List UInt8) → Prop}
    (h : Command.Ends Q E (body before))
    (stable : ∀ error now after, E error now →
      Disk.Elsewhere now [plan.temporaryData, plan.temporaryManifest] after → E error after) :
    Command.Ends Q E (guarded plan body before) := by
  unfold guarded
  refine Command.Ends.attempt_bind h (fun answer now hnow => .answered answer now hnow) ?_
  intro error now hnow
  have removing (path : Path) (hpath : path ∈ [plan.temporaryData, plan.temporaryManifest]) :
      (Disk.removeFile path : Command (Files (List UInt8)) IoError Unit).Keeps
        (Disk.Elsewhere now [plan.temporaryData, plan.temporaryManifest]) :=
    Disk.removeFile_keeps hpath
  have hlast (middle : Files (List UInt8))
      (hmiddle : Disk.Elsewhere now [plan.temporaryData, plan.temporaryManifest] middle) :
      Command.Ends Q E
        ((do let _ ← (Disk.removeFile plan.temporaryManifest : Command _ IoError Unit).attempt
             Command.raise error : Command (Files (List UInt8)) PrepareFailure α) middle) :=
    Command.Ends.attempt_bind ((removing plan.temporaryManifest (by simp)).ends hmiddle)
      (fun _ after hafter => .failed error after (stable error now after hnow hafter))
      (fun _ after hafter => .failed error after (stable error now after hnow hafter))
  exact Command.Ends.attempt_bind ((removing plan.temporaryData (by simp)).ends fun _ _ => rfl)
    (fun _ middle hmiddle => hlast middle hmiddle) (fun _ middle hmiddle => hlast middle hmiddle)

theorem verifyTemporaries_ends (now : Files (List UInt8)) :
    Command.Ends (fun _ after => after = now) (fun _ after => after = now)
      (verifyTemporaries system options plan now) := by
  unfold verifyTemporaries
  split
  · exact .read_bind (.lift_bind (fun _ _ => rfl) fun _ _ =>
      .lift (fun _ _ => rfl) fun _ _ => rfl)
  · exact .answered () now rfl

/-- The plan uses the paths of its nonce. -/
structure SidecarPlan.Uses {nonce : Nat} (plan : SidecarPlan)
    (names : Names dataPath manifestPath nonce) : Prop where
  nonce : plan.nonce = nonce
  temporaryData : plan.temporaryData = names.temporaryData
  temporaryManifest : plan.temporaryManifest = names.temporaryManifest

/-- The report of what was prepared. -/
def reportOf (plan : SidecarPlan) (prepared : Prepared) (dataPath manifestPath : Path) :
    PrepareReport where
  dataPath := dataPath
  manifestPath := manifestPath
  sourceBytesHashed := prepared.sourceBytesHashed
  expertPayloadBytes := prepared.expertPayloadBytes
  sidecarBytes := prepared.manifest.sidecar.length
  recordCount := plan.direct.index.records.length
  sidecarSha256 := prepared.manifest.sidecar.sha256
  tensorDirectorySha256 := plan.directoryHash

/-- What an error leaves: the earlier contents of the targets, and where the commit has not begun
only temporary files. -/
structure LeftBy {nonce : Nat} (names : Names dataPath manifestPath nonce)
    (before : Files (List UInt8)) (error : PrepareFailure) (after : Files (List UInt8)) :
    Prop where
  preserved : Preserved names before after
  uncommitted : (∀ operation path source,
      error ≠ .failure (.files (.commitIo operation path source))) →
    Disk.Elsewhere before [names.temporaryData, names.temporaryManifest] after

theorem LeftBy.of_elsewhere {nonce : Nat} {names : Names dataPath manifestPath nonce}
    {error : PrepareFailure} {after : Files (List UInt8)}
    (h : Disk.Elsewhere before [names.temporaryData, names.temporaryManifest] after) :
    LeftBy names before error after :=
  ⟨Preserved.of_elsewhere ⟨fun _ hcontent => .inl hcontent, fun _ hcontent => .inl hcontent⟩ h,
    fun _ => h⟩

theorem LeftBy.stable {nonce : Nat} {names : Names dataPath manifestPath nonce}
    {error : PrepareFailure} {middle after : Files (List UInt8)}
    (h : LeftBy names before error middle)
    (elsewhere : Disk.Elsewhere middle [names.temporaryData, names.temporaryManifest] after) :
    LeftBy names before error after :=
  ⟨h.preserved.of_elsewhere elsewhere, fun herror path hpath =>
    (elsewhere path hpath).trans (h.uncommitted herror path hpath)⟩

/-- What a target may hold before a commit, and no backup exists. -/
structure Ready {nonce : Nat} (options : PrepareOptions)
    (names : Names dataPath manifestPath nonce) (before : Files (List UInt8)) : Prop where
  backupData : before.files names.backupData = none
  backupManifest : before.files names.backupManifest = none
  data : before.files dataPath = none ∨ options.overwrite = true
  manifest : before.files manifestPath = none ∨ options.overwrite = true

theorem writeSidecar_ends {nonce : Nat} {names : Names dataPath manifestPath nonce}
    (uses : plan.Uses names) (ready : Ready options names before) :
    Command.Ends
      (fun report after => ∃ prepared,
        InPlace system options plan prepared dataPath manifestPath after ∧
          report = reportOf plan prepared dataPath manifestPath)
      (LeftBy names before) (writeSidecar system options plan dataPath manifestPath before) := by
  have hapart := names.apart
  simp only [List.nodup_cons, List.mem_cons, List.not_mem_nil, or_false, not_or] at hapart
  obtain ⟨⟨htemporaries, htd, htm, htbd, htbm⟩, ⟨hmd, hmm, hmbd, hmbm⟩, -⟩ := hapart
  unfold writeSidecar
  refine Command.Ends.bind ((writeTemporaries_ends ?_).mono (fun _ _ h => h) fun _ after h => ?_) ?_
  · rw [uses.temporaryData, uses.temporaryManifest]
    exact htemporaries
  · rw [uses.temporaryData, uses.temporaryManifest] at h
    exact .of_elsewhere h
  intro prepared made hmade
  have helsewhere := hmade.elsewhere
  rw [uses.temporaryData, uses.temporaryManifest] at helsewhere
  refine Command.Ends.bind ((verifyTemporaries_ends made).mono (fun _ _ h => h)
    fun _ _ h => h ▸ .of_elsewhere helsewhere) ?_
  intro _ verified hverified
  rw [hverified]
  have hsame (path : Path) (hdata : path ≠ names.temporaryData)
      (hmanifest : path ≠ names.temporaryManifest) : made.files path = before.files path :=
    helsewhere path (by simp [hdata, hmanifest])
  have hdataSame := hsame dataPath (Ne.symm htd) (Ne.symm hmd)
  have hmanifestSame := hsame manifestPath (Ne.symm htm) (Ne.symm hmm)
  have hbackupSame := hsame names.backupData (Ne.symm htbd) (Ne.symm hmbd)
  have hbackupSame' := hsame names.backupManifest (Ne.symm htbm) (Ne.symm hmbm)
  have hfresh : made.files names.backupData = none ∧ made.files names.backupManifest = none :=
    ⟨hbackupSame.trans ready.backupData, hbackupSame'.trans ready.backupManifest⟩
  have hold : (made.files dataPath = none ∨ options.overwrite = true) ∧
      (made.files manifestPath = none ∨ options.overwrite = true) :=
    ⟨hdataSame.symm ▸ ready.data, hmanifestSame.symm ▸ ready.manifest⟩
  have hcommit := (commitOutputs_ends names.makesBackupData names.makesBackupManifest names.apart
    hfresh hold).and
      (commitOutputs_fails names.makesBackupData names.makesBackupManifest made)
  have hnonce := uses.nonce
  subst hnonce
  rw [← uses.temporaryData, ← uses.temporaryManifest] at hcommit
  refine Command.Ends.bind (Command.Ends.mapError (hcommit.mono (fun _ _ h => h.1) ?_)) ?_
  · rintro _ after ⟨hrolled, operation, path, source, rfl⟩
    refine ⟨⟨fun content hcontent => ?_, fun content hcontent => ?_⟩, fun herror => ?_⟩
    · exact hrolled.safeData content (hdataSame.trans hcontent)
    · exact hrolled.safeManifest content (hmanifestSame.trans hcontent)
    · exact absurd rfl (herror operation path source)
  · rintro _ after ⟨-, hdata, -, hmanifest⟩
    obtain ⟨bytes, hbytes, hsize, hfile⟩ := hmade.manifest
    exact .answered _ _ ⟨prepared, ⟨hmade.filled, hmade.valid, hdata.trans hmade.data,
      bytes, hbytes, hsize, hmanifest.trans hfile⟩, rfl⟩

/-- The plan of a preparation that goes on uses the paths of its nonce. -/
theorem planSidecar_uses {host : PrepareHost} {set : GgufSet} {model : ValidatedModel}
    {nonce : Nat} (h : planSidecar host set model dataPath manifestPath options = .ok plan)
    (hnonce : host.nonce = some nonce) (names : Names dataPath manifestPath nonce) :
    plan.Uses names := by
  obtain ⟨-, -, -, hsame, hdata, hmanifest, -⟩ := planSidecar_eq_ok h
  have hnonce : plan.nonce = nonce := Option.some.inj (hsame.symm.trans hnonce)
  rw [hnonce] at hdata hmanifest
  exact ⟨hnonce, Except.ok.inj (hdata.symm.trans names.makesTemporaryData),
    Except.ok.inj (hmanifest.symm.trans names.makesTemporaryManifest)⟩

/-- A preparation that answers has put in place what it filled. -/
theorem prepareSidecar_ends {set : GgufSet} {model : ValidatedModel} {nonce : Nat}
    (hnonce : system.nonce = some nonce) {names : Names dataPath manifestPath nonce}
    (fresh : before.files names.backupData = none ∧ before.files names.backupManifest = none) :
    Command.Ends
      (fun report after => ∃ plan prepared,
        planSidecar (system.over before.files) set model dataPath manifestPath options = .ok plan ∧
        InPlace system options plan prepared dataPath manifestPath after ∧
          report = reportOf plan prepared dataPath manifestPath)
      (LeftBy names before)
      (prepareSidecar system set model dataPath manifestPath options before) := by
  unfold prepareSidecar
  refine .read_bind (.lift_bind (fun _ _ => .of_elsewhere fun _ _ => rfl) fun plan hplan => ?_)
  have hplan := wrap_eq_ok.mp hplan
  obtain ⟨-, -, -, -, -, -, hold, hold'⟩ := planSidecar_eq_ok hplan
  have huses := planSidecar_uses hplan hnonce names
  refine guarded_ends ((writeSidecar_ends huses ⟨fresh.1, fresh.2, hold, hold'⟩).mono ?_ ?_) ?_
  · rintro report after ⟨prepared, hplace, hreport⟩
    exact ⟨plan, prepared, hplan, hplace, hreport⟩
  · exact fun _ _ h => h
  · intro error now after hnow helsewhere
    rw [huses.temporaryData, huses.temporaryManifest] at helsewhere
    exact hnow.stable helsewhere

/-! ### What is touched -/

/-- The paths that a preparation works with. -/
def Names.paths {nonce : Nat} (names : Names dataPath manifestPath nonce) : List Path :=
  [names.temporaryData, names.temporaryManifest, dataPath, manifestPath, names.backupData,
    names.backupManifest]

theorem elsewhere_mono {paths more : List Path} (h : paths ⊆ more) {after : Files (List UInt8)}
    (elsewhere : Disk.Elsewhere before paths after) : Disk.Elsewhere before more after :=
  fun path hpath => elsewhere path fun hmem => hpath (h hmem)

theorem writeSidecar_elsewhere {nonce : Nat} {names : Names dataPath manifestPath nonce}
    (uses : plan.Uses names) (now : Files (List UInt8)) :
    Command.Ends (fun _ after => Disk.Elsewhere now names.paths after)
      (fun _ after => Disk.Elsewhere now names.paths after)
      (writeSidecar system options plan dataPath manifestPath now) := by
  have htemporaries : [plan.temporaryData, plan.temporaryManifest] ⊆ names.paths := by
    rw [uses.temporaryData, uses.temporaryManifest]
    simp [Names.paths]
  have hapart : plan.temporaryData ≠ plan.temporaryManifest := by
    have hnodup := names.apart
    rw [uses.temporaryData, uses.temporaryManifest]
    intro hsame
    simp [hsame] at hnodup
  unfold writeSidecar
  refine Command.Ends.bind ((writeTemporaries_ends hapart).mono (fun _ _ h => h)
    fun _ _ h => elsewhere_mono htemporaries h) ?_
  intro prepared made hmade
  have helsewhere := elsewhere_mono htemporaries hmade.elsewhere
  refine Command.Ends.bind ((verifyTemporaries_ends made).mono (fun _ _ h => h)
    fun _ _ h => h ▸ helsewhere) ?_
  intro _ verified hverified
  rw [hverified]
  have hcommit : (commitOutputs (C := List UInt8) names.temporaryData names.temporaryManifest
      dataPath manifestPath options.overwrite nonce).Keeps (Disk.Elsewhere now names.paths) :=
    commitOutputs_keeps names.makesBackupData names.makesBackupManifest
  have hnonce := uses.nonce
  subst hnonce
  rw [← uses.temporaryData, ← uses.temporaryManifest] at hcommit
  exact Command.Ends.bind (Command.Ends.mapError (hcommit.ends helsewhere))
    fun _ after hafter => .answered _ after hafter

theorem prepareSidecar_elsewhere {set : GgufSet} {model : ValidatedModel} {nonce : Nat}
    (hnonce : system.nonce = some nonce) (names : Names dataPath manifestPath nonce) :
    Disk.Elsewhere before names.paths
      (prepareSidecar system set model dataPath manifestPath options before).2 := by
  refine Command.Ends.last ?_
  unfold prepareSidecar
  refine .read_bind (.lift_bind (fun _ _ _ _ => rfl) fun plan hplan => ?_)
  have huses := planSidecar_uses (wrap_eq_ok.mp hplan) hnonce names
  refine guarded_ends (writeSidecar_elsewhere huses before) fun error now after hnow h path hpath =>
    ?_
  refine (h path fun hmem => hpath ?_).trans (hnow path hpath)
  rw [huses.temporaryData, huses.temporaryManifest] at hmem
  simp only [Names.paths, List.mem_cons, List.not_mem_nil, or_false] at hmem ⊢
  tauto

/-- A preparation that fails has lost nothing: the earlier contents of the targets are at them or at
their backups, and before the commit only temporary files are touched. Whether it fails or not, no
other path is. -/
theorem prepareSidecar_loses_nothing {set : GgufSet} {model : ValidatedModel} {nonce : Nat}
    (hnonce : system.nonce = some nonce) (names : Names dataPath manifestPath nonce)
    (fresh : before.files names.backupData = none ∧ before.files names.backupManifest = none)
    {r : Except PrepareFailure PrepareReport} {after : Files (List UInt8)}
    (h : prepareSidecar system set model dataPath manifestPath options before = (r, after)) :
    (∀ error, r = .error error →
      Safe before after dataPath names.backupData ∧
      Safe before after manifestPath names.backupManifest ∧
      ((∀ operation path source, error ≠ .failure (.files (.commitIo operation path source))) →
        ∀ path, path ≠ names.temporaryData → path ≠ names.temporaryManifest →
          after.files path = before.files path)) ∧
      ∀ path ∉ names.paths, after.files path = before.files path := by
  constructor
  · rintro error rfl
    obtain ⟨hpreserved, huncommitted⟩ := (prepareSidecar_ends hnonce fresh).of_error h
    exact ⟨hpreserved.1, hpreserved.2, fun herror path hdata hmanifest =>
      huncommitted herror path (by simp [hdata, hmanifest])⟩
  · have helsewhere : Disk.Elsewhere before names.paths
        (prepareSidecar system set model dataPath manifestPath options before).2 :=
      prepareSidecar_elsewhere hnonce names
    rw [h] at helsewhere
    exact helsewhere

end Ends

/-! ### Two experts, prepared -/

/-- The manifest that is prepared of the two experts. -/
def manifestTwo : SidecarManifest :=
  ((validatedTwo.toOption.bind fun model => (draftTwo model 32).toOption).map
    Prepared.manifest).getD tinyManifest

/-- A system without faults, which prints and reads one manifest. -/
def systemOf (manifest : SidecarManifest) : PrepareSystem where
  toPrepareHost := quietPrepareHost
  json := jsonOf manifest
  reader := quietOpenHost
  taken := .other "file exists"
  writingManifest := none

def emptyDisk : Files (List UInt8) := ⟨fun _ => none, fun _ => none, 0, 0⟩

def namesTwo : Names ⟨"", some "experts.bin"⟩ ⟨"", some "experts.json"⟩ 0 where
  temporaryData := ⟨"", some ".experts.bin.lightbridge-data-0.tmp"⟩
  temporaryManifest := ⟨"", some ".experts.json.lightbridge-manifest-0.tmp"⟩
  backupData := ⟨"", some ".experts.bin.lightbridge-data-backup-0.tmp"⟩
  backupManifest := ⟨"", some ".experts.json.lightbridge-manifest-backup-0.tmp"⟩
  makesTemporaryData := by decide +kernel
  makesTemporaryManifest := by decide +kernel
  makesBackupData := by decide +kernel
  makesBackupManifest := by decide +kernel
  apart := by decide +kernel

/-- A preparation of the two experts, which is verified. -/
def prepareTwo (options : PrepareOptions) (model : ValidatedModel) :
    Command (Files (List UInt8)) PrepareFailure PrepareReport :=
  prepareSidecar (systemOf manifestTwo) twoExpertsSet model ⟨"", some "experts.bin"⟩
    ⟨"", some "experts.json"⟩ { options with verifyAfterWrite := true }

/-- Both targets exist, and the commit of the manifest is denied. -/
def deniedDisk : Files (List UInt8) where
  files path :=
    if path.fileName = some "experts.bin" then some [1]
    else if path.fileName = some "experts.json" then some [2]
    else none
  fault call := if call = 5 then some (.other "denied") else none
  calls := 0
  failed := 0

/-- The earlier files are kept. -/
theorem prepareSidecar_loses_nothing_two : ∃ model error after, validatedTwo = .ok model ∧
    prepareTwo { fusedTo 32 with overwrite := true } model deniedDisk = (.error error, after) ∧
    (after.files ⟨"", some "experts.bin"⟩ = some [1] ∨
      after.files namesTwo.backupData = some [1]) ∧
    after.files ⟨"", some "model.gguf"⟩ = none := by
  have hrun : (validatedTwo.toOption.map fun model =>
      (prepareTwo { fusedTo 32 with overwrite := true } model deniedDisk).1.toOption.isSome) =
      some false := by decide +kernel
  obtain ⟨model, hmodel, hfailed⟩ := Option.map_eq_some_iff.mp hrun
  rcases hprepared : prepareTwo { fusedTo 32 with overwrite := true } model deniedDisk with
    ⟨r, after⟩
  rw [hprepared] at hfailed
  cases r with
  | ok report => cases hfailed
  | error error =>
      obtain ⟨hkept, helsewhere⟩ :=
        prepareSidecar_loses_nothing rfl namesTwo ⟨by decide +kernel, by decide +kernel⟩ hprepared
      obtain ⟨hdata, -, -⟩ := hkept error rfl
      exact ⟨model, error, after, toOption_eq_some.mp hmodel, hprepared,
        hdata [1] (by decide +kernel), helsewhere _ (by decide +kernel)⟩

end LightBridge.Prepare
