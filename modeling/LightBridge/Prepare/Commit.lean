import LightBridge.Foundation.Disk
import LightBridge.Host

/-! The two files of a sidecar put in place of earlier ones. -/
namespace LightBridge.Prepare
open Foundation

/-- A path by its last component, which the root and `..` lack. -/
structure Path where
  parent : String
  fileName : Option String
  deriving DecidableEq, Repr

inductive IoError where
  | notFound
  | other (message : String)
  deriving DecidableEq, Repr

instance : Disk.NotFound IoError := ⟨.notFound⟩

inductive PrepareError where
  | sourceIo (path : Path) (operation : String) (source : IoError)
  | outputIo (path : Path) (operation : String) (source : IoError)
  | commitIo (operation : String) (path : Path) (source : IoError)
  | outputCollision (path : Path)
  | outputOverwritesSource (path : Path)
  | outputExists (path : Path)
  | outputNotAFile (path : Path)
  | invalidOutputPath (path : Path)
  deriving DecidableEq, Repr

/-- Files by their contents. -/
abbrev Files (C : Type) : Type := Disk Path C IoError

/-! ### Targets -/

/-- What the system tells of a path. -/
structure System where
  canonicalize : Path → Except IoError Path
  isFile : Path → Except IoError Bool

section Targets
variable {C : Type}

def checkSources (system : System) (data manifest : Path) : List Path → Except PrepareError Unit
  | [] => .ok ()
  | shard :: shards => do
      let source ← wrap (.sourceIo shard "canonicalize source") (system.canonicalize shard)
      ensure (data ≠ source ∧ manifest ≠ source) (.outputOverwritesSource source)
      checkSources system data manifest shards

def checkTarget (system : System) (files : Path → Option C) (overwrite : Bool) (target : Path) :
    Except PrepareError Unit :=
  if (files target).isSome then do
    let isFile ← wrap (.outputIo target "inspect output target") (system.isFile target)
    ensure (isFile = true) (.outputNotAFile target)
    ensure (overwrite = true) (.outputExists target)
  else .ok ()

def validateOutputTargets (system : System) (files : Path → Option C) (shards : List Path)
    (data manifest : Path)
    (overwrite : Bool) : Except PrepareError Unit := do
  ensure (data ≠ manifest) (.outputCollision data)
  checkSources system data manifest shards
  checkTarget system files overwrite data
  checkTarget system files overwrite manifest

def temporaryPath (target : Path) (kind : String) (nonce : Nat) : Except PrepareError Path :=
  (okOr target.fileName (.invalidOutputPath target)).map fun name =>
    { target with fileName := some
                    ("." ++ name ++ ".lightbridge-" ++ kind ++ "-" ++ toString nonce ++ ".tmp") }

theorem checkTarget_eq_ok {system : System} {files : Path → Option C} {overwrite : Bool}
    {target : Path}
    (h : checkTarget system files overwrite target = .ok ()) :
    files target = none ∨ overwrite = true := by
  unfold checkTarget at h
  split at h
  · obtain ⟨_, -, h⟩ := except_bind_ok_iff.mp h
    obtain ⟨_, -, h⟩ := except_bind_ok_iff.mp h
    exact Or.inr (ensure_eq_ok.mp h)
  · rename_i habsent
    exact Or.inl (Option.not_isSome_iff_eq_none.mp habsent)

/-- A target exists only when it may be overwritten. -/
theorem validateOutputTargets_eq_ok {system : System} {files : Path → Option C} {shards : List Path}
    {data manifest : Path} {overwrite : Bool}
    (h : validateOutputTargets system files shards data manifest overwrite = .ok ()) :
    (files data = none ∨ overwrite = true) ∧ (files manifest = none ∨ overwrite = true) := by
  unfold validateOutputTargets at h
  obtain ⟨_, -, h⟩ := except_bind_ok_iff.mp h
  obtain ⟨_, -, h⟩ := except_bind_ok_iff.mp h
  obtain ⟨_, hdata, hmanifest⟩ := except_bind_ok_iff.mp h
  exact ⟨checkTarget_eq_ok hdata, checkTarget_eq_ok hmanifest⟩

end Targets

/-! ### The commit -/

section Commit
variable {C : Type}

/-- An operation, where it applies, whose failure is ignored. -/
def ignoring (applies : Bool) (operation : Command (Files C) IoError Unit) :
    Command (Files C) PrepareError Unit :=
  if applies then do
    let _ ← operation.attempt
    pure ()
  else pure ()

def restoreBackups (data manifest backupData backupManifest : Path)
    (dataBackedUp manifestBackedUp : Bool) :
    Command (Files C) PrepareError Unit := do
  ignoring dataBackedUp (Disk.rename backupData data)
  ignoring manifestBackedUp (Disk.rename backupManifest manifest)

/-- `commit_outputs`, its first backup. -/
def backUpData (data backupData : Path) (overwrite : Bool) :
    Command (Files C) PrepareError Bool := do
  let disk ← Command.read
  if overwrite && (disk.files data).isSome then do
    (Disk.rename data backupData).mapError (.commitIo "back up existing sidecar" data)
    pure true
  else pure false

/-- `commit_outputs`, its second backup. -/
def backUpManifest (data manifest backupData backupManifest : Path)
    (overwrite dataBackedUp : Bool) :
    Command (Files C) PrepareError Bool := do
  let disk ← Command.read
  if overwrite && (disk.files manifest).isSome then do
    match ← (Disk.rename manifest backupManifest).attempt with
    | .error source => do
        ignoring dataBackedUp (Disk.rename backupData data)
        Command.raise (.commitIo "back up existing manifest" manifest source)
    | .ok _ => pure true
  else pure false

def commitOutputs (temporaryData temporaryManifest data manifest : Path) (overwrite : Bool)
    (nonce : Nat) :
    Command (Files C) PrepareError Unit := do
  let backupData ← Command.lift (temporaryPath data "data-backup" nonce)
  let backupManifest ← Command.lift (temporaryPath manifest "manifest-backup" nonce)
  let dataBackedUp ← backUpData data backupData overwrite
  let manifestBackedUp ← backUpManifest data manifest backupData backupManifest
    overwrite dataBackedUp
  match ← (Disk.rename temporaryData data).attempt with
  | .error source => do
      restoreBackups data manifest backupData backupManifest dataBackedUp manifestBackedUp
      Command.raise (.commitIo "commit sidecar" data source)
  | .ok _ =>
      match ← (Disk.rename temporaryManifest manifest).attempt with
      | .error source => do
          ignoring true (Disk.removeFile data)
          restoreBackups data manifest backupData backupManifest dataBackedUp manifestBackedUp
          Command.raise (.commitIo "commit manifest" manifest source)
      | .ok _ => do
          ignoring dataBackedUp (Disk.removeFile backupData)
          ignoring manifestBackedUp (Disk.removeFile backupManifest)

/-! ### What is kept -/

/-- The earlier content of a target is at the target or at its backup. -/
def Safe (before after : Files C) (target backup : Path) : Prop :=
  ∀ content, before.files target = some content → after.files target = some content ∨
    after.files backup = some content

/-- The earlier content of a target is at its backup only. -/
structure Saved (before now : Files C) (target backup : Path) (backedUp : Bool) : Prop where
  moved : now.files target = none
  kept : now.files backup = before.files target
  flag : backedUp = (before.files target).isSome

/-- An attempt to restore a target: without another failure the target is as before. -/
structure Restored (before now after : Files C) (target backup : Path)
    (backedUp : Bool) : Prop where
  safe : Safe before after target backup
  exact : after.failed = now.failed → (backedUp = false → now.files target = none) →
    after.files target = before.files target

/-- What a commit that fails leaves behind. -/
structure RolledBack (before after : Files C) (data manifest backupData backupManifest : Path) :
    Prop where
  safeData : Safe before after data backupData
  safeManifest : Safe before after manifest backupManifest
  exact : after.failed = before.failed + 1 → after.files data = before.files data ∧
    after.files manifest = before.files manifest

theorem ignoring_ends {Q : Unit → Files C → Prop} {E : IoError → Files C → Prop}
    {R : Files C → Prop} {F : PrepareError → Files C → Prop}
    {operation : Command (Files C) IoError Unit} {now : Files C}
    (h : Command.Ends Q E (operation now)) (hok : ∀ after, Q () after → R after)
    (herror : ∀ e after, E e after → R after) :
    Command.Ends (fun _ => R) F (ignoring true operation now) :=
  h.attempt_bind (fun _ after hafter => .answered () after (hok after hafter))
    (fun e after hafter => .answered () after (herror e after hafter))

section Rollback
variable {before now : Files C} {target backup : Path} {backedUp : Bool}
    {F : PrepareError → Files C → Prop}

theorem Saved.safe (h : Saved before now target backup backedUp) : Safe before now target backup :=
  fun _ hcontent => Or.inr (h.kept.trans hcontent)

/-- A target that did not exist was not backed up. -/
theorem absent_of_flag (h : false = (before.files target).isSome) : before.files target = none :=
  Option.not_isSome_iff_eq_none.mp (Bool.eq_false_iff.mp h.symm)

theorem restore_ends (kept : now.files backup = before.files target)
    (flag : backedUp = (before.files target).isSome) :
    Command.Ends (fun _ after => Restored before now after target backup backedUp ∧
      now.failed ≤ after.failed ∧
        ∀ path, path ≠ target → path ≠ backup → after.files path = now.files path) F
      (ignoring backedUp (Disk.rename backup target) now) := by
  cases backedUp with
  | false =>
      have habsent := absent_of_flag flag
      refine .answered () now ⟨⟨?_, ?_⟩, Nat.le_refl _, fun _ _ _ => rfl⟩
      · intro content hcontent
        cases habsent.symm.trans hcontent
      · exact fun _ hnone => (hnone rfl).trans habsent.symm
  | true =>
      refine ignoring_ends (Disk.operate_ends backup (Disk.moved backup target) now) ?_ ?_
      · intro after hchanged
        obtain ⟨moved, hmoved, hfiles⟩ := hchanged.files
        have htarget : after.files target = before.files target := by
          rw [hfiles, Disk.moved, if_pos rfl, ← hmoved, kept]
        refine ⟨⟨fun _ h => Or.inl (htarget.trans h), fun _ _ => htarget⟩,
          Nat.le_of_eq hchanged.failed.symm, ?_⟩
        intro path htargetNe hbackupNe
        rw [hfiles, Disk.moved, if_neg htargetNe, if_neg hbackupNe]
      · intro _ after hunchanged
        have hfailed := hunchanged.failed
        refine ⟨⟨fun _ h => Or.inr ?_, fun hsame => absurd hsame (by omega)⟩, by omega,
          fun path _ _ => congrFun hunchanged.files path⟩
        rw [hunchanged.files, kept, h]

end Rollback

section Paths
variable {before now : Files C} {data manifest backupData backupManifest : Path}
    {dataBackedUp manifestBackedUp : Bool}
  {F : PrepareError → Files C → Prop}

theorem restoreBackups_ends (apart : data ≠ manifest ∧ data ≠ backupManifest ∧
      backupData ≠ manifest ∧ backupData ≠ backupManifest)
    (keptData : now.files backupData = before.files data)
    (flagData : dataBackedUp = (before.files data).isSome)
    (keptManifest : now.files backupManifest = before.files manifest)
    (flagManifest : manifestBackedUp = (before.files manifest).isSome) :
    Command.Ends (fun _ after => now.failed ≤ after.failed ∧
      Restored before now after data backupData dataBackedUp ∧
        Restored before now after manifest backupManifest manifestBackedUp) F
      (restoreBackups data manifest backupData backupManifest dataBackedUp
        manifestBackedUp now) := by
  obtain ⟨hmanifest, hbackup, hbackupManifest, hbackups⟩ := apart
  refine (restore_ends keptData flagData).bind fun _ middle hmiddle => ?_
  obtain ⟨hdata, hfirst, hframe⟩ := hmiddle
  have hkept : middle.files backupManifest = before.files manifest :=
    (hframe backupManifest (Ne.symm hbackup) (Ne.symm hbackups)).trans keptManifest
  have hsame : middle.files manifest = now.files manifest :=
    hframe manifest (Ne.symm hmanifest) (Ne.symm hbackupManifest)
  refine (restore_ends hkept flagManifest).mono (fun _ after hafter => ?_) (fun _ _ h => h)
  obtain ⟨hrest, hsecond, hframe'⟩ := hafter
  refine ⟨Nat.le_trans hfirst hsecond, ⟨?_, ?_⟩, ⟨hrest.safe, ?_⟩⟩
  · intro content hcontent
    rw [hframe' data hmanifest hbackup, hframe' backupData hbackupManifest hbackups]
    exact hdata.safe content hcontent
  · intro hfailed hnone
    rw [hframe' data hmanifest hbackup]
    exact hdata.exact (by omega) hnone
  · intro hfailed hnone
    exact hrest.exact (by omega) fun hflag => hsame.trans (hnone hflag)

/-- A target under its backup's path. -/
theorem Saved.of_changed {target backup : Path} {after : Files C}
    (held : now.files target = before.files target) (hne : target ≠ backup)
    (h : Disk.Changed target (Disk.moved target backup) now after) :
    Saved before after target backup true := by
  obtain ⟨content, hcontent, hfiles⟩ := h.files
  have hbefore : before.files target = some content := held.symm.trans hcontent
  refine ⟨?_, ?_, ?_⟩
  · rw [hfiles, Disk.moved, if_neg hne, if_pos rfl]
  · rw [hfiles, Disk.moved, if_pos rfl, hbefore]
  · rw [hbefore]
    rfl

/-- A target that is not there needs no backup. -/
theorem Saved.of_absent {target backup : Path} (held : now.files target = before.files target)
    (fresh : now.files backup = none)
    (habsent : now.files target = none) : Saved before now target backup false := by
  have hbefore : before.files target = none := held.symm.trans habsent
  refine ⟨habsent, fresh.trans hbefore.symm, ?_⟩
  rw [hbefore]
  rfl

theorem backUpData_ends {overwrite : Bool} (hne : data ≠ backupData)
    (fresh : before.files backupData = none) (valid : before.files data = none ∨ overwrite = true) :
    Command.Ends
      (fun backedUp after => Saved before after data backupData backedUp ∧
        after.failed = before.failed ∧
        ∀ path, path ≠ data → path ≠ backupData → after.files path = before.files path)
      (fun _ after => RolledBack before after data manifest backupData backupManifest)
      (backUpData data backupData overwrite before) := by
  unfold backUpData
  apply Command.Ends.read_bind
  split
  · refine Command.Ends.bind
      (Command.Ends.mapError ((Disk.operate_ends _ _ before).mono (fun _ _ h => h)
        fun _ after h => ?_)) ?_
    · exact ⟨fun _ hcontent => Or.inl (h.files ▸ hcontent), fun _ hcontent =>
        Or.inl (h.files ▸ hcontent), fun _ => h.files ▸ ⟨rfl, rfl⟩⟩
    · intro _ after hchanged
      refine .answered true after ⟨.of_changed rfl hne hchanged, hchanged.failed, ?_⟩
      intro path htarget hbackup
      obtain ⟨content, -, hfiles⟩ := hchanged.files
      rw [hfiles, Disk.moved, if_neg hbackup, if_neg htarget]
  · rename_i hnone
    have habsent : before.files data = none := by
      rcases valid with habsent | rfl
      · exact habsent
      · exact Option.not_isSome_iff_eq_none.mp fun hsome => hnone hsome
    exact .answered false before ⟨.of_absent rfl fresh habsent, rfl, fun _ _ _ => rfl⟩

theorem backUpManifest_ends {overwrite : Bool}
    (apart : [data, manifest, backupData, backupManifest].Nodup)
    (saved : Saved before now data backupData dataBackedUp) (hfailed : now.failed = before.failed)
    (held : now.files manifest = before.files manifest) (fresh : now.files backupManifest = none)
    (valid : before.files manifest = none ∨ overwrite = true) :
    Command.Ends (fun backedUp after => Saved before after data backupData dataBackedUp ∧
        Saved before after manifest backupManifest backedUp ∧ after.failed = before.failed ∧
        ∀ path, path ≠ manifest → path ≠ backupManifest → after.files path = now.files path)
      (fun _ after => RolledBack before after data manifest backupData backupManifest)
      (backUpManifest data manifest backupData backupManifest overwrite dataBackedUp now) := by
  have hdataManifest : data ≠ manifest := by
    rintro rfl
    simp at apart
  have hdataBackup : data ≠ backupManifest := by
    rintro rfl
    simp at apart
  have hbackupManifest : backupData ≠ manifest := by
    rintro rfl
    simp at apart
  have hbackups : backupData ≠ backupManifest := by
    rintro rfl
    simp at apart
  have hmanifest : manifest ≠ backupManifest := by
    rintro rfl
    simp at apart
  unfold backUpManifest
  apply Command.Ends.read_bind
  split
  · refine (Disk.operate_ends manifest (Disk.moved manifest backupManifest) now).attempt_bind ?_ ?_
    · intro _ after hchanged
      obtain ⟨content, -, hfiles⟩ := hchanged.files
      have hother : ∀ path, path ≠ manifest → path ≠ backupManifest →
          after.files path = now.files path := by
        intro path htarget hbackup
        rw [hfiles, Disk.moved, if_neg hbackup, if_neg htarget]
      refine .answered true after ⟨⟨?_, ?_, saved.flag⟩, .of_changed held hmanifest hchanged,
        hchanged.failed.trans hfailed, hother⟩
      · exact (hother data hdataManifest hdataBackup).trans saved.moved
      · exact (hother backupData hbackupManifest hbackups).trans saved.kept
    · intro error middle hunchanged
      have hkept : middle.files backupData = before.files data :=
        (congrFun hunchanged.files backupData).trans saved.kept
      refine (restore_ends hkept saved.flag).bind fun _ after hafter => ?_
      obtain ⟨hrestored, -, hother⟩ := hafter
      have hmanifestHeld : after.files manifest = before.files manifest := by
        rw [hother manifest (Ne.symm hdataManifest) (Ne.symm hbackupManifest),
          hunchanged.files, held]
      refine .failed _ after ⟨hrestored.safe, fun _ hcontent =>
        Or.inl (hmanifestHeld.trans hcontent), fun hone => ⟨?_, hmanifestHeld⟩⟩
      have hcount := hunchanged.failed
      exact hrestored.exact (by omega) fun _ => (congrFun hunchanged.files data).trans saved.moved
  · rename_i hnone
    have habsent : now.files manifest = none := by
      rcases valid with habsent | rfl
      · exact held.trans habsent
      · exact Option.not_isSome_iff_eq_none.mp fun hsome => hnone hsome
    exact .answered false now ⟨saved, .of_absent held fresh habsent, hfailed, fun _ _ _ => rfl⟩

theorem rollBack_ends {Q : Unit → Files C → Prop} {error : PrepareError}
    (apart : data ≠ manifest ∧ data ≠ backupManifest ∧ backupData ≠ manifest ∧
      backupData ≠ backupManifest)
    (keptData : now.files backupData = before.files data)
    (flagData : dataBackedUp = (before.files data).isSome)
    (keptManifest : now.files backupManifest = before.files manifest)
    (flagManifest : manifestBackedUp = (before.files manifest).isSome)
    (hfailed : before.failed + 1 ≤ now.failed)
    (cleared : now.failed = before.failed + 1 → now.files data = none ∧ now.files manifest = none) :
    Command.Ends Q (fun _ after => RolledBack before after data manifest backupData backupManifest)
      ((do
        restoreBackups data manifest backupData backupManifest dataBackedUp manifestBackedUp
        Command.raise error) now) := by
  refine (restoreBackups_ends apart keptData flagData keptManifest flagManifest).bind
    fun _ after hafter => ?_
  obtain ⟨hmore, hdata, hmanifest⟩ := hafter
  refine .failed error after ⟨hdata.safe, hmanifest.safe, fun hone => ?_⟩
  have hcleared := cleared (by omega)
  exact ⟨hdata.exact (by omega) fun _ => hcleared.1, hmanifest.exact (by omega) fun _ => hcleared.2⟩

theorem removeBackup_ends (backedUp : Bool) (backup : Path) :
    Command.Ends (fun _ after => ∀ path, path ≠ backup → after.files path = now.files path) F
      (ignoring backedUp (Disk.removeFile backup) now) := by
  cases backedUp with
  | false => exact .answered () now fun _ _ => rfl
  | true =>
      refine ignoring_ends (Disk.operate_ends backup (Disk.dropped backup) now) ?_ ?_
      · intro after hchanged path hne
        obtain ⟨content, -, hfiles⟩ := hchanged.files
        rw [hfiles, Disk.dropped, if_neg hne]
      · exact fun _ after hunchanged path _ => congrFun hunchanged.files path

theorem commitOutputs_ends {temporaryData temporaryManifest : Path} {overwrite : Bool} {nonce : Nat}
    (hbackupData : temporaryPath data "data-backup" nonce = .ok backupData)
    (hbackupManifest : temporaryPath manifest "manifest-backup" nonce = .ok backupManifest)
    (apart : [temporaryData, temporaryManifest, data, manifest, backupData, backupManifest].Nodup)
    (fresh : before.files backupData = none ∧ before.files backupManifest = none)
    (valid : (before.files data = none ∨ overwrite = true) ∧
      (before.files manifest = none ∨ overwrite = true)) :
    Command.Ends
      (fun _ after => (before.files temporaryData).isSome ∧
        after.files data = before.files temporaryData ∧
        (before.files temporaryManifest).isSome ∧
          after.files manifest = before.files temporaryManifest)
      (fun _ after => RolledBack before after data manifest backupData backupManifest)
      (commitOutputs temporaryData temporaryManifest data manifest overwrite nonce before) := by
  simp only [List.nodup_cons, List.mem_cons, List.not_mem_nil, or_false, not_or] at apart
  obtain ⟨⟨htt, htd, htm, htbd, htbm⟩, ⟨hsd, hsm, hsbd, hsbm⟩, ⟨hdm, hdbd, hdbm⟩, ⟨hmbd, hmbm⟩,
    hbb, -⟩ := apart
  have hnodup : [data, manifest, backupData, backupManifest].Nodup := by
    simp only [List.nodup_cons, List.mem_cons, List.not_mem_nil, or_false, not_or]
    exact ⟨⟨hdm, hdbd, hdbm⟩, ⟨hmbd, hmbm⟩, hbb, not_false, List.nodup_nil⟩
  have hapart : data ≠ manifest ∧ data ≠ backupManifest ∧ backupData ≠ manifest ∧
      backupData ≠ backupManifest :=
    ⟨hdm, hdbm, Ne.symm hmbd, hbb⟩
  unfold commitOutputs
  refine Command.Ends.lift_bind (fun error herror => nomatch hbackupData.symm.trans herror)
    fun path hpath => ?_
  cases hbackupData.symm.trans hpath
  refine Command.Ends.lift_bind (fun error herror => nomatch hbackupManifest.symm.trans herror)
    fun path hpath => ?_
  cases hbackupManifest.symm.trans hpath
  refine (backUpData_ends hdbd fresh.1 valid.1).bind fun dataBackedUp first hfirst => ?_
  obtain ⟨hsaved, hcalm, hother⟩ := hfirst
  refine (backUpManifest_ends hnodup hsaved hcalm (hother manifest (Ne.symm hdm) hmbd)
    ((hother backupManifest (Ne.symm hdbm) (Ne.symm hbb)).trans fresh.2) valid.2).bind
      fun manifestBackedUp second hsecond => ?_
  obtain ⟨hdata, hmanifest, hcalm', hother'⟩ := hsecond
  have hnewData : second.files temporaryData = before.files temporaryData :=
    (hother' temporaryData htm htbm).trans (hother temporaryData htd htbd)
  have hnewManifest : second.files temporaryManifest = before.files temporaryManifest :=
    (hother' temporaryManifest hsm hsbm).trans (hother temporaryManifest hsd hsbd)
  refine (Disk.operate_ends temporaryData (Disk.moved temporaryData data) second).attempt_bind ?_ ?_
  · intro _ third hthird
    obtain ⟨content, hcontent, hfiles⟩ := hthird.files
    have hheld : ∀ path, path ≠ data → path ≠ temporaryData →
        third.files path = second.files path := by
      intro path htarget hsource
      rw [hfiles, Disk.moved, if_neg htarget, if_neg hsource]
    have hplaced : third.files data = before.files temporaryData := by
      rw [hfiles, Disk.moved, if_pos rfl, ← hcontent, hnewData]
    refine (Disk.operate_ends temporaryManifest
      (Disk.moved temporaryManifest manifest) third).attempt_bind ?_ ?_
    · intro _ fourth hfourth
      obtain ⟨content', hcontent', hfiles'⟩ := hfourth.files
      have hsource : third.files temporaryManifest = before.files temporaryManifest :=
        (hheld temporaryManifest hsd (Ne.symm htt)).trans hnewManifest
      refine (removeBackup_ends dataBackedUp backupData).bind fun _ fifth hfifth => ?_
      refine (removeBackup_ends manifestBackedUp backupManifest).mono
        (fun _ last hlast => ⟨?_, ?_, ?_, ?_⟩) (fun _ _ h => h)
      · rw [← hnewData, hcontent]
        rfl
      · rw [hlast data hdbm, hfifth data hdbd, hfiles', Disk.moved, if_neg hdm,
          if_neg (Ne.symm hsd), hplaced]
      · rw [← hsource, hcontent']
        rfl
      · rw [hlast manifest hmbm, hfifth manifest hmbd, hfiles', Disk.moved,
          if_pos rfl, ← hcontent', hsource]
    · intro error fourth hfourth
      have hcount := hfourth.failed
      have hcount' := hthird.failed
      have hbacked : fourth.files backupData = before.files data := by
        rw [hfourth.files, hheld backupData (Ne.symm hdbd) (Ne.symm htbd), hdata.kept]
      have hbacked' : fourth.files backupManifest = before.files manifest := by
        rw [hfourth.files, hheld backupManifest (Ne.symm hdbm) (Ne.symm htbm), hmanifest.kept]
      have hcleared : fourth.files manifest = none := by
        rw [hfourth.files, hheld manifest (Ne.symm hdm) (Ne.symm htm), hmanifest.moved]
      have hremoved : Command.Ends (fun _ fifth => fourth.failed ≤ fifth.failed ∧
            (fifth.failed = fourth.failed → fifth.files data = none) ∧ ∀ path, path ≠ data →
              fifth.files path = fourth.files path)
          (fun _ after => RolledBack before after data manifest backupData backupManifest)
          (ignoring true (Disk.removeFile data) fourth) := by
        refine ignoring_ends (Disk.operate_ends data (Disk.dropped data) fourth) ?_ ?_
        · intro fifth hchanged
          obtain ⟨gone, -, hgone⟩ := hchanged.files
          refine ⟨Nat.le_of_eq hchanged.failed.symm, fun _ => ?_, fun path hne => ?_⟩
          · rw [hgone, Disk.dropped, if_pos rfl]
          · rw [hgone, Disk.dropped, if_neg hne]
        · intro _ fifth hunchanged
          have := hunchanged.failed
          exact ⟨by omega, fun hsame => absurd hsame (by omega), fun path _ =>
            congrFun hunchanged.files path⟩
      refine hremoved.bind fun _ fifth hfifth => ?_
      obtain ⟨hmore, hgone, hkept⟩ := hfifth
      refine rollBack_ends hapart ((hkept backupData (Ne.symm hdbd)).trans hbacked) hdata.flag
        ((hkept backupManifest (Ne.symm hdbm)).trans hbacked') hmanifest.flag (by omega) fun hone =>
          ⟨hgone (by omega), ?_⟩
      exact (hkept manifest (Ne.symm hdm)).trans hcleared
  · intro error third hthird
    have hcount := hthird.failed
    refine rollBack_ends hapart ((congrFun hthird.files backupData).trans hdata.kept) hdata.flag
      ((congrFun hthird.files backupManifest).trans hmanifest.kept) hmanifest.flag (by omega)
        fun _ => ⟨?_, ?_⟩
    · exact (congrFun hthird.files data).trans hdata.moved
    · exact (congrFun hthird.files manifest).trans hmanifest.moved

end Paths

/-! ### What is not touched -/

section Frame
variable {before : Files C} {paths : List Path}

theorem ignoring_keeps {operation : Command (Files C) IoError Unit}
    (h : operation.Keeps (Disk.Elsewhere before paths))
    (applies : Bool) : (ignoring applies operation).Keeps (Disk.Elsewhere before paths) := by
  cases applies with
  | false => exact fun _ hs => hs
  | true => exact h.attempt.bind fun _ _ hs => hs

theorem restoreBackups_keeps {data manifest backupData backupManifest : Path} (hdata : data ∈ paths)
    (hmanifest : manifest ∈ paths) (hbackupData : backupData ∈ paths)
    (hbackupManifest : backupManifest ∈ paths) (dataBackedUp manifestBackedUp : Bool) :
    (restoreBackups (C := C) data manifest backupData backupManifest dataBackedUp
      manifestBackedUp).Keeps
      (Disk.Elsewhere before paths) :=
  (ignoring_keeps (Disk.rename_keeps hbackupData hdata) dataBackedUp).bind fun _ =>
    ignoring_keeps (Disk.rename_keeps hbackupManifest hmanifest) manifestBackedUp

theorem commitOutputs_keeps
      {temporaryData temporaryManifest data manifest backupData backupManifest : Path}
    {overwrite : Bool} {nonce : Nat}
    (hbackupData : temporaryPath data "data-backup" nonce = .ok backupData)
    (hbackupManifest : temporaryPath manifest "manifest-backup" nonce = .ok backupManifest) :
    (commitOutputs temporaryData temporaryManifest data manifest overwrite nonce).Keeps
      (Disk.Elsewhere before [temporaryData, temporaryManifest, data, manifest, backupData,
        backupManifest]) := by
  unfold commitOutputs
  refine Command.Keeps.lift_bind fun path hpath => ?_
  cases hbackupData.symm.trans hpath
  refine Command.Keeps.lift_bind fun path hpath => ?_
  cases hbackupManifest.symm.trans hpath
  have hbackUpData : (backUpData (C := C) data backupData overwrite).Keeps
      (Disk.Elsewhere before [temporaryData, temporaryManifest, data, manifest, backupData,
        backupManifest]) := by
    refine (Command.Keeps.read _).bind fun disk => ?_
    split
    · exact ((Disk.rename_keeps (by simp) (by simp)).mapError _).bind fun _ _ hs => hs
    · exact fun _ hs => hs
  have hbackUpManifest : ∀ dataBackedUp,
      (backUpManifest (C := C) data manifest backupData backupManifest overwrite dataBackedUp).Keeps
      (Disk.Elsewhere before [temporaryData, temporaryManifest, data, manifest, backupData,
        backupManifest]) := by
    intro dataBackedUp
    refine (Command.Keeps.read _).bind fun disk => ?_
    split
    · refine (Disk.rename_keeps (by simp) (by simp)).attempt.bind fun result => ?_
      cases result with
      | ok _ => exact fun _ hs => hs
      | error source =>
          exact (ignoring_keeps (Disk.rename_keeps (by simp) (by simp)) dataBackedUp).bind
            fun _ _ hs => hs
    · exact fun _ hs => hs
  have hrestore : ∀ dataBackedUp manifestBackedUp,
      (restoreBackups (C := C) data manifest backupData backupManifest dataBackedUp
        manifestBackedUp).Keeps
        (Disk.Elsewhere before [temporaryData, temporaryManifest, data, manifest, backupData,
          backupManifest]) :=
    restoreBackups_keeps (by simp) (by simp) (by simp) (by simp)
  refine hbackUpData.bind fun dataBackedUp => (hbackUpManifest dataBackedUp).bind
    fun manifestBackedUp => ?_
  refine (Disk.rename_keeps (by simp) (by simp)).attempt.bind fun result => ?_
  cases result with
  | error source => exact (hrestore dataBackedUp manifestBackedUp).bind fun _ _ hs => hs
  | ok _ =>
      refine (Disk.rename_keeps (by simp) (by simp)).attempt.bind fun result => ?_
      cases result with
      | error source =>
          exact (ignoring_keeps (Disk.removeFile_keeps (by simp)) true).bind fun _ =>
            (hrestore dataBackedUp manifestBackedUp).bind fun _ _ hs => hs
      | ok _ =>
          exact (ignoring_keeps (Disk.removeFile_keeps (by simp)) dataBackedUp).bind fun _ =>
            ignoring_keeps (Disk.removeFile_keeps (by simp)) manifestBackedUp

end Frame

/-- A commit that answers has put both files in place; one that fails has kept the earlier contents
of the targets at them or at their backups, and at them if one operation failed; no other path is
touched. -/
theorem commitOutputs_loses_nothing {before : Files C}
    {temporaryData temporaryManifest data manifest backupData backupManifest : Path}
    {overwrite : Bool} {nonce : Nat}
    (hbackupData : temporaryPath data "data-backup" nonce = .ok backupData)
    (hbackupManifest : temporaryPath manifest "manifest-backup" nonce = .ok backupManifest)
    (apart : [temporaryData, temporaryManifest, data, manifest, backupData, backupManifest].Nodup)
    (fresh : before.files backupData = none ∧ before.files backupManifest = none)
    (valid : (before.files data = none ∨ overwrite = true) ∧
      (before.files manifest = none ∨ overwrite = true)) {r : Except PrepareError Unit}
    {after : Files C}
    (h : commitOutputs temporaryData temporaryManifest data manifest overwrite nonce before =
      (r, after)) :
    (r = .ok () → (before.files temporaryData).isSome ∧
      after.files data = before.files temporaryData ∧
      (before.files temporaryManifest).isSome ∧
        after.files manifest = before.files temporaryManifest) ∧
    (∀ error, r = .error error →
      Safe before after data backupData ∧ Safe before after manifest backupManifest ∧
      (after.failed = before.failed + 1 → after.files data = before.files data ∧
        after.files manifest = before.files manifest)) ∧
    ∀ path ∉ [temporaryData, temporaryManifest, data, manifest, backupData, backupManifest],
      after.files path = before.files path := by
  have hends := commitOutputs_ends hbackupData hbackupManifest apart fresh valid
  have hkept : Disk.Elsewhere before [temporaryData, temporaryManifest, data, manifest, backupData,
      backupManifest]
      (commitOutputs temporaryData temporaryManifest data manifest overwrite nonce before).2 :=
    commitOutputs_keeps hbackupData hbackupManifest before fun _ _ => rfl
  rw [h] at hends hkept
  refine ⟨?_, ?_, hkept⟩
  · rintro rfl
    exact hends.of_ok rfl
  · rintro error rfl
    have hrolled := hends.of_error rfl
    exact ⟨hrolled.safeData, hrolled.safeManifest, hrolled.exact⟩

end Commit

def outputPath (name : String) : Path := { parent := "out", fileName := some name }

/-- Both targets exist, and the operation at a place of the run may be denied. -/
def commitDisk (denied : Option Nat) : Files Nat where
  files path :=
    if path = outputPath "model.data" then some 1
    else if path = outputPath "model.json" then some 2
    else if path = outputPath "new.data" then some 3
    else if path = outputPath "new.json" then some 4
    else none
  fault call := if denied = some call then some (.other "denied") else none
  calls := 0
  failed := 0

def commitOn (denied : Option Nat) : Except PrepareError Unit × Files Nat :=
  commitOutputs (outputPath "new.data") (outputPath "new.json") (outputPath "model.data")
    (outputPath "model.json") true 7 (commitDisk denied)

/-- Without a fault the new files are in place. Where the commit of the manifest is denied, the
earlier ones are back. -/
theorem deniedCommit_rolled_back :
    (∃ after, commitOn none = (.ok (), after) ∧
      after.files (outputPath "model.data") = some 3 ∧
      after.files (outputPath "model.json") = some 4) ∧
    ∃ error after, commitOn (some 3) = (.error error, after) ∧
      after.files (outputPath "model.data") = some 1 ∧
      after.files (outputPath "model.json") = some 2 := by
  have hdata : temporaryPath (outputPath "model.data") "data-backup" 7 =
      .ok (outputPath ".model.data.lightbridge-data-backup-7.tmp") := by decide +kernel
  have hmanifest : temporaryPath (outputPath "model.json") "manifest-backup" 7 =
      .ok (outputPath ".model.json.lightbridge-manifest-backup-7.tmp") := by decide +kernel
  constructor
  · rcases hrun : commitOn none with ⟨r, after⟩
    have hresult : r = .ok () := (Prod.mk.inj hrun.symm).1
    obtain ⟨hplaced, -, -⟩ := commitOutputs_loses_nothing hdata hmanifest (by decide +kernel)
      (by decide +kernel) ⟨Or.inr rfl, Or.inr rfl⟩ hrun
    obtain ⟨-, hnew, -, hnew'⟩ := hplaced hresult
    exact ⟨after, by rw [hresult], hnew, hnew'⟩
  · rcases hrun : commitOn (some 3) with ⟨r, after⟩
    have hresult : r =
        .error (.commitIo "commit manifest" (outputPath "model.json") (.other "denied")) ∧
          after.failed = 1 := by
      have hboth := Prod.mk.inj hrun.symm
      rw [hboth.1, hboth.2]
      exact ⟨rfl, by decide +kernel⟩
    obtain ⟨-, hkept, -⟩ := commitOutputs_loses_nothing hdata hmanifest (by decide +kernel)
      (by decide +kernel) ⟨Or.inr rfl, Or.inr rfl⟩ hrun
    obtain ⟨hback, hback'⟩ := (hkept _ hresult.1).2.2 hresult.2
    exact ⟨_, after, by rw [hresult.1], hback, hback'⟩

end LightBridge.Prepare
