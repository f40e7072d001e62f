import LightBridge.Foundation.Ends
import Mathlib.Data.Set.Basic

/-! Files that are renamed and removed one operation at a time, each of which may fail. A failed
operation leaves the files as they were and is counted. -/
namespace Foundation
variable {π κ ι ε α : Type}

/-- Files by their paths, and the errors of the operations to come. -/
structure Disk (π κ ι : Type) where
  files : π → Option κ
  fault : Nat → Option ι
  calls : Nat
  failed : Nat

namespace Disk

/-- The error of a path without a file. -/
class NotFound (ι : Type) where
  notFound : ι

variable [NotFound ι]

/-- One operation: its own error, that of a missing file, or a change of the files. -/
def operate (source : π) (change : κ → (π → Option κ) → π → Option κ) :
    Command (Disk π κ ι) ι Unit := fun disk =>
  match disk.fault disk.calls with
  | some error => (.error error, { disk with calls := disk.calls + 1, failed := disk.failed + 1 })
  | none =>
      match disk.files source with
      | none =>
          (.error NotFound.notFound,
            { disk with calls := disk.calls + 1, failed := disk.failed + 1 })
      | some content =>
          (.ok (), { disk with files := change content disk.files, calls := disk.calls + 1 })

/-- Nothing changed, and the failure is counted. -/
structure Unchanged (before after : Disk π κ ι) : Prop where
  files : after.files = before.files
  failed : after.failed = before.failed + 1

/-- The change was made without a failure. -/
structure Changed (source : π) (change : κ → (π → Option κ) → π → Option κ)
    (before after : Disk π κ ι) : Prop where
  files : ∃ content, before.files source = some content ∧ after.files = change content before.files
  failed : after.failed = before.failed

theorem operate_ends (source : π) (change : κ → (π → Option κ) → π → Option κ) (disk : Disk π κ ι) :
    Command.Ends (fun _ => Changed source change disk) (fun _ => Unchanged disk)
      (operate source change disk) := by
  unfold operate
  cases disk.fault disk.calls with
  | some error => exact .failed _ _ ⟨rfl, rfl⟩
  | none =>
      cases hfile : disk.files source with
      | none => exact .failed _ _ ⟨rfl, rfl⟩
      | some content => exact .answered _ _ ⟨⟨content, hfile, rfl⟩, rfl⟩

theorem operate_keeps {I : Disk π κ ι → Prop} {source : π}
    {change : κ → (π → Option κ) → π → Option κ}
    (h : ∀ before after, I before → Unchanged before after ∨
      Changed source change before after → I after) :
    (operate source change : Command (Disk π κ ι) ι Unit).Keeps I := by
  intro disk hdisk
  apply Command.Ends.last
  exact (operate_ends source change disk).mono
    (fun _ after hchanged => h disk after hdisk (Or.inr hchanged))
    (fun _ after hunchanged => h disk after hdisk (Or.inl hunchanged))

variable [DecidableEq π]

/-- A file under its new path only; a file that had this path is gone. -/
def moved (source target : π) (content : κ) (files : π → Option κ) (path : π) : Option κ :=
  if path = target then some content else if path = source then none else files path

def dropped (source : π) (_ : κ) (files : π → Option κ) (path : π) : Option κ :=
  if path = source then none else files path

def rename (source target : π) : Command (Disk π κ ι) ι Unit := operate source (moved source target)

def removeFile (source : π) : Command (Disk π κ ι) ι Unit := operate source (dropped source)

/-- The files with one more. -/
def placed (path : π) (content : κ) (files : π → Option κ) (other : π) : Option κ :=
  if other = path then some content else files other

/-- A new file; `taken` is the error of a path that has one. -/
def createNew (taken : ι) (path : π) (content : κ) : Command (Disk π κ ι) ι Unit := fun disk =>
  match disk.fault disk.calls, disk.files path with
  | some error, _ =>
      (.error error, { disk with calls := disk.calls + 1, failed := disk.failed + 1 })
  | none, some _ =>
      (.error taken, { disk with calls := disk.calls + 1, failed := disk.failed + 1 })
  | none, none =>
      (.ok (), { disk with files := placed path content disk.files, calls := disk.calls + 1 })

/-- What is written to a file that was created. -/
def write (path : π) (content : κ) : Command (Disk π κ ι) ε Unit :=
  Command.update fun disk => { disk with files := placed path content disk.files }

omit [NotFound ι] in
theorem createNew_ends (taken : ι) (path : π) (content : κ) (disk : Disk π κ ι) :
    Command.Ends
      (fun _ after => disk.files path = none ∧ after.files = placed path content disk.files)
      (fun _ after => Unchanged disk after) (createNew taken path content disk) := by
  unfold createNew
  split
  · exact .failed _ _ ⟨rfl, rfl⟩
  · exact .failed _ _ ⟨rfl, rfl⟩
  · rename_i hnone
    exact .answered _ _ ⟨hnone, rfl⟩

omit [NotFound ι] in
theorem placed_of_ne {path other : π} (h : other ≠ path) (content : κ) (files : π → Option κ) :
    placed path content files other = files other := if_neg h

/-- The paths that are no file's of an operation. -/
def Elsewhere (before : Disk π κ ι) (paths : List π) (after : Disk π κ ι) : Prop :=
  ∀ path ∉ paths, after.files path = before.files path

theorem rename_keeps {before : Disk π κ ι} {paths : List π} {source target : π}
    (hsource : source ∈ paths) (htarget : target ∈ paths) :
    (rename source target : Command (Disk π κ ι) ι Unit).Keeps (Elsewhere before paths) := by
  apply operate_keeps
  intro now after hnow h path hpath
  rcases h with hunchanged | hchanged
  · exact (congrFun hunchanged.files path).trans (hnow path hpath)
  · obtain ⟨content, -, hfiles⟩ := hchanged.files
    rw [hfiles, moved, if_neg (ne_of_mem_of_not_mem htarget hpath).symm,
      if_neg (ne_of_mem_of_not_mem hsource hpath).symm]
    exact hnow path hpath

theorem removeFile_keeps {before : Disk π κ ι} {paths : List π} {source : π}
    (hsource : source ∈ paths) :
    (removeFile source : Command (Disk π κ ι) ι Unit).Keeps (Elsewhere before paths) := by
  apply operate_keeps
  intro now after hnow h path hpath
  rcases h with hunchanged | hchanged
  · exact (congrFun hunchanged.files path).trans (hnow path hpath)
  · obtain ⟨content, -, hfiles⟩ := hchanged.files
    rw [hfiles, dropped, if_neg (ne_of_mem_of_not_mem hsource hpath).symm]
    exact hnow path hpath

end Disk

namespace Command
variable {σ β : Type}

/-- Runs a command whose error is a value to its caller. -/
def attempt (c : Command σ ε α) : Command σ ι (Except ε α) := fun s => (.ok (c s).1, (c s).2)

theorem Keeps.attempt {c : Command σ ε α} {I : σ → Prop} (h : c.Keeps I) :
    (c.attempt : Command σ ι (Except ε α)).Keeps I := h

/-- A check in front of a command that keeps the invariant with the values it lets through. -/
theorem Keeps.lift_bind {r : Except ε α} {k : α → Command σ ε β} {I : σ → Prop}
    (h : ∀ a, r = .ok a → (k a).Keeps I) :
    ((Command.lift r : Command σ ε α) >>= k).Keeps I := by
  cases r with
  | ok a => exact h a rfl
  | error e => exact fun _ hs => hs

theorem Keeps.mapError {c : Command σ ε α} {I : σ → Prop} (h : c.Keeps I) (wrapper : ε → ι) :
    (c.mapError wrapper).Keeps I := by
  intro s hs
  have hI := h s hs
  unfold Command.mapError
  rcases hrun : c s with ⟨r, s'⟩
  rw [hrun] at hI
  cases r with
  | ok a => exact hI
  | error e => exact hI

/-- Both ends of an attempted command go on. -/
theorem Ends.attempt_bind {Q : α → σ → Prop} {E : ε → σ → Prop} {R : β → σ → Prop}
    {F : ι → σ → Prop} {c : Command σ ε α} {k : Except ε α → Command σ ι β} {s : σ}
    (h : Ends Q E (c s)) (hok : ∀ a s', Q a s' → Ends R F (k (.ok a) s'))
    (herror : ∀ e s', E e s' → Ends R F (k (.error e) s')) : Ends R F ((c.attempt >>= k) s) := by
  rcases hrun : c s with ⟨r, s'⟩
  rw [hrun] at h
  have hattempt : (c.attempt : Command σ ι (Except ε α)) s = (.ok r, s') := by
    unfold attempt
    rw [hrun]
  rw [bind_of_ok hattempt]
  cases h with
  | answered a _ h => exact hok a s' h
  | failed e _ h => exact herror e s' h

end Command
end Foundation
