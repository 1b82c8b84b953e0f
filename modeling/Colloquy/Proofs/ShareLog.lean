import Colloquy.Proofs.Disk.Alteration
import Colloquy.ShareLog

/-!
# Where the Share Log Writes

A share log has one file or two, and before it writes one it makes the directories on the way to it.
So an entry alters the disk at places that follow from the settings of the log alone, whatever the
entry says and whether it can be recorded or not. Everything else that is kept on the disk is
safe from gossip if it is kept at other places.

## Main definitions

* `ShareLog.paths`: The files that a log writes.
* `ShareLog.directories`, `ShareLog.files`: The places of directories that a log may make, and of
  its files.

## Theorems

* `record_altered`: What an entry may change.
-/

namespace Colloquy

namespace ShareLog

/-- The paths of the files that a share log writes. -/
def paths (log : ShareLog) : List String :=
  if log.documentEnabled then [log.documentPath, log.plainPath] else [log.plainPath]

/-- The places that are entered when the directory of a file is made. -/
def parentWay (disk : Disk) (path : String) : List Place :=
  match Path.parent? path with
  | some parent => Disk.way (disk.start parent) (Path.steps parent)
  | none => []

/-- The places of the directories that a share log may make. -/
def directories (log : ShareLog) (disk : Disk) : List Place :=
  log.paths.flatMap (parentWay disk)

/-- The places of the files that a share log writes. -/
def files (log : ShareLog) (disk : Disk) : List Place :=
  log.paths.map disk.destination

theorem parentWay_eq_of_here {disk disk' : Disk} (h : disk'.here = disk.here) (path : String) :
    parentWay disk' path = parentWay disk path := by
  unfold parentWay
  split
  · rw [Disk.start, Disk.start, h]
  · rfl

theorem directories_eq_of_here (log : ShareLog) {disk disk' : Disk} (h : disk'.here = disk.here) :
    log.directories disk' = log.directories disk := by
  unfold directories
  congr 1
  funext path
  exact parentWay_eq_of_here h path

theorem files_eq_of_here (log : ShareLog) {disk disk' : Disk} (h : disk'.here = disk.here) :
    log.files disk' = log.files disk := by
  unfold files
  congr 1
  funext path
  rw [Disk.destination, Disk.destination, Disk.start, Disk.start, h]

theorem ensureParent_altered (disk : Disk) (path : String) :
    Disk.Altered (parentWay disk path) [] disk (ensureParent disk path).2 := by
  unfold ensureParent
  cases hparent : Path.parent? path with
  | none => exact .refl _ _ _
  | some parent =>
      simp only [parentWay, hparent]
      split
      · exact .refl _ _ _
      · have haltered := Disk.makeDirectories_altered disk parent
        split <;> (rename_i hmake; rw [hmake] at haltered; exact haltered)

/-- Two steps of one log: what both may change is bounded by one list of each kind. -/
theorem altered_file {disk between disk' : Disk} {path : String}
    (hparent : Disk.Altered (parentWay disk path) [] disk between)
    (hfile : Disk.Altered [] [between.destination path] between disk') :
    Disk.Altered (parentWay disk path) [disk.destination path] disk disk' := by
  rw [hparent.destination_eq] at hfile
  exact (hparent.mono (List.Subset.refl _) (List.nil_subset _)).trans
    (hfile.mono (List.nil_subset _) (List.Subset.refl _))

theorem appendPlain_altered (log : ShareLog) (disk : Disk) (stamp : String) (scope : Scope)
    (text : String) :
    Disk.Altered (parentWay disk log.plainPath) [disk.destination log.plainPath] disk
      (log.appendPlain disk stamp scope text).2 := by
  have hparent := ensureParent_altered disk log.plainPath
  unfold appendPlain
  split
  · -- If its directory cannot be made, then the log is not touched.
    rename_i hensure
    rw [hensure] at hparent
    exact hparent.mono (List.Subset.refl _) (List.nil_subset _)
  · rename_i between hensure
    rw [hensure] at hparent
    split
    · exact hparent.mono (List.Subset.refl _) (List.nil_subset _)
    · rename_i happend
      exact altered_file hparent (Disk.append_altered happend)

theorem appendStructured_altered (log : ShareLog) (disk : Disk) (entry : String) :
    Disk.Altered (parentWay disk log.documentPath) [disk.destination log.documentPath] disk
      (log.appendStructured disk entry).2 := by
  have hparent := ensureParent_altered disk log.documentPath
  unfold appendStructured
  split
  · rename_i hensure
    rw [hensure] at hparent
    exact hparent.mono (List.Subset.refl _) (List.nil_subset _)
  · rename_i between hensure
    rw [hensure] at hparent
    split
    · exact hparent.mono (List.Subset.refl _) (List.nil_subset _)
    · rename_i touched htouch
      have htouched := Disk.touch_altered htouch
      split
      · exact altered_file hparent htouched
      · simp only []
        split
        · exact altered_file hparent htouched
        · rename_i hwrite
          -- The document is made and written at one place.
          have hwritten := Disk.write_altered hwrite
          rw [htouched.destination_eq] at hwritten
          exact altered_file hparent (htouched.trans hwritten)

/-- An entry may change the files of its log and the directories on the way to them. -/
theorem write_altered (log : ShareLog) (disk : Disk) (stamp : String) (scope : Scope)
    (text : String) :
    Disk.Altered (log.directories disk) (log.files disk) disk
      (log.write disk stamp scope text).2 := by
  unfold write
  by_cases henabled : log.documentEnabled = true
  · have hdirectories : log.directories disk
        = parentWay disk log.documentPath ++ parentWay disk log.plainPath := by
      simp [directories, paths, henabled]
    have hfiles : log.files disk
        = [disk.destination log.documentPath, disk.destination log.plainPath] := by
      simp [files, paths, henabled]
    have hdocument := appendStructured_altered log disk (text ++ "\n")
    rw [hdirectories, hfiles, if_pos henabled]
    have hfirst := hdocument.mono
      (List.subset_append_left _ (parentWay disk log.plainPath))
      (List.cons_subset_cons _ (List.nil_subset [disk.destination log.plainPath]))
    split
    · rename_i happend
      rw [happend] at hfirst
      exact hfirst
    · rename_i between happend
      rw [happend] at hfirst
      -- The paths lead where they led before the document was written.
      have hplain := appendPlain_altered log between stamp scope text
      rw [parentWay_eq_of_here hfirst.here, hfirst.destination_eq] at hplain
      exact hfirst.trans (hplain.mono (List.subset_append_right _ _) (List.subset_cons_self _ _))
  · -- Without a document only the plain log is written.
    have hdirectories : log.directories disk = parentWay disk log.plainPath := by
      simp [directories, paths, henabled]
    have hfiles : log.files disk = [disk.destination log.plainPath] := by
      simp [files, paths, henabled]
    rw [hdirectories, hfiles, if_neg henabled]
    exact appendPlain_altered log disk stamp scope text

/-- An entry may change the files of its log and the directories on the way to them, and of the
    rest of the world only what has been reported. -/
theorem record_altered (log : ShareLog) (scope : Scope) (text : String) (world : World) :
    Disk.Altered (log.directories world.disk) (log.files world.disk) world.disk
        (log.record scope text world).2.disk ∧
      (log.record scope text world).2.memory = world.memory := by
  have haltered := write_altered log world.disk world.now.logText scope text
  unfold record
  split <;> (rename_i hwrite; rw [hwrite] at haltered; exact ⟨haltered, rfl⟩)

end ShareLog

end Colloquy
