import Colloquy.Proofs.Disk.Alteration
import Colloquy.Proofs.Store.Unit
import Mathlib.Control.Monad.Basic

/-!
# What an Access Leaves on the Disk

The places that an operation of a store may touch, on any disk. Files and directories may stand
anywhere, units may hold anything, and an operation may fail at any of its steps.

Before a unit is read or written it is prepared: the directories on the way to it are made and then
the unit itself, empty, where nothing stands. That is all that reading does. `IsPrepared` bounds it
place by place, and it is proved once, of `ensureUnit`. Saving either fails with no more than that
done or replaces the whole unit in one step, which `save_cases` says. So there is no state in which
a unit that was there has lost something to a save that failed.

Ids that are no names are refused before the disk is looked at, the agent first.

## Main definitions

* `FlatFile.unitWay`: The directories on the way to a unit.
* `FlatFile.IsPrepared`: A disk that a unit has been prepared on, and no more.
* `FlatFile.SparesOthers`: No file but a unit is different.
* `FlatFile.Refuses`: Every operation on a scope fails alike, without a change.

## Theorems

* `ensureUnit_isPrepared`: What preparing a unit may do.
* `save_cases`: A save fails with its unit prepared, or writes it.
* `operations_footprint`: The operations keep to their own unit.
-/

namespace Colloquy

namespace FlatFile

/-- The places that are entered when the directory of a unit is made. -/
def unitWay (disk : Disk) (path : String) : List Place :=
  let parent := (Path.parent? path).getD ""
  Disk.way (disk.start parent) (Path.steps parent)

/-- What may have become of a place when a unit was prepared: nothing, a directory on the way to the
    unit where nothing stood, or an empty unit where nothing stood. -/
inductive PreparedAt (path : String) (disk disk' : Disk) (place : Place) : Prop where
  | kept (h : disk'.entry? place = disk.entry? place)
  | directory (hmem : place ∈ unitWay disk path) (hbefore : disk.entry? place = none)
      (hafter : disk'.entry? place = some .directory)
  | unit (hplace : place = disk.destination path) (hbefore : disk.entry? place = none)
      (hafter : disk'.entry? place = some (.file .empty))

/-- A disk that the unit at a path has been prepared on, as far as it went, and nothing else. -/
structure IsPrepared (path : String) (disk disk' : Disk) : Prop where
  here : disk'.here = disk.here
  place : ∀ place, PreparedAt path disk disk' place

/-- No file is new, gone or different, except maybe the unit at a path. -/
def SparesOthers (path : String) (disk disk' : Disk) : Prop :=
  ∀ place, place ≠ disk.destination path → ∀ content,
    disk'.entry? place = some (.file content) ↔ disk.entry? place = some (.file content)

/-- Every operation on the predicates of a scope fails in this way, without a change. -/
structure Refuses (store : FlatFile) (disk : Disk) (scope : Scope) (error : StoreError) :
    Prop where
  load (name : String) : store.load disk scope name = (.error error, disk)
  save (header name value : String) :
    store.save disk header scope name value = (.error error, disk)
  predicates : store.predicates disk scope = (.error error, disk)

theorem refuses_of_pathFor {store : FlatFile} {scope : Scope} {error : StoreError}
    (h : store.pathFor scope = .error error) (disk : Disk) : store.Refuses disk scope error := by
  have hpredicates : store.predicates disk scope = (.error error, disk) := by
    rw [FlatFile.predicates, h]
  refine ⟨fun name => ?_, fun header name value => ?_, hpredicates⟩
  · rw [FlatFile.load, hpredicates]
  · rw [FlatFile.save, h]

/-- A unit that has been prepared is the only file that may be new. -/
theorem IsPrepared.sparesOthers {path : String} {disk disk' : Disk}
    (h : IsPrepared path disk disk') : SparesOthers path disk disk' := by
  intro place hplace content
  cases h.place place with
  | kept hkept => rw [hkept]
  | directory _ hbefore hafter => simp [hbefore, hafter]
  | unit heq _ _ => exact absurd heq hplace

/-- Directories on the way to a unit are the first half of preparing it. -/
theorem isPrepared_of_altered {path : String} {disk disk' : Disk}
    (h : Disk.Altered (unitWay disk path) [] disk disk') : IsPrepared path disk disk' := by
  refine ⟨h.here, fun place => ?_⟩
  cases h.fate place with
  | kept hkept => exact .kept hkept
  | made hmem hbefore hafter _ => exact .directory hmem hbefore hafter
  | written hmem _ _ => exact absurd hmem List.not_mem_nil

/-- Making the file of a unit is the second half. -/
theorem IsPrepared.touch {path : String} {disk between disk' : Disk}
    (h : Disk.Altered (unitWay disk path) [] disk between)
    (htouch : between.touch path = .ok disk') : IsPrepared path disk disk' := by
  have htouched := Disk.touch_altered htouch
  refine ⟨htouched.here.trans h.here, fun place => ?_⟩
  have hprepared := (isPrepared_of_altered h).place place
  rcases Disk.touch_eq_ok htouch with ⟨content, _, _, hafter, hbetween⟩
  rw [h.destination_eq] at htouched hafter hbetween
  by_cases hplace : place = disk.destination path
  · subst hplace
    rcases hbetween with hfile | ⟨hnone, rfl⟩
    · -- The file was there, and it was no directory that was made first.
      have hbefore := (h.file_of_not_mem List.not_mem_nil content).mp hfile
      exact .kept (hafter.trans hbefore.symm)
    · cases hprepared with
      | kept hkept => exact .unit rfl (hkept.symm.trans hnone) hafter
      | directory _ _ hmade =>
          -- A directory would have been found here.
          rw [hnone] at hmade
          cases hmade
      | unit _ _ hmade =>
          rw [hnone] at hmade
          cases hmade
  · have hkept := htouched.entry?_of_not_mem List.not_mem_nil
      fun hmem => hplace (List.mem_singleton.mp hmem)
    cases hprepared with
    | kept hsame => exact .kept (hkept.trans hsame)
    | directory hmem hbefore hmade => exact .directory hmem hbefore (hkept.trans hmade)
    | unit heq _ _ => exact absurd heq hplace

/-- Preparing a unit leaves it prepared, however far it goes. -/
theorem ensureUnit_isPrepared (disk : Disk) (path : String) :
    IsPrepared path disk (ensureUnit disk path).2 := by
  have hmake := Disk.makeDirectories_altered disk ((Path.parent? path).getD "")
  rw [ensureUnit]
  -- Whether directories were made or not, nothing else was touched on the way.
  rcases hmade : disk.makeDirectories ((Path.parent? path).getD "") with ⟨result, between⟩
  rw [hmade] at hmake
  cases result with
  | error fault => exact isPrepared_of_altered hmake
  | ok u =>
      dsimp only
      cases htouch : between.touch path with
      | error fault => exact isPrepared_of_altered hmake
      | ok touched => exact .touch hmake htouch

/-- Reading a unit does no more than preparing it. -/
theorem readUnit_snd (disk : Disk) (path : String) :
    (readUnit disk path).2 = (ensureUnit disk path).2 := by
  rw [readUnit]
  rcases ensureUnit disk path with ⟨result, prepared⟩
  cases result with
  | error error => rfl
  | ok u =>
      dsimp only
      split <;> rfl

theorem load_snd (store : FlatFile) (disk : Disk) (scope : Scope) (name : String) :
    (store.load disk scope name).2 = (store.predicates disk scope).2 := by
  rw [load]
  rcases store.predicates disk scope with ⟨result, after⟩
  cases result <;> rfl

section Unit

variable {store : FlatFile} {scope : Scope} {path : String}
  (hpath : store.pathFor scope = .ok path) (disk : Disk)
include hpath

theorem predicates_snd : (store.predicates disk scope).2 = (ensureUnit disk path).2 := by
  rw [predicates, hpath]
  exact readUnit_snd disk path

/-- A save fails with its unit prepared and no more, or it writes its unit after that. -/
theorem save_cases (header name value : String) :
    (∃ error, store.save disk header scope name value = (.error error, (ensureUnit disk path).2)) ∨
      ∃ content disk', (ensureUnit disk path).2.write path content = .ok disk' ∧
        store.save disk header scope name value = (.ok path, disk') := by
  rw [← readUnit_snd, save, hpath]
  dsimp only
  rcases readUnit disk path with ⟨result, prepared⟩
  cases result with
  | error error => exact .inl ⟨error, rfl⟩
  | ok predicates =>
      dsimp only
      rw [writeUnit]
      split
      · -- The text may be refused or the disk may fail, and nothing is written then.
        rename_i failed hwrite
        split at hwrite
        · cases hwrite
          exact .inl ⟨_, rfl⟩
        · split at hwrite
          · cases hwrite
            exact .inl ⟨_, rfl⟩
          · cases hwrite
      · rename_i written hwrite
        split at hwrite
        · cases hwrite
        · split at hwrite
          · cases hwrite
          · rename_i hwritten
            cases hwrite
            exact .inr ⟨_, _, hwritten, rfl⟩

theorem save_sparesOthers (header name value : String) :
    SparesOthers path disk (store.save disk header scope name value).2 := by
  have hprepared := ensureUnit_isPrepared disk path
  rcases save_cases hpath disk header name value with ⟨error, hsave⟩ |
    ⟨content, disk', hwrite, hsave⟩
  · rw [hsave]
    exact hprepared.sparesOthers
  · rw [hsave]
    intro place hplace other
    -- The write only changes the unit, and its path leads where it led before.
    have hwritten := Disk.write_altered hwrite
    have hdestination : (ensureUnit disk path).2.destination path = disk.destination path := by
      rw [Disk.destination, Disk.start, hprepared.here, Disk.destination, Disk.start]
    rw [hdestination] at hwritten
    have hmem : place ∉ [disk.destination path] := fun hmem =>
      hplace (List.mem_singleton.mp hmem)
    exact (hwritten.file_of_not_mem hmem other).trans (hprepared.sparesOthers place hplace other)

theorem save_isPrepared_of_error {header name value : String} {error : StoreError}
    (hfail : (store.save disk header scope name value).1 = .error error) :
    IsPrepared path disk (store.save disk header scope name value).2 := by
  rcases save_cases hpath disk header name value with ⟨other, hsave⟩ | ⟨content, disk', _, hsave⟩
  · rw [hsave]
    exact ensureUnit_isPrepared disk path
  · rw [hsave] at hfail
    cases hfail

end Unit

/-- The operations of a store keep to the unit of the scope that they are asked about, and those
    that fail change no data. An id that is no name is refused, the agent before the user, and the
    disk stays as it was. Otherwise no other file is touched; reading changes no file at all and
    makes at most the unit, empty, and the directories on the way to it; and a save that fails does
    no more than that. Counting users returns no disk because it never changes one. -/
theorem operations_footprint (store : FlatFile) (disk : Disk) (scope : Scope)
    (header name value : String) :
    (isComponent scope.agent = false →
      store.Refuses disk scope (.invalidIdentifier .agent scope.agent) ∧
      store.userCount disk scope.agent = .error (.invalidIdentifier .agent scope.agent)) ∧
    (isComponent scope.agent = true → isComponent scope.user = false →
      store.Refuses disk scope (.invalidIdentifier .user scope.user)) ∧
    (isComponent scope.agent = true → isComponent scope.user = true →
      ∃ path, store.pathFor scope = .ok path ∧
        SparesOthers path disk (store.load disk scope name).2 ∧
        SparesOthers path disk (store.save disk header scope name value).2 ∧
        SparesOthers path disk (store.predicates disk scope).2 ∧
        IsPrepared path disk (store.load disk scope name).2 ∧
        IsPrepared path disk (store.predicates disk scope).2 ∧
        ∀ error, (store.save disk header scope name value).1 = .error error →
          IsPrepared path disk (store.save disk header scope name value).2) := by
  refine ⟨fun hagent => ⟨refuses_of_pathFor ?_ disk, ?_⟩, fun hagent huser =>
    refuses_of_pathFor ?_ disk, fun hagent huser => ?_⟩
  · rw [pathFor, checkComponent, hagent]
    rfl
  · rw [userCount, checkComponent, hagent]
    rfl
  · rw [pathFor, checkComponent, checkComponent, hagent, huser]
    rfl
  · -- With both names in order there is one path, and everything is done there.
    have hpath : store.pathFor scope = .ok (store.unitPath scope) := pathFor_eq ⟨hagent, huser⟩
    have hpredicates : IsPrepared (store.unitPath scope) disk (store.predicates disk scope).2 := by
      rw [predicates_snd hpath]
      exact ensureUnit_isPrepared disk _
    have hload : IsPrepared (store.unitPath scope) disk (store.load disk scope name).2 := by
      rw [load_snd]
      exact hpredicates
    exact ⟨_, hpath, hload.sparesOthers, save_sparesOthers hpath disk header name value,
      hpredicates.sparesOthers, hload, hpredicates,
      fun _ hfail => save_isPrepared_of_error hpath disk hfail⟩

/-- A unit that is no text can be neither read nor saved, and keeps its bytes. -/
example :
    let store : FlatFile := ⟨"ffm", ".predicates"⟩
    let disk : Disk := { entries := [(["ffm"], .directory), (["ffm", "aria"], .directory),
      (["ffm", "aria", "alice.predicates"], .file ⟨#[0xFF]⟩)] }
    let after := store.save disk "" ⟨"alice", "aria"⟩ "mood" "fine"
    after.1 = .error (.io "ffm/aria/alice.predicates" .notText) ∧
      Disk.entry? after.2 ["ffm", "aria", "alice.predicates"] = some (.file ⟨#[0xFF]⟩) := by
  decide +kernel

end FlatFile

end Colloquy
