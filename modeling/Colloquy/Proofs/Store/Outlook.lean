import Colloquy.Proofs.Store.Runs
import Colloquy.Proofs.Store.Stored

/-!
# What a Store Will Answer

The answer to an access as a matter of what stands on the disk, errors included. `FlatFile.held`
says what a scope holds if it can be accessed. But a scope that cannot be accessed is answered too,
and if its conversation is not to notice what others do, it has to be refused for the same reason
each time.

So `FlatFile.outlook` reads the answer off the disk. A file in the way is the first obstacle, then a
directory in place of the unit, then a unit that is not text. What stands elsewhere does not matter,
and this is how the outlook of a scope survives what is done for other scopes: an access makes
directories where they are needed, which are in nobody's way, and writes its own unit.

To a store, then, a disk is no more than a function from scopes to outlooks, and its operations work
on that function. `Backend.outlook` is the same for either kind of store; memory has no obstacles.

## Main definitions

* `Disk.isFileAt`: Whether a file stands at a place.
* `FlatFile.outlook`: What an access to a scope is answered.
* `Backend.outlook`: The same for either kind of store.
* `FlatFile.Foreseen`, `Backend.Foreseen`: What an access turns out to be.

## Theorems

* `carve_blocked`: Directories cannot be made with a file in the way.
* `readUnit_error`: An access that is in for an error ends in it.
* `outlook_eq_of_altered`: Outlooks survive what happens elsewhere.
* `predicates_foreseen`, `load_foreseen`, `save_foreseen`: The operations of files, and of either
  kind of store.
-/

namespace Colloquy

namespace Disk

/-- Whether a file stands at a place. -/
def isFileAt (disk : Disk) (place : Place) : Bool :=
  match disk.entry? place with
  | some (.file _) => true
  | _ => false

theorem isFileAt_eq_false_iff {disk : Disk} {place : Place} :
    disk.isFileAt place = false ↔ ∀ content, disk.entry? place ≠ some (.file content) := by
  unfold isFileAt
  split
  · rename_i content hentry
    exact ⟨nofun, fun h => absurd hentry (h content)⟩
  · rename_i hentry
    exact ⟨fun _ => hentry, fun _ => rfl⟩

theorem isFileAt_of_file {disk : Disk} {place : Place} {content : ByteArray}
    (h : disk.entry? place = some (.file content)) : disk.isFileAt place = true := by
  rw [isFileAt, h]

/-- Whether a file stands at a place changes only if one is written there. -/
theorem Altered.isFileAt_eq {directories files : List Place} {disk disk' : Disk}
    (h : Altered directories files disk disk') {place : Place} (hmem : place ∉ files) :
    disk'.isFileAt place = disk.isFileAt place := by
  rw [isFileAt, isFileAt]
  cases h.fate place with
  | kept hkept => rw [hkept]
  | made _ hbefore hafter _ => rw [hbefore, hafter]
  | written hmem' _ _ => exact absurd hmem' hmem

/-- Directories cannot be made with a file in the way. A file at the last place is told from one on
    the way there. -/
theorem carve_blocked (steps : List Step) (name : String) (disk : Disk) (at_ : Place)
    (hdisk : disk.IsUnlimited) (h : (way at_ (steps ++ [.down name])).any disk.isFileAt = true) :
    (disk.carve at_ (steps ++ [.down name])).1
      = .error (if (way at_ steps).any disk.isFileAt then .notDirectory else .occupied) := by
  induction steps generalizing disk at_ with
  | nil =>
      -- Only the last step is left, and its place is where the file is.
      rw [List.nil_append, way, way, List.any_cons, List.any_nil, Bool.or_false] at h
      rw [List.nil_append, carve, way, List.any_nil]
      unfold isFileAt at h
      split at h
      · rename_i hentry
        rw [hentry]
        rfl
      · cases h
  | cons step steps ih =>
      cases step with
      | up => exact ih disk at_.dropLast hdisk h
      | down next =>
          rw [List.cons_append, way, List.any_cons] at h
          rw [List.cons_append, carve, way, List.any_cons]
          rcases hentry : disk.entry? (at_ ++ [next]) with _ | entry
          · -- The directory that is made here is no file, and it is not where the file is.
            have hput := altered_put_directory hentry fun other _ => hdisk.isTooLong_eq other
            have hfiles : Disk.isFileAt (disk.put (at_ ++ [next]) .directory) = disk.isFileAt :=
              funext fun place => hput.isFileAt_eq List.not_mem_nil
            have hnext : disk.isFileAt (at_ ++ [next]) = false := by
              refine isFileAt_eq_false_iff.mpr fun content hfile => ?_
              rw [hentry] at hfile
              cases hfile
            rw [hnext, Bool.false_or] at h ⊢
            rw [← hfiles] at h ⊢
            simp only [hdisk.isTooLong_eq, Bool.false_eq_true, if_false]
            exact ih _ (at_ ++ [next]) (hput.isUnlimited hdisk) h
          · cases entry with
            | file content =>
                -- A file where the way leads on stops it, whatever comes later.
                have hrest : (steps ++ [Step.down name]).isEmpty = false :=
                  List.isEmpty_eq_false_iff.mpr (List.concat_ne_nil _ _)
                simp only [isFileAt_of_file hentry, hrest, Bool.true_or, if_true,
                  Bool.false_eq_true, if_false]
            | directory =>
                have hnext : disk.isFileAt (at_ ++ [next]) = false := by
                  refine isFileAt_eq_false_iff.mpr fun content hfile => ?_
                  rw [hentry] at hfile
                  cases hfile
                rw [hnext, Bool.false_or] at h ⊢
                -- The directory is there already, so the file is further on.
                exact ih disk (at_ ++ [next]) hdisk h

end Disk

namespace FlatFile

/-- What an access to a scope is answered, by what stands on the disk. -/
def outlook (store : FlatFile) (disk : Disk) (scope : Scope) : Except StoreError Predicates :=
  match store.pathFor scope with
  | .error error => .error error
  | .ok path =>
    if (store.approach disk).any disk.isFileAt then
      .error (.io (store.agentPath scope.agent) .notDirectory)
    else if disk.isFileAt (store.agentPlace disk scope.agent) then
      .error (.io (store.agentPath scope.agent) .occupied)
    -- Where the way leads there is a directory by the time the unit is made.
    else if store.unitPlace disk scope ∈ store.approach disk then
      .error (.io path .isDirectory)
    else match disk.entry? (store.unitPlace disk scope) with
      | some .directory => .error (.io path .isDirectory)
      | some (.file content) =>
        match String.fromUTF8? content with
        | some text => .ok (UnitText.decode text)
        | none => .error (.io path .notText)
      | none => .ok ∅

section Outlook

variable {store : FlatFile} {disk disk' : Disk} {scope : Scope}

/-- A scope that is ready has its predicates before it. -/
theorem outlook_of_isReady (h : store.IsReady disk scope) :
    store.outlook disk scope = .ok (store.held disk scope) := by
  rcases h with ⟨hvalid, hclear, hapart⟩
  have hdirectories : ∀ place ∈ store.directories disk scope, disk.isFileAt place = false :=
    fun place hplace => Disk.isFileAt_eq_false_iff.mpr (hclear.directories place hplace)
  rw [directories, List.forall_mem_append, List.forall_mem_singleton] at hdirectories
  -- No file is in the way, so none of the errors is foreseen.
  have hway : (store.approach disk).any disk.isFileAt = false := by
    rw [List.any_eq_false]
    intro place hplace
    rw [hdirectories.1 place hplace, Bool.false_eq_true]
    exact not_false
  rw [outlook, pathFor_eq hvalid]
  simp only [hway, hdirectories.2, Bool.false_eq_true, if_false]
  rw [if_neg hapart, held]
  split
  · rename_i hentry
    exact absurd hentry hclear.unit
  · rename_i content hentry
    rcases Option.isSome_iff_exists.mp (hclear.text content hentry) with ⟨text, htext⟩
    simp only [hentry, htext, spelled]
    rfl
  · rename_i hentry
    simp only [hentry]

/-- Only a scope that is ready has predicates before it. -/
theorem isReady_of_outlook {predicates : Predicates}
    (h : store.outlook disk scope = .ok predicates) : store.IsReady disk scope := by
  by_cases hvalid : scope.IsValid
  · rw [outlook, pathFor_eq hvalid] at h
    simp only [] at h
    split at h
    · cases h
    split at h
    · cases h
    split at h
    · cases h
    -- Each error that is not foreseen is one thing that is not in the way.
    rename_i hway hagent hapart
    refine ⟨hvalid, ⟨fun place hplace => Disk.isFileAt_eq_false_iff.mp ?_, ?_, ?_⟩, hapart⟩
    · rw [directories, List.mem_append, List.mem_singleton] at hplace
      rcases hplace with hplace | rfl
      · exact Bool.eq_false_iff.mpr fun hfile => hway (List.any_eq_true.mpr ⟨place, hplace, hfile⟩)
      · exact Bool.eq_false_iff.mpr hagent
    · intro hentry
      rw [hentry] at h
      cases h
    · intro content hentry
      simp only [hentry] at h
      -- Content that is no text would be an error too.
      cases htext : String.fromUTF8? content with
      | some text => rfl
      | none =>
          rw [htext] at h
          cases h
  · rcases pathFor_invalid store hvalid with ⟨role, value, hpath⟩
    rw [outlook, hpath] at h
    cases h

/-- The outlook of a scope survives if no file is written where its directories and its unit are,
    and no directory is made in place of the unit, unless there will be one anyway. -/
theorem outlook_eq_of_altered {directories files : List Place}
    (h : Disk.Altered directories files disk disk')
    (happroach : ∀ place ∈ store.approach disk, place ∉ files)
    (hagent : store.agentPlace disk scope.agent ∉ files)
    (hunit : store.unitPlace disk scope ∉ files)
    (hdirectory : store.unitPlace disk scope ∈ directories →
      store.unitPlace disk scope ∈ store.approach disk) :
    store.outlook disk' scope = store.outlook disk scope := by
  have hway : (store.approach disk).any disk'.isFileAt
      = (store.approach disk).any disk.isFileAt := by
    rw [Bool.eq_iff_iff, List.any_eq_true, List.any_eq_true]
    refine exists_congr fun place => and_congr_right fun hplace => ?_
    rw [h.isFileAt_eq (happroach place hplace)]
  rw [outlook, outlook, approach_eq_of_here store h.here, agentPlace_eq_of_here store h.here,
    unitPlace_eq_of_here store h.here, hway, h.isFileAt_eq hagent]
  cases store.pathFor scope with
  | error error => rfl
  | ok path =>
      -- At a place on the way to the base directory the unit is not looked at.
      by_cases hmem : store.unitPlace disk scope ∈ store.approach disk
      · simp only [hmem, if_true]
      · rw [h.entry?_of_not_mem (fun h => hmem (hdirectory h)) hunit]

/-- Directories that a scope needs are in nobody's way. -/
theorem outlook_eq_of_directories {other : Scope}
    (h : Disk.Altered (store.directories disk other) [] disk disk') :
    store.outlook disk' = store.outlook disk :=
  funext fun _ => outlook_eq_of_altered h (fun _ _ => List.not_mem_nil) List.not_mem_nil
    List.not_mem_nil mem_approach_of_inside

/-- Nor is the unit of a scope in the way of another one. -/
theorem outlook_eq_of_units {other : Scope} (hother : other ≠ scope)
    (h : Disk.Altered (store.directories disk other) (store.units disk other) disk disk') :
    store.outlook disk' scope = store.outlook disk scope := by
  refine outlook_eq_of_altered h (fun place hplace hmem => ?_) (fun hmem => ?_) (fun hmem => ?_)
    mem_approach_of_inside
  · unfold units at hmem
    split at hmem
    · cases hmem
    · -- What is written is the unit of the other scope, and it lies apart from the base directory.
      rename_i hapart
      exact hapart (List.mem_singleton.mp hmem ▸ hplace)
  · have hplace := List.mem_singleton.mp (units_subset store disk other hmem)
    exact unitPlace_ne_agentPlace store disk other scope.agent hplace.symm
  · have hplace := List.mem_singleton.mp (units_subset store disk other hmem)
    exact hother (unitPlace_injective store disk hplace).symm

end Outlook

section Errors

variable {store : FlatFile} {disk : Disk} {scope : Scope} (hvalid : scope.IsValid)
  (husable : store.IsUsable disk)
include hvalid husable

/-- The directory of an agent cannot be made with a file in the way. -/
theorem makeDirectories_blocked
    (h : (store.directories disk scope).any disk.isFileAt = true) :
    (disk.makeDirectories (store.agentPath scope.agent)).1
      = .error (if (store.approach disk).any disk.isFileAt then .notDirectory else .occupied) := by
  have hcontains : (store.agentPath scope.agent).toList.contains '\x00' = false := by
    rw [List.contains_eq_mem, decide_eq_false (nul_not_mem_agentPath hvalid.1 husable)]
  rw [← way_agentPath hvalid, start_agentPath hvalid.1, steps_agentPath hvalid.1] at h
  rw [Disk.makeDirectories, hcontains, husable.unlimited.isOverlong_eq, start_agentPath hvalid.1,
    steps_agentPath hvalid.1]
  exact Disk.carve_blocked _ _ disk _ husable.unlimited h

/-- A file in the way ends an access. -/
theorem readUnit_blocked (h : (store.directories disk scope).any disk.isFileAt = true) :
    readUnit disk (store.unitPath scope)
      = (.error (.io (store.agentPath scope.agent)
          (if (store.approach disk).any disk.isFileAt then .notDirectory else .occupied)),
        (disk.makeDirectories (store.agentPath scope.agent)).2) := by
  have hblocked := makeDirectories_blocked hvalid husable h
  rw [readUnit, ensureUnit, parent_unitPath hvalid husable.suffix]
  rcases hmake : disk.makeDirectories (store.agentPath scope.agent) with ⟨result, disk'⟩
  rw [hmake] at hblocked
  rw [show result = _ from hblocked]

/-- So does a unit that is not text. -/
theorem readUnit_notText
    (hdirectories : ∀ place ∈ store.directories disk scope, ∀ content,
      disk.entry? place ≠ some (.file content))
    (hapart : store.IsApart disk scope) {content : ByteArray}
    (hentry : disk.entry? (store.unitPlace disk scope) = some (.file content))
    (htext : String.fromUTF8? content = none) :
    readUnit disk (store.unitPath scope)
      = (.error (.io (store.unitPath scope) .notText),
        (disk.makeDirectories (store.agentPath scope.agent)).2) := by
  rcases makeDirectories_agentPath hvalid husable hdirectories with ⟨between, hok, hcarved⟩
  have hlocate := locate_unitPath hvalid husable hcarved.here
    (hcarved.isUnlimited husable.unlimited) hcarved.made
  have hname : Path.namesDirectory (store.unitPath scope) = false :=
    Path.namesDirectory_join (isName_unitName hvalid husable.suffix) _
  -- Making directories has left the unit alone.
  have hkept : between.entry? (store.unitPlace disk scope) = some (.file content) := by
    rw [hcarved.kept _ (unitPlace_not_mem_directories hapart scope), hentry]
  have hread : between.read (store.unitPath scope) = .ok content := by
    rw [Disk.read, hlocate]
    simp only [hkept, hname, Bool.false_eq_true, if_false]
  rw [readUnit, ensureUnit, parent_unitPath hvalid husable.suffix, hok]
  simp only [Disk.touch_file hlocate hname hkept, Disk.readText, hread, htext]

/-- An access that is in for an error ends in it, and leaves no more than directories behind. -/
theorem readUnit_error {error : StoreError} (h : store.outlook disk scope = .error error) :
    readUnit disk (store.unitPath scope)
      = (.error error, (disk.makeDirectories (store.agentPath scope.agent)).2) := by
  rw [outlook, pathFor_eq hvalid] at h
  simp only [] at h
  -- The errors come in the order in which the disk meets them: files on the way, and then what is
  -- at the place of the unit.
  by_cases hblocked : (store.directories disk scope).any disk.isFileAt = true
  · have hread := readUnit_blocked hvalid husable hblocked
    rw [directories, List.any_append, List.any_cons, List.any_nil, Bool.or_false] at hblocked
    split at h
    · rename_i hway
      rw [hread, if_pos hway, ← h]
    · rename_i hway
      rw [Bool.eq_false_iff.mpr hway, Bool.false_or] at hblocked
      rw [if_pos hblocked] at h
      rw [hread, if_neg hway, ← h]
  · -- No file is in the way of the directories.
    have hfree : ∀ place ∈ store.directories disk scope, ∀ content,
        disk.entry? place ≠ some (.file content) :=
      fun place hplace => Disk.isFileAt_eq_false_iff.mp <| Bool.eq_false_iff.mpr fun hfile =>
        hblocked (List.any_eq_true.mpr ⟨place, hplace, hfile⟩)
    rw [directories, List.any_append, List.any_cons, List.any_nil, Bool.or_false, Bool.or_eq_true,
      not_or] at hblocked
    rw [if_neg hblocked.1, if_neg hblocked.2] at h
    by_cases hmem : store.unitPlace disk scope ∈ store.approach disk
    · rw [if_pos hmem] at h
      rw [readUnit_directory hvalid husable hfree (.inl hmem), ← h]
    · rw [if_neg hmem] at h
      split at h
      · rename_i hentry
        rw [readUnit_directory hvalid husable hfree (.inr hentry), ← h]
      · -- It is there and is read, so what is wrong with it is that it is no text.
        rename_i content hentry
        split at h
        · cases h
        · rename_i htext
          rw [readUnit_notText hvalid husable hfree hmem hentry htext, ← h]
      · cases h

end Errors

/-- What an access turns out to be: it is answered as foreseen, and then the outlooks are these. -/
structure Foreseen {α : Type} (store : FlatFile) (disk : Disk) (answer : Except StoreError α)
    (outlooks : Scope → Except StoreError Predicates) (outcome : Except StoreError α × Disk) :
    Prop where
  answer : outcome.1 = answer
  outlook : store.outlook outcome.2 = outlooks
  usable : store.IsUsable outcome.2
  here : outcome.2.here = disk.here

theorem Attempted.altered {α : Type} {store : FlatFile} {disk : Disk} {scope : Scope} {answer : α}
    {held : Scope → Predicates} {outcome : Except StoreError α × Disk}
    (h : store.Attempted disk scope answer held outcome) :
    Disk.Altered (store.directories disk scope) (store.units disk scope) disk outcome.2 := by
  cases h with
  | refused _ => exact .refl _ _ _
  | failed _ haltered _ => exact haltered
  | done _ _ haltered _ => exact haltered

section Operations

variable {store : FlatFile} {disk : Disk} (husable : store.IsUsable disk) (scope : Scope)
include husable

/-- An access that fails leaves the outlooks as they were. -/
theorem foreseen_error {α : Type} (hvalid : scope.IsValid) (error : StoreError) :
    store.Foreseen disk (.error error : Except StoreError α) (store.outlook disk)
      (.error error, (disk.makeDirectories (store.agentPath scope.agent)).2) := by
  have haltered := Disk.makeDirectories_altered disk (store.agentPath scope.agent)
  rw [way_agentPath hvalid] at haltered
  exact ⟨rfl, outlook_eq_of_directories haltered,
    ⟨husable.suffix, haltered.isUnlimited husable.unlimited, husable.base⟩, haltered.here⟩

/-- An access that succeeds changes the outlook of its scope to what the unit spells then. -/
theorem foreseen_ok {α : Type} (answer : α) {predicates : Predicates} {disk' : Disk}
    (hready : store.IsReady disk scope)
    (haltered : Disk.Altered (store.directories disk scope) (store.units disk scope) disk disk')
    (haccessed : store.Accessed scope predicates disk disk') :
    store.Foreseen disk (.ok answer) (Function.update (store.outlook disk) scope (.ok predicates))
      (.ok answer, disk') := by
  refine ⟨rfl, ?_, haccessed.isUsable husable, haccessed.here⟩
  -- The scope itself has what was accessed, and the others are told nothing new.
  funext other
  by_cases hother : other = scope
  · rw [hother, Function.update_self, outlook_of_isReady (haccessed.isReady hready.apart hready),
      haccessed.held_eq hready.clear, Function.update_self]
  · rw [Function.update_of_ne hother, outlook_eq_of_units (Ne.symm hother) haltered]

/-- Reading all predicates is answered by the outlook, and changes none. -/
theorem predicates_foreseen :
    store.Foreseen disk (store.outlook disk scope) (store.outlook disk)
      (store.predicates disk scope) := by
  by_cases hvalid : scope.IsValid
  · cases houtlook : store.outlook disk scope with
    | error error =>
        rw [predicates, pathFor_eq hvalid]
        simp only [readUnit_error hvalid husable houtlook]
        exact foreseen_error husable scope hvalid error
    | ok predicates =>
        have hready := isReady_of_outlook houtlook
        have haltered := (predicates_attempted husable.suffix disk scope).altered
        rcases predicates_accessed hvalid husable hready.clear hready.apart with
          ⟨disk', hok, haccessed⟩
        rw [outlook_of_isReady hready, Except.ok.injEq] at houtlook
        rw [hok] at haltered ⊢
        have hforeseen := foreseen_ok husable scope (store.held disk scope) hready haltered
          haccessed
        rw [← houtlook]
        rwa [← outlook_of_isReady hready, Function.update_eq_self,
          outlook_of_isReady hready] at hforeseen
  · rcases pathFor_invalid store hvalid with ⟨role, value, hpath⟩
    have houtlook : store.outlook disk scope = .error (.invalidIdentifier role value) := by
      rw [outlook, hpath]
    rw [predicates, hpath, houtlook]
    exact ⟨rfl, rfl, husable, rfl⟩

/-- Reading one predicate is answered by the outlook too. -/
theorem load_foreseen (name : String) :
    store.Foreseen disk ((store.outlook disk scope).map (·.get? name)) (store.outlook disk)
      (store.load disk scope name) := by
  have hforeseen := predicates_foreseen husable scope
  rw [load]
  generalize store.predicates disk scope = outcome at hforeseen ⊢
  rcases outcome with ⟨result, disk'⟩
  rw [← hforeseen.answer]
  cases result <;> exact ⟨rfl, hforeseen.outlook, hforeseen.usable, hforeseen.here⟩

/-- Saving succeeds if the outlook is no error, and sets one predicate there. -/
theorem save_foreseen (moment : Moment) (name value : String) :
    store.Foreseen disk ((store.outlook disk scope).map fun _ => store.unitPath scope)
      (Function.update (store.outlook disk) scope
        ((store.outlook disk scope).map (·.insert name value)))
      (store.save disk moment.mailText scope name value) := by
  by_cases hvalid : scope.IsValid
  · cases houtlook : store.outlook disk scope with
    | error error =>
        rw [save, pathFor_eq hvalid]
        simp only [readUnit_error hvalid husable houtlook]
        rw [Except.map, Except.map, ← houtlook, Function.update_eq_self]
        exact foreseen_error husable scope hvalid error
    | ok predicates =>
        have hready := isReady_of_outlook houtlook
        have haltered := (save_attempted husable.suffix disk scope moment name value).altered
        rcases save_accessed hvalid husable hready.clear hready.apart moment name value with
          ⟨disk', hok, haccessed⟩
        have hheld := outlook_of_isReady hready
        rw [houtlook, Except.ok.injEq] at hheld
        rw [hok] at haltered ⊢
        rw [← hheld] at haccessed
        exact foreseen_ok husable scope _ hready haltered haccessed
  · rcases pathFor_invalid store hvalid with ⟨role, value', hpath⟩
    have houtlook : store.outlook disk scope = .error (.invalidIdentifier role value') := by
      rw [outlook, hpath]
    rw [save, hpath, houtlook, Except.map, Except.map, ← houtlook, Function.update_eq_self]
    exact ⟨rfl, rfl, husable, rfl⟩

end Operations

end FlatFile

namespace Backend

/-- What an access to a scope is answered. -/
def outlook (backend : Backend) (world : World) (scope : Scope) : Except StoreError Predicates :=
  match backend with
  | .memory => .ok (world.memory.predicates scope)
  | .files store => store.outlook world.disk scope

/-- Only what stands on the disk can make an operation fail. -/
def IsUsable (backend : Backend) (disk : Disk) : Prop :=
  match backend with
  | .memory => True
  | .files store => store.IsUsable disk

/-- What an access turns out to be: it is answered as foreseen, and changes the outlook of its scope
    to this. -/
structure Foreseen {α : Type} (backend : Backend) (world : World) (scope : Scope)
    (answer : Except StoreError α) (next : Except StoreError Predicates)
    (outcome : Except StoreError α × World) : Prop where
  answer : outcome.1 = answer
  outlook : backend.outlook outcome.2 = Function.update (backend.outlook world) scope next
  usable : backend.IsUsable outcome.2.disk
  here : outcome.2.disk.here = world.disk.here

section Operations

variable {backend : Backend} {world : World} (husable : backend.IsUsable world.disk) (scope : Scope)
include husable

/-- Reading all predicates is answered by the outlook. -/
theorem predicates_foreseen :
    backend.Foreseen world scope (backend.outlook world scope) (backend.outlook world scope)
      (backend.predicates scope world) := by
  cases backend with
  | memory => exact ⟨rfl, (Function.update_eq_self ..).symm, trivial, rfl⟩
  | files store =>
      rcases FlatFile.predicates_foreseen husable scope with ⟨hanswer, houtlook, husable', hhere⟩
      exact ⟨hanswer, houtlook.trans (Function.update_eq_self ..).symm, husable', hhere⟩

/-- Reading one predicate is answered by the outlook. -/
theorem load_foreseen (name : String) :
    backend.Foreseen world scope ((backend.outlook world scope).map (·.get? name))
      (backend.outlook world scope) (backend.load scope name world) := by
  cases backend with
  | memory => exact ⟨rfl, (Function.update_eq_self ..).symm, trivial, rfl⟩
  | files store =>
      rcases FlatFile.load_foreseen husable scope name with ⟨hanswer, houtlook, husable', hhere⟩
      exact ⟨hanswer, houtlook.trans (Function.update_eq_self ..).symm, husable', hhere⟩

/-- Saving sets one predicate in the outlook. -/
theorem save_foreseen (name value : String) :
    backend.Foreseen world scope ((backend.outlook world scope).map fun _ => ())
      ((backend.outlook world scope).map (·.insert name value))
      (backend.save scope name value world) := by
  cases backend with
  | memory =>
      refine ⟨rfl, ?_, trivial, rfl⟩
      funext other
      have hsaved := congrFun (Memory.predicates_save world.memory scope name value) other
      by_cases hother : other = scope
      · subst hother
        rw [Function.update_self] at hsaved ⊢
        exact congrArg Except.ok hsaved
      · rw [Function.update_of_ne hother] at hsaved ⊢
        exact congrArg Except.ok hsaved
  | files store =>
      have hforeseen := FlatFile.save_foreseen husable scope world.now name value
      rw [save]
      rcases hforeseen with ⟨hanswer, houtlook, husable', hhere⟩
      generalize store.save world.disk world.now.mailText scope name value = outcome
        at hanswer houtlook husable' hhere ⊢
      rcases outcome with ⟨result, disk'⟩
      change result = _ at hanswer
      subst hanswer
      rw [outlook]
      cases hbefore : store.outlook world.disk scope <;>
        exact ⟨rfl, houtlook.trans (by rw [hbefore]; rfl), husable', hhere⟩

end Operations

/-- Nor does the time. -/
theorem outlook_now (backend : Backend) (world : World) (now : Moment) :
    backend.outlook { world with now } = backend.outlook world := by
  cases backend <;> rfl

end Backend

end Colloquy
