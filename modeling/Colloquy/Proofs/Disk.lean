import Colloquy.Disk
import Colloquy.Proofs.Path

/-!
# What Operations on the Disk Find and Change

The operations of the disk, place by place.

Where a path leads is a matter of its steps alone: `reach` follows them on the names and asks the
disk nothing. The disk decides only whether one gets there, and for that it has to have directories
at the places that the steps down enter on the way. `way` lists those places. Making directories
puts them there and touches nothing else, and after that the path leads where its steps say. So the
two halves of an access, making the way and following it, meet in the same list.

The facts are stated for disks without limits on names and paths. A limit is a property of the disk
and not of what stands on it, and no operation changes it.

## Main definitions

* `Disk.reach`: The place that steps lead to.
* `Disk.way`: The places that steps enter on the way.
* `Disk.IsUnlimited`: A disk that takes names and paths of any length.
* `Disk.Carved`: What making directories changes.

## Theorems

* `reach_join`: Where a path with a name behind it leads.
* `entry?_put`: Writing one place says nothing about another.
* `carve_carved`: Directories are made if no file is in the way.
* `enter_eq_reach`, `locate_eq_reach`: A path leads where its steps say.
* `touch_directory`, `touch_missing`, `touch_file`, `write_file`, `readText_file`: Files at a place
  that a path leads to.
-/

namespace Colloquy

namespace Disk

/-- Equal places are the same place. -/
instance instLawfulBEqPlace : LawfulBEq Place := inferInstance

/-- The place that a step leads to. -/
def follow : Place → Step → Place
  | at_, .up => at_.dropLast
  | at_, .down name => at_ ++ [name]

/-- The place that steps lead to. -/
def reach (at_ : Place) (steps : List Step) : Place := steps.foldl follow at_

/-- The places that steps enter on the way, each of which has to be a directory. -/
def way : Place → List Step → List Place
  | _, [] => []
  | at_, .up :: rest => way at_.dropLast rest
  | at_, .down name :: rest => (at_ ++ [name]) :: way (at_ ++ [name]) rest

theorem reach_append (at_ : Place) (steps more : List Step) :
    reach at_ (steps ++ more) = reach (reach at_ steps) more :=
  List.foldl_append

theorem way_append (at_ : Place) (steps more : List Step) :
    way at_ (steps ++ more) = way at_ steps ++ way (reach at_ steps) more := by
  induction steps generalizing at_ with
  | nil => rfl
  | cons step steps ih =>
      cases step with
      | up => exact ih at_.dropLast
      | down name => exact congrArg ((at_ ++ [name]) :: ·) (ih (at_ ++ [name]))

/-- A path with a name behind it starts where the path starts. -/
theorem start_join (disk : Disk) {name : String} (hname : Path.IsName name) (base : String) :
    disk.start (Path.join base name) = disk.start base := by
  rw [start, Path.isAbsolute_join hname, start]

/-- It leads to that name in the place that the path leads to. -/
theorem reach_join (disk : Disk) {name : String} (hname : Path.IsName name) (base : String) :
    reach (disk.start (Path.join base name)) (Path.steps (Path.join base name))
      = reach (disk.start base) (Path.steps base) ++ [name] := by
  rw [start_join disk hname, Path.steps_join hname, reach_append]
  rfl

theorem lookup_filter_ne {κ α : Type} [BEq κ] [LawfulBEq κ] [DecidableEq κ]
    (entries : List (κ × α)) {key other : κ} (h : other ≠ key) :
    (entries.filter (·.1 ≠ key)).lookup other = entries.lookup other := by
  induction entries with
  | nil => rfl
  | cons entry entries ih =>
      by_cases hentry : entry.1 = key
      · -- What is taken out is not what is looked up.
        have hne : other ≠ entry.1 := fun he => h (he.trans hentry)
        rw [List.filter_cons, if_neg (by simp only [hentry, ne_eq, not_true, decide_false,
          Bool.false_eq_true, not_false_eq_true]), ih, List.lookup_cons, beq_false_of_ne hne]
      · rw [List.filter_cons, if_pos (decide_eq_true hentry), List.lookup_cons, List.lookup_cons,
          ih]

/-- Every place but the top is looked up. -/
theorem entry?_of_ne_nil (disk : Disk) {place : Place} (h : place ≠ []) :
    disk.entry? place = disk.entries.lookup place := if_neg h

/-- On a disk without entries nothing stands but the top. -/
theorem entry?_bare {place : Place} (h : place ≠ []) : Disk.entry? {} place = none :=
  entry?_of_ne_nil {} h

/-- Writing one place says nothing about another. -/
theorem entry?_put (disk : Disk) {place : Place} (h : place ≠ []) (entry : Entry)
    (other : Place) :
    Disk.entry? (disk.put place entry) other
      = if other = place then some entry else disk.entry? other := by
  by_cases hother : other = place
  · rw [if_pos hother, hother, entry?, if_neg h, put, List.lookup_cons_self]
  · rw [if_neg hother, entry?, entry?, put, List.lookup_cons, beq_false_of_ne hother,
      lookup_filter_ne _ hother]

/-- A disk that takes names and paths of any length. -/
structure IsUnlimited (disk : Disk) : Prop where
  names : disk.nameLimit = none
  paths : disk.pathLimit = none

theorem IsUnlimited.isTooLong_eq {disk : Disk} (h : disk.IsUnlimited) (name : String) :
    disk.isTooLong name = false := by
  rw [isTooLong, h.names]

theorem IsUnlimited.isOverlong_eq {disk : Disk} (h : disk.IsUnlimited) (path : String) :
    disk.isOverlong path = false := by
  rw [isOverlong, h.paths]

/-- What making directories at places changes: they stand there, and nothing else is new. -/
structure Carved (places : List Place) (disk disk' : Disk) : Prop where
  here : disk'.here = disk.here
  nameLimit : disk'.nameLimit = disk.nameLimit
  pathLimit : disk'.pathLimit = disk.pathLimit
  made : ∀ place ∈ places, disk'.entry? place = some .directory
  kept : ∀ place, place ∉ places → disk'.entry? place = disk.entry? place

theorem Carved.isUnlimited {places : List Place} {disk disk' : Disk}
    (h : Carved places disk disk') (hdisk : disk.IsUnlimited) : disk'.IsUnlimited :=
  ⟨h.nameLimit.trans hdisk.names, h.pathLimit.trans hdisk.paths⟩

/-- One more directory, which is there already or is put there first. -/
theorem Carved.cons {place : Place} {places : List Place} {disk between disk' : Disk}
    (hbetween : Carved [place] disk between) (h : Carved places between disk') :
    Carved (place :: places) disk disk' := by
  refine ⟨h.here.trans hbetween.here, h.nameLimit.trans hbetween.nameLimit,
    h.pathLimit.trans hbetween.pathLimit, ?_, ?_⟩
  · intro other hother
    -- The later directories may take in the first one again.
    by_cases hmem : other ∈ places
    · exact h.made other hmem
    · rcases List.mem_cons.mp hother with rfl | hrest
      · rw [h.kept other hmem]
        exact hbetween.made other List.mem_cons_self
      · exact absurd hrest hmem
  · intro other hother
    rw [List.mem_cons, not_or] at hother
    rw [h.kept other hother.2]
    exact hbetween.kept other fun hmem => hother.1 (List.mem_singleton.mp hmem)

theorem carved_self {disk : Disk} {place : Place} (h : disk.entry? place = some .directory) :
    Carved [place] disk disk := by
  refine ⟨rfl, rfl, rfl, fun other hother => ?_, fun _ _ => rfl⟩
  rw [List.mem_singleton.mp hother]
  exact h

theorem carved_put (disk : Disk) {place : Place} (h : place ≠ []) :
    Carved [place] disk (disk.put place .directory) := by
  refine ⟨rfl, rfl, rfl, fun other hother => ?_, fun other hother => ?_⟩
  · rw [entry?_put disk h, if_pos (List.mem_singleton.mp hother)]
  · rw [entry?_put disk h, if_neg fun he => hother (List.mem_singleton.mpr he)]

/-- Directories are made along steps if no file is in the way. -/
theorem carve_carved (steps : List Step) (disk : Disk) (at_ : Place) (hdisk : disk.IsUnlimited)
    (h : ∀ place ∈ way at_ steps, ∀ content, disk.entry? place ≠ some (.file content)) :
    ∃ disk', disk.carve at_ steps = (.ok (), disk') ∧ Carved (way at_ steps) disk disk' := by
  induction steps generalizing disk at_ with
  | nil =>
      exact ⟨disk, rfl, rfl, rfl, rfl, fun _ hmem => absurd hmem List.not_mem_nil, fun _ _ => rfl⟩
  | cons step steps ih =>
      cases step with
      | up => exact ih disk at_.dropLast hdisk h
      | down name =>
          have hne : at_ ++ [name] ≠ [] := List.concat_ne_nil _ _
          rw [carve]
          rcases hentry : disk.entry? (at_ ++ [name]) with _ | entry
          · -- Nothing is there, so the directory is put there before going on.
            have hput := carved_put disk hne
            have hfree : ∀ place ∈ way (at_ ++ [name]) steps, ∀ content,
                Disk.entry? (disk.put (at_ ++ [name]) .directory) place ≠ some (.file content) := by
              intro place hplace content
              rw [entry?_put disk hne]
              by_cases hsame : place = at_ ++ [name]
              · rw [if_pos hsame]
                exact fun hcontra => by cases hcontra
              · rw [if_neg hsame]
                exact h place (List.mem_cons_of_mem _ hplace) content
            rcases ih _ (at_ ++ [name]) (hput.isUnlimited hdisk) hfree with ⟨disk', hok, hcarved⟩
            refine ⟨disk', ?_, hput.cons hcarved⟩
            simp only [hdisk.isTooLong_eq, Bool.false_eq_true, if_false]
            exact hok
          · cases entry with
            | file content =>
                -- A file would be in the way, and there is none.
                exact absurd hentry (h _ List.mem_cons_self content)
            | directory =>
                -- It is there already, and making it again changes nothing.
                rcases ih disk (at_ ++ [name]) hdisk
                  (fun place hplace => h place (List.mem_cons_of_mem _ hplace)) with
                  ⟨disk', hok, hcarved⟩
                exact ⟨disk', hok, (carved_self hentry).cons hcarved⟩

/-- Steps lead where they say if there are directories on the way. -/
theorem enter_eq_reach (steps : List Step) (disk : Disk) (at_ : Place)
    (h : ∀ place ∈ way at_ steps, disk.entry? place = some .directory) :
    disk.enter at_ steps = .ok (reach at_ steps) := by
  induction steps generalizing at_ with
  | nil => rfl
  | cons step steps ih =>
      cases step with
      | up => exact ih at_.dropLast h
      | down name =>
          -- Going down asks for a directory at the place that is gone to.
          rw [enter, h _ List.mem_cons_self]
          exact ih (at_ ++ [name]) fun place hplace => h place (List.mem_cons_of_mem _ hplace)

/-- A path that ends in a name leads to that name where the steps before it lead. -/
theorem locate_eq_reach {disk : Disk} {path name : String} {steps : List Step}
    (hdisk : disk.IsUnlimited) (hpath : path.isEmpty = false) (hnul : '\x00' ∉ path.toList)
    (hsteps : Path.steps path = steps ++ [.down name])
    (h : ∀ place ∈ way (disk.start path) steps, disk.entry? place = some .directory) :
    disk.locate path = .ok (reach (disk.start path) steps ++ [name]) := by
  have hcontains : path.toList.contains '\x00' = false := by
    rw [List.contains_eq_mem, decide_eq_false hnul]
  rw [locate, hpath, hcontains, hdisk.isOverlong_eq, hsteps, List.getLast?_concat,
    List.dropLast_concat]
  simp only [Bool.false_eq_true, if_false, hdisk.isTooLong_eq, enter_eq_reach steps disk _ h]

/-- No file can be made where a directory stands. -/
theorem touch_directory {disk : Disk} {path : String} {place : Place}
    (hlocate : disk.locate path = .ok place) (h : disk.entry? place = some .directory) :
    disk.touch path = .error .isDirectory := by
  rw [touch, target, hlocate]
  simp only [h]

section Files

variable {disk : Disk} {path : String} {place : Place}
  (hlocate : disk.locate path = .ok place) (hname : Path.namesDirectory path = false)
include hlocate hname

theorem target_missing (h : disk.entry? place = none) : disk.target path = .ok (place, none) := by
  rw [target, hlocate]
  simp only [h, hname, Bool.false_eq_true, if_false]

theorem target_file {content : ByteArray} (h : disk.entry? place = some (.file content)) :
    disk.target path = .ok (place, some content) := by
  rw [target, hlocate]
  simp only [h, hname, Bool.false_eq_true, if_false]

theorem touch_missing (h : disk.entry? place = none) :
    disk.touch path = .ok (disk.put place (.file .empty)) := by
  rw [touch, target_missing hlocate hname h]

theorem touch_file {content : ByteArray} (h : disk.entry? place = some (.file content)) :
    disk.touch path = .ok disk := by
  rw [touch, target_file hlocate hname h]

theorem write_file {content : ByteArray} (h : disk.entry? place = some (.file content))
    (bytes : ByteArray) : disk.write path bytes = .ok (disk.put place (.file bytes)) := by
  rw [write, target_file hlocate hname h]

theorem readText_file {text : String} {content : ByteArray}
    (h : disk.entry? place = some (.file content)) (htext : String.fromUTF8? content = some text) :
    disk.readText path = .ok text := by
  rw [readText, read, hlocate]
  simp only [h, hname, Bool.false_eq_true, if_false, htext]

end Files

end Disk

end Colloquy
