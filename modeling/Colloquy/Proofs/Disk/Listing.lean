import Colloquy.Proofs.Disk.Alteration
import Colloquy.Proofs.Path
import Mathlib.Data.List.Nodup

/-!
# Listing a Directory

What the names in a directory are, and that every name is listed once.

A disk is a list of places with what stands there. Looking a place up finds the first entry for it,
so nobody who only reads and writes would notice a second one; but whoever lists a directory would
see its name twice. Every operation puts things where it has taken out what was there before, and so
a place that is listed once at most stays that way. This is a fact about the list and not about what
`Disk.entry?` finds, and `Disk.Altered` cannot say it.

## Main definitions

* `Disk.IsOnce`: A place is listed once at most.

## Theorems

* `mem_children_iff`: The names in a directory are those of the places where something stands.
* `nodup_children`: Every name is listed once.
* `IsOnce.put`, `IsOnce.makeDirectories`, `IsOnce.touch`, `IsOnce.write`: Operations list no place
  twice.
* `list_directory`, `list_missing`: Listing a directory, and one that is not there.
* `isName_of_mem_way`: What is entered on the way has a proper name.
-/

namespace Colloquy

namespace Disk

/-- A place is listed once at most. -/
def IsOnce (disk : Disk) (place : Place) : Prop :=
  (disk.entries.map (·.1)).count place ≤ 1

/-- The name of a place in the directory at `place`, if it is in that directory. -/
def childOf? (place other : Place) : Option String :=
  match other.getLast? with
  | some name => if other.dropLast = place then some name else none
  | none => none

theorem childOf?_eq_some_iff {place other : Place} {name : String} :
    childOf? place other = some name ↔ other = place ++ [name] := by
  rcases List.eq_nil_or_concat other with rfl | ⟨front, last, rfl⟩
  · exact ⟨nofun, fun h => absurd h.symm (List.concat_ne_nil _ _)⟩
  · rw [List.concat_eq_append, childOf?, List.getLast?_concat, List.dropLast_concat]
    simp only [Option.ite_none_right_eq_some, Option.some.injEq]
    constructor
    · rintro ⟨rfl, rfl⟩
      rfl
    · intro h
      -- The last parts of both places are of one length, so the rest is equal too.
      rcases List.append_inj' h rfl with ⟨hfront, hlast⟩
      exact ⟨hfront, List.singleton_inj.mp hlast⟩

theorem children_eq (disk : Disk) (place : Place) :
    disk.children place = (disk.entries.map (·.1)).filterMap (childOf? place) := by
  rw [List.filterMap_map]
  rfl

/-- A name is listed as often as its place. -/
theorem count_children (disk : Disk) (place : Place) (name : String) :
    (disk.children place).count name = (disk.entries.map (·.1)).count (place ++ [name]) := by
  rw [children_eq, List.count_filterMap, List.count]
  refine List.countP_congr fun other _ => ?_
  rw [beq_iff_eq, beq_iff_eq, childOf?_eq_some_iff]

/-- Every name is listed once. -/
theorem nodup_children {disk : Disk} {place : Place}
    (h : ∀ name, disk.IsOnce (place ++ [name])) : (disk.children place).Nodup := by
  refine List.nodup_iff_count_le_one.mpr fun name => ?_
  rw [count_children]
  exact h name

/-- The names in a directory are those of the places where something stands. -/
theorem mem_children_iff {disk : Disk} {place : Place} {name : String} :
    name ∈ disk.children place ↔ disk.entry? (place ++ [name]) ≠ none := by
  rw [← List.count_pos_iff, count_children, List.count_pos_iff,
    entry?_of_ne_nil disk (List.concat_ne_nil _ _), ne_eq, List.lookup_eq_none_iff, List.mem_map]
  simp only [bne_iff_ne, not_forall, not_not, exists_prop]
  exact exists_congr fun entry => and_congr_right fun _ => eq_comm

/-- A place where nothing stands is not listed. -/
theorem isOnce_of_missing {disk : Disk} {place : Place} (h : disk.entry? place = none) :
    disk.IsOnce place := by
  have hne : place ≠ [] := by
    rintro rfl
    cases h
  rw [entry?_of_ne_nil disk hne, List.lookup_eq_none_iff] at h
  rw [IsOnce, List.count_eq_zero_of_not_mem]
  · exact Nat.zero_le 1
  · intro hmem
    rcases List.mem_map.mp hmem with ⟨entry, hentry, rfl⟩
    exact bne_iff_ne.mp (h entry hentry) rfl

namespace IsOnce

variable {disk : Disk} {place : Place} (h : disk.IsOnce place)
include h

/-- What is put at a place takes the place of what stood there. -/
theorem put (other : Place) (entry : Entry) : (disk.put other entry).IsOnce place := by
  rw [IsOnce, Disk.put, List.map_cons, List.count_cons]
  by_cases hplace : other = place
  · -- The other entries are those for other places.
    have hothers : place ∉ (disk.entries.filter (·.1 ≠ other)).map (·.1) := by
      intro hmem
      rcases List.mem_map.mp hmem with ⟨old, hold, hsame⟩
      exact of_decide_eq_true (List.mem_filter.mp hold).2 (hsame.trans hplace.symm)
    have hzero := List.count_eq_zero_of_not_mem hothers
    have hone : (if ((other, entry).1 == place) = true then 1 else 0) = 1 :=
      if_pos (beq_iff_eq.mpr hplace)
    omega
  · rw [if_neg fun hsame => hplace (beq_iff_eq.mp hsame), Nat.add_zero]
    exact Nat.le_trans ((List.filter_sublist.map _).count_le place) h

theorem carve (at_ : Place) (steps : List Step) : (disk.carve at_ steps).2.IsOnce place := by
  induction steps generalizing disk at_ with
  | nil => exact h
  | cons step steps ih =>
      cases step with
      | up => exact ih h at_.dropLast
      | down name =>
          rw [Disk.carve]
          split
          · exact ih h _
          · -- Here the way ends, and a directory that is made is a new entry.
            exact h
          · split
            · exact h
            · exact ih (h.put _ _) _

theorem makeDirectories (path : String) : (disk.makeDirectories path).2.IsOnce place := by
  rw [Disk.makeDirectories]
  split
  · exact h
  · split
    · exact h
    · exact h.carve _ _

theorem touch {path : String} {disk' : Disk} (htouch : disk.touch path = .ok disk') :
    disk'.IsOnce place := by
  rw [Disk.touch] at htouch
  split at htouch
  · cases htouch
  · cases htouch
    exact h
  · cases htouch
    exact h.put _ _

theorem write {path : String} {content : ByteArray} {disk' : Disk}
    (hwrite : disk.write path content = .ok disk') : disk'.IsOnce place := by
  rw [Disk.write] at hwrite
  split at hwrite
  · cases hwrite
  · cases hwrite
    exact h.put _ _

end IsOnce

/-- Steps that no file is in the way of and that cannot be followed lead where nothing is. -/
theorem enter_missing {disk : Disk} {steps : List Step} {at_ : Place} (hdisk : disk.IsUnlimited)
    (hfree : ∀ place ∈ way at_ steps, ∀ content, disk.entry? place ≠ some (.file content))
    (h : ¬ ∀ place ∈ way at_ steps, disk.entry? place = some .directory) :
    disk.enter at_ steps = .error .missing := by
  induction steps generalizing at_ with
  | nil => exact absurd (fun _ hmem => absurd hmem List.not_mem_nil) h
  | cons step steps ih =>
      cases step with
      | up => exact ih hfree h
      | down name =>
          rw [way, List.forall_mem_cons] at hfree h
          rw [enter]
          -- Nothing is there, so this is where the way breaks off, or there is a directory and it
          -- goes on.
          rcases hentry : disk.entry? (at_ ++ [name]) with _ | entry
          · simp only [hdisk.isTooLong_eq, Bool.false_eq_true, if_false]
          · cases entry with
            | file content => exact absurd hentry (hfree.1 content)
            | directory => exact ih hfree.2 fun hrest => h ⟨hentry, hrest⟩

section Listing

variable {disk : Disk} {path name : String} {steps : List Step} (hdisk : disk.IsUnlimited)
  (hpath : path.isEmpty = false) (hnul : '\x00' ∉ path.toList)
  (hsteps : Path.steps path = steps ++ [.down name])
include hdisk hpath hnul hsteps

/-- A directory that is there with those on the way can be listed. -/
theorem list_directory
    (h : ∀ place ∈ way (disk.start path) (Path.steps path), disk.entry? place = some .directory) :
    disk.list path = .ok (disk.children (disk.destination path)) := by
  rw [hsteps, way_append, List.forall_mem_append] at h
  have hdestination : disk.destination path = reach (disk.start path) steps ++ [name] := by
    rw [destination, hsteps, reach_append]
    rfl
  have hentry := h.2 _ List.mem_cons_self
  rw [list, locate_eq_reach hdisk hpath hnul hsteps h.1, hdestination]
  simp only [hentry]

/-- If it is not, it is missing, unless a file is in the way. -/
theorem list_missing
    (hfree : ∀ place ∈ way (disk.start path) (Path.steps path), ∀ content,
      disk.entry? place ≠ some (.file content))
    (h : ¬ ∀ place ∈ way (disk.start path) (Path.steps path),
      disk.entry? place = some .directory) :
    disk.list path = .error .missing := by
  rw [hsteps, way_append, List.forall_mem_append] at hfree h
  by_cases hway : ∀ place ∈ way (disk.start path) steps, disk.entry? place = some .directory
  · -- The way is there, so the directory itself is not.
    have hentry : disk.entry? (reach (disk.start path) steps ++ [name]) = none := by
      rcases hlast : disk.entry? (reach (disk.start path) steps ++ [name]) with _ | entry
      · rfl
      · cases entry with
        | file content => exact absurd hlast (hfree.2 _ List.mem_cons_self content)
        | directory => exact absurd ⟨hway, List.forall_mem_singleton.mpr hlast⟩ h
    rw [list, locate_eq_reach hdisk hpath hnul hsteps hway]
    simp only [hentry]
  · -- The way to it breaks off, and that is missing too.
    have hcontains : path.toList.contains '\x00' = false := by
      rw [List.contains_eq_mem, decide_eq_false hnul]
    rw [list, locate, hpath, hcontains, hdisk.isOverlong_eq, hsteps, List.getLast?_concat,
      List.dropLast_concat]
    simp only [Bool.false_eq_true, if_false, enter_missing hdisk hfree.1 hway]

end Listing

/-- What steps enter on the way has names that a path can end in. -/
theorem isName_of_mem_way {at_ place : Place} {steps : List Step} {name : String}
    (hnames : ∀ other, .down other ∈ steps → Path.IsName other)
    (h : place ++ [name] ∈ way at_ steps) : Path.IsName name := by
  induction steps generalizing at_ with
  | nil => cases h
  | cons step steps ih =>
      have hrest := fun other hother => hnames other (List.mem_cons_of_mem _ hother)
      cases step with
      | up => exact ih hrest h
      | down next =>
          rcases List.mem_cons.mp h with heq | hmem
          · -- This is the place that the step leads to, and so its last part is the name of the
            -- step.
            rcases List.append_inj' heq rfl with ⟨_, hname⟩
            rw [List.singleton_inj.mp hname]
            exact hnames next List.mem_cons_self
          · exact ih hrest hmem

/-- Where a path finds a file, one stands at its destination. -/
theorem file_of_isFile {disk : Disk} {path : String} (h : disk.isFile path = true) :
    ∃ content, disk.entry? (disk.destination path) = some (.file content) := by
  unfold isFile read at h
  split at h
  · rename_i hread
    split at hread
    · cases hread
    · -- What was read has been found first.
      rename_i place hlocate
      split at hread
      · rename_i content hentry
        exact ⟨content, (locate_eq_ok hlocate).1 ▸ hentry⟩
      · cases hread
      · cases hread
  · cases h

theorem isFile_of_file {disk : Disk} {path : String} {place : Place} {content : ByteArray}
    (hlocate : disk.locate path = .ok place) (hname : Path.namesDirectory path = false)
    (h : disk.entry? place = some (.file content)) : disk.isFile path = true := by
  rw [isFile, read, hlocate]
  simp only [h, hname, Bool.false_eq_true, if_false]

end Disk

end Colloquy
