import Colloquy.Proofs.Disk

/-!
# What an Operation May Change

A bound on what an operation on the disk does, whether it succeeds or not. `Disk.Carved` says what
making directories does when it succeeds; but an operation may fail half-way, or at its last step,
and then all that can be said is where it may have left something. That is enough to see that
somebody else's work is unharmed, which is what this module is for.

Operations only ever add directories where nothing stood and write files where no directory stood.
So a directory stays a directory and a file stays a file, and of two operations the second cannot
undo what the first one did. That is why alterations compose.

A place that a path leads to is known before the disk is asked, by `Disk.destination`. Where
`Disk.locate` finds a place, it is that one.

## Main definitions

* `Disk.destination`: The place that a path leads to if it leads anywhere.
* `Disk.Fits`: A place whose last name is not too long.
* `Disk.Fate`, `Disk.Altered`: What may have become of one place, and of all places.

## Theorems

* `enter_eq_ok_iff`: Steps can be followed if there are directories on the way.
* `locate_eq_ok`: A path leads to its destination.
* `Altered.trans`: Alterations compose.
* `makeDirectories_altered`, `touch_altered`, `write_altered`, `append_altered`: What the operations
  may change.
-/

namespace Colloquy

namespace Disk

/-- The place that a path leads to if it leads anywhere. -/
def destination (disk : Disk) (path : String) : Place :=
  reach (disk.start path) (Path.steps path)

/-- The last name of a place is not too long for the disk. -/
def Fits (disk : Disk) (place : Place) : Prop :=
  ∀ name, place.getLast? = some name → disk.isTooLong name = false

/-- What may have become of a place: nothing, a directory where nothing stood, or a file where no
    directory stood. -/
inductive Fate (directories files : List Place) (disk disk' : Disk) (place : Place) : Prop where
  | kept (h : disk'.entry? place = disk.entry? place)
  | made (hmem : place ∈ directories) (hbefore : disk.entry? place = none)
      (hafter : disk'.entry? place = some .directory) (hfits : disk.Fits place)
  | written (hmem : place ∈ files) (hbefore : disk.entry? place ≠ some .directory)
      (hafter : ∃ content, disk'.entry? place = some (.file content))

/-- What an operation may change: it makes no directories but these, writes no files but these, and
    leaves everything else as it was. -/
structure Altered (directories files : List Place) (disk disk' : Disk) : Prop where
  here : disk'.here = disk.here
  nameLimit : disk'.nameLimit = disk.nameLimit
  pathLimit : disk'.pathLimit = disk.pathLimit
  fate : ∀ place, Fate directories files disk disk' place

namespace Altered

variable {directories files : List Place} {disk between disk' : Disk}

theorem refl (directories files : List Place) (disk : Disk) :
    Altered directories files disk disk :=
  ⟨rfl, rfl, rfl, fun _ => .kept rfl⟩

theorem mono {more others : List Place} (h : Altered directories files disk disk')
    (hdirectories : directories ⊆ more) (hfiles : files ⊆ others) :
    Altered more others disk disk' := by
  refine ⟨h.here, h.nameLimit, h.pathLimit, fun place => ?_⟩
  cases h.fate place with
  | kept hkept => exact .kept hkept
  | made hmem hbefore hafter hfits => exact .made (hdirectories hmem) hbefore hafter hfits
  | written hmem hbefore hafter => exact .written (hfiles hmem) hbefore hafter

theorem start_eq (h : Altered directories files disk disk') (path : String) :
    disk'.start path = disk.start path := by
  rw [start, start, h.here]

theorem destination_eq (h : Altered directories files disk disk') (path : String) :
    disk'.destination path = disk.destination path := by
  rw [destination, destination, h.start_eq]

theorem isTooLong_eq (h : Altered directories files disk disk') (name : String) :
    disk'.isTooLong name = disk.isTooLong name := by
  rw [isTooLong, isTooLong, h.nameLimit]

theorem isUnlimited (h : Altered directories files disk disk') (hdisk : disk.IsUnlimited) :
    disk'.IsUnlimited :=
  ⟨h.nameLimit.trans hdisk.names, h.pathLimit.trans hdisk.paths⟩

/-- A directory stays one. -/
theorem directory (h : Altered directories files disk disk') {place : Place}
    (hplace : disk.entry? place = some .directory) : disk'.entry? place = some .directory := by
  cases h.fate place with
  | kept hkept => rw [hkept, hplace]
  | made _ _ hafter _ => exact hafter
  | written _ hbefore _ => exact absurd hplace hbefore

/-- A file is new or has new content only at a place where one may be written. -/
theorem file_of_not_mem (h : Altered directories files disk disk') {place : Place}
    (hmem : place ∉ files) (content : ByteArray) :
    disk'.entry? place = some (.file content) ↔ disk.entry? place = some (.file content) := by
  cases h.fate place with
  | kept hkept => rw [hkept]
  | made _ hbefore hafter _ => simp [hbefore, hafter]
  | written hmem' _ _ => exact absurd hmem' hmem

/-- What stands at a place where nothing may be made or written stays as it was. -/
theorem entry?_of_not_mem (h : Altered directories files disk disk') {place : Place}
    (hdirectories : place ∉ directories) (hfiles : place ∉ files) :
    disk'.entry? place = disk.entry? place := by
  cases h.fate place with
  | kept hkept => exact hkept
  | made hmem _ _ _ => exact absurd hmem hdirectories
  | written hmem _ _ => exact absurd hmem hfiles

/-- Alterations compose: what the first one left is a directory or a file, and stays that. -/
theorem trans (h : Altered directories files disk between)
    (h' : Altered directories files between disk') : Altered directories files disk disk' := by
  refine ⟨h'.here.trans h.here, h'.nameLimit.trans h.nameLimit, h'.pathLimit.trans h.pathLimit,
    fun place => ?_⟩
  cases h'.fate place with
  | kept hkept' =>
      cases h.fate place with
      | kept hkept => exact .kept (hkept'.trans hkept)
      | made hmem hbefore hafter hfits => exact .made hmem hbefore (hkept'.trans hafter) hfits
      | written hmem hbefore hafter =>
          -- It was written first and then kept.
          rcases hafter with ⟨content, hafter⟩
          exact .written hmem hbefore ⟨content, hkept'.trans hafter⟩
  | made hmem' hbefore' hafter' hfits' =>
      cases h.fate place with
      | kept hkept =>
          refine .made hmem' (hkept ▸ hbefore') hafter' fun name hname => ?_
          -- Whether a name is too long is the same before and between.
          rw [← h.isTooLong_eq]
          exact hfits' name hname
      | made _ _ hafter _ => rw [hbefore'] at hafter; cases hafter
      | written _ _ hafter =>
          rcases hafter with ⟨content, hafter⟩
          rw [hbefore'] at hafter
          cases hafter
  | written hmem' hbefore' hafter' =>
      refine .written hmem' (fun hdirectory => hbefore' ?_) hafter'
      exact h.directory hdirectory

end Altered

theorem ne_nil_of_free {disk : Disk} {place : Place}
    (h : disk.entry? place ≠ some .directory) : place ≠ [] := by
  rintro rfl
  exact h rfl

theorem altered_put_directory {disk : Disk} {place : Place} (h : disk.entry? place = none)
    (hfits : disk.Fits place) : Altered [place] [] disk (disk.put place .directory) := by
  have hput := entry?_put disk (ne_nil_of_free (by rw [h]; nofun)) .directory
  refine ⟨rfl, rfl, rfl, fun other => ?_⟩
  by_cases hother : other = place
  · subst hother
    exact .made List.mem_cons_self h (by rw [hput, if_pos rfl]) hfits
  · exact .kept (by rw [hput, if_neg hother])

theorem altered_put_file {disk : Disk} {place : Place} (h : disk.entry? place ≠ some .directory)
    (content : ByteArray) : Altered [] [place] disk (disk.put place (.file content)) := by
  have hput := entry?_put disk (ne_nil_of_free h) (.file content)
  refine ⟨rfl, rfl, rfl, fun other => ?_⟩
  by_cases hother : other = place
  · subst hother
    exact .written List.mem_cons_self h ⟨content, by rw [hput, if_pos rfl]⟩
  · exact .kept (by rw [hput, if_neg hother])

/-- Making directories along steps makes some of those on the way, even if it fails. -/
theorem carve_altered (steps : List Step) (disk : Disk) (at_ : Place) :
    Altered (way at_ steps) [] disk (disk.carve at_ steps).2 := by
  induction steps generalizing disk at_ with
  | nil => exact .refl _ _ _
  | cons step steps ih =>
      cases step with
      | up => exact ih disk at_.dropLast
      | down name =>
          rw [carve]
          rcases hentry : disk.entry? (at_ ++ [name]) with _ | entry
          · by_cases hlong : disk.isTooLong name = true
            · simp only [hlong, if_true]
              exact .refl _ _ _
            · simp only [hlong, if_false, Bool.false_eq_true]
              have hfits : disk.Fits (at_ ++ [name]) := by
                intro other hother
                rw [List.getLast?_concat, Option.some.injEq] at hother
                rw [← hother]
                exact Bool.eq_false_iff.mpr hlong
              -- The directory is the first of those on the way, and the others come after it.
              have hput := (altered_put_directory hentry hfits).mono
                (List.cons_subset_cons _ (List.nil_subset (way (at_ ++ [name]) steps)))
                (List.Subset.refl _)
              have hrest := ih (disk.put (at_ ++ [name]) .directory) (at_ ++ [name])
              exact hput.trans (hrest.mono (List.subset_cons_self _ _) (List.Subset.refl _))
          · cases entry with
            | directory =>
                exact (ih disk (at_ ++ [name])).mono (List.subset_cons_self _ _)
                  (List.Subset.refl _)
            | file content => exact .refl _ _ _

/-- Directories that were made are there. -/
theorem carve_made {steps : List Step} {disk disk' : Disk} {at_ : Place} {u : Unit}
    (h : disk.carve at_ steps = (.ok u, disk')) :
    ∀ place ∈ way at_ steps, disk'.entry? place = some .directory := by
  induction steps generalizing disk at_ with
  | nil => exact fun _ hmem => absurd hmem List.not_mem_nil
  | cons step steps ih =>
      cases step with
      | up => exact ih h
      | down name =>
          -- The first one is there before the others are made, and it stays.
          have hfirst {between : Disk}
              (hcarve : between.carve (at_ ++ [name]) steps = (.ok u, disk'))
              (hentry : between.entry? (at_ ++ [name]) = some .directory) :
              ∀ place ∈ way at_ (.down name :: steps), disk'.entry? place = some .directory := by
            have haltered := carve_altered steps between (at_ ++ [name])
            rw [hcarve] at haltered
            exact List.forall_mem_cons.mpr ⟨haltered.directory hentry, ih hcarve⟩
          rw [carve] at h
          split at h
          · rename_i hentry
            exact hfirst h hentry
          · cases h
          · split at h
            · cases h
            · refine hfirst h ?_
              rw [entry?_put disk (List.concat_ne_nil _ _), if_pos rfl]

/-- Making the directory at a path makes some of those on the way, even if it fails. -/
theorem makeDirectories_altered (disk : Disk) (path : String) :
    Altered (way (disk.start path) (Path.steps path)) [] disk (disk.makeDirectories path).2 := by
  rw [makeDirectories]
  split
  · exact .refl _ _ _
  · split
    · exact .refl _ _ _
    · exact carve_altered _ _ _

theorem makeDirectories_made {disk disk' : Disk} {path : String} {u : Unit}
    (h : disk.makeDirectories path = (.ok u, disk')) :
    ∀ place ∈ way (disk.start path) (Path.steps path), disk'.entry? place = some .directory := by
  rw [makeDirectories] at h
  split at h
  · cases h
  · split at h
    · cases h
    · exact carve_made h

/-- Steps can be followed if and only if there are directories on the way. -/
theorem enter_eq_ok_iff {disk : Disk} {steps : List Step} {at_ place : Place} :
    disk.enter at_ steps = .ok place
      ↔ (∀ other ∈ way at_ steps, disk.entry? other = some .directory) ∧
        place = reach at_ steps := by
  constructor
  · intro h
    induction steps generalizing at_ with
    | nil =>
        cases h
        exact ⟨fun _ hmem => absurd hmem List.not_mem_nil, rfl⟩
    | cons step steps ih =>
        cases step with
        | up => exact ih h
        | down name =>
            rw [enter] at h
            split at h
            · -- Only a directory lets anyone through.
              rename_i hentry
              rcases ih h with ⟨hway, hplace⟩
              exact ⟨List.forall_mem_cons.mpr ⟨hentry, hway⟩, hplace⟩
            · cases h
            · cases h
  · rintro ⟨hway, rfl⟩
    exact enter_eq_reach steps disk at_ hway

/-- A path leads to its destination, and then there are directories on the way to it. -/
theorem locate_eq_ok {disk : Disk} {path : String} {place : Place}
    (h : disk.locate path = .ok place) :
    place = disk.destination path ∧
      ∀ other ∈ way (disk.start path) (Path.steps path), other ≠ place →
        disk.entry? other = some .directory := by
  unfold locate at h
  split at h
  · cases h
  split at h
  · cases h
  split at h
  · cases h
  split at h
  · rename_i name hlast
    -- The last step is not followed, for what the path ends at need not be there.
    rcases List.getLast?_eq_some_iff.mp hlast with ⟨front, hsteps⟩
    rw [hsteps, List.dropLast_concat] at h
    split at h
    · rename_i parent henter
      split at h
      · cases h
      · rcases enter_eq_ok_iff.mp henter with ⟨hway, rfl⟩
        cases h
        constructor
        · rw [destination, hsteps, reach_append]
          rfl
        · intro other hother hne
          rw [hsteps, way_append, List.mem_append] at hother
          rcases hother with hother | hother
          · exact hway other hother
          · exact absurd (List.mem_singleton.mp hother) hne
    · cases h
  · rcases enter_eq_ok_iff.mp h with ⟨hway, rfl⟩
    exact ⟨rfl, fun other hother _ => hway other hother⟩

/-- A file at the end of a path is in nobody's way to it. -/
theorem locate_put_file {disk : Disk} {path : String} {place : Place}
    (h : disk.locate path = .ok place) (hplace : disk.entry? place ≠ some .directory)
    (content : ByteArray) : (disk.put place (.file content)).locate path = .ok place := by
  have hput := entry?_put disk (ne_nil_of_free hplace) (.file content)
  -- The new file is no directory, so it is on no way that leads to it.
  have henter {at_ there : Place} {steps : List Step} (h : disk.enter at_ steps = .ok there) :
      (disk.put place (.file content)).enter at_ steps = .ok there := by
    rcases enter_eq_ok_iff.mp h with ⟨hway, rfl⟩
    refine enter_eq_ok_iff.mpr ⟨fun other hother => ?_, rfl⟩
    have hne : other ≠ place := fun he => hplace (he ▸ hway other hother)
    rw [hput, if_neg hne]
    exact hway other hother
  unfold locate at h ⊢
  split at h
  · cases h
  split at h
  · cases h
  split at h
  · cases h
  rename_i hempty hnul hlong
  -- Limits are those of the disk, which a new file does not change.
  have hlong' : ¬ (disk.put place (.file content)).isOverlong path = true := hlong
  rw [if_neg hempty, if_neg hnul, if_neg hlong']
  split at h
  · rename_i name hlast
    split at h
    · rename_i parent hparent
      rw [show (disk.put place (.file content)).start path = disk.start path from rfl,
        henter hparent]
      exact h
    · cases h
  · exact henter h

/-- A file may be written only at the destination of a path, where no directory stands. -/
theorem target_eq_ok {disk : Disk} {path : String} {place : Place} {content : Option ByteArray}
    (h : disk.target path = .ok (place, content)) :
    disk.locate path = .ok place ∧ place = disk.destination path ∧
      Path.namesDirectory path = false ∧ disk.entry? place = content.map .file := by
  unfold target at h
  split at h
  · cases h
  · rename_i there hlocate
    -- Either there is a file, or the place is free and its name is one of a file.
    have hdestination := (locate_eq_ok hlocate).1
    split at h
    · cases h
    · rename_i found hentry
      split at h
      · cases h
      · rename_i hname
        cases h
        exact ⟨hlocate, hdestination, Bool.eq_false_iff.mpr hname, hentry⟩
    · rename_i hentry
      split at h
      · cases h
      · rename_i hname
        cases h
        exact ⟨hlocate, hdestination, Bool.eq_false_iff.mpr hname, hentry⟩

theorem entry?_ne_directory_of_target {disk : Disk} {path : String} {place : Place}
    {content : Option ByteArray} (h : disk.target path = .ok (place, content)) :
    disk.entry? place ≠ some .directory := by
  rw [(target_eq_ok h).2.2.2]
  cases content <;> nofun

/-- A file that is there after it was made has the content that it had, or none. -/
theorem touch_eq_ok {disk disk' : Disk} {path : String} (h : disk.touch path = .ok disk') :
    ∃ content, disk'.locate path = .ok (disk.destination path) ∧
      Path.namesDirectory path = false ∧
      disk'.entry? (disk.destination path) = some (.file content) ∧
      (disk.entry? (disk.destination path) = some (.file content) ∨
        disk.entry? (disk.destination path) = none ∧ content = .empty) := by
  unfold touch at h
  split at h
  · cases h
  · rename_i htarget
    cases h
    rcases target_eq_ok htarget with ⟨hlocate, rfl, hname, hentry⟩
    exact ⟨_, hlocate, hname, hentry, .inl hentry⟩
  · rename_i htarget
    -- What is missing is made with nothing in it, and the way to it stays.
    have hfree := entry?_ne_directory_of_target htarget
    cases h
    rcases target_eq_ok htarget with ⟨hlocate, rfl, hname, hentry⟩
    refine ⟨.empty, locate_put_file hlocate hfree .empty, hname, ?_, .inr ⟨hentry, rfl⟩⟩
    rw [entry?_put disk (ne_nil_of_free hfree), if_pos rfl]

theorem touch_altered {disk disk' : Disk} {path : String} (h : disk.touch path = .ok disk') :
    Altered [] [disk.destination path] disk disk' := by
  unfold touch at h
  split at h
  · cases h
  · cases h
    -- A file that is there stays as it is.
    exact .refl _ _ _
  · rename_i htarget
    cases h
    rw [← (target_eq_ok htarget).2.1]
    exact altered_put_file (entry?_ne_directory_of_target htarget) .empty

/-- What was written is there afterwards, and nothing else is new. -/
theorem write_eq_ok {disk disk' : Disk} {path : String} {content : ByteArray}
    (h : disk.write path content = .ok disk') :
    disk.entry? (disk.destination path) ≠ some .directory ∧
      disk' = disk.put (disk.destination path) (.file content) := by
  unfold write at h
  split at h
  · cases h
  · rename_i htarget
    cases h
    rw [← (target_eq_ok htarget).2.1]
    exact ⟨entry?_ne_directory_of_target htarget, rfl⟩

theorem write_altered {disk disk' : Disk} {path : String} {content : ByteArray}
    (h : disk.write path content = .ok disk') :
    Altered [] [disk.destination path] disk disk' := by
  rcases write_eq_ok h with ⟨hfree, rfl⟩
  exact altered_put_file hfree content

theorem append_altered {disk disk' : Disk} {path : String} {bytes : ByteArray}
    (h : disk.append path bytes = .ok disk') :
    Altered [] [disk.destination path] disk disk' := by
  unfold append at h
  split at h
  · cases h
  · rename_i htarget
    cases h
    rw [← (target_eq_ok htarget).2.1]
    exact altered_put_file (entry?_ne_directory_of_target htarget) _

end Disk

end Colloquy
