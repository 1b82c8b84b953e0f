import Colloquy.Proofs.Disk.Alteration

/-!
# What Files Hold

The content of the file at a place, before and after an operation. An operation that fails half-way
may leave directories where nothing stood, and it is a nuisance to tell that from the rest when only
the content of files is of interest. So a place where no file stands has no content, whether
something else stands there or nothing does, and what an operation may change is then a matter of
the files that it writes.

## Main definitions

* `Disk.contentAt?`: The content of the file at a place.

## Theorems

* `Altered.contentAt?_eq`: What a file holds changes only if it is written.
* `touch_cases`, `touch_contentAt?`, `append_contentAt?`: What the operations on files leave.
-/

namespace Colloquy

namespace Disk

/-- The content of the file at a place, if a file stands there. -/
def contentAt? (disk : Disk) (place : Place) : Option ByteArray :=
  match disk.entry? place with
  | some (.file content) => some content
  | _ => none

variable {disk disk' : Disk} {place : Place} {content : ByteArray}

theorem contentAt?_eq_some_iff :
    disk.contentAt? place = some content ↔ disk.entry? place = some (.file content) := by
  unfold contentAt?
  split
  · rename_i hentry
    rw [hentry, Option.some.injEq, Option.some.injEq, Entry.file.injEq]
  · rename_i hentry
    exact ⟨nofun, fun h => absurd h (hentry content)⟩

theorem contentAt?_of_missing (h : disk.entry? place = none) : disk.contentAt? place = none := by
  rw [contentAt?, h]

/-- Clearing one place says nothing about another. -/
theorem contentAt?_clear {other : Place} (h : other ≠ place) :
    (disk.clear place).contentAt? other = disk.contentAt? other := by
  rw [contentAt?, contentAt?, entry?, entry?, clear, lookup_filter_ne _ h]

/-- What a file holds changes only if it is written. -/
theorem Altered.contentAt?_eq {directories files : List Place}
    (h : Altered directories files disk disk') (hmem : place ∉ files) :
    disk'.contentAt? place = disk.contentAt? place := by
  ext content
  rw [contentAt?_eq_some_iff, contentAt?_eq_some_iff]
  exact h.file_of_not_mem hmem content

/-- So does what a path leads to. -/
theorem Altered.contentAt?_destination {directories files : List Place}
    (h : Altered directories files disk disk') {path : String}
    (hmem : disk.destination path ∉ files) :
    disk'.contentAt? (disk'.destination path) = disk.contentAt? (disk.destination path) := by
  rw [h.destination_eq, h.contentAt?_eq hmem]

/-- What is missing after an operation was missing before. -/
theorem Altered.missing {directories files : List Place}
    (h : Altered directories files disk disk') (hplace : disk'.entry? place = none) :
    disk.entry? place = none := by
  cases h.fate place with
  | kept hkept => rw [← hkept, hplace]
  | made _ hbefore _ _ => exact hbefore
  | written _ _ hafter =>
      rcases hafter with ⟨content, hafter⟩
      rw [hplace] at hafter
      cases hafter

/-- A file that was made is empty, and no file that was there has been changed. -/
theorem touch_cases {path : String} (h : disk.touch path = .ok disk') :
    disk' = disk ∨ disk'.readText path = .ok "" := by
  rcases touch_eq_ok h with ⟨content, hlocate, hname, hentry, hbefore⟩
  rcases hbefore with hfile | ⟨hmissing, rfl⟩
  · left
    rw [touch] at h
    split at h
    · cases h
    · cases h
      rfl
    · rename_i htarget
      -- Something that is there is not found missing.
      rcases target_eq_ok htarget with ⟨_, rfl, _, hnone⟩
      rw [hfile] at hnone
      cases hnone
  · exact .inr (readText_file hlocate hname hentry (by decide +kernel))

/-- A file that was made holds what was there before, or nothing. -/
theorem touch_contentAt? {path : String} (h : disk.touch path = .ok disk') :
    disk'.contentAt? (disk.destination path)
      = some ((disk.contentAt? (disk.destination path)).getD .empty) := by
  rcases touch_eq_ok h with ⟨content, -, -, hentry, hbefore⟩
  rw [contentAt?_eq_some_iff.mpr hentry]
  rcases hbefore with hfile | ⟨hmissing, rfl⟩
  · rw [contentAt?_eq_some_iff.mpr hfile]
    rfl
  · rw [contentAt?_of_missing hmissing]
    rfl

/-- What was read as text is what the file held. -/
theorem contentAt?_of_readText {path text : String} (h : disk.readText path = .ok text) :
    disk.contentAt? (disk.destination path) = some text.toUTF8 := by
  unfold readText at h
  split at h
  · cases h
  rename_i content hread
  -- The bytes are those of the text that was read from them.
  have hcontent : content = text.toUTF8 := by
    split at h
    · rename_i htext
      cases h
      unfold String.fromUTF8? at htext
      split at htext
      · cases htext
        rfl
      · cases htext
    · cases h
  unfold read at hread
  split at hread
  · cases hread
  rename_i hlocate
  have hplace := (locate_eq_ok hlocate).1
  split at hread
  · rename_i hentry
    split at hread
    · cases hread
    · cases hread
      rw [contentAt?_eq_some_iff, ← hplace, hentry, hcontent]
  · cases hread
  · cases hread

/-- A file that was made, or was there already, can be written. -/
theorem exists_write_of_touch {path : String} (h : disk.touch path = .ok disk')
    (bytes : ByteArray) : ∃ written, disk'.write path bytes = .ok written := by
  rcases touch_eq_ok h with ⟨content, hlocate, hname, hentry, _⟩
  exact ⟨_, write_file hlocate hname hentry bytes⟩

/-- Bytes that are appended stand behind what the file held. -/
theorem append_contentAt? {path : String} {bytes : ByteArray}
    (h : disk.append path bytes = .ok disk') :
    disk'.contentAt? (disk.destination path)
      = some ((disk.contentAt? (disk.destination path)).getD .empty ++ bytes) := by
  unfold append at h
  split at h
  · cases h
  · rename_i found htarget
    have hfree := entry?_ne_directory_of_target htarget
    cases h
    rcases target_eq_ok htarget with ⟨_, rfl, _, hentry⟩
    rw [contentAt?_eq_some_iff, entry?_put disk (ne_nil_of_free hfree), if_pos rfl, contentAt?,
      hentry]
    -- Of a file that was missing the new bytes are all there is.
    cases found with
    | none => rfl
    | some content => rfl

end Disk

end Colloquy
