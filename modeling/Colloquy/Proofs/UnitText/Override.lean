import Colloquy.Proofs.Dictionary
import Colloquy.Proofs.UnitText.Continuation
import Colloquy.UnitText.Document

/-!
# Later Text Overrides Earlier Text

What a text says that another text was put behind, on a line of its own.

If no entry goes on behind the first text, then the two have nothing to do with each other: their
entries are found apart, and those of the second text come later. Whether one goes on is a matter of
the last physical line of the first text, and a comment may end in as many backslashes as it likes.

A later entry overrides an earlier one if the two have the same key. That is asked of keys as they
are meant and not as they are written, because the escapes are undone before an entry is put into
the dictionary. So a key may be spelled in as many ways as there are to escape it.

## Theorems

* `logical_append`: The entries of two texts.
* `decode_append`: What two texts say together.
* `decode_get?_eq_some_iff`: The entry that a value comes from.
* `later_entries_override`: Both in one.
-/

namespace Colloquy

namespace UnitText

open Line

/-- Where no entry goes on behind a text, the entries of the text behind it come after its own. -/
theorem logical_append {first : List Char} (h : isOpen (splitAt '\n' first) = false)
    (second : List Char) : logical (first ++ '\n' :: second) = logical first ++ logical second := by
  rw [logical, splitAt_append_cons, joined_of_not_isOpen h]
  rfl

/-- A text overrides what a text before it says. -/
theorem decode_append {first : String} (h : isOpen (splitAt '\n' first.toList) = false)
    (second key : String) :
    (decode (first ++ "\n" ++ second)).get? key
      = ((decode second).get? key).or ((decode first).get? key) := by
  have htext : (first ++ "\n" ++ second).toList = first.toList ++ '\n' :: second.toList := by
    rw [String.toList_append, String.toList_append, List.append_assoc]
    rfl
  rw [decode, htext, logical_append h, List.map_append, Dictionary.get?_ofList_append]
  rfl

/-- A value comes from the last entry whose key spells the key that was asked for. -/
theorem decode_get?_eq_some_iff {text key value : String} :
    (decode text).get? key = some value ↔
      ∃ before line after, logical text.toList = before ++ line :: after ∧
        Escape.decode (Line.entry line).1 = key.toList ∧
        Escape.decode (Line.entry line).2 = value.toList ∧
        ∀ other ∈ after, Escape.decode (Line.entry other).1 ≠ key.toList := by
  have hkey (line : List Char) (name : String) :
      (predicate line).1 = name ↔ Escape.decode (Line.entry line).1 = name.toList := by
    rw [← String.toList_inj, predicate, String.toList_ofList]
  have hvalue (line : List Char) (name : String) :
      (predicate line).2 = name ↔ Escape.decode (Line.entry line).2 = name.toList := by
    rw [← String.toList_inj, predicate, String.toList_ofList]
  rw [decode, Dictionary.get?_ofList_eq_some_iff]
  constructor
  · rintro ⟨earlier, later, hentries, hlater⟩
    rcases List.map_eq_append_iff.mp hentries with ⟨before, rest, hlogical, rfl, hrest⟩
    rcases List.map_eq_cons_iff.mp hrest with ⟨line, after, rfl, hline, rfl⟩
    refine ⟨before, line, after, hlogical, ?_, ?_, fun other hother => ?_⟩
    · rw [← hkey, hline]
    · rw [← hvalue, hline]
    · rw [ne_eq, ← hkey]
      exact hlater _ (List.mem_map_of_mem hother)
  · rintro ⟨before, line, after, hlogical, hname, htext, hafter⟩
    refine ⟨before.map predicate, after.map predicate, ?_, fun entry hentry => ?_⟩
    · have hline : predicate line = (key, value) :=
        Prod.ext ((hkey line key).mpr hname) ((hvalue line value).mpr htext)
      rw [hlogical, List.map_append, List.map_cons, hline]
    · rcases List.mem_map.mp hentry with ⟨other, hother, rfl⟩
      rw [ne_eq, hkey]
      exact hafter other hother

/-- Reading goes piece by piece. Behind a text whose last line is no part of an entry that goes on,
    another text overrides what the first one says: its keys have its values, and all other keys
    have the values that they had. And in any text the last entry of a key gives it its value,
    wherever the entries stand and however each of them spells the key. -/
theorem later_entries_override :
    (∀ first second : String, isOpen (splitAt '\n' first.toList) = false → ∀ key,
      (decode (first ++ "\n" ++ second)).get? key
        = ((decode second).get? key).or ((decode first).get? key)) ∧
    ∀ text key value : String, (decode text).get? key = some value ↔
      ∃ before line after, logical text.toList = before ++ line :: after ∧
        Escape.decode (Line.entry line).1 = key.toList ∧
        Escape.decode (Line.entry line).2 = value.toList ∧
        ∀ other ∈ after, Escape.decode (Line.entry other).1 ≠ key.toList :=
  ⟨fun _ second h key => decode_append h second key, fun _ _ _ => decode_get?_eq_some_iff⟩

/-- A comment at the end that would go on if it were an entry, and behind it a key that was there
    before, with its first letter escaped by number. -/
theorem later_entries_override_escaped_key :
    let first := "name=Aria\ntopic=tea\n! was \\"
    let second := "\\u006Eame : Bob"
    isOpen (splitAt '\n' first.toList) = false ∧
      (decode (first ++ "\n" ++ second)).get? "name" = some "Bob" ∧
      (decode (first ++ "\n" ++ second)).get? "topic" = some "tea" := by
  intro first second
  have hclosed : isOpen (splitAt '\n' first.toList) = false := by decide
  refine ⟨hclosed, ?_, ?_⟩
  · rw [later_entries_override.1 first second hclosed]
    decide +kernel
  · rw [later_entries_override.1 first second hclosed]
    decide +kernel

end UnitText

end Colloquy
