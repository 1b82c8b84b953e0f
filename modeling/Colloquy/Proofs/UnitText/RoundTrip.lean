import Colloquy.Proofs.Dictionary
import Colloquy.Proofs.UnitText.Line
import Colloquy.UnitText.Document

/-!
# Units Are Read Back as They Were Written

The text of a unit, split, joined, cut and unescaped, gives the predicates it was made of. Each pass
is undone by itself. The text is its header and one physical line for every predicate, because
nothing escaped holds a line end; every such line is an entry by itself; the key is cut at the
equals sign that was put behind it; and the escapes spell what they were made of. What is left is a
list of entries in ascending order, which is the dictionary.

The header is arbitrary as long as it is one line. Writing never fails to meet that condition, but
reading must not depend on what a clock says.

That reading undoes writing would be true of many formats. `lines_encode` says which one it is that
other programs find in a unit: the lines of a text are known one by one, and what one of them means
can be told without the others.

## Theorems

* `isWhole_entryLine`: The line of a predicate is an entry by itself.
* `predicate_entryLine`: The entry of a predicate spells it.
* `splitAt_encode`: The physical lines of a text that was written.
* `logical_encode`: The entries of a text that was written.
* `map_predicate_logical_encode`: They spell its predicates.
* `decode_encode`: Reading undoes writing.
* `lines_encode`: A text has one printable line for every predicate, in order of key.
-/

namespace Colloquy

namespace UnitText

open Escape Line

theorem printable_of_mem_entryLine {entry : String × String} {c : Char}
    (h : c ∈ entryLine entry) : IsPrintable c := by
  rw [entryLine, List.mem_append, List.mem_cons] at h
  rcases h with h | rfl | h
  · exact mem_encodeKey h
  · decide
  · exact mem_encodeValue h

/-- The line of a predicate is an entry by itself. -/
theorem isWhole_entryLine (entry : String × String) : IsWhole (entryLine entry) := by
  have hkey := paired_encodeKey entry.1.toList
  have hvalue := paired_encodeValue entry.2.toList
  refine ⟨?_, ?_, ?_⟩
  · rcases hcs : encodeKey entry.1.toList with _ | ⟨c, cs⟩
    · -- An empty key leaves the equals sign in front.
      exact ⟨'=', encodeValue entry.2.toList, by rw [entryLine, hcs, List.nil_append], by decide⟩
    · have hhead := head?_encodeKey entry.1.toList c (by rw [hcs]; rfl)
      refine ⟨c, cs ++ '=' :: encodeValue entry.2.toList, ?_, hhead.not_isGap, hhead.2⟩
      rw [entryLine, hcs, List.cons_append]
  · -- A carriage return is not printable.
    intro hreturn
    have hmem := List.mem_of_getLast? hreturn
    exact absurd (printable_of_mem_entryLine hmem) (by decide)
  · -- The backslashes of a line stand in front of what they escape, never alone at its end.
    have hline : Paired (fun _ => True) (entryLine entry) :=
      (hkey.mono fun _ _ => trivial).append (.bare '=' _ (by decide) trivial hvalue)
    exact continues_eq_false_of_paired hline

/-- The entry of a predicate spells it. -/
theorem predicate_entryLine (entry : String × String) : predicate (entryLine entry) = entry := by
  -- No equals sign of the key is bare, so the first bare one is that of the line.
  have hcut : splitKey (entryLine entry)
      = (encodeKey entry.1.toList, '=' :: encodeValue entry.2.toList) :=
    splitKey_append_of_paired ((paired_encodeKey _).mono fun _ h => h.1) (by decide) _
  have hvalue : valueOf ('=' :: encodeValue entry.2.toList) = encodeValue entry.2.toList := by
    -- The value has no blank in front that could be taken for one of the line.
    rw [valueOf_sign (.inl rfl)]
    exact dropWhile_of_head fun c hc => (head?_encodeValue _ c hc).not_isGap
  rw [predicate, Line.entry, hcut, hvalue, decode_encodeKey, decode_encodeValue,
    String.ofList_toList, String.ofList_toList]

theorem feed_not_mem_entryLine (entry : String × String) : '\n' ∉ entryLine entry := fun hfeed =>
  absurd (printable_of_mem_entryLine hfeed) (by decide)

/-- The physical lines of a text that was written are its header and the lines of its predicates,
    and nothing follows the last line end. -/
theorem splitAt_encode (header : String) (predicates : Predicates) (h : '\n' ∉ header.toList) :
    splitAt '\n' (encode header predicates).toList
      = ('#' :: header.toList) :: (predicates.entries.map entryLine ++ [[]]) := by
  have hheader : '\n' ∉ '#' :: header.toList := by
    rw [List.mem_cons]
    rintro (hc | hc)
    · exact absurd hc (by decide)
    · exact h hc
  -- No line holds a line end, so the text is split into the lines that it was put together from.
  have hlines : ∀ line ∈ predicates.entries.map entryLine, '\n' ∉ line := by
    intro line hline
    rcases List.mem_map.mp hline with ⟨entry, _, rfl⟩
    exact feed_not_mem_entryLine entry
  have hpieces : splitAt '\n' (entryLines predicates.entries)
      = predicates.entries.map entryLine ++ [[]] := by
    rw [entryLines, ← splitAt_flatMap '\n' _ hlines, List.flatMap_map]
  rw [encode, String.toList_ofList, splitAt_append_cons, splitAt_of_not_mem hheader, hpieces,
    List.singleton_append]

/-- The entries of a text that was written are the lines of its predicates. -/
theorem logical_encode (header : String) (predicates : Predicates) (h : '\n' ∉ header.toList) :
    logical (encode header predicates).toList = predicates.entries.map entryLine := by
  have hwhole : ∀ line ∈ predicates.entries.map entryLine, IsWhole line := by
    intro line hline
    rcases List.mem_map.mp hline with ⟨entry, _, rfl⟩
    exact isWhole_entryLine entry
  have hheader : IsVoid ('#' :: header.toList) :=
    .inr ⟨[], '#', header.toList, rfl, List.forall_mem_nil _, .inl rfl⟩
  -- The header is passed over, and so is the empty piece behind the last line end.
  rw [logical, splitAt_encode header predicates h, joined_isVoid hheader,
    joined_append_of_whole _ hwhole, joined_empty, joined, List.append_nil]

/-- The entries of a text that was written spell its predicates, in their order. -/
theorem map_predicate_logical_encode (header : String) (predicates : Predicates)
    (h : '\n' ∉ header.toList) :
    (logical (encode header predicates).toList).map predicate = predicates.entries := by
  rw [logical_encode header predicates h, List.map_map]
  exact List.map_id'' predicate_entryLine _

/-- Reading undoes writing, whatever the predicates are and whenever they were written. -/
theorem decode_encode (header : String) (predicates : Predicates) (h : '\n' ∉ header.toList) :
    decode (encode header predicates) = predicates := by
  rw [decode, map_predicate_logical_encode header predicates h, Dictionary.ofList_entries]

/-- A key that looks like a comment, an empty key, a value that ends in backslashes and one that
    starts with a blank and holds a line end and a character of two units. -/
theorem decode_encode_awkward :
    '\n' ∉ "Thu, 1 Jan 1970".toList ∧
      decode (encode "Thu, 1 Jan 1970"
        (Dictionary.ofList [("# a=b", "c:\\\\"), ("", " \n\r😀"), (" :!", "\x0c")]))
        = Dictionary.ofList [("# a=b", "c:\\\\"), ("", " \n\r😀"), (" :!", "\x0c")] :=
  ⟨by decide, decode_encode _ _ (by decide)⟩

/-- The line of a predicate is an entry, with its line end and without it. -/
theorem logical_entryLine (entry : String × String) :
    logical (entryLine entry) = [entryLine entry] ∧
      logical (entryLine entry ++ ['\n']) = [entryLine entry] := by
  have hwhole := isWhole_entryLine entry
  have hline : splitAt '\n' (entryLine entry) = [entryLine entry] :=
    splitAt_of_not_mem (feed_not_mem_entryLine entry)
  constructor
  · rw [logical, hline, joined_whole hwhole, joined]
  · -- Behind the line feed there is one more line, which is empty.
    rw [logical, splitAt_append_cons, hline, List.singleton_append, joined_whole hwhole, splitAt,
      joined_empty, joined]

/-- The line of a predicate spells that predicate and no other. -/
theorem decode_entryLine (entry : String × String) :
    decode (String.ofList (entryLine entry)) = Dictionary.ofList [entry] ∧
      decode (String.ofList (entryLine entry ++ ['\n'])) = Dictionary.ofList [entry] := by
  rcases logical_entryLine entry with ⟨hbare, hended⟩
  constructor
  · rw [decode, String.toList_ofList, hbare, List.map_singleton, predicate_entryLine]
  · rw [decode, String.toList_ofList, hended, List.map_singleton, predicate_entryLine]

/-- The keys of a dictionary ascend by the code points of their characters. -/
theorem pairwise_key_toList (predicates : Predicates) :
    (predicates.entries.map fun entry => entry.1.toList).Pairwise (· < ·) := by
  rw [List.pairwise_map]
  exact predicates.ascending.imp String.lt_iff.mp

/-- What is written is its header line and then, ended by a line feed, one line for every predicate.
    The keys of the entries ascend by code point in the order in which they are found in the text;
    the lines are printable ASCII throughout; and each of them, read on its own, is exactly its
    predicate. -/
theorem lines_encode (header : String) (predicates : Predicates) (h : '\n' ∉ header.toList) :
    splitAt '\n' (encode header predicates).toList
        = ('#' :: header.toList) :: (predicates.entries.map entryLine ++ [[]]) ∧
      ((logical (encode header predicates).toList).map fun line =>
        (predicate line).1.toList).Pairwise (· < ·) ∧
      ∀ entry ∈ predicates.entries,
        (∀ c ∈ entryLine entry, 0x20 ≤ c.toNat ∧ c.toNat ≤ 0x7E) ∧
        decode (String.ofList (entryLine entry)) = Dictionary.ofList [entry] ∧
        decode (String.ofList (entryLine entry ++ ['\n'])) = Dictionary.ofList [entry] := by
  refine ⟨splitAt_encode header predicates h, ?_, fun entry _ =>
    ⟨fun c hc => printable_of_mem_entryLine hc, decode_entryLine entry⟩⟩
  have hkeys := pairwise_key_toList predicates
  -- Reading the lines back gives the entries, and these are in order.
  rw [← map_predicate_logical_encode header predicates h, List.map_map] at hkeys
  exact hkeys

/-- A key that looks like a comment, an empty key and value, and a value that ends in a backslash
    behind a line end. -/
theorem lines_encode_awkward :
    '\n' ∉ "Thu, 1 Jan 1970".toList ∧
      splitAt '\n' (encode "Thu, 1 Jan 1970"
        (Dictionary.ofList [("é", "\n\\"), ("", ""), ("#", " 😀")])).toList
        = ["#Thu, 1 Jan 1970".toList, "=".toList, "\\#=\\ \\uD83D\\uDE00".toList,
          "\\u00E9=\\n\\\\".toList, []] := by
  have hheader : '\n' ∉ "Thu, 1 Jan 1970".toList := by decide
  refine ⟨hheader, (lines_encode _ _ hheader).1.trans ?_⟩
  decide

end UnitText

end Colloquy
