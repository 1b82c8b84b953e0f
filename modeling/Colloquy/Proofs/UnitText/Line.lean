import Colloquy.Proofs.Text.Run
import Colloquy.Proofs.Text.Split
import Colloquy.Proofs.UnitText.Escape

/-!
# Scanning Lines of Escaped Text

How the scanner of lines takes text apart that consists of escapes and bare characters. It sees the
text as it is written, so every fact here is about written characters: a paired text ends in an even
number of backslashes and so never goes on in the next line, and a key without bare separators is
cut exactly where it ends.

Two kinds of physical lines are understood without the lines around them, as long as no entry goes
on in them: those without an entry, and those that are an entry by themselves.

## Main definitions

* `Line.backslashes`: The number of backslashes that a text ends in.
* `Line.IsVoid`: A physical line without an entry.
* `Line.IsWhole`: A physical line that is an entry by itself.

## Theorems

* `backslashes_append`: The backslashes that two texts end in.
* `continues_eq_false_of_paired`: A paired text does not go on.
* `splitKey_append_of_paired`: A key is cut where it ends.
* `trimmed_indented`: Leading blanks are trimmed.
* `joined_isVoid`, `joined_whole`: One physical line that is passed over or is an entry.
-/

namespace Colloquy

namespace Line

open Escape

/-- The number of backslashes that a text ends in. -/
def backslashes (line : List Char) : Nat :=
  (line.reverse.takeWhile (· = '\\')).length

theorem continues_eq (line : List Char) : continues line = decide (backslashes line % 2 = 1) := rfl

/-- The backslashes that two texts end in are those of the second, and if it holds nothing else,
    those of the first as well. -/
theorem backslashes_append (cs ds : List Char) :
    backslashes (cs ++ ds)
      = if backslashes ds = ds.length then backslashes cs + backslashes ds else backslashes ds := by
  rw [backslashes, List.reverse_append, List.takeWhile_append, List.length_reverse]
  change (if backslashes ds = ds.length then _ else _ : List Char).length = _
  -- Only if the second text is nothing but backslashes does the first one matter.
  by_cases h : backslashes ds = ds.length
  · rw [if_pos h, if_pos h, List.length_append, List.length_reverse, h]
    exact Nat.add_comm _ _
  · rw [if_neg h, if_neg h]
    rfl

theorem backslashes_cons_of_ne {c : Char} (h : c ≠ '\\') (cs : List Char) :
    backslashes (c :: cs) = backslashes cs := by
  have hnone : backslashes [c] = 0 := by
    simp only [backslashes, List.reverse_singleton, List.takeWhile_cons, h, decide_false,
      Bool.false_eq_true, if_false, List.length_nil]
  rw [← List.singleton_append, backslashes_append, hnone, Nat.zero_add, ite_self]

/-- Taking an escaped character from the front of a text changes the number of backslashes at its
    end by none or by two. -/
theorem backslashes_escaped_mod_two (c : Char) (cs : List Char) :
    backslashes ('\\' :: c :: cs) % 2 = backslashes cs % 2 := by
  have hpair : backslashes ['\\', c] % 2 = 0 := by
    by_cases hc : c = '\\'
    · rw [hc]
      rfl
    · -- The character is no backslash, so the one before it does not end the text.
      have hback : backslashes ['\\', c] = backslashes [c] := by
        rw [show ['\\', c] = ['\\'] ++ [c] from rfl, backslashes_append,
          backslashes_cons_of_ne hc]
        rfl
      rw [hback, backslashes_cons_of_ne hc]
      rfl
  rw [show '\\' :: c :: cs = ['\\', c] ++ cs from rfl, backslashes_append]
  -- The pair in front counts only if it is joined to the end, and it counts as two or none.
  by_cases hall : backslashes cs = cs.length
  · rw [if_pos hall]
    omega
  · rw [if_neg hall]

/-- A paired text ends in an even number of backslashes: each of them is escaped by the one before
    it or escapes the one behind it. -/
theorem continues_eq_false_of_paired {bare : Char → Prop} {line : List Char}
    (h : Paired bare line) : continues line = false := by
  rw [continues_eq, decide_eq_false_iff_not]
  have heven : backslashes line % 2 = 0 := by
    -- Induction on the text as it is paired: one character or two of them go, and none is odd.
    induction h with
    | nil => rfl
    | bare c cs hne _ _ ih => rw [backslashes_cons_of_ne hne, ih]
    | escaped c cs _ ih => rw [backslashes_escaped_mod_two, ih]
  omega

theorem splitKey_separator {c : Char} (h : isSeparator c = true) (cs : List Char) :
    splitKey (c :: cs) = ([], c :: cs) := by
  cases cs with
  | nil => rw [splitKey, if_pos h]
  | cons d ds =>
      -- A backslash would make the next character belong to the key.
      have hne : c ≠ '\\' := fun he => by
        rw [he] at h
        exact absurd h (by decide)
      rw [splitKey, if_neg hne, if_pos h]

theorem splitKey_escaped (c : Char) (cs : List Char) :
    splitKey ('\\' :: c :: cs) = ('\\' :: c :: (splitKey cs).1, (splitKey cs).2) := by
  rw [splitKey, if_pos rfl]

theorem splitKey_bare {c : Char} (hne : c ≠ '\\') (h : isSeparator c = false) (cs : List Char) :
    splitKey (c :: cs) = (c :: (splitKey cs).1, (splitKey cs).2) := by
  cases cs with
  | nil =>
      change (if isSeparator c then ([], [c]) else ([c], [])) = ([c], [])
      rw [if_neg (Bool.eq_false_iff.mp h)]
  | cons d ds => rw [splitKey, if_neg hne, if_neg (Bool.eq_false_iff.mp h)]

/-- A key without bare separators is cut at the separator that follows it. -/
theorem splitKey_append_of_paired {key : List Char}
    (h : Paired (fun c => isSeparator c = false) key) {mark : Char}
    (hmark : isSeparator mark = true) (rest : List Char) :
    splitKey (key ++ mark :: rest) = (key, mark :: rest) := by
  induction h with
  | nil => exact splitKey_separator hmark rest
  | bare c cs hne hbare _ ih => rw [List.cons_append, splitKey_bare hne hbare, ih]
  | escaped c cs _ ih => rw [List.cons_append, List.cons_append, splitKey_escaped, ih]

/-- A sign, and the blanks behind it, are passed over. -/
theorem valueOf_sign {sign : Char} (h : sign = '=' ∨ sign = ':') (cs : List Char) :
    valueOf (sign :: cs) = cs.dropWhile isGap := by
  have hhead : ∀ c ∈ (sign :: cs).head?, isGap c = false := by
    intro c hc
    cases hc
    rcases h with rfl | rfl <;> decide
  rw [valueOf, dropWhile_of_head hhead]
  rcases h with rfl | rfl <;> rfl

/-- The line end of a line is that of what stands behind its other characters. -/
theorem withoutReturn_append {cs : List Char} (h : cs.getLast? ≠ some '\r') (ds : List Char) :
    withoutReturn (cs ++ ds) = cs ++ withoutReturn ds := by
  by_cases hds : ds = []
  · rw [hds, List.append_nil, withoutReturn, if_neg h]
    exact (List.append_nil cs).symm
  · -- The end of the whole is the end of the second text, which has one.
    have hlast : (cs ++ ds).getLast? = ds.getLast? := by
      rw [List.getLast?_append, List.getLast?_eq_some_getLast hds, Option.some_or]
    rw [withoutReturn, withoutReturn, hlast]
    by_cases hreturn : ds.getLast? = some '\r'
    · rw [if_pos hreturn, if_pos hreturn, List.dropLast_append_of_ne_nil hds]
    · rw [if_neg hreturn, if_neg hreturn]

theorem getLast?_gap {gap : List Char} (h : ∀ c ∈ gap, isGap c = true) :
    gap.getLast? ≠ some '\r' := by
  intro hlast
  have hgap := h '\r' (List.mem_of_getLast? hlast)
  exact absurd hgap (by decide)

/-- Leading blanks are trimmed. -/
theorem trimmed_indented {gap : List Char} (h : ∀ c ∈ gap, isGap c = true) (line : List Char) :
    trimmed (gap ++ line) = trimmed line := by
  rw [trimmed, withoutReturn_append (getLast?_gap h), List.dropWhile_append_of_pos h]
  rfl

/-- A physical line without an entry: there are only blanks on it, in front of its line end, or the
    first character that is not a blank starts a comment. -/
def IsVoid (line : List Char) : Prop :=
  (∀ c ∈ withoutReturn line, isGap c = true) ∨
    ∃ gap sign comment, line = gap ++ sign :: comment ∧ (∀ c ∈ gap, isGap c = true) ∧
      (sign = '#' ∨ sign = '!')

theorem isSkipped_of_isVoid {line : List Char} (h : IsVoid line) :
    isSkipped (trimmed line) = true := by
  rcases h with hblank | ⟨gap, sign, comment, rfl, hgap, hsign⟩
  · have hnil : trimmed line = [] := by
      rw [trimmed, ← List.append_nil (withoutReturn line), List.dropWhile_append_of_pos hblank]
      rfl
    rw [hnil]
    rfl
  · have hlast : [sign].getLast? ≠ some '\r' := by
      rcases hsign with rfl | rfl <;> decide
    have hhead : isGap sign = false := by
      rcases hsign with rfl | rfl <;> decide
    -- The sign is neither a blank nor the end of the line, so it is what the line starts with.
    rw [trimmed_indented hgap, trimmed, ← List.singleton_append, withoutReturn_append hlast,
      List.singleton_append, List.dropWhile_cons, hhead, if_neg Bool.false_ne_true, isSkipped]
    rcases hsign with rfl | rfl <;> decide

/-- A line without an entry is passed over where no entry goes on. -/
theorem joined_isVoid {line : List Char} (h : IsVoid line) (rest : List (List Char)) :
    joined none (line :: rest) = joined none rest := by
  rw [joined, isSkipped_of_isVoid h, if_pos rfl]

/-- A physical line that is an entry by itself: there is nothing to trim, it is no comment, and it
    does not go on. -/
structure IsWhole (line : List Char) : Prop where
  start : ∃ c cs, line = c :: cs ∧ isGap c = false ∧ c ≠ '#' ∧ c ≠ '!'
  noReturn : line.getLast? ≠ some '\r'
  ends : continues line = false

theorem IsWhole.trimmed_eq {line : List Char} (h : IsWhole line) : trimmed line = line := by
  rcases h.start with ⟨c, cs, rfl, hgap, _⟩
  rw [trimmed, withoutReturn, if_neg h.noReturn]
  exact dropWhile_of_head fun d hd => by cases hd; exact hgap

/-- A line that is an entry by itself is an entry, and the rest is read afresh. -/
theorem joined_whole {line : List Char} (h : IsWhole line) (rest : List (List Char)) :
    joined none (line :: rest) = line :: joined none rest := by
  have hskip : isSkipped line = false := by
    rcases h.start with ⟨c, cs, rfl, _, hsign, hmark⟩
    simp only [isSkipped, hsign, hmark, decide_false, Bool.or_self]
  rw [joined, h.trimmed_eq, hskip, h.ends]
  rfl

theorem joined_empty (rest : List (List Char)) : joined none ([] :: rest) = joined none rest := rfl

/-- Lines that are entries by themselves are the entries. -/
theorem joined_append_of_whole (lines : List (List Char)) (h : ∀ line ∈ lines, IsWhole line)
    (rest : List (List Char)) : joined none (lines ++ rest) = lines ++ joined none rest := by
  induction lines with
  | nil => rfl
  | cons line lines ih =>
      rw [List.cons_append, joined_whole (h line List.mem_cons_self),
        ih fun other hother => h other (List.mem_cons_of_mem _ hother), List.cons_append]

end Line

end Colloquy
