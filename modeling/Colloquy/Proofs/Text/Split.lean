import Colloquy.Text.Split

/-!
# Splitting What Was Put Together

Splitting at a mark undoes putting texts together with that mark between them. The general fact has
no condition: the pieces of two texts with a mark between are the pieces of the one and the pieces
of the other. A text that does not hold the mark is one piece, which gives the forms in which lines
and paths use it.

## Theorems

* `splitAt_append_cons`: The pieces of two texts with a mark between them.
* `flatMap_splitAt`: The pieces put together again.
* `splitAt_of_not_mem`: A text without the mark is one piece.
* `not_mem_of_mem_splitAt`: No piece holds the mark.
* `mem_of_mem_splitAt`: A piece holds characters of the text only.
* `splitAt_flatMap`: Texts each ended by the mark are the pieces, and nothing follows them.
-/

namespace Colloquy

theorem splitAt_cons_self (mark : Char) (cs : List Char) :
    splitAt mark (mark :: cs) = [] :: splitAt mark cs := by
  rw [splitAt, if_pos rfl]

/-- There is always a first piece, and a character that is not the mark goes in front of it. -/
theorem exists_splitAt_cons (mark c : Char) (h : c ≠ mark) (cs : List Char) :
    ∃ piece pieces, splitAt mark cs = piece :: pieces ∧
      splitAt mark (c :: cs) = (c :: piece) :: pieces := by
  induction cs generalizing c with
  | nil => exact ⟨[], [], rfl, by rw [splitAt, if_neg h, splitAt]⟩
  | cons d cs ih =>
      -- At a mark the first piece ends, and before it `c` is all of the piece.
      by_cases hd : d = mark
      · refine ⟨[], splitAt mark cs, by rw [hd, splitAt_cons_self], ?_⟩
        rw [splitAt, if_neg h, hd, splitAt_cons_self]
      · rcases ih d hd with ⟨piece, pieces, _, hcons⟩
        refine ⟨d :: piece, pieces, hcons, ?_⟩
        rw [splitAt, if_neg h, hcons]

/-- The pieces of two texts with a mark between them. -/
theorem splitAt_append_cons (mark : Char) (cs ds : List Char) :
    splitAt mark (cs ++ mark :: ds) = splitAt mark cs ++ splitAt mark ds := by
  induction cs with
  | nil =>
      rw [List.nil_append, splitAt_cons_self]
      rfl
  | cons c cs ih =>
      by_cases hc : c = mark
      · rw [hc, List.cons_append, splitAt_cons_self, splitAt_cons_self, ih, List.cons_append]
      · -- The first piece of the rest takes up `c` on both sides.
        rcases exists_splitAt_cons mark c hc cs with ⟨piece, pieces, hrest, hcons⟩
        rw [List.cons_append, splitAt, if_neg hc, ih, hcons, hrest]
        rfl

/-- The pieces, each ended by the mark, are the text ended by the mark. -/
theorem flatMap_splitAt (mark : Char) (cs : List Char) :
    ((splitAt mark cs).flatMap fun piece => piece ++ [mark]) = cs ++ [mark] := by
  induction cs with
  | nil => rfl
  | cons c cs ih =>
      by_cases hc : c = mark
      · rw [hc, splitAt_cons_self, List.flatMap_cons, ih]
        rfl
      · -- The first piece is longer by `c`, and so is the text.
        rcases exists_splitAt_cons mark c hc cs with ⟨piece, pieces, hrest, hcons⟩
        rw [hrest, List.flatMap_cons] at ih
        rw [hcons, List.flatMap_cons, List.cons_append, List.cons_append, ih, List.cons_append]

/-- A text without the mark is one piece. -/
theorem splitAt_of_not_mem {mark : Char} {cs : List Char} (h : mark ∉ cs) :
    splitAt mark cs = [cs] := by
  induction cs with
  | nil => rfl
  | cons c cs ih =>
      have hc : c ≠ mark := fun he => h (he ▸ List.mem_cons_self)
      rw [splitAt, if_neg hc, ih fun hmem => h (List.mem_cons_of_mem _ hmem)]

/-- No piece holds the mark. -/
theorem not_mem_of_mem_splitAt {mark : Char} {cs piece : List Char}
    (h : piece ∈ splitAt mark cs) : mark ∉ piece := by
  induction cs generalizing piece with
  | nil =>
      rw [List.mem_singleton.mp h]
      exact List.not_mem_nil
  | cons c cs ih =>
      by_cases hc : c = mark
      · rw [hc, splitAt_cons_self] at h
        rcases List.mem_cons.mp h with rfl | hrest
        · exact List.not_mem_nil
        · exact ih hrest
      · -- Only the first piece of the rest is longer now, by a character that is not the mark.
        rcases exists_splitAt_cons mark c hc cs with ⟨first, pieces, hrest, hcons⟩
        rw [hrest] at ih
        rw [hcons] at h
        rcases List.mem_cons.mp h with rfl | hmem
        · rw [List.mem_cons, not_or]
          exact ⟨Ne.symm hc, ih List.mem_cons_self⟩
        · exact ih (List.mem_cons_of_mem _ hmem)

/-- A piece holds characters of the text only. -/
theorem mem_of_mem_splitAt {mark c : Char} {cs piece : List Char}
    (h : piece ∈ splitAt mark cs) (hc : c ∈ piece) : c ∈ cs := by
  -- Pieces that are put together give the text and one mark more.
  have hmem : c ∈ cs ++ [mark] := by
    rw [← flatMap_splitAt]
    exact List.mem_flatMap.mpr ⟨piece, h, List.mem_append_left _ hc⟩
  rcases List.mem_append.mp hmem with hmem | hmark
  · exact hmem
  · rw [List.mem_singleton.mp hmark] at hc
    exact absurd hc (not_mem_of_mem_splitAt h)

/-- Texts each ended by the mark are the pieces, and nothing follows them. -/
theorem splitAt_flatMap (mark : Char) (lines : List (List Char)) (h : ∀ line ∈ lines, mark ∉ line) :
    splitAt mark (lines.flatMap fun line => line ++ [mark]) = lines ++ [[]] := by
  induction lines with
  | nil => rfl
  | cons line lines ih =>
      rw [List.flatMap_cons, List.append_assoc, List.cons_append, List.nil_append,
        splitAt_append_cons, splitAt_of_not_mem (h line List.mem_cons_self),
        ih fun other hother => h other (List.mem_cons_of_mem _ hother)]
      rfl

end Colloquy
