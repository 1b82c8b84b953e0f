/-!
# Runs at the Start of a Text

The characters of a class at the start of a text are a run that stops where the class does. Given a
run of the class and a text that does not go on with it, the run and the text are what is taken and
what is left; and whatever is left of a text never starts with the class.

## Theorems

* `takeWhile_run`, `dropWhile_run`: A run and what follows it.
* `dropWhile_of_head`: Nothing is dropped where no run starts.
* `head_dropWhile`: No run starts where one has been dropped.
* `head_dropWhile_append`: A run stops where it stopped if more is put behind the text.
-/

namespace Colloquy

variable {p : Char → Bool}

/-- Nothing is dropped where no run starts. -/
theorem dropWhile_of_head {cs : List Char} (h : ∀ c ∈ cs.head?, p c = false) :
    cs.dropWhile p = cs := by
  cases cs with
  | nil => rfl
  | cons c cs =>
      have hc := h c rfl
      rw [List.dropWhile_cons, hc, if_neg Bool.false_ne_true]

theorem takeWhile_of_head {cs : List Char} (h : ∀ c ∈ cs.head?, p c = false) :
    cs.takeWhile p = [] := by
  cases cs with
  | nil => rfl
  | cons c cs =>
      have hc := h c rfl
      rw [List.takeWhile_cons, hc, if_neg Bool.false_ne_true]

theorem of_mem_takeWhile {cs : List Char} {c : Char} (h : c ∈ cs.takeWhile p) : p c = true :=
  List.all_eq_true.mp List.all_takeWhile c h

theorem takeWhile_run {run rest : List Char} (hrun : ∀ c ∈ run, p c = true)
    (hrest : ∀ c ∈ rest.head?, p c = false) : (run ++ rest).takeWhile p = run := by
  rw [List.takeWhile_append_of_pos hrun, takeWhile_of_head hrest, List.append_nil]

theorem dropWhile_run {run rest : List Char} (hrun : ∀ c ∈ run, p c = true)
    (hrest : ∀ c ∈ rest.head?, p c = false) : (run ++ rest).dropWhile p = rest := by
  rw [List.dropWhile_append_of_pos hrun, dropWhile_of_head hrest]

/-- No run starts where one has been dropped. -/
theorem head_dropWhile (p : Char → Bool) (cs : List Char) :
    ∀ c ∈ (cs.dropWhile p).head?, p c = false := by
  intro c hc
  have hstop := List.head?_dropWhile_not p cs
  rw [hc] at hstop
  exact hstop

/-- What a text starts with behind a run, it starts with if more is put behind it. -/
theorem head_dropWhile_append {cs : List Char} {c : Char} (ds : List Char)
    (h : c ∈ (cs.dropWhile p).head?) : c ∈ ((cs ++ ds).dropWhile p).head? := by
  rw [List.dropWhile_append]
  cases hcs : cs.dropWhile p with
  | nil =>
      rw [hcs] at h
      cases h
  | cons d rest =>
      rw [hcs] at h
      exact h

end Colloquy
