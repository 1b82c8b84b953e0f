import Colloquy.Moment.Calendar

/-!
# Moments Are Written on One Line

The text of a moment stands in the first line of every unit and at the start of every line of the
share log, and both are split at line ends again. Whatever the clock says, that text holds no line
end: it is put together from digits, names and signs.

## Main definitions

* `IsOneLine`: A text without a line end.

## Theorems

* `isOneLine_mailText`, `isOneLine_logText`: The two forms of a moment are on one line.
-/

namespace Colloquy

/-- A text without a line end. -/
def IsOneLine (text : String) : Prop := '\n' ∉ text.toList

instance (text : String) : Decidable (IsOneLine text) := by
  unfold IsOneLine
  infer_instance

theorem isOneLine_append_iff {a b : String} :
    IsOneLine (a ++ b) ↔ IsOneLine a ∧ IsOneLine b := by
  rw [IsOneLine, String.toList_append, List.mem_append, not_or]
  rfl

theorem IsOneLine.append {a b : String} (ha : IsOneLine a) (hb : IsOneLine b) :
    IsOneLine (a ++ b) :=
  isOneLine_append_iff.mpr ⟨ha, hb⟩

theorem isOneLine_toString (n : Nat) : IsOneLine (toString n) := by
  intro h
  rw [Nat.toString_eq_ofList_toDigits, String.toList_ofList] at h
  have hdigit := Nat.isDigit_of_mem_toDigits (by decide) (by decide) h
  exact absurd hdigit (by decide)

/-- A text out of a list of texts on one line, or the empty one, is on one line. -/
theorem isOneLine_getD {texts : List String} (h : ∀ text ∈ texts, IsOneLine text) (i : Nat) :
    IsOneLine (texts.getD i "") := by
  rw [List.getD_eq_getElem?_getD]
  cases hget : texts[i]? with
  | none => exact List.not_mem_nil
  | some text => exact h text (List.mem_of_getElem? hget)

namespace Moment

theorem isOneLine_padded (width n : Nat) : IsOneLine (padded width n) := by
  refine .append ?_ (isOneLine_toString n)
  rw [IsOneLine, String.toList_ofList]
  intro h
  exact absurd (List.eq_of_mem_replicate h) (by decide)

theorem isOneLine_clockText (moment : Moment) : IsOneLine moment.clockText :=
  ((((isOneLine_padded _ _).append (by decide)).append (isOneLine_padded _ _)).append
    (by decide)).append (isOneLine_padded _ _)

theorem isOneLine_fractionText (nanoseconds : Nat) : IsOneLine (fractionText nanoseconds) := by
  have hdot : IsOneLine "." := by decide
  unfold fractionText
  split
  · decide
  split
  · exact hdot.append (isOneLine_padded _ _)
  split
  · exact hdot.append (isOneLine_padded _ _)
  · exact hdot.append (isOneLine_padded _ _)

/-- The form of mail headers is on one line. -/
theorem isOneLine_mailText (moment : Moment) : IsOneLine moment.mailText := by
  have hday : ∀ name ∈ dayNames, IsOneLine name := by decide
  have hmonth : ∀ name ∈ monthNames, IsOneLine name := by decide
  have hspace : IsOneLine " " := by decide
  exact (((((((((isOneLine_getD hday _).append (by decide)).append (isOneLine_toString _)).append
    hspace).append (isOneLine_getD hmonth _)).append hspace).append (isOneLine_padded _ _)).append
    hspace).append (isOneLine_clockText moment)).append (by decide)

/-- The form of log lines is on one line. -/
theorem isOneLine_logText (moment : Moment) : IsOneLine moment.logText := by
  have hdash : IsOneLine "-" := by decide
  exact (((((((isOneLine_padded _ _).append hdash).append (isOneLine_padded _ _)).append
    hdash).append (isOneLine_padded _ _)).append (by decide)).append
    (isOneLine_clockText moment)).append (isOneLine_fractionText _) |>.append (by decide)

end Moment

end Colloquy
