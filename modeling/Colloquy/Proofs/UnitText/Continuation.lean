import Colloquy.Proofs.UnitText.Line

/-!
# Lines That Go On

Where an entry goes on in the next physical line, for any text at all.

The scanner decides it late: it puts a physical line behind what it has of the entry and counts the
backslashes that all of this ends in. The rule that people write units by knows nothing of that. It
looks at one physical line at a time, and the backslashes in front of the line do not matter. The
two could differ, because one backslash is taken away at the end of every line that goes on, more of
them may be left there, and the next line may hold nothing but backslashes.

They do not differ, and the reason is the invariant `IsSettled`: what is left of an entry that goes
on ends in an even number of backslashes, since it ended in an odd number before one was taken away.
An even number does not change whether the sum is odd. One step of the scanner keeps the invariant,
so it holds behind every text.

`Gathered` is the rule of single lines as a relation between physical lines and the lines of each
entry. It is said without the scanner, and it leaves nothing open: every text is gathered in one
way.

## Main definitions

* `Line.goesOn`: What a physical line says about itself.
* `Line.isOpen`: Whether an entry goes on behind some lines, told from single lines.
* `Line.current`, `Line.carry`, `Line.completed`: One step of the scanner.
* `Line.IsSettled`: What is left of an entry ends in an even number of backslashes.
* `Line.IsEntry`, `Line.Gathered`: The physical lines of one entry, and of all of them.
* `Line.share`, `Line.assembled`: What a line adds to its entry, and the text of an entry.

## Theorems

* `joined_cons`, `joined_append`: The scanner does one step after the other.
* `continues_current`: A settled scanner decides by the line alone.
* `isSettled_carry`, `isSettled_run`: The scanner stays settled.
* `isSome_carry`, `isSome_run`: It holds an entry where single lines say so.
* `joined_of_not_isOpen`: Texts are scanned apart where no entry goes on.
* `joined_isEntry`: The lines of an entry are put together.
* `joined_gathered`: The entries are the gathered lines, put together.
* `exists_gathered`, `Gathered.unique`: There is one way to gather lines.
* `decided_line_by_line`: The scanner joins the lines that the rule of single lines joins.
-/

namespace Colloquy

namespace Line

/-- Whether a physical line, looked at on its own and without its carriage return, says that its
    entry goes on in the next line. -/
def goesOn (line : List Char) : Bool := continues (withoutReturn line)

/-- Whether an entry goes on behind a physical line. `begun` says whether one goes on in it; if not,
    a line that is skipped does not begin one either. -/
def staysOpen (begun : Bool) (line : List Char) : Bool :=
  (begun || !isSkipped (trimmed line)) && goesOn line

/-- Whether an entry goes on behind some physical lines, each of which is looked at on its own. -/
def isOpen (lines : List (List Char)) : Bool := lines.foldl staysOpen false

/-- The text that a physical line is judged by: what there is of an entry, and the line. -/
def current (pending : Option (List Char)) (line : List Char) : List Char :=
  pending.getD [] ++ trimmed line

/-- Whether a physical line is passed over. -/
def isIdle (pending : Option (List Char)) (line : List Char) : Bool :=
  pending.isNone && isSkipped (trimmed line)

/-- What there is of an entry behind a physical line, if it goes on there. -/
def carry (pending : Option (List Char)) (line : List Char) : Option (List Char) :=
  if isIdle pending line then none
  else if continues (current pending line) then some (current pending line).dropLast
  else none

/-- The entry that a physical line completes, if it completes one. -/
def completed (pending : Option (List Char)) (line : List Char) : List (List Char) :=
  if isIdle pending line then []
  else if continues (current pending line) then []
  else [current pending line]

/-- The scanner takes one step for the first line and goes on with what it has then. -/
theorem joined_cons (pending : Option (List Char)) (line : List Char) (rest : List (List Char)) :
    joined pending (line :: rest)
      = completed pending line ++ joined (carry pending line) rest := by
  cases pending with
  | none =>
      simp only [joined, completed, carry, isIdle, current, Option.isNone_none, Bool.true_and,
        Option.getD_none, List.nil_append]
      -- Between entries a line may be void, go on, or be an entry of its own.
      by_cases hskip : isSkipped (trimmed line) = true
      · simp only [hskip, if_true, List.nil_append]
      · by_cases hgoes : continues (trimmed line) = true
        · simp only [hskip, hgoes, if_true, if_false, Bool.false_eq_true, List.nil_append]
        · simp only [hskip, hgoes, if_false, Bool.false_eq_true, List.singleton_append]
  | some begun =>
      simp only [joined, completed, carry, isIdle, current, Option.isNone_some, Bool.false_and,
        Option.getD_some, Bool.false_eq_true, if_false]
      -- Inside an entry no line is void: it only ends the entry or does not.
      by_cases hgoes : continues (begun ++ trimmed line) = true
      · simp only [hgoes, if_true, List.nil_append]
      · simp only [hgoes, if_false, Bool.false_eq_true, List.singleton_append]

/-- Behind some lines the scanner has completed the same entries and holds the same text, whatever
    comes next. -/
theorem joined_append (pending : Option (List Char)) (lines : List (List Char)) :
    ∃ entries, ∀ rest,
      joined pending (lines ++ rest) = entries ++ joined (lines.foldl carry pending) rest := by
  induction lines generalizing pending with
  | nil => exact ⟨[], fun rest => rfl⟩
  | cons line lines ih =>
      -- What is left over by the first line is where the others start.
      rcases ih (carry pending line) with ⟨entries, hentries⟩
      refine ⟨completed pending line ++ entries, fun rest => ?_⟩
      rw [List.cons_append, joined_cons, hentries, List.foldl_cons, List.append_assoc]

/-- Where the scanner holds nothing, what comes next is scanned as if nothing stood before it. -/
theorem joined_append_of_none {pending : Option (List Char)} {lines : List (List Char)}
    (h : lines.foldl carry pending = none) (rest : List (List Char)) :
    joined pending (lines ++ rest) = joined pending lines ++ joined none rest := by
  rcases joined_append pending lines with ⟨entries, hentries⟩
  have hlines := hentries []
  rw [List.append_nil, h, joined, List.append_nil] at hlines
  rw [hentries, h, hlines]

/-- What there is of an entry ends in an even number of backslashes. -/
def IsSettled (pending : Option (List Char)) : Prop :=
  ∀ begun ∈ pending, backslashes begun % 2 = 0

/-- Blanks in front of a line are no backslashes, so they do not matter for the end of it. -/
theorem continues_trimmed (line : List Char) : continues (trimmed line) = goesOn line := by
  -- Trimming takes blanks away, and a blank is no backslash.
  have hdrop (cs : List Char) : backslashes (cs.dropWhile isGap) % 2 = backslashes cs % 2 := by
    induction cs with
    | nil => rfl
    | cons c cs ih =>
        by_cases hgap : isGap c = true
        · have hne : c ≠ '\\' := by
            intro he
            rw [he] at hgap
            exact absurd hgap (by decide)
          rw [List.dropWhile_cons, if_pos hgap, ih, backslashes_cons_of_ne hne]
        · rw [List.dropWhile_cons, if_neg hgap]
  rw [goesOn, continues_eq, continues_eq, trimmed, hdrop]

/-- Behind an even number of backslashes, a text ends in an odd number if it does so alone. -/
theorem continues_append {begun : List Char} (h : backslashes begun % 2 = 0) (cs : List Char) :
    continues (begun ++ cs) = continues cs := by
  rw [continues_eq, continues_eq, backslashes_append]
  by_cases hall : backslashes cs = cs.length
  · -- There is nothing but backslashes, so those before it are counted as well.
    rw [if_pos hall, Nat.add_mod, h, Nat.zero_add, Nat.mod_mod]
  · rw [if_neg hall]

/-- A settled scanner decides about a line by the line alone. -/
theorem continues_current {pending : Option (List Char)} (h : IsSettled pending)
    (line : List Char) : continues (current pending line) = goesOn line := by
  cases pending with
  | none => exact continues_trimmed line
  | some begun =>
      have heven := h begun rfl
      rw [current, Option.getD_some, continues_append heven, continues_trimmed]

theorem backslashes_concat (cs : List Char) : backslashes (cs ++ ['\\']) = backslashes cs + 1 := by
  rw [backslashes_append]
  rfl

/-- A text with another character at its end ends in no backslash. -/
theorem backslashes_concat_of_ne {c : Char} (h : c ≠ '\\') (cs : List Char) :
    backslashes (cs ++ [c]) = 0 := by
  rw [backslashes_append, backslashes_cons_of_ne h]
  rfl

/-- A text that goes on ends in a backslash. -/
theorem exists_of_continues {cs : List Char} (h : continues cs = true) :
    ∃ front, cs = front ++ ['\\'] := by
  rcases List.eq_nil_or_concat cs with rfl | ⟨front, c, hcs⟩
  · exact absurd h (by decide)
  · rw [List.concat_eq_append] at hcs
    subst hcs
    by_cases hc : c = '\\'
    · exact ⟨front, by rw [hc]⟩
    · -- Behind another character there are no backslashes at the end, an even number.
      rw [continues_eq, backslashes_concat_of_ne hc] at h
      exact absurd h (by decide)

/-- One backslash less at the end of a text that goes on makes their number even. -/
theorem backslashes_dropLast {cs : List Char} (h : continues cs = true) :
    backslashes cs.dropLast % 2 = 0 := by
  rcases exists_of_continues h with ⟨front, rfl⟩
  rw [continues_eq, decide_eq_true_eq, backslashes_concat] at h
  rw [List.dropLast_concat]
  omega

/-- One step keeps the scanner settled, whether it was or not. -/
theorem isSettled_carry (pending : Option (List Char)) (line : List Char) :
    IsSettled (carry pending line) := by
  intro begun hbegun
  unfold carry at hbegun
  split at hbegun
  · cases hbegun
  · split at hbegun
    · -- An entry is carried on without the backslash at its end, so an even number is left.
      rename_i hgoes
      cases hbegun
      exact backslashes_dropLast hgoes
    · cases hbegun

/-- The scanner is settled behind all lines. -/
theorem isSettled_run {pending : Option (List Char)} (h : IsSettled pending)
    (lines : List (List Char)) : IsSettled (lines.foldl carry pending) := by
  induction lines generalizing pending with
  | nil => exact h
  | cons line lines ih => exact ih (isSettled_carry pending line)

/-- A settled scanner holds an entry behind a line if the line says so. -/
theorem isSome_carry {pending : Option (List Char)} (h : IsSettled pending) (line : List Char) :
    (carry pending line).isSome = staysOpen pending.isSome line := by
  have hidle : isIdle pending line = !(pending.isSome || !isSkipped (trimmed line)) := by
    cases pending <;> simp [isIdle]
  rw [carry, continues_current h, hidle, staysOpen]
  cases pending.isSome || !isSkipped (trimmed line)
  · rfl
  · cases goesOn line <;> rfl

/-- So it holds an entry behind some lines if these say so one by one. -/
theorem isSome_run {pending : Option (List Char)} (h : IsSettled pending)
    (lines : List (List Char)) :
    (lines.foldl carry pending).isSome = lines.foldl staysOpen pending.isSome := by
  induction lines generalizing pending with
  | nil => rfl
  | cons line lines ih =>
      rw [List.foldl_cons, List.foldl_cons, ih (isSettled_carry pending line), isSome_carry h]

theorem isSettled_none : IsSettled none := by
  intro begun hbegun
  cases hbegun

theorem run_eq_none {lines : List (List Char)} (h : isOpen lines = false) :
    lines.foldl carry none = none := by
  have hsome := isSome_run isSettled_none lines
  rw [Option.isSome_none, ← isOpen, h] at hsome
  exact Option.not_isSome_iff_eq_none.mp (Bool.eq_false_iff.mp hsome)

/-- Lines behind which no entry goes on, and the lines that follow them, are scanned apart. -/
theorem joined_of_not_isOpen {lines : List (List Char)} (h : isOpen lines = false)
    (rest : List (List Char)) :
    joined none (lines ++ rest) = joined none lines ++ joined none rest :=
  joined_append_of_none (run_eq_none h) rest
/-- What a physical line adds to its entry: neither its leading blanks nor the backslash that says
    that the entry goes on. -/
def share (line : List Char) : List Char :=
  if goesOn line then (trimmed line).dropLast else trimmed line

/-- The text of an entry that is made of some physical lines. -/
def assembled (lines : List (List Char)) : List Char := lines.flatMap share

/-- Some physical lines are those of one entry, in front of the rest of the lines: the first one is
    not skipped, each but the last says that the entry goes on, and the last one does not, unless
    there are no more lines. -/
structure IsEntry (lines rest : List (List Char)) : Prop where
  starts : ∃ first more, lines = first :: more ∧ isSkipped (trimmed first) = false
  goes_on : ∀ line ∈ lines.dropLast, goesOn line = true
  ends : ∀ line ∈ lines.getLast?, goesOn line = true → rest = []

/-- Physical lines, and the lines of each entry among them. -/
inductive Gathered : List (List Char) → List (List (List Char)) → Prop
  | nil : Gathered [] []
  | skipped {line : List Char} {rest : List (List Char)} {entries : List (List (List Char))} :
      isSkipped (trimmed line) = true → Gathered rest entries → Gathered (line :: rest) entries
  | entry {lines rest : List (List Char)} {entries : List (List (List Char))} :
      IsEntry lines rest → Gathered rest entries → Gathered (lines ++ rest) (lines :: entries)

section Settled

variable {begun line : List Char} (hsettled : IsSettled (some begun))
include hsettled

/-- An entry gets what a line adds to it, and goes on if the line says so. -/
theorem joined_of_goesOn (hgoes : goesOn line = true) (rest : List (List Char)) :
    IsSettled (some (begun ++ share line)) ∧
      joined (some begun) (line :: rest) = joined (some (begun ++ share line)) rest := by
  have hcontinues : continues (begun ++ trimmed line) = true :=
    (continues_current hsettled line).trans hgoes
  -- What the line adds is the line without the backslash that makes it go on.
  have hshare : (begun ++ trimmed line).dropLast = begun ++ share line := by
    rcases exists_of_continues ((continues_trimmed line).trans hgoes) with ⟨front, hfront⟩
    rw [share, hgoes, if_pos rfl, hfront, ← List.append_assoc, List.dropLast_concat,
      List.dropLast_concat]
  constructor
  · intro other hother
    cases hother
    rw [← hshare]
    exact backslashes_dropLast hcontinues
  · rw [joined, hcontinues, if_pos rfl, hshare]

/-- An entry is complete with a line that does not say that it goes on. -/
theorem joined_of_not_goesOn (hends : goesOn line = false) (rest : List (List Char)) :
    joined (some begun) (line :: rest) = (begun ++ share line) :: joined none rest := by
  have hcontinues : continues (begun ++ trimmed line) = false :=
    (continues_current hsettled line).trans hends
  rw [joined, hcontinues, share, hends, if_neg Bool.false_ne_true, if_neg Bool.false_ne_true]

/-- The rest of an entry is put behind what there is of it. -/
theorem joined_entry {lines rest : List (List Char)} (hne : lines ≠ [])
    (hgoes : ∀ line ∈ lines.dropLast, goesOn line = true)
    (hends : ∀ line ∈ lines.getLast?, goesOn line = true → rest = []) :
    joined (some begun) (lines ++ rest) = (begun ++ assembled lines) :: joined none rest := by
  induction lines generalizing begun with
  | nil => exact absurd rfl hne
  | cons line lines ih =>
      have hassembled : begun ++ assembled (line :: lines)
          = begun ++ share line ++ assembled lines := by
        rw [assembled, List.flatMap_cons, List.append_assoc]
        rfl
      rw [hassembled, List.cons_append]
      cases lines with
      | nil =>
          -- The last line ends the entry, or there are no more lines and nothing is left to say.
          rw [List.nil_append, assembled, List.flatMap_nil, List.append_nil]
          by_cases hgo : goesOn line = true
          · rw [hends line rfl hgo, (joined_of_goesOn hsettled hgo []).2]
            rfl
          · exact joined_of_not_goesOn hsettled (Bool.eq_false_iff.mpr hgo) rest
      | cons next lines =>
          have hgo := hgoes line List.mem_cons_self
          have hstep := joined_of_goesOn hsettled hgo (next :: lines ++ rest)
          rw [hstep.2]
          refine ih hstep.1 (List.cons_ne_nil _ _) (fun other hother => ?_) hends
          exact hgoes other (List.mem_cons_of_mem _ hother)

end Settled

/-- A line that is not skipped begins an entry, of which there is nothing before. -/
theorem joined_start {line : List Char} (h : isSkipped (trimmed line) = false)
    (rest : List (List Char)) : joined none (line :: rest) = joined (some []) (line :: rest) := by
  rw [joined, joined, h, if_neg Bool.false_ne_true]
  rfl

/-- The lines of an entry are put together, and what follows them is scanned afresh. -/
theorem joined_isEntry {lines rest : List (List Char)} (h : IsEntry lines rest) :
    joined none (lines ++ rest) = assembled lines :: joined none rest := by
  rcases h.starts with ⟨first, more, rfl, hfirst⟩
  have hempty : IsSettled (some []) := by
    intro begun hbegun
    cases hbegun
    rfl
  rw [List.cons_append, joined_start hfirst, ← List.cons_append,
    joined_entry hempty (List.cons_ne_nil _ _) h.goes_on h.ends, List.nil_append]

/-- The entries of some physical lines are the lines of each entry, put together. -/
theorem joined_gathered {lines : List (List Char)} {entries : List (List (List Char))}
    (h : Gathered lines entries) : joined none lines = entries.map assembled := by
  induction h with
  | nil => rfl
  | skipped hskip _ ih => rw [joined, hskip, if_pos rfl, ih]
  | entry hentry _ ih => rw [joined_isEntry hentry, ih, List.map_cons]

/-- A line that belongs to an entry is followed by the rest of it, which ends at the first line that
    does not say that the entry goes on. -/
theorem exists_rest_of_entry (line : List Char) (rest : List (List Char)) :
    ∃ more others, rest = more ++ others ∧
      (∀ other ∈ (line :: more).dropLast, goesOn other = true) ∧
      ∀ other ∈ (line :: more).getLast?, goesOn other = true → others = [] := by
  induction rest generalizing line with
  | nil =>
      refine ⟨[], [], rfl, fun other hother => ?_, fun other hother hgoes => rfl⟩
      cases hother
  | cons next rest ih =>
      -- Lines are taken up to the first one that does not go on.
      by_cases hgo : goesOn line = true
      · rcases ih next with ⟨more, others, hrest, hgoes, hends⟩
        refine ⟨next :: more, others, by rw [hrest]; rfl, fun other hother => ?_, hends⟩
        rcases List.mem_cons.mp hother with rfl | hother
        · exact hgo
        · exact hgoes other hother
      · refine ⟨[], next :: rest, rfl, fun other hother => ?_, fun other hother hgoes => ?_⟩
        · cases hother
        · cases hother
          exact absurd hgoes hgo

/-- The lines of any text can be gathered. -/
theorem exists_gathered (lines : List (List Char)) : ∃ entries, Gathered lines entries := by
  -- The rest of the lines is shorter by a whole entry, so the induction is on their number.
  induction hlength : lines.length using Nat.strongRecOn generalizing lines with
  | ind length ih =>
      cases lines with
      | nil => exact ⟨[], .nil⟩
      | cons line rest =>
          rw [List.length_cons] at hlength
          by_cases hskip : isSkipped (trimmed line) = true
          · rcases ih rest.length (by omega) rest rfl with ⟨entries, hentries⟩
            exact ⟨entries, .skipped hskip hentries⟩
          · rcases exists_rest_of_entry line rest with ⟨more, others, rfl, hgoes, hends⟩
            rw [List.length_append] at hlength
            rcases ih others.length (by omega) others rfl with ⟨entries, hentries⟩
            have hentry : IsEntry (line :: more) others :=
              ⟨⟨line, more, rfl, Bool.eq_false_iff.mpr hskip⟩, hgoes, hends⟩
            exact ⟨(line :: more) :: entries, .entry hentry hentries⟩

/-- An entry does not end where another one would still go on. -/
theorem IsEntry.eq_nil_of_append {lines more rest others : List (List Char)}
    (h : IsEntry lines (more ++ rest)) (h' : IsEntry (lines ++ more) others) : more = [] := by
  by_cases hne : more = []
  · exact hne
  rcases h.starts with ⟨first, tail, hlines, _⟩
  have hsome : lines ≠ [] := by
    rw [hlines]
    exact List.cons_ne_nil _ _
  -- The last line of the first entry is not the last line of the second, which goes on with it.
  have hmem : lines.getLast hsome ∈ (lines ++ more).dropLast := by
    rw [List.dropLast_append_of_ne_nil hne]
    exact List.mem_append_left _ (List.getLast_mem hsome)
  have hgo := h'.goes_on _ hmem
  have hnil := h.ends _ (List.getLast?_eq_some_getLast hsome) hgo
  exact (List.append_eq_nil_iff.mp hnil).1

/-- The entries at the start of the same lines are the same. -/
theorem IsEntry.unique {lines rest lines' rest' : List (List Char)} (h : IsEntry lines rest)
    (h' : IsEntry lines' rest') (heq : lines ++ rest = lines' ++ rest') :
    lines = lines' ∧ rest = rest' := by
  rcases List.append_eq_append_iff.mp heq with ⟨more, rfl, rfl⟩ | ⟨more, rfl, rfl⟩
  · rw [h.eq_nil_of_append h']
    exact ⟨(List.append_nil _).symm, rfl⟩
  · rw [h'.eq_nil_of_append h]
    exact ⟨List.append_nil _, rfl⟩

/-- They can be gathered in one way only. -/
theorem Gathered.unique {lines : List (List Char)} {entries others : List (List (List Char))}
    (h : Gathered lines entries) (h' : Gathered lines others) : entries = others := by
  induction h generalizing others with
  | nil =>
      generalize hnil : ([] : List (List Char)) = lines at h'
      cases h' with
      | nil => rfl
      | skipped _ _ => cases hnil
      | entry hentry _ =>
          rcases hentry.starts with ⟨first, more, rfl, _⟩
          cases hnil
  | @skipped line rest entries hskip _ ih =>
      generalize hlines : line :: rest = lines at h'
      cases h' with
      | nil => cases hlines
      | skipped _ hrest =>
          cases hlines
          exact ih hrest
      | entry hentry _ =>
          -- The first line of an entry is not skipped.
          rcases hentry.starts with ⟨first, more, rfl, hfirst⟩
          cases hlines
          rw [hskip] at hfirst
          cases hfirst
  | @entry lines rest entries hentry _ ih =>
      generalize hlines : lines ++ rest = all at h'
      cases h' with
      | nil =>
          rcases hentry.starts with ⟨first, more, rfl, _⟩
          cases hlines
      | skipped hskip _ =>
          rcases hentry.starts with ⟨first, more, rfl, hfirst⟩
          cases hlines
          rw [hskip] at hfirst
          cases hfirst
      | entry hother hrest =>
          rcases hentry.unique hother hlines with ⟨rfl, rfl⟩
          rw [ih hrest]

/-- The scanner, which counts the backslashes at the end of all that it has of an entry, joins the
    physical lines that the rule of single lines joins. There is one way to gather the lines of a
    text into entries so that a line is followed by another one in its entry if and only if it ends
    in an odd number of backslashes itself, and the entries are those lines put together. Behind any
    lines, whatever comes next, the scanner holds an entry where single lines say so, and it decides
    about the next line as that line alone decides. -/
theorem decided_line_by_line (text : List Char) :
    (∃ entries, (∀ others, Gathered (splitAt '\n' text) others ↔ others = entries) ∧
      logical text = entries.map assembled) ∧
    ∀ before line, ∃ entries pending,
      (∀ rest, joined none (before ++ rest) = entries ++ joined pending rest) ∧
      pending.isSome = isOpen before ∧
      continues (pending.getD [] ++ trimmed line) = goesOn line := by
  constructor
  · rcases exists_gathered (splitAt '\n' text) with ⟨entries, hentries⟩
    refine ⟨entries, fun others => ⟨fun hothers => hothers.unique hentries, ?_⟩,
      joined_gathered hentries⟩
    rintro rfl
    exact hentries
  · -- For the scanner the lines before are no more than what they leave over.
    intro before line
    rcases joined_append none before with ⟨entries, hjoined⟩
    have hsettled := isSettled_run isSettled_none before
    exact ⟨entries, before.foldl carry none, hjoined, isSome_run isSettled_none before,
      continues_current hsettled line⟩

/-- Two backslashes are left of the first line, and the second line is one more. -/
example : logical "a\\\\\\\n\\\nb\nc".toList = ["a\\\\b".toList, "c".toList] := by
  decide

end Line

end Colloquy
