import Colloquy.Proofs.Dictionary
import Colloquy.Proofs.UnitText.Continuation
import Colloquy.UnitText.Document
import Mathlib.Logic.Relation

/-!
# Layout of Units

What can be changed in the text of a unit without changing what it says. Units are also written by
hand and by other programs, and these indent lines, put comments between them, end them with a
carriage return, and have their own ways to separate a key from its value.

`Relaid` has one constructor for each such change, said of physical lines and of the characters in
them. Every line may be indented, those in the middle of an entry too. A line without an entry may
only be put where no entry goes on: inside one it would become a part of it, comment or not. What
separates a key from its value may only be changed in an entry of one line, because if the entry
went on, then the first character of its value could stand in another line. It could be a sign, and
a sign is a part of the value behind another sign, but not behind a blank.

The scanner looks at a physical line without its line end and its leading blanks and at nothing
else, which is `joined_congr`, and for the first and the third kind of change there is no more to
it. For the others it has to be known where the scanner stands, which the lines before tell.

## Main definitions

* `Line.IsSeparation`: What can stand between a key and its value.
* `Line.content`: What a line holds besides what it ends in.
* `Line.returned`: A text with a carriage return in front of every line feed.
* `Line.Relaid`: One change of layout.

## Theorems

* `joined_congr`: The scanner looks at trimmed lines.
* `joined_of_isVoid`: Lines without an entry are passed over.
* `map_trimmed_returned`: Carriage returns of line ends are trimmed.
* `valueOf_separation`: Every separation is passed over.
* `goesOn_separated`: What separates does not make a line go on.
* `share_separated`: What a line with key and value adds to its entry.
* `map_predicate_entry`: What an entry of one line says.
* `map_predicate_relaid`: One change of layout keeps what a text says.
* `decode_relaid`: Any number of them do.
-/

namespace Colloquy

namespace Line

open Escape UnitText

/-- What can stand between a key and its value: blanks, at most one sign, and blanks, but not
    nothing. -/
def IsSeparation (separation : List Char) : Prop :=
  separation ≠ [] ∧
    ∃ gap sign gap', separation = gap ++ Option.toList sign ++ gap' ∧
      (∀ c ∈ gap, isGap c = true) ∧ (∀ c ∈ sign, c = '=' ∨ c = ':') ∧ ∀ c ∈ gap', isGap c = true

/-- The content of a physical line, which is neither its line end nor the backslash that says that
    its entry goes on. -/
def content (line : List Char) : List Char :=
  if goesOn line then (withoutReturn line).dropLast else withoutReturn line

/-- A text with a carriage return in front of every line feed. -/
def returned (text : List Char) : List Char :=
  text.flatMap fun c => if c = '\n' then ['\r', '\n'] else [c]

/-- One change of layout between two texts. -/
inductive Relaid : List Char → List Char → Prop
  /-- Blanks in front of a physical line. -/
  | indented {text text' : List Char} {before after : List (List Char)} {gap line : List Char} :
      splitAt '\n' text = before ++ line :: after →
      splitAt '\n' text' = before ++ (gap ++ line) :: after →
      (∀ c ∈ gap, isGap c = true) → Relaid text text'
  /-- Lines without an entry, where no entry goes on. -/
  | spaced {text text' : List Char} {before lines after : List (List Char)} :
      splitAt '\n' text = before ++ after → splitAt '\n' text' = before ++ lines ++ after →
      isOpen before = false → (∀ line ∈ lines, IsVoid line) → Relaid text text'
  /-- Carriage returns at all line ends, where there are none. -/
  | returned {text : List Char} : '\r' ∉ text → Relaid text (returned text)
  /-- Another separation between key and value, in an entry that is one physical line: it does not
      go on, or there is no line in which it could. The key has no separator in it that is not
      escaped and does not end inside an escape, and its value does not start with a sign. -/
  | separated {text text' : List Char} {before after : List (List Char)}
      {gap key separation separation' value : List Char} :
      splitAt '\n' text = before ++ (gap ++ key ++ separation ++ value) :: after →
      splitAt '\n' text' = before ++ (gap ++ key ++ separation' ++ value) :: after →
      isOpen before = false → (goesOn (gap ++ key ++ separation ++ value) = true → after = []) →
      (∀ c ∈ gap, isGap c = true) → key ≠ [] → Paired (fun c => isSeparator c = false) key →
      IsSeparation separation → IsSeparation separation' →
      (∀ c ∈ (value.dropWhile isGap).head?, c ≠ '=' ∧ c ≠ ':') → Relaid text text'

/-- The scanner looks at trimmed lines only. -/
theorem joined_congr {lines others : List (List Char)} (h : lines.map trimmed = others.map trimmed)
    (pending : Option (List Char)) : joined pending lines = joined pending others := by
  induction lines generalizing others pending with
  | nil =>
      rw [List.map_nil, eq_comm, List.map_eq_nil_iff] at h
      rw [h]
  | cons line lines ih =>
      rw [List.map_cons, eq_comm, List.map_eq_cons_iff] at h
      rcases h with ⟨other, rest, rfl, htrimmed, hrest⟩
      -- All that is made of a line is made of what is left of it after trimming.
      have hidle : isIdle pending other = isIdle pending line := by
        rw [isIdle, isIdle, htrimmed]
      have hcurrent : current pending other = current pending line := by
        rw [current, current, htrimmed]
      rw [joined_cons, joined_cons, completed, completed, carry, carry, hidle, hcurrent,
        ih hrest.symm]

/-- Lines without an entry are passed over where no entry goes on. -/
theorem joined_of_isVoid {lines : List (List Char)} (h : ∀ line ∈ lines, IsVoid line)
    (rest : List (List Char)) : joined none (lines ++ rest) = joined none rest := by
  induction lines with
  | nil => rfl
  | cons line lines ih =>
      rw [List.cons_append, joined_isVoid (h line List.mem_cons_self),
        ih fun other hother => h other (List.mem_cons_of_mem _ hother)]

theorem withoutReturn_of_not_mem {line : List Char} (h : '\r' ∉ line) :
    withoutReturn line = line := by
  rw [withoutReturn, if_neg]
  intro hlast
  exact h (List.mem_of_getLast? hlast)

/-- Without their carriage returns, the lines are those that there were. -/
theorem map_withoutReturn_returned {text : List Char} (h : '\r' ∉ text) :
    (splitAt '\n' (returned text)).map withoutReturn = splitAt '\n' text := by
  induction text with
  | nil => rfl
  | cons c text ih =>
      rw [List.mem_cons, not_or] at h
      have htext := ih h.2
      by_cases hc : c = '\n'
      · have hreturned : returned (c :: text) = ['\r'] ++ '\n' :: returned text := by
          rw [returned, List.flatMap_cons, if_pos hc]
          rfl
        rw [hreturned, splitAt_append_cons, List.map_append, htext, hc, splitAt_cons_self]
        rfl
      · have hreturned : returned (c :: text) = c :: returned text := by
          rw [returned, List.flatMap_cons, if_neg hc]
          rfl
        -- The character goes in front of the first line on both sides.
        rcases exists_splitAt_cons '\n' c hc (returned text) with ⟨line, lines, hsplit, hcons⟩
        rcases exists_splitAt_cons '\n' c hc text with ⟨line', lines', hsplit', hcons'⟩
        rw [hsplit, hsplit', List.map_cons] at htext
        have hlast : [c].getLast? ≠ some '\r' := fun he => h.1 (Option.some.inj he).symm
        have hline : withoutReturn (c :: line) = c :: line' := by
          rw [← List.singleton_append, withoutReturn_append hlast, (List.cons.inj htext).1]
          rfl
        rw [hreturned, hcons, hcons', List.map_cons, hline, (List.cons.inj htext).2]

/-- Carriage returns of line ends are trimmed. -/
theorem map_trimmed_returned {text : List Char} (h : '\r' ∉ text) :
    (splitAt '\n' (returned text)).map trimmed = (splitAt '\n' text).map trimmed := by
  -- The text has no carriage returns, so taking them away changes nothing in it.
  have htext : (splitAt '\n' text).map withoutReturn = splitAt '\n' text := by
    refine (List.map_congr_left fun line hline => ?_).trans (List.map_id _)
    exact withoutReturn_of_not_mem fun hmem => h (mem_of_mem_splitAt hline hmem)
  have htrimmed (lines : List (List Char)) :
      lines.map trimmed = (lines.map withoutReturn).map (·.dropWhile isGap) := by
    rw [List.map_map]
    rfl
  rw [htrimmed, htrimmed, map_withoutReturn_returned h, htext]

/-- A value that does not start with a sign is what follows the blanks in front of it. -/
theorem valueOf_of_head {cs : List Char}
    (h : ∀ c ∈ (cs.dropWhile isGap).head?, c ≠ '=' ∧ c ≠ ':') :
    valueOf cs = cs.dropWhile isGap := by
  rw [valueOf]
  split
  · -- A sign in front would be the head of what is left.
    rename_i value hvalue
    rw [hvalue] at h
    exact absurd rfl (h '=' rfl).1
  · rename_i value hvalue
    rw [hvalue] at h
    exact absurd rfl (h ':' rfl).2
  · rfl

theorem valueOf_gap {gap : List Char} (h : ∀ c ∈ gap, isGap c = true) (cs : List Char) :
    valueOf (gap ++ cs) = valueOf cs := by
  rw [valueOf, valueOf, List.dropWhile_append_of_pos h]

/-- Every separation is passed over, with the blanks in front of the value. -/
theorem valueOf_separation {separation : List Char} (h : IsSeparation separation)
    {value : List Char} (hvalue : ∀ c ∈ (value.dropWhile isGap).head?, c ≠ '=' ∧ c ≠ ':') :
    valueOf (separation ++ value) = value.dropWhile isGap := by
  rcases h.2 with ⟨gap, sign, gap', rfl, hgap, hsign, hgap'⟩
  rw [List.append_assoc, List.append_assoc, valueOf_gap hgap]
  -- The value may start behind a sign or behind blanks alone.
  cases sign with
  | none =>
      rw [Option.toList_none, List.nil_append, valueOf_gap hgap', valueOf_of_head hvalue]
  | some sign =>
      rw [Option.toList_some, List.singleton_append, valueOf_sign (hsign sign rfl),
        List.dropWhile_append_of_pos hgap']

/-- All characters of a separation separate. -/
theorem IsSeparation.isSeparator {separation : List Char} (h : IsSeparation separation) {c : Char}
    (hc : c ∈ separation) : isSeparator c = true := by
  rcases h.2 with ⟨gap, sign, gap', rfl, hgap, hsign, hgap'⟩
  rw [List.mem_append, List.mem_append] at hc
  rcases hc with (hc | hc) | hc
  · rw [Line.isSeparator, hgap c hc, Bool.or_true]
  · rcases hsign c (Option.mem_toList.mp hc) with rfl | rfl <;> rfl
  · rw [Line.isSeparator, hgap' c hc, Bool.or_true]

/-- The content of a line is what it starts with. -/
theorem exists_ending (line : List Char) : ∃ ending, line = content line ++ ending := by
  -- A carriage return is taken off the end, and then perhaps a backslash; what is left is a front
  -- part both times.
  have hreturn : withoutReturn line <+: line := by
    unfold withoutReturn
    split
    · exact List.dropLast_prefix line
    · exact List.prefix_refl line
  have hcontent : content line <+: withoutReturn line := by
    unfold content
    split
    · exact List.dropLast_prefix _
    · exact List.prefix_refl _
  rcases hcontent.trans hreturn with ⟨ending, hending⟩
  exact ⟨ending, hending.symm⟩

section Separated

variable {separation : List Char} (hseparation : IsSeparation separation)
include hseparation

/-- What stands in front of a value ends in a character that separates. -/
theorem exists_front (start : List Char) :
    ∃ front mark, start ++ separation = front ++ [mark] ∧ isSeparator mark = true := by
  have hne := hseparation.1
  refine ⟨start ++ separation.dropLast, separation.getLast hne, ?_,
    hseparation.isSeparator (List.getLast_mem hne)⟩
  rw [List.append_assoc, List.dropLast_concat_getLast hne]

/-- The line end of a value is the line end of its line. -/
theorem withoutReturn_separated (start value : List Char) :
    withoutReturn (start ++ separation ++ value)
      = start ++ separation ++ withoutReturn value := by
  rcases exists_front hseparation start with ⟨front, mark, hfront, hmark⟩
  -- What separates is no carriage return, so the line does not end with it.
  refine withoutReturn_append ?_ value
  rw [hfront, List.getLast?_concat]
  intro hreturn
  rw [Option.some.inj hreturn] at hmark
  exact absurd hmark (by decide)

/-- Whether a line goes on is a matter of what stands behind a separation in it. -/
theorem goesOn_separated (start value : List Char) :
    goesOn (start ++ separation ++ value) = goesOn value := by
  rcases exists_front hseparation start with ⟨front, mark, hfront, hmark⟩
  -- A run of backslashes at the end of the line ends behind what separates.
  have hne : mark ≠ '\\' := by
    intro he
    rw [he] at hmark
    exact absurd hmark (by decide)
  rw [goesOn, withoutReturn_separated hseparation, hfront, continues_append]
  · rfl
  · rw [backslashes_concat_of_ne hne]

section Key

variable {key : List Char} (hpaired : Paired (fun c => isSeparator c = false) key)
include hpaired

/-- An entry says what its key and its value say, however they are separated. -/
theorem predicate_separated {value : List Char}
    (hvalue : ∀ c ∈ (value.dropWhile isGap).head?, c ≠ '=' ∧ c ≠ ':') :
    predicate (key ++ separation ++ value)
      = (String.ofList (Escape.decode key),
        String.ofList (Escape.decode (value.dropWhile isGap))) := by
  -- The key has no separator of its own, so it ends where the separation starts.
  have hcut : splitKey (key ++ separation ++ value) = (key, separation ++ value) := by
    rcases hcs : separation with _ | ⟨mark, marks⟩
    · exact absurd hcs hseparation.1
    · have hmark : isSeparator mark = true := by
        refine hseparation.isSeparator ?_
        rw [hcs]
        exact List.mem_cons_self
      rw [List.append_assoc]
      exact splitKey_append_of_paired hpaired hmark (marks ++ value)
  rw [predicate, Line.entry, hcut, valueOf_separation hseparation hvalue]

variable (hkey : key ≠ [])
include hkey

/-- A line with key and value, without its line end and its leading blanks. -/
theorem trimmed_separated {gap : List Char} (hgap : ∀ c ∈ gap, isGap c = true)
    (value : List Char) :
    trimmed (gap ++ key ++ separation ++ value) = key ++ separation ++ withoutReturn value := by
  rw [trimmed, withoutReturn_separated hseparation, List.append_assoc, List.append_assoc,
    List.dropWhile_append_of_pos hgap, ← List.append_assoc]
  -- The key does not start with a blank, since a blank would separate.
  refine dropWhile_of_head fun c hc => ?_
  rcases hcs : key with _ | ⟨d, ds⟩
  · exact absurd hcs hkey
  · rw [hcs] at hc hpaired
    cases hc
    rcases hpaired.head with rfl | hbare
    · decide
    · rw [isSeparator, Bool.or_eq_false_iff] at hbare
      exact hbare.2

/-- Such a line is skipped if its key starts like a comment. -/
theorem isSkipped_separated {gap : List Char} (hgap : ∀ c ∈ gap, isGap c = true)
    (value : List Char) :
    isSkipped (trimmed (gap ++ key ++ separation ++ value)) = isSkipped key := by
  rw [trimmed_separated hseparation hpaired hkey hgap]
  rcases hcs : key with _ | ⟨c, cs⟩
  · exact absurd hcs hkey
  · rfl

/-- Otherwise it adds the key, what separates, and the content of the value to its entry. -/
theorem share_separated {gap : List Char} (hgap : ∀ c ∈ gap, isGap c = true) (value : List Char) :
    share (gap ++ key ++ separation ++ value) = key ++ separation ++ content value := by
  rw [share, goesOn_separated hseparation, trimmed_separated hseparation hpaired hkey hgap, content]
  -- A line that goes on loses the backslash at its end, which belongs to the value.
  by_cases hgoes : goesOn value = true
  · rcases exists_of_continues hgoes with ⟨front, hfront⟩
    rw [if_pos hgoes, if_pos hgoes, hfront, ← List.append_assoc, List.dropLast_concat,
      List.dropLast_concat]
  · rw [if_neg hgoes, if_neg hgoes]

/-- What an entry of one line says, if it is not a comment, and what the lines behind it say. None
    of it depends on what separates the key from the value. -/
theorem map_predicate_entry {gap value : List Char} (hgap : ∀ c ∈ gap, isGap c = true)
    {rest : List (List Char)}
    (hone : goesOn (gap ++ key ++ separation ++ value) = true → rest = [])
    (hvalue : ∀ c ∈ (value.dropWhile isGap).head?, c ≠ '=' ∧ c ≠ ':') :
    (joined none ((gap ++ key ++ separation ++ value) :: rest)).map predicate
      = (if isSkipped key then [] else [(String.ofList (Escape.decode key),
          String.ofList (Escape.decode ((content value).dropWhile isGap)))])
        ++ (joined none rest).map predicate := by
  have hskip := isSkipped_separated hseparation hpaired hkey hgap value
  have hshare := share_separated hseparation hpaired hkey hgap value
  generalize gap ++ key ++ separation ++ value = line at hone hskip hshare ⊢
  -- A key may look like a comment, and then the line has no entry.
  by_cases hcomment : isSkipped key = true
  · rw [if_pos hcomment, joined, hskip, if_pos hcomment]
    rfl
  · -- No line follows in which the entry could go on, so it is this line alone.
    have hentry : IsEntry [line] rest := by
      refine ⟨⟨line, [], rfl, ?_⟩, fun other hother => ?_, fun other hother hgoes => ?_⟩
      · rw [hskip]
        exact Bool.eq_false_iff.mpr hcomment
      · cases hother
      · cases hother
        exact hone hgoes
    have hassembled : assembled [line] = key ++ separation ++ content value := by
      rw [assembled, List.flatMap_singleton, hshare]
    -- The content of the value starts with a sign only if the value does.
    have hstart : ∀ c ∈ ((content value).dropWhile isGap).head?, c ≠ '=' ∧ c ≠ ':' := by
      intro c hc
      rcases exists_ending value with ⟨ending, hending⟩
      refine hvalue c ?_
      rw [hending]
      exact head_dropWhile_append ending hc
    rw [if_neg hcomment, ← List.singleton_append, joined_isEntry hentry, List.map_cons,
      hassembled, predicate_separated hseparation hpaired hstart]
    rfl

end Key

end Separated

/-- One change of layout keeps what a text says, entry for entry. -/
theorem map_predicate_relaid {text text' : List Char} (h : Relaid text text') :
    (logical text').map predicate = (logical text).map predicate := by
  cases h with
  | @indented _ before after gap line htext htext' hgap =>
      rw [logical, logical, htext, htext']
      refine congrArg (List.map predicate) (joined_congr ?_ none)
      rw [List.map_append, List.map_append, List.map_cons, List.map_cons, trimmed_indented hgap]
  | @spaced _ before lines after htext htext' hclosed hvoid =>
      -- The lines stand between entries, so what comes behind them starts anew with or without
      -- them.
      rw [logical, logical, htext, htext', List.append_assoc, joined_of_not_isOpen hclosed,
        joined_of_not_isOpen hclosed, joined_of_isVoid hvoid]
  | returned hreturn =>
      exact congrArg (List.map predicate) (joined_congr (map_trimmed_returned hreturn) none)
  | @separated _ before after gap key separation separation' value htext htext' hclosed hone hgap
      hkey hpaired hseparation hseparation' hvalue =>
      -- Whether the line goes on is a matter of its value, which stays.
      have hone' : goesOn (gap ++ key ++ separation' ++ value) = true → after = [] := by
        intro hgoes
        refine hone ?_
        rw [goesOn_separated hseparation]
        exact (goesOn_separated hseparation' _ value).symm.trans hgoes
      rw [logical, logical, htext, htext', joined_of_not_isOpen hclosed,
        joined_of_not_isOpen hclosed, List.map_append, List.map_append,
        map_predicate_entry hseparation hpaired hkey hgap hone hvalue,
        map_predicate_entry hseparation' hpaired hkey hgap hone' hvalue]

end Line

namespace UnitText

open Line

/-- Layout does not change what a text says, whatever the text is and however often its layout is
    changed. -/
theorem decode_relaid {text text' : String}
    (h : Relation.ReflTransGen Relaid text.toList text'.toList) : decode text' = decode text := by
  have hkept : ∀ {cs : List Char}, Relation.ReflTransGen Relaid text.toList cs →
      (logical cs).map predicate = (logical text.toList).map predicate := by
    intro cs hcs
    -- One change after the other, with the entries kept by each.
    induction hcs with
    | refl => rfl
    | tail _ hstep ih => rw [map_predicate_relaid hstep, ih]
  rw [decode, hkept h, decode]

/-- An entry and one that goes on, as they are written to a unit and as they may come back from an
    editor: with a colon among blanks for the first equals sign, an indented line, a comment and an
    empty line on top, and carriage returns. -/
theorem decode_relaid_edited :
    let text := "name=Aria\nlong=first \\\nsecond"
    let text' := "# old \\\r\n\r\nname : Aria\r\nlong=first \\\r\n\t second"
    Relation.ReflTransGen Relaid text.toList text'.toList ∧
      decode text' = decode text ∧ (decode text').get? "long" = some "first second" := by
  intro text text'
  have hchain : Relation.ReflTransGen Relaid text.toList text'.toList := by
    -- What each of the four changes asks for, at this text.
    have hkey : Escape.Paired (fun c => isSeparator c = false) "name".toList :=
      .bare _ _ (by decide) rfl (.bare _ _ (by decide) rfl (.bare _ _ (by decide) rfl
        (.bare _ _ (by decide) rfl .nil)))
    have hequals : IsSeparation ['='] :=
      ⟨by decide, [], some '=', [], rfl, List.all_eq_true.mp rfl,
        fun c hc => .inl (Option.some.inj hc).symm, List.all_eq_true.mp rfl⟩
    have hcolon : IsSeparation [' ', ':', ' '] :=
      ⟨by decide, [' '], some ':', [' '], rfl, List.all_eq_true.mp rfl,
        fun c hc => .inr (Option.some.inj hc).symm, List.all_eq_true.mp rfl⟩
    -- The texts in between, with one change more each.
    let separated := "name : Aria\nlong=first \\\nsecond"
    let indented := "name : Aria\nlong=first \\\n\t second"
    let spaced := "# old \\\n\nname : Aria\nlong=first \\\n\t second"
    let rest := ["long=first \\".toList, "second".toList]
    have hequal : splitAt '\n' text.toList
        = [] ++ ([] ++ "name".toList ++ ['='] ++ "Aria".toList) :: rest := by decide
    have hcolons : splitAt '\n' separated.toList
        = [] ++ ([] ++ "name".toList ++ [' ', ':', ' '] ++ "Aria".toList) :: rest := by decide
    have hplain : splitAt '\n' separated.toList
        = ["name : Aria".toList, "long=first \\".toList] ++ "second".toList :: [] := by decide
    have hindented : splitAt '\n' indented.toList
        = ["name : Aria".toList, "long=first \\".toList]
          ++ (['\t', ' '] ++ "second".toList) :: [] := by decide
    have hspaced : splitAt '\n' spaced.toList
        = [] ++ ["# old \\".toList, []] ++ splitAt '\n' indented.toList := by decide
    have hvoid : ∀ line ∈ ["# old \\".toList, []], IsVoid line := by
      intro line hline
      rcases List.mem_cons.mp hline with rfl | hline
      · exact .inr ⟨[], '#', " old \\".toList, rfl, List.all_eq_true.mp rfl, .inl rfl⟩
      · rw [List.mem_singleton.mp hline]
        exact .inl (List.all_eq_true.mp rfl)
    -- The last change is made to all lines at once.
    have hreturned : text'.toList = returned spaced.toList := by decide
    rw [hreturned]
    refine .head (.separated hequal hcolons rfl (fun hgoes => absurd hgoes (by decide))
      (List.all_eq_true.mp rfl) (by decide) hkey hequals hcolon fun c hc => ?_) ?_
    · cases hc
      decide
    refine .head (.indented hplain hindented (List.all_eq_true.mp rfl)) ?_
    exact .head (.spaced (List.nil_append _) hspaced rfl hvoid)
      (.single (.returned (by decide)))
  refine ⟨hchain, decode_relaid hchain, ?_⟩
  decide +kernel

/-- A comment in the middle of an entry is a part of it. -/
example : (decode "long=first\\\n# second").get? "long" = some "first# second" := by
  decide +kernel

end UnitText

end Colloquy
