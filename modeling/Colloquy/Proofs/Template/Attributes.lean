import Colloquy.Proofs.Template.Grammar
import Colloquy.Proofs.Text.Run

/-!
# Reading Attributes

The parts of a tag are read exactly where the grammar writes them. For each part there is one
equivalence: what the reader takes and what it leaves, against what stands there. The reader takes
as much as it can, and the grammar says nothing about that, so the equivalences also say what cannot
follow. No character belongs to both a gap and a name, and neither an equals sign, nor a quote, nor
the end of a tag belongs to either; that is why what follows each part always stops it.

## Main definitions

* `Lexeme.IsBare`: No gap starts here.

## Theorems

* `name?_eq_some_iff`, `value?_eq_some_iff`, `equals?_eq_some_iff`: The parts of an attribute.
* `attribute?_eq_some_iff`: An attribute is read where one is written.
* `attributes_append`: Attributes are read up to where no more are written.
* `exists_attributes`: What is read as attributes is written as such.
-/

namespace Colloquy

open Grammar

theorem isNameChar_of_space {c : Char} (h : isTagSpace c = true) : isNameChar c = false := by
  simp only [isTagSpace, Bool.or_eq_true, decide_eq_true_eq] at h
  rcases h with ((rfl | rfl) | rfl) | rfl <;> decide

namespace Lexeme

/-- No spaces start here. -/
def IsBare (cs : List Char) : Prop := ∀ c ∈ cs.head?, isTagSpace c = false

theorem skipSpace_gap {gap rest : List Char} (hgap : IsGap gap) (hrest : IsBare rest) :
    skipSpace (gap ++ rest) = rest :=
  dropWhile_run hgap hrest

theorem isBare_skipSpace (cs : List Char) : IsBare (skipSpace cs) := head_dropWhile isTagSpace cs

theorem exists_gap (cs : List Char) : ∃ gap, IsGap gap ∧ cs = gap ++ skipSpace cs :=
  ⟨cs.takeWhile isTagSpace, fun _ hc => of_mem_takeWhile hc,
    (List.takeWhile_append_dropWhile).symm⟩

theorem name?_eq_some_iff {cs name rest : List Char} :
    name? cs = some (name, rest) ↔
      IsName name ∧ cs = name ++ rest ∧ ∀ c ∈ rest.head?, isNameChar c = false := by
  constructor
  · intro h
    unfold name? at h
    split at h
    · cases h
    · rename_i hne
      cases h
      exact ⟨⟨hne, fun _ hc => of_mem_takeWhile hc⟩, (List.takeWhile_append_dropWhile).symm,
        head_dropWhile isNameChar cs⟩
  · -- The name ends where it is said to, for no further character could belong to it.
    rintro ⟨⟨hne, hname⟩, rfl, hrest⟩
    unfold name?
    rw [takeWhile_run hname hrest, dropWhile_run hname hrest]
    split
    · exact absurd rfl hne
    · rfl

theorem valueIn?_eq_some_iff {quote : Char} {cs value rest : List Char} :
    valueIn? quote cs = some (value, rest) ↔ quote ∉ value ∧ cs = value ++ quote :: rest := by
  constructor
  · intro h
    unfold valueIn? at h
    split at h
    · cases h
    · rename_i c after hdrop
      cases h
      -- Taking stopped at a character that is not unlike the quote.
      have hc : c = quote := by
        have hhead := head_dropWhile (fun c => decide (c ≠ quote)) cs c (by rw [hdrop]; rfl)
        exact Decidable.of_not_not (of_decide_eq_false hhead)
      refine ⟨fun hmem => ?_, ?_⟩
      · have hne := of_mem_takeWhile hmem
        exact of_decide_eq_true hne rfl
      · rw [← hc, ← hdrop, hc, List.takeWhile_append_dropWhile]
  · rintro ⟨hvalue, rfl⟩
    have hrun : ∀ c ∈ value, decide (c ≠ quote) = true := fun c hc =>
      decide_eq_true fun heq => hvalue (heq ▸ hc)
    have hstop : ∀ c ∈ (quote :: rest).head?, decide (c ≠ quote) = false := by
      intro c hc
      cases hc
      exact decide_eq_false (not_not_intro rfl)
    unfold valueIn?
    rw [takeWhile_run hrun hstop, dropWhile_run hrun hstop]

theorem value?_eq_some_iff {cs value rest : List Char} :
    value? cs = some (value, rest) ↔
      ∃ quote, (quote = '"' ∨ quote = '\'') ∧ quote ∉ value ∧
        cs = quote :: (value ++ quote :: rest) := by
  constructor
  · intro h
    unfold value? at h
    split at h
    · rcases valueIn?_eq_some_iff.mp h with ⟨hvalue, rfl⟩
      exact ⟨'"', .inl rfl, hvalue, rfl⟩
    · rcases valueIn?_eq_some_iff.mp h with ⟨hvalue, rfl⟩
      exact ⟨'\'', .inr rfl, hvalue, rfl⟩
    · cases h
  · -- The value ends at the first quote of its own kind.
    rintro ⟨quote, rfl | rfl, hvalue, rfl⟩
    · exact valueIn?_eq_some_iff.mpr ⟨hvalue, rfl⟩
    · exact valueIn?_eq_some_iff.mpr ⟨hvalue, rfl⟩

theorem equals?_eq_some_iff {cs rest : List Char} :
    equals? cs = some rest ↔
      ∃ before after, IsGap before ∧ IsGap after ∧ IsBare rest ∧
        cs = before ++ '=' :: (after ++ rest) := by
  constructor
  · intro h
    unfold equals? at h
    split at h
    · rename_i afterSign heq
      cases h
      -- What is skipped on either side of the sign is a gap.
      rcases exists_gap cs with ⟨before, hbefore, hcs⟩
      rcases exists_gap afterSign with ⟨after, hafter, hrest⟩
      refine ⟨before, after, hbefore, hafter, isBare_skipSpace afterSign, ?_⟩
      rw [← hrest, ← heq, ← hcs]
    · cases h
  · rintro ⟨before, after, hbefore, hafter, hrest, rfl⟩
    have hsign : IsBare ('=' :: (after ++ rest)) := fun c hc => by cases hc; rfl
    rw [equals?, skipSpace_gap hbefore hsign]
    simp only [skipSpace_gap hafter hrest]

theorem isBare_name {name : List Char} (h : IsName name) (rest : List Char) :
    IsBare (name ++ rest) := by
  rcases List.exists_cons_of_ne_nil h.1 with ⟨c, cs, rfl⟩
  intro d hd
  cases hd
  have hc := h.2 c List.mem_cons_self
  rw [Bool.eq_false_iff]
  -- A first character that is a space would not be one of a name.
  intro hspace
  rw [isNameChar_of_space hspace] at hc
  exact Bool.false_ne_true hc

/-- A name does not go on behind spaces, nor where there are none and something else follows. -/
theorem not_isNameChar_gap {gap rest : List Char} (hgap : IsGap gap)
    (hrest : ∀ c ∈ rest.head?, isNameChar c = false) :
    ∀ c ∈ (gap ++ rest).head?, isNameChar c = false := by
  cases gap with
  | nil => exact hrest
  | cons d gap =>
      intro c hc
      cases hc
      exact isNameChar_of_space (hgap d List.mem_cons_self)

theorem isBare_quoted {quoted : List Char} {value : String} (h : Quoted quoted value)
    (rest : List Char) : IsBare (quoted ++ rest) := by
  rcases h with ⟨rfl | rfl, _⟩
  · intro c hc
    cases hc
    rfl
  · intro c hc
    cases hc
    rfl

theorem value?_quoted {quoted : List Char} {value : String} (h : Quoted quoted value)
    (rest : List Char) : ∃ raw, value? (quoted ++ rest) = some (raw, rest) ∧
      value = String.ofList (Reference.expand raw) := by
  rcases h with @⟨quote, raw, hquote, hraw⟩
  refine ⟨raw, value?_eq_some_iff.mpr ⟨quote, hquote, hraw, ?_⟩, rfl⟩
  rw [List.cons_append, List.cons_append, List.append_assoc, List.singleton_append]

/-- An attribute is read where one is written. -/
theorem attribute?_eq_some_iff {cs rest : List Char} {pair : String × String} :
    attribute? cs = some (pair, rest) ↔
      ∃ written, Attribute written pair ∧ cs = written ++ rest := by
  constructor
  · intro h
    unfold attribute? at h
    split at h
    · rename_i c tail
      split at h
      · rename_i hspace
        simp only [Option.bind_eq_bind, Option.bind_eq_some_iff, Option.pure_def,
          Option.some.injEq, Prod.mk.injEq, Prod.exists] at h
        -- The parts leave one another what they do not take, and the pieces are put together again.
        rcases h with ⟨name, afterName, hread, afterEquals, hequals, raw, _, hvalue, rfl, rfl⟩
        rcases exists_gap tail with ⟨gap, hgap, htail⟩
        rcases name?_eq_some_iff.mp hread with ⟨hname, hskip, _⟩
        rcases equals?_eq_some_iff.mp hequals with ⟨before, after, hbefore, hafter, _, rfl⟩
        rcases value?_eq_some_iff.mp hvalue with ⟨quote, hquote, hraw, rfl⟩
        have hspaces : IsGap (c :: gap) := List.forall_mem_cons.mpr ⟨hspace, hgap⟩
        refine ⟨_, .intro (List.cons_ne_nil c gap) hspaces hname hbefore hafter
          (.intro hquote hraw), ?_⟩
        rw [htail, hskip]
        simp only [List.cons_append, List.append_assoc, List.nil_append]
      · cases h
    · cases h
  · rintro ⟨written, hwritten, rfl⟩
    rcases hwritten with
      @⟨gap, name, before, after, quoted, value, hne, hgap, hname, hbefore, hafter, hquoted⟩
    rcases List.exists_cons_of_ne_nil hne with ⟨c, gap, rfl⟩
    rcases List.forall_mem_cons.mp hgap with ⟨hspace, hgap⟩
    rcases value?_quoted hquoted rest with ⟨raw, hvalue, rfl⟩
    -- Each part stops where the next one starts, because they have no character in common.
    have hsign : ∀ d ∈ ('=' :: (after ++ (quoted ++ rest))).head?, isNameChar d = false :=
      fun d hd => by cases hd; decide
    have hnamed := name?_eq_some_iff.mpr ⟨hname, rfl, not_isNameChar_gap hbefore hsign⟩
    have hequals := equals?_eq_some_iff.mpr
      ⟨before, after, hbefore, hafter, isBare_quoted hquoted rest, rfl⟩
    simp only [List.cons_append, List.append_assoc]
    rw [attribute?, if_pos hspace, skipSpace_gap hgap (isBare_name hname _), hnamed]
    simp only [Option.bind_eq_bind, Option.bind_some, hequals, hvalue, Option.pure_def]

/-- No attribute is read where spaces are followed by what no name starts with. -/
theorem attribute?_gap {gap rest : List Char} {c : Char} (hgap : IsGap gap)
    (hspace : isTagSpace c = false) (hname : isNameChar c = false) :
    attribute? (gap ++ c :: rest) = none := by
  rw [Option.eq_none_iff_forall_ne_some]
  rintro ⟨pair, after⟩ h
  rcases attribute?_eq_some_iff.mp h with ⟨written, hwritten, heq⟩
  rcases hwritten with ⟨_, hgap', hnamed, _, _, _⟩
  -- What follows the spaces is determined, and it would have to be a name.
  have hbare : IsBare (c :: rest) := fun d hd => by cases hd; exact hspace
  have hskip := skipSpace_gap hgap hbare
  rw [heq, List.append_assoc, List.append_assoc,
    skipSpace_gap hgap' (isBare_name hnamed _)] at hskip
  rcases List.exists_cons_of_ne_nil hnamed.1 with ⟨d, ds, rfl⟩
  cases hskip
  rw [hnamed.2 c List.mem_cons_self] at hname
  exact Bool.false_ne_true hname.symm

/-- Attributes are read up to where no more are written. -/
theorem attributes_append {cs rest : List Char} {pairs : List (String × String)}
    (h : Attributes cs pairs) (hrest : attribute? rest = none) :
    attributes (cs ++ rest) = (pairs, rest) := by
  -- Induction on the attributes; the reader takes one of them in every call.
  induction h with
  | nil =>
      rw [List.nil_append, attributes]
      split
      · rename_i hsome
        rw [hrest] at hsome
        cases hsome
      · rfl
  | @cons first more pair pairs hfirst _ ih =>
      have hread : attribute? (first ++ more ++ rest) = some (pair, more ++ rest) :=
        attribute?_eq_some_iff.mpr ⟨first, hfirst, List.append_assoc first more rest⟩
      rw [attributes]
      split
      · rename_i hsome
        rw [hread] at hsome
        cases hsome
        rw [ih]
      · rename_i hnone
        rw [hread] at hnone
        cases hnone

/-- What is read as attributes is written as such. -/
theorem exists_attributes (cs : List Char) :
    ∃ written, Attributes written (attributes cs).1 ∧ cs = written ++ (attributes cs).2 := by
  fun_induction attributes cs with
  | case1 cs pair rest h more ih =>
      rcases attribute?_eq_some_iff.mp h with ⟨first, hfirst, rfl⟩
      rcases ih with ⟨written, hwritten, hrest⟩
      refine ⟨first ++ written, .cons hfirst hwritten, ?_⟩
      rw [List.append_assoc, ← hrest]
  | case2 cs h => exact ⟨[], .nil, rfl⟩

theorem not_isNameChar_attributes {written rest : List Char} {pairs : List (String × String)}
    (h : Attributes written pairs) (hrest : ∀ c ∈ rest.head?, isNameChar c = false) :
    ∀ c ∈ (written ++ rest).head?, isNameChar c = false := by
  cases h with
  | nil => exact hrest
  | cons hfirst _ =>
      -- An attribute starts with the space that keeps it from what stands before it.
      rcases hfirst with ⟨hne, hgap, _, _, _, _⟩
      rcases List.exists_cons_of_ne_nil hne with ⟨d, ds, rfl⟩
      intro c hc
      cases hc
      exact isNameChar_of_space (hgap d List.mem_cons_self)

end Lexeme

end Colloquy
