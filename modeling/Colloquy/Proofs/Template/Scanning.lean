import Colloquy.Proofs.Dictionary
import Colloquy.Proofs.Template.Attributes

/-!
# Scanning Markup

Scanning a text gives a lexeme if and only if what the lexeme is written as stands at its start. The
scanner asks for a comment, then for a closing tag, then for a tag, and takes a run of text only
where no markup starts; the grammar has no such order. None is needed, because the second character
of markup already tells which of them it can be.

## Main definitions

* `Lexeme.Precedes`: What may follow a lexeme.
* `Lexeme.IsWritten`: A lexeme that is no error.

## Theorems

* `commentBody?_eq_some_iff`, `closing?_eq_some_iff`: Comments and closing tags.
* `scanMarkup_head`: A tag is scanned up to its end.
* `scan_piece`: A written lexeme is scanned.
* `exists_piece`: A scanned lexeme is written.
* `exists_head`: A tag without an end is written up to where it breaks off.
-/

namespace Colloquy

open Grammar

namespace Lexeme

theorem tagOf_eq (name : List Char) (pairs : List (String × String)) :
    tagOf name pairs = { name := String.ofList name, attributes := Dictionary.ofList pairs } := by
  -- Setting attributes one after the other never looks at the name.
  have hfold : ∀ tag : Tag,
      pairs.foldl (fun tag pair => tag.withAttribute pair.1 pair.2) tag
        = { tag with attributes :=
              pairs.foldl (fun d pair => d.insert pair.1 pair.2) tag.attributes } := by
    induction pairs with
    | nil => exact fun _ => rfl
    | cons pair pairs ih => exact fun tag => ih (tag.withAttribute pair.1 pair.2)
  exact hfold _

theorem head_tagOf {name written gap : List Char} {pairs : List (String × String)}
    (hname : IsName name) (hwritten : Attributes written pairs) (hgap : IsGap gap) :
    Head (name ++ (written ++ gap)) (tagOf name pairs) := by
  rw [tagOf_eq]
  exact .intro hname hwritten hgap rfl (Dictionary.get?_ofList pairs)

/-- The name and the values of its attributes are all there is to a tag. -/
theorem eq_tagOf {name : List Char} {pairs : List (String × String)} {tag : Tag}
    (hnamed : tag.name = String.ofList name)
    (hattribute : ∀ key, tag.attribute? key = pairs.reverse.lookup key) :
    tag = tagOf name pairs := by
  have hsame : tag.attributes = Dictionary.ofList pairs := Dictionary.ext_get? fun key => by
    rw [Dictionary.get?_ofList]
    exact hattribute key
  rw [tagOf_eq, ← hnamed, ← hsame]

theorem commentBody?_eq_some_iff {cs body after : List Char} :
    commentBody? cs = some (body, after) ↔
      ¬ ['-', '-', '>'] <:+: body ∧ cs = body ++ '-' :: '-' :: '>' :: after := by
  constructor
  · intro h
    -- Induction on the text, of which one character goes into the body unless a mark starts at it.
    induction cs generalizing body with
    | nil => cases h
    | cons c rest ih =>
        unfold commentBody? at h
        split at h
        · cases h
          exact ⟨fun hinfix => absurd (List.infix_nil.mp hinfix) (List.cons_ne_nil _ _), rfl⟩
        · rename_i hne
          rcases Option.map_eq_some_iff.mp h with ⟨⟨inner, after'⟩, hrest, hp⟩
          cases hp
          rcases ih hrest with ⟨hinner, rfl⟩
          refine ⟨fun hinfix => ?_, rfl⟩
          -- A mark in the body starts with it or lies in its tail.
          rcases List.infix_cons_iff.mp hinfix with ⟨more, hmark⟩ | hinfix
          · cases hmark
            exact hne _ rfl rfl
          · exact hinner hinfix
  · rintro ⟨hbody, rfl⟩
    -- Induction on the body, in which no mark starts, not even one that its end completes.
    induction body with
    | nil => rfl
    | cons c body ih =>
        rw [List.cons_append, commentBody?]
        · rw [ih fun hinfix => hbody (List.infix_cons hinfix)]
          rfl
        · -- A mark that starts in the body would end in it, too.
          rintro more rfl hmark
          rcases body with _ | ⟨d, _ | ⟨e, body⟩⟩
          · cases hmark
          · cases hmark
          · cases hmark
            exact hbody ⟨[], body, rfl⟩

theorem comment?_eq_some_iff {cs body after : List Char} :
    comment? cs = some (body, after) ↔
      ∃ piece, Piece (.comment body) piece ∧ cs = piece ++ after := by
  constructor
  · intro h
    unfold comment? at h
    split at h
    · rcases commentBody?_eq_some_iff.mp h with ⟨hbody, rfl⟩
      refine ⟨_, .comment hbody, ?_⟩
      simp only [List.cons_append, List.append_assoc, List.nil_append]
    · cases h
  · rintro ⟨piece, ⟨hbody⟩, rfl⟩
    simp only [List.cons_append, List.append_assoc, List.nil_append, comment?]
    exact commentBody?_eq_some_iff.mpr ⟨hbody, rfl⟩

theorem closing?_eq_some_iff {cs name after : List Char} :
    closing? cs = some (name, after) ↔
      ∃ gap, IsName name ∧ IsGap gap ∧ cs = '<' :: '/' :: (name ++ (gap ++ '>' :: after)) := by
  constructor
  · intro h
    unfold closing? at h
    split at h
    · simp only [Option.bind_eq_bind, Option.bind_eq_some_iff, Prod.exists] at h
      rcases h with ⟨_, afterName, hread, h⟩
      split at h
      · rename_i heq
        cases h
        rcases name?_eq_some_iff.mp hread with ⟨hname, rfl, _⟩
        rcases exists_gap afterName with ⟨gap, hgap, hrest⟩
        refine ⟨gap, hname, hgap, ?_⟩
        rw [← heq, ← hrest]
      · cases h
    · cases h
  · rintro ⟨gap, hname, hgap, rfl⟩
    -- The end of the tag is part of neither the gap nor the name, so both stop in front of it.
    have hbare : IsBare ('>' :: after) := fun c hc => by cases hc; rfl
    have hend : ∀ c ∈ ('>' :: after).head?, isNameChar c = false := fun c hc => by cases hc; decide
    have hnamed := name?_eq_some_iff.mpr ⟨hname, rfl, not_isNameChar_gap hgap hend⟩
    simp only [closing?, hnamed, Option.bind_eq_bind, Option.bind_some, skipSpace_gap hgap hbare]

/-- A name starts neither a comment nor a closing tag. -/
theorem scanMarkup_name {name cs rest : List Char} (h : name? cs = some (name, rest)) :
    scanMarkup cs = scanTag name rest := by
  rcases name?_eq_some_iff.mp h with ⟨⟨hne, hall⟩, rfl, _⟩
  rcases List.exists_cons_of_ne_nil hne with ⟨c, tail, rfl⟩
  have hc : isNameChar c = true := hall c List.mem_cons_self
  -- Both would need a sign where the name has its first character.
  have hcomment : comment? ('<' :: (c :: tail ++ rest)) = none := by
    rw [List.cons_append, comment?]
    intro after heq
    rw [(List.cons.inj (List.cons.inj heq).2).1] at hc
    exact absurd hc (by decide)
  have hclosing : closing? ('<' :: (c :: tail ++ rest)) = none := by
    rw [List.cons_append, closing?]
    intro after heq
    rw [(List.cons.inj (List.cons.inj heq).2).1] at hc
    exact absurd hc (by decide)
  simp only [scanMarkup, hcomment, hclosing, h]

/-- How a tag is scanned up to its end, which is what follows its attributes and the spaces behind
    them. -/
theorem scanMarkup_head {head : List Char} {tag : Tag} (h : Head head tag) {c : Char}
    (hspace : isTagSpace c = false) (hname : isNameChar c = false) (rest : List Char) :
    ∃ name pairs afterName afterPairs, tag = tagOf name pairs ∧
      scanMarkup (head ++ c :: rest) = scanTag name afterName ∧
      attributes afterName = (pairs, afterPairs) ∧ skipSpace afterPairs = c :: rest := by
  rcases h with @⟨name, written, gap, pairs, _, hisName, hwritten, hgap, hnamed, hattribute⟩
  have hbare : IsBare (c :: rest) := fun d hd => by cases hd; exact hspace
  -- The character behind the head belongs neither to a name nor to a gap.
  have hend : ∀ d ∈ (c :: rest).head?, isNameChar d = false := fun d hd => by cases hd; exact hname
  refine ⟨name, pairs, written ++ (gap ++ c :: rest), gap ++ c :: rest,
    eq_tagOf hnamed hattribute, ?_, ?_, skipSpace_gap hgap hbare⟩
  · rw [List.append_assoc, List.append_assoc]
    exact scanMarkup_name (name?_eq_some_iff.mpr ⟨hisName, rfl,
      not_isNameChar_attributes hwritten (not_isNameChar_gap hgap hend)⟩)
  · exact attributes_append hwritten (attribute?_gap hgap hspace hname)

/-- What may follow a lexeme: anything at all, unless the lexeme is a run of text. -/
def Precedes (lexeme : Lexeme) (rest : List Char) : Prop :=
  match lexeme with
  | .text _ => IsStop rest
  | _ => True

/-- What a lexeme is written as is scanned as that lexeme. -/
theorem scan_piece {lexeme : Lexeme} {piece : List Char} (h : Piece lexeme piece)
    (rest : List Char) (hrest : lexeme.Precedes rest) :
    ∃ c cs, piece = c :: cs ∧ scan c (cs ++ rest) = (lexeme, rest) := by
  cases h with
  | @comment body hbody =>
      refine ⟨'<', _, rfl, ?_⟩
      have hcomment : comment? ('<' :: ('!' :: '-' :: '-' :: (body ++ ['-', '-', '>']) ++ rest))
          = some (body, rest) :=
        comment?_eq_some_iff.mpr ⟨_, .comment hbody, rfl⟩
      rw [scan, if_pos rfl, scanMarkup, hcomment]
  | text hne hrun =>
      rcases List.exists_cons_of_ne_nil hne with ⟨c, cs, rfl⟩
      refine ⟨c, cs, rfl, ?_⟩
      -- The first character is looked at on its own, the others as the run that it starts.
      have hc : c ≠ '<' := fun heq => hrun (heq ▸ List.mem_cons_self)
      have hin : ∀ d ∈ c :: cs, decide (d ≠ '<') = true := fun d hd =>
        decide_eq_true fun heq => hrun (heq ▸ hd)
      have hout : ∀ d ∈ rest.head?, decide (d ≠ '<') = false := fun d hd =>
        decide_eq_false (not_not_intro (hrest d hd))
      rw [scan, if_neg hc, ← List.cons_append, takeWhile_run hin hout,
        dropWhile_run (List.forall_mem_cons.mp hin).2 hout]
  | @leaf head tag hhead =>
      refine ⟨'<', _, rfl, ?_⟩
      -- No attribute starts with the slash, so the attributes are read up to it.
      rcases scanMarkup_head hhead (by rfl : isTagSpace '/' = false) (by decide) ('>' :: rest) with
        ⟨name, pairs, afterName, afterPairs, rfl, hscan, hread, hskip⟩
      rw [List.append_assoc, scan, if_pos rfl]
      rw [List.cons_append, List.singleton_append, hscan, scanTag, hread]
      simp only [hskip]
  | @opening head tag hhead =>
      refine ⟨'<', _, rfl, ?_⟩
      rcases scanMarkup_head hhead (by rfl : isTagSpace '>' = false) (by decide) rest with
        ⟨name, pairs, afterName, afterPairs, rfl, hscan, hread, hskip⟩
      rw [List.append_assoc, scan, if_pos rfl]
      rw [List.singleton_append, hscan, scanTag, hread]
      simp only [hskip]
  | @closing name gap hname hgap =>
      refine ⟨'<', _, rfl, ?_⟩
      have hclosing : closing? ('<' :: ('/' :: (name ++ (gap ++ ['>'])) ++ rest))
          = some (name, rest) := by
        refine closing?_eq_some_iff.mpr ⟨gap, hname, hgap, ?_⟩
        simp only [List.cons_append, List.append_assoc, List.nil_append]
      rw [scan, if_pos rfl, scanMarkup, hclosing]
      rfl

/-- Whether a lexeme is written at all, which the two that stand for errors are not. -/
def IsWritten : Lexeme → Prop
  | .broken _ _ => False
  | .stray => False
  | _ => True

/-- A tag that is scanned with its end is a tag as it is written. -/
theorem exists_piece_tag {name afterName after : List Char} {lexeme : Lexeme} (hname : IsName name)
    (h : scanTag name afterName = (lexeme, after))
    (hwritten : lexeme.IsWritten) :
    ∃ piece, Piece lexeme piece ∧ '<' :: (name ++ afterName) = piece ++ after ∧
      lexeme.Precedes after := by
  rcases exists_attributes afterName with ⟨written, hattributes, hafterName⟩
  rcases exists_gap (attributes afterName).2 with ⟨gap, hgap, hafterPairs⟩
  have hhead := head_tagOf hname hattributes hgap
  rw [hafterPairs] at hafterName
  unfold scanTag at h
  dsimp only at h
  -- What is left behind the spaces decides which form the tag has, if it has one.
  split at h
  · rename_i rest heq
    cases h
    refine ⟨_, .leaf hhead, ?_, trivial⟩
    rw [hafterName, heq]
    simp only [List.cons_append, List.append_assoc, List.nil_append]
  · rename_i rest heq
    cases h
    refine ⟨_, .opening hhead, ?_, trivial⟩
    rw [hafterName, heq]
    simp only [List.cons_append, List.append_assoc, List.nil_append]
  · cases h
    exact hwritten.elim

/-- What is scanned as a lexeme is what the lexeme is written as, unless it is one of the errors. -/
theorem exists_piece {c : Char} {rest after : List Char} {lexeme : Lexeme}
    (h : scan c rest = (lexeme, after)) (hwritten : lexeme.IsWritten) :
    ∃ piece, Piece lexeme piece ∧ c :: rest = piece ++ after ∧ lexeme.Precedes after := by
  unfold scan at h
  split at h
  · rename_i hc
    subst hc
    unfold scanMarkup at h
    split at h
    · rename_i hcomment
      cases h
      rcases comment?_eq_some_iff.mp hcomment with ⟨piece, hpiece, heq⟩
      exact ⟨piece, hpiece, heq, trivial⟩
    · split at h
      · rename_i hclosing
        cases h
        rcases closing?_eq_some_iff.mp hclosing with ⟨gap, hname, hgap, heq⟩
        refine ⟨_, .closing hname hgap, ?_, trivial⟩
        rw [heq]
        simp only [List.cons_append, List.append_assoc, List.nil_append]
      · split at h
        · rename_i name afterName hread
          rcases name?_eq_some_iff.mp hread with ⟨hname, rfl, _⟩
          exact exists_piece_tag hname h hwritten
        · cases h
          -- Markup that is neither of these is broken, and that is not written.
          exact hwritten.elim
  · -- A run is taken as far as it goes, and so markup or nothing follows it.
    rename_i hc
    cases h
    have htake : (c :: rest).takeWhile (· ≠ '<') = c :: rest.takeWhile (· ≠ '<') := by
      rw [List.takeWhile_cons, if_pos (decide_eq_true hc)]
    refine ⟨_, .text ?_ ?_, ?_, fun d hd => ?_⟩
    · rw [htake]
      exact List.cons_ne_nil _ _
    · intro hmem
      have hne := of_mem_takeWhile hmem
      exact of_decide_eq_true hne rfl
    · rw [htake, List.cons_append, List.takeWhile_append_dropWhile]
    · exact Decidable.of_not_not (of_decide_eq_false (head_dropWhile _ rest d hd))

/-- What is scanned as a tag without an end is the head of a tag, up to the place where it breaks
    off. -/
theorem exists_head {c : Char} {rest after place : List Char} {name : String}
    (h : scan c rest = (.broken name place, after)) :
    ∃ head tag, Head head tag ∧ tag.name = name ∧ c :: rest = '<' :: (head ++ place) := by
  unfold scan at h
  split at h
  · rename_i hc
    subst hc
    unfold scanMarkup at h
    split at h
    · cases h
    · split at h
      · cases h
      · split at h
        · rename_i written afterName hread
          -- Only a start tag is broken behind its name.
          rcases name?_eq_some_iff.mp hread with ⟨hname, rfl, _⟩
          rcases exists_attributes afterName with ⟨pairs, hattributes, hafterName⟩
          rcases exists_gap (attributes afterName).2 with ⟨gap, hgap, hafterPairs⟩
          unfold scanTag at h
          dsimp only at h
          split at h
          · cases h
          · cases h
          · cases h
            refine ⟨_, _, head_tagOf hname hattributes hgap, by rw [tagOf_eq], ?_⟩
            rw [List.append_assoc, List.append_assoc, ← hafterPairs, ← hafterName]
        · cases h
  · cases h

end Lexeme

end Colloquy
