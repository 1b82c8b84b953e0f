import Colloquy.Proofs.Text.Run
import Colloquy.Template.Reference
import Mathlib.Data.List.Forall2
import Mathlib.Data.Nat.Digits.Defs
import Mathlib.Tactic.IntervalCases

/-!
# What Character References Stand For

Expanding a text is described here without the search for semicolons that it is carried out by. A
reference is an ampersand, an entity and a semicolon, and an entity is one of five names or a number
in decimal or hexadecimal digits, which has to be that of a character. Decoding goes from left to
right; where a reference starts it is replaced as a whole, any other ampersand stands for itself and
so does any other character.

An entity contains neither an ampersand nor a semicolon. So the entity that can start behind an
ampersand ends at the first semicolon there is, which is the one that expanding looks for, and a
reference that is replaced never contains the start of another one.

There is one thing that expanding accepts and that a number in digits alone would not explain: a
plus sign in front of the digits. Entities are therefore defined with and without such signs. With
them the description is exact; without them it is exact for the texts in which no reference has a
sign, and wrong for every other text.

## Main definitions

* `Reference.IsDigit`, `Reference.Numeral`: Numbers in digits of a base.
* `Reference.Entity`: What stands between the ampersand and the semicolon of a reference.
* `Reference.Decodes`: A text and what it stands for.
* `Reference.HasSigned`: A reference by a number with a sign occurs in a text.

## Theorems

* `ofEntity?_eq_some_iff`, `read?_eq_some_iff`: Entities and references are read where they stand.
* `decodes_iff_of_not_hasSigned`: Signs only matter where there are some.
* `decodes_iff_expand`: Expanding decodes, with signs and without.
-/

namespace Colloquy

namespace Reference

/-- The digits of base sixteen in order, of which those of a lower base are the first ones. -/
def smallDigits : List Char :=
  ['0', '1', '2', '3', '4', '5', '6', '7', '8', '9', 'a', 'b', 'c', 'd', 'e', 'f']

/-- The digits of base sixteen with capital letters. -/
def capitalDigits : List Char :=
  ['0', '1', '2', '3', '4', '5', '6', '7', '8', '9', 'A', 'B', 'C', 'D', 'E', 'F']

/-- A digit of a base, small or capital, and its value. -/
def IsDigit (base : Nat) (c : Char) (value : Nat) : Prop :=
  value < base ∧ (smallDigits[value]? = some c ∨ capitalDigits[value]? = some c)

/-- A number in digits of a base, of which there is at least one. -/
def Numeral (base : Nat) (cs : List Char) (n : Nat) : Prop :=
  cs ≠ [] ∧ ∃ values, List.Forall₂ (IsDigit base) cs values ∧ n = Nat.ofDigits base values.reverse

/-- What may stand before the digits of a number: nothing, or a plus sign where signs are
    allowed. -/
def IsSign (signed : Bool) (sign : List Char) : Prop := sign = [] ∨ signed = true ∧ sign = ['+']

/-- The names of characters. -/
def names : List (List Char × Char) :=
  [(['l', 't'], '<'), (['g', 't'], '>'), (['a', 'm', 'p'], '&'), (['q', 'u', 'o', 't'], '"'),
    (['a', 'p', 'o', 's'], '\'')]

/-- What stands between the ampersand and the semicolon of a reference to a character. -/
inductive Entity (signed : Bool) : List Char → Char → Prop where
  | named {name : List Char} {c : Char} (h : (name, c) ∈ names) : Entity signed name c
  | decimal {sign digits : List Char} {c : Char} (hsign : IsSign signed sign)
      (hdigits : Numeral 10 digits c.toNat) : Entity signed ('#' :: (sign ++ digits)) c
  | hexadecimal {mark : Char} {sign digits : List Char} {c : Char} (hmark : mark = 'x' ∨ mark = 'X')
      (hsign : IsSign signed sign) (hdigits : Numeral 16 digits c.toNat) :
      Entity signed ('#' :: mark :: (sign ++ digits)) c

/-- A text and what it stands for, from left to right. -/
inductive Decodes (signed : Bool) : List Char → List Char → Prop where
  | nil : Decodes signed [] []
  | reference {name rest out : List Char} {c : Char} (hname : Entity signed name c)
      (hrest : Decodes signed rest out) : Decodes signed ('&' :: (name ++ ';' :: rest)) (c :: out)
  | bare {rest out : List Char}
      (hnone : ∀ name c after, Entity signed name c → rest ≠ name ++ ';' :: after)
      (hrest : Decodes signed rest out) : Decodes signed ('&' :: rest) ('&' :: out)
  | copy {c : Char} {rest out : List Char} (hc : c ≠ '&') (hrest : Decodes signed rest out) :
      Decodes signed (c :: rest) (c :: out)

/-- A reference by a number with a sign occurs in a text. -/
def HasSigned (cs : List Char) : Prop :=
  ∃ name c, Entity true name c ∧ '+' ∈ name ∧ ('&' :: (name ++ [';'])) <:+: cs

/-! ### Numbers -/

theorem eq_of_mem_range {first last c : Char} (h : first ≤ c ∧ c ≤ last) :
    ∃ n, first.toNat ≤ n ∧ n ≤ last.toNat ∧ c = Char.ofNat n :=
  ⟨c.toNat, h.1, h.2, (Char.ofNat_toNat c).symm⟩

theorem digit?_eq_some_iff {base : Nat} (hbase : base ≤ 16) {c : Char} {value : Nat} :
    digit? base c = some value ↔ IsDigit base c value := by
  constructor
  · intro h
    simp only [digit?, Option.ite_none_right_eq_some, Option.some_inj] at h
    rcases h with ⟨hlt, rfl⟩
    refine ⟨hlt, ?_⟩
    -- Each range of characters has few members, which are gone through one by one.
    split_ifs at hlt ⊢ with hdigit hsmall hcapital
    · rcases eq_of_mem_range hdigit with ⟨n, hle, hge, rfl⟩
      simp only [Char.reduceToNat] at hle hge
      interval_cases n <;> decide
    · rcases eq_of_mem_range hsmall with ⟨n, hle, hge, rfl⟩
      simp only [Char.reduceToNat] at hle hge
      interval_cases n <;> decide
    · rcases eq_of_mem_range hcapital with ⟨n, hle, hge, rfl⟩
      simp only [Char.reduceToNat] at hle hge
      interval_cases n <;> decide
    · exact absurd hlt (Nat.lt_irrefl base)
  · rintro ⟨hlt, h⟩
    have hvalue : value < 16 := Nat.lt_of_lt_of_le hlt hbase
    interval_cases value <;> rcases h with h | h <;> cases h <;> exact if_pos hlt

/-- Digits are read from the left, each of them after those that have been read. -/
theorem digits?_eq_some_iff {base : Nat} (hbase : base ≤ 16) {cs : List Char} {before n : Nat} :
    digits? base before cs = some n ↔
      ∃ values, List.Forall₂ (IsDigit base) cs values ∧
        n = before * base ^ cs.length + Nat.ofDigits base values.reverse := by
  induction cs generalizing before with
  | nil =>
      rw [digits?, Option.some_inj]
      constructor
      · rintro rfl
        exact ⟨[], .nil, by simp⟩
      · rintro ⟨values, hvalues, rfl⟩
        cases hvalues
        simp
  | cons c cs ih =>
      rw [digits?, Option.bind_eq_some_iff]
      simp only [digit?_eq_some_iff hbase, ih]
      constructor
      · -- The first digit is worth as many powers of the base as there are digits behind it.
        rintro ⟨value, hvalue, values, hvalues, rfl⟩
        refine ⟨value :: values, .cons hvalue hvalues, ?_⟩
        rw [List.reverse_cons, Nat.ofDigits_append, Nat.ofDigits_singleton, List.length_reverse,
          ← hvalues.length_eq, List.length_cons]
        ring
      · rintro ⟨_, hvalues, rfl⟩
        cases hvalues with
        | @cons _ value _ values hvalue hvalues =>
            refine ⟨value, hvalue, values, hvalues, ?_⟩
            rw [List.reverse_cons, Nat.ofDigits_append, Nat.ofDigits_singleton,
              List.length_reverse, ← hvalues.length_eq, List.length_cons]
            ring

/-- A character that means nothing to a reference but itself. -/
def IsUnmarked (c : Char) : Prop := c ≠ '+' ∧ c ≠ '&' ∧ c ≠ ';' ∧ c ≠ 'x' ∧ c ≠ 'X'

instance : DecidablePred IsUnmarked := fun c =>
  inferInstanceAs (Decidable (c ≠ '+' ∧ c ≠ '&' ∧ c ≠ ';' ∧ c ≠ 'x' ∧ c ≠ 'X'))

theorem IsDigit.isUnmarked {base : Nat} {c : Char} {value : Nat} (h : IsDigit base c value) :
    IsUnmarked c := by
  have hdigits : (smallDigits ++ capitalDigits).all (IsUnmarked ·) := by decide
  have hmem : c ∈ smallDigits ++ capitalDigits :=
    List.mem_append.mpr (h.2.imp List.mem_of_getElem? List.mem_of_getElem?)
  exact of_decide_eq_true (List.all_eq_true.mp hdigits c hmem)

/-- The letters of names mean nothing to a reference, either. -/
theorem isUnmarked_of_mem_names {p : List Char × Char} (h : p ∈ names) :
    ∀ c ∈ p.1, IsUnmarked c := by
  have hletters : names.all (·.1.all (IsUnmarked ·)) := by decide
  exact fun c hc => of_decide_eq_true (List.all_eq_true.mp (List.all_eq_true.mp hletters p h) c hc)

theorem Numeral.isUnmarked {base : Nat} {digits : List Char} {n : Nat} (h : Numeral base digits n) :
    ∀ c ∈ digits, IsUnmarked c := by
  rcases h with ⟨_, values, hvalues, _⟩
  clear * - hvalues
  induction hvalues with
  | nil => exact nofun
  | cons hdigit _ ih => exact List.forall_mem_cons.mpr ⟨hdigit.isUnmarked, ih⟩

/-- Digits are not empty, and what they start with is a digit. -/
theorem Numeral.exists_cons {base : Nat} {digits : List Char} {n : Nat}
    (h : Numeral base digits n) : ∃ c rest, digits = c :: rest ∧ IsUnmarked c := by
  rcases List.exists_cons_of_ne_nil h.1 with ⟨c, rest, rfl⟩
  exact ⟨c, rest, rfl, h.isUnmarked c List.mem_cons_self⟩

/-- A number is read with or without a sign. -/
theorem number?_eq_some_iff {base : Nat} (hbase : base ≤ 16) {cs : List Char} {n : Nat} :
    number? base cs = some n ↔
      ∃ sign digits, IsSign true sign ∧ Numeral base digits n ∧ cs = sign ++ digits := by
  -- Behind the sign nothing but digits counts, and at least one of them.
  have hread : ∀ {digits : List Char}, digits ≠ [] →
      (digits? base 0 digits = some n ↔ Numeral base digits n) := by
    intro digits hne
    rw [digits?_eq_some_iff hbase, Nat.zero_mul]
    simp only [Numeral, Nat.zero_add, ne_eq, hne, not_false_eq_true, true_and]
  constructor
  · intro h
    unfold number? at h
    split at h
    · cases h
    · cases h
    · rename_i digits hne
      exact ⟨['+'], digits, .inr ⟨rfl, rfl⟩, (hread fun hnil => hne hnil).mp h, rfl⟩
    · rename_i hne _ _
      exact ⟨[], cs, .inl rfl, (hread fun hnil => hne hnil).mp h, rfl⟩
  · rintro ⟨sign, digits, rfl | ⟨_, rfl⟩, hdigits, rfl⟩
    · rcases hdigits.exists_cons with ⟨c, rest, rfl, hc⟩
      rw [number?]
      · exact (hread (List.cons_ne_nil c rest)).mpr hdigits
      · exact nofun
      · rintro heq
        cases heq
        -- A digit is no plus sign, so the number is read without one.
        exact hc.1 rfl
      · rintro more heq
        cases heq
        exact hc.1 rfl
    · rcases hdigits.exists_cons with ⟨c, rest, rfl, _⟩
      rw [List.singleton_append, number?]
      · exact (hread (List.cons_ne_nil c rest)).mpr hdigits
      · exact List.cons_ne_nil c rest

theorem scalar?_eq_some_iff {n : Nat} {c : Char} : scalar? n = some c ↔ c.toNat = n := by
  unfold scalar?
  by_cases hvalid : n.isValidChar
  · rw [dif_pos hvalid, Option.some_inj]
    constructor
    · rintro rfl
      rfl
    · rintro rfl
      exact Char.toNat_inj.mp rfl
  · rw [dif_neg hvalid]
    constructor
    · intro h
      cases h
    · rintro rfl
      -- The number of a character is always a valid one.
      exact absurd c.valid hvalid

/-! ### References -/

theorem named?_eq_some_iff {name : List Char} {c : Char} :
    named? name = some c ↔ (name, c) ∈ names := by
  constructor
  · intro h
    unfold named? at h
    split_ifs at h with hlt hgt hamp hquot hapos
    all_goals
      cases h
      subst name
      decide
  · intro h
    simp only [names, List.mem_cons, Prod.mk.injEq, List.not_mem_nil, or_false] at h
    rcases h with ⟨rfl, rfl⟩ | ⟨rfl, rfl⟩ | ⟨rfl, rfl⟩ | ⟨rfl, rfl⟩ | ⟨rfl, rfl⟩ <;> rfl

/-- What stands between an ampersand and a semicolon is read as an entity if it is one. -/
theorem ofEntity?_eq_some_iff {name : List Char} {c : Char} :
    ofEntity? name = some c ↔ Entity true name c := by
  have hnumber : ∀ {base : Nat} {digits : List Char}, base ≤ 16 →
      ((number? base digits).bind scalar? = some c ↔ ∃ sign more, IsSign true sign ∧
        Numeral base more c.toNat ∧ digits = sign ++ more) := by
    intro base digits hbase
    rw [Option.bind_eq_some_iff]
    simp only [scalar?_eq_some_iff, number?_eq_some_iff hbase, exists_eq_right']
  constructor
  · intro h
    unfold ofEntity? at h
    split at h
    · rcases (hnumber (by decide)).mp h with ⟨sign, digits, hsign, hdigits, rfl⟩
      exact .hexadecimal (.inl rfl) hsign hdigits
    · rcases (hnumber (by decide)).mp h with ⟨sign, digits, hsign, hdigits, rfl⟩
      exact .hexadecimal (.inr rfl) hsign hdigits
    · rcases (hnumber (by decide)).mp h with ⟨sign, digits, hsign, hdigits, rfl⟩
      exact .decimal hsign hdigits
    · exact .named (named?_eq_some_iff.mp h)
  · intro h
    cases h with
    | named hname =>
        have hnamed := named?_eq_some_iff.mpr hname
        have hmark : ∀ p ∈ names, p.1.head? ≠ some '#' := by decide
        rw [ofEntity?]
        · exact hnamed
        all_goals
          rintro digits rfl
          exact hmark _ hname rfl
    | @decimal sign digits _ hsign hdigits =>
        have hread := (hnumber (by decide)).mpr ⟨sign, digits, hsign, hdigits, rfl⟩
        -- Neither a sign nor a digit is the mark of a hexadecimal number.
        have hstart : ∀ d ∈ (sign ++ digits).head?, d ≠ 'x' ∧ d ≠ 'X' := by
          rcases hdigits.exists_cons with ⟨d, rest, rfl, hd⟩
          rcases hsign with rfl | ⟨_, rfl⟩
          · rintro e heq
            cases heq
            exact ⟨hd.2.2.2.1, hd.2.2.2.2⟩
          · rintro e heq
            cases heq
            decide
        rw [ofEntity?]
        · exact hread
        · intro more heq
          exact (hstart 'x' (by rw [heq]; rfl)).1 rfl
        · intro more heq
          exact (hstart 'X' (by rw [heq]; rfl)).2 rfl
    | @hexadecimal mark sign digits _ hmark hsign hdigits =>
        have hread := (hnumber (by decide)).mpr ⟨sign, digits, hsign, hdigits, rfl⟩
        rcases hmark with rfl | rfl
        · exact hread
        · exact hread

/-- An entity contains neither an ampersand nor a semicolon, and a plus sign only where signs are
    allowed. -/
theorem Entity.forall_mem {signed : Bool} {name : List Char} {c : Char} (h : Entity signed name c) :
    ∀ d ∈ name, d ≠ '&' ∧ d ≠ ';' ∧ (d = '+' → signed = true) := by
  -- A name consists of a sign, if it has one, and of characters that mark nothing.
  have hsign : ∀ {sign : List Char}, IsSign signed sign →
      ∀ d ∈ sign, d ≠ '&' ∧ d ≠ ';' ∧ (d = '+' → signed = true) := by
    rintro sign (rfl | ⟨hsigned, rfl⟩)
    · exact nofun
    · exact List.forall_mem_singleton.mpr ⟨by decide, by decide, fun _ => hsigned⟩
  have hunmarked : ∀ {cs : List Char}, (∀ d ∈ cs, IsUnmarked d) →
      ∀ d ∈ cs, d ≠ '&' ∧ d ≠ ';' ∧ (d = '+' → signed = true) := by
    intro cs hcs d hd
    rcases hcs d hd with ⟨hplus, hampersand, hsemicolon, _⟩
    exact ⟨hampersand, hsemicolon, fun heq => absurd heq hplus⟩
  cases h with
  | named hname => exact hunmarked (isUnmarked_of_mem_names hname)
  | decimal hs hd =>
      exact List.forall_mem_cons.mpr ⟨⟨by decide, by decide, nofun⟩,
        List.forall_mem_append.mpr ⟨hsign hs, hunmarked hd.isUnmarked⟩⟩
  | hexadecimal hmark hs hd =>
      refine List.forall_mem_cons.mpr ⟨⟨by decide, by decide, nofun⟩, List.forall_mem_cons.mpr
        ⟨?_, List.forall_mem_append.mpr ⟨hsign hs, hunmarked hd.isUnmarked⟩⟩⟩
      rcases hmark with rfl | rfl
      · exact ⟨by decide, by decide, nofun⟩
      · exact ⟨by decide, by decide, nofun⟩

/-- An entity without a plus sign is one where signs are not allowed, too. -/
theorem Entity.unsigned {name : List Char} {c : Char} (h : Entity true name c)
    (hplus : '+' ∉ name) : Entity false name c := by
  -- A sign that is allowed is the only plus that there can be.
  have hnone : ∀ {sign : List Char}, IsSign true sign → '+' ∉ sign → IsSign false sign := by
    rintro sign (rfl | ⟨_, rfl⟩) hnone
    · exact .inl rfl
    · exact absurd List.mem_cons_self hnone
  cases h with
  | named hname => exact .named hname
  | decimal hsign hdigits =>
      refine .decimal (hnone hsign fun hmem => hplus ?_) hdigits
      exact List.mem_cons_of_mem _ (List.mem_append_left _ hmem)
  | hexadecimal hmark hsign hdigits =>
      refine .hexadecimal hmark (hnone hsign fun hmem => hplus ?_) hdigits
      exact List.mem_cons_of_mem _ (List.mem_cons_of_mem _ (List.mem_append_left _ hmem))

theorem Entity.signed {signed : Bool} {name : List Char} {c : Char} (h : Entity signed name c) :
    Entity true name c := by
  have hsigned : ∀ {sign : List Char}, IsSign signed sign → IsSign true sign :=
    fun hsign => hsign.imp_right fun hplus => ⟨rfl, hplus.2⟩
  cases h with
  | named hname => exact .named hname
  | decimal hsign hdigits => exact .decimal (hsigned hsign) hdigits
  | hexadecimal hmark hsign hdigits => exact .hexadecimal hmark (hsigned hsign) hdigits

/-- A reference ends at the first semicolon. -/
theorem read?_append {name rest : List Char} (h : ';' ∉ name) :
    read? (name ++ ';' :: rest) = (ofEntity? name).map fun c => (c, rest) := by
  have hrun : ∀ c ∈ name, decide (c ≠ ';') = true := by
    intro c hc
    exact decide_eq_true fun heq => h (heq ▸ hc)
  have hstop : ∀ c ∈ (';' :: rest).head?, decide (c ≠ ';') = false := by
    intro c hc
    cases hc
    rfl
  -- The name goes up to the first semicolon, and that is the one behind it.
  rw [read?, takeWhile_run hrun hstop, dropWhile_run hrun hstop]

theorem read?_entity {signed : Bool} {name : List Char} {c : Char} (h : Entity signed name c)
    (rest : List Char) : read? (name ++ ';' :: rest) = some (c, rest) := by
  rw [read?_append fun hmem => (h.forall_mem _ hmem).2.1 rfl, ofEntity?_eq_some_iff.mpr h.signed]
  rfl

/-- A reference is read behind an ampersand if one stands there. -/
theorem read?_eq_some_iff {rest after : List Char} {c : Char} :
    read? rest = some (c, after) ↔ ∃ name, Entity true name c ∧ rest = name ++ ';' :: after := by
  constructor
  · intro h
    unfold read? at h
    split at h
    · cases h
    · rename_i stop behind hdrop
      rcases Option.map_eq_some_iff.mp h with ⟨_, hname, heq⟩
      cases heq
      -- The run of the name has ended, and it ends at a semicolon only.
      have hstop : stop = ';' := by
        have hhead := head_dropWhile (fun d => decide (d ≠ ';')) rest stop (by rw [hdrop]; rfl)
        exact Decidable.of_not_not (of_decide_eq_false hhead)
      refine ⟨_, ofEntity?_eq_some_iff.mp hname, ?_⟩
      rw [← hstop, ← hdrop, hstop, List.takeWhile_append_dropWhile]
  · rintro ⟨name, hname, rfl⟩
    exact read?_entity hname after

/-- What starts behind an ampersand determines the entity. -/
theorem Entity.eq_of_append {signed signed' : Bool} {name name' rest rest' : List Char}
    {c c' : Char} (h : Entity signed name c) (h' : Entity signed' name' c')
    (heq : name ++ ';' :: rest = name' ++ ';' :: rest') : name = name' ∧ rest = rest' := by
  have hread := read?_entity h rest
  rw [heq, read?_entity h' rest'] at hread
  cases hread
  exact ⟨List.append_cancel_right heq, rfl⟩

theorem expand_reference {rest after : List Char} {c : Char} (h : read? rest = some (c, after)) :
    expand ('&' :: rest) = c :: expand after := by
  rw [expand, if_pos rfl]
  split
  · rename_i hsome
    rw [h] at hsome
    cases hsome
    rfl
  · rename_i hnone
    rw [h] at hnone
    cases hnone

theorem expand_bare {rest : List Char} (h : read? rest = none) :
    expand ('&' :: rest) = '&' :: expand rest := by
  rw [expand, if_pos rfl]
  split
  · rename_i hsome
    rw [h] at hsome
    cases hsome
  · rfl

/-! ### Texts -/

theorem decodes_expand (cs : List Char) : Decodes true cs (expand cs) := by
  fun_induction expand cs with
  | case1 => exact .nil
  | case2 rest c after hread ih =>
      rcases read?_eq_some_iff.mp hread with ⟨name, hname, rfl⟩
      exact .reference hname ih
  | case3 rest hread ih =>
      refine .bare ?_ ih
      -- If this were a reference, then it would have been read.
      rintro name c after hname rfl
      rw [read?_eq_some_iff.mpr ⟨name, hname, rfl⟩] at hread
      cases hread
  | case4 c rest hc ih => exact .copy hc ih

theorem Decodes.eq_expand {cs out : List Char} (h : Decodes true cs out) : out = expand cs := by
  induction h with
  | nil => rw [expand]
  | reference hname _ ih => rw [expand_reference (read?_entity hname _), ih]
  | @bare rest out hnone _ ih =>
      -- What is decoded as bare is none of the references that could be read.
      have hread : read? rest = none := by
        rw [Option.eq_none_iff_forall_ne_some]
        rintro ⟨c, after⟩ hread
        rcases read?_eq_some_iff.mp hread with ⟨name, hname, heq⟩
        exact hnone name c after hname heq
      rw [expand_bare hread, ih]
  | copy hc _ ih => rw [expand, if_neg hc, ih]

theorem HasSigned.append {cs : List Char} (h : HasSigned cs) (front : List Char) :
    HasSigned (front ++ cs) := by
  rcases h with ⟨name, c, hname, hplus, hinfix⟩
  exact ⟨name, c, hname, hplus, hinfix.trans (List.suffix_append front cs).isInfix⟩

theorem HasSigned.behind {name rest : List Char} (h : HasSigned rest) :
    HasSigned ('&' :: (name ++ ';' :: rest)) := by
  rw [List.append_cons]
  exact (h.append (name ++ [';'])).append ['&']

/-- A reference with a sign starts at the first ampersand or occurs behind it. -/
theorem HasSigned.of_ampersand {cs : List Char} (h : HasSigned ('&' :: cs)) :
    (∃ name c rest, Entity true name c ∧ '+' ∈ name ∧ cs = name ++ ';' :: rest) ∨ HasSigned cs := by
  rcases h with ⟨name, c, hname, hplus, hinfix⟩
  rcases List.infix_cons_iff.mp hinfix with hprefix | hinfix
  · rcases (List.cons_prefix_cons.mp hprefix).2 with ⟨rest, rfl⟩
    exact .inl ⟨name, c, rest, hname, hplus, by rw [List.append_assoc]; rfl⟩
  · exact .inr ⟨name, c, hname, hplus, hinfix⟩

/-- No reference starts where there is no ampersand. -/
theorem HasSigned.of_append {front cs : List Char} (hfront : '&' ∉ front)
    (h : HasSigned (front ++ cs)) : HasSigned cs := by
  induction front with
  | nil => exact h
  | cons d front ih =>
      rw [List.mem_cons, not_or] at hfront
      rcases h with ⟨name, c, hname, hplus, hinfix⟩
      -- The reference starts with an ampersand, so it does not start in front.
      rcases List.infix_cons_iff.mp hinfix with hprefix | hinfix
      · exact absurd (List.cons_prefix_cons.mp hprefix).1 hfront.1
      · exact ih hfront.2 ⟨name, c, hname, hplus, hinfix⟩

/-- Without a sign an entity is one whether signs are allowed or not. So signs only matter where
    there are some. -/
theorem decodes_iff_of_not_hasSigned {cs : List Char} (h : ¬ HasSigned cs) (out : List Char) :
    Decodes false cs out ↔ Decodes true cs out := by
  -- A reference with a sign would be one that the text has.
  have hunsigned : ∀ {name rest : List Char} {c : Char},
      ¬ HasSigned ('&' :: (name ++ ';' :: rest)) → Entity true name c → Entity false name c := by
    intro name rest c hno hname
    refine hname.unsigned fun hplus => hno ⟨name, c, hname, hplus, [], rest, ?_⟩
    simp only [List.nil_append, List.cons_append, List.append_assoc]
  constructor
  · intro hdecodes
    induction hdecodes with
    | nil => exact .nil
    | reference hname _ ih =>
        exact .reference hname.signed (ih fun hrest => h hrest.behind)
    | bare hnone _ ih =>
        refine .bare ?_ (ih fun hrest => h (hrest.append ['&']))
        rintro name c after hname rfl
        exact hnone name c after (hunsigned h hname) rfl
    | copy hc _ ih => exact .copy hc (ih fun hrest => h (hrest.append [_]))
  · intro hdecodes
    induction hdecodes with
    | nil => exact .nil
    | reference hname _ ih =>
        exact .reference (hunsigned h hname) (ih fun hrest => h hrest.behind)
    | bare hnone _ ih =>
        exact .bare (fun name c after hname => hnone name c after hname.signed)
          (ih fun hrest => h (hrest.append ['&']))
    | copy hc _ ih => exact .copy hc (ih fun hrest => h (hrest.append [_]))

/-- What stands behind an ampersand is decoded as an entity or the ampersand is kept. -/
theorem Decodes.of_ampersand {signed : Bool} {cs out : List Char}
    (h : Decodes signed ('&' :: cs) out) :
    (∃ name c rest more, Entity signed name c ∧ cs = name ++ ';' :: rest ∧ out = c :: more ∧
      Decodes signed rest more) ∨
    ∃ more, out = '&' :: more ∧ Decodes signed cs more := by
  cases h with
  | reference hname hrest => exact .inl ⟨_, _, _, _, hname, rfl, rfl, hrest⟩
  | bare _ hrest => exact .inr ⟨_, rfl, hrest⟩
  | copy hc _ => exact absurd rfl hc

theorem Decodes.of_cons {signed : Bool} {c : Char} {cs out : List Char} (hc : c ≠ '&')
    (h : Decodes signed (c :: cs) out) : ∃ more, out = c :: more ∧ Decodes signed cs more := by
  cases h with
  | reference _ _ => exact absurd rfl hc
  | bare _ _ => exact absurd rfl hc
  | copy _ hrest => exact ⟨_, rfl, hrest⟩

/-- A text without ampersands stands for itself. -/
theorem Decodes.of_append {signed : Bool} {front cs out : List Char} (hfront : '&' ∉ front)
    (h : Decodes signed (front ++ cs) out) :
    ∃ more, out = front ++ more ∧ Decodes signed cs more := by
  induction front generalizing out with
  | nil => exact ⟨out, rfl, h⟩
  | cons d front ih =>
      rw [List.mem_cons, not_or] at hfront
      rcases Decodes.of_cons (fun heq => hfront.1 heq.symm) h with ⟨behind, rfl, hbehind⟩
      rcases ih hfront.2 hbehind with ⟨more, rfl, hmore⟩
      exact ⟨more, rfl, hmore⟩

/-- A text comes out longer if signs are not allowed and there are some, because a reference that
    is kept takes more room than its character. -/
theorem Decodes.length_lt {cs out out' : List Char} (h : Decodes true cs out)
    (h' : Decodes false cs out') :
    out.length ≤ out'.length ∧ (HasSigned cs → out.length < out'.length) := by
  induction h generalizing out' with
  | nil =>
      refine ⟨Nat.zero_le _, ?_⟩
      rintro ⟨name, c, _, _, hinfix⟩
      exact absurd (List.infix_nil.mp hinfix) (List.cons_ne_nil _ _)
  | @copy d rest out hc _ ih =>
      rcases Decodes.of_cons hc h' with ⟨more, rfl, hmore⟩
      have hle := ih hmore
      have hfront : '&' ∉ [d] := fun hmem => hc (List.mem_singleton.mp hmem).symm
      exact ⟨Nat.succ_le_succ hle.1, fun hsigned =>
        Nat.succ_lt_succ (hle.2 (HasSigned.of_append hfront hsigned))⟩
  | @bare rest out hnone _ ih =>
      -- What is no reference even with signs allowed is none without them.
      rcases h'.of_ampersand with ⟨name, c, after, _, hname, heq, _, _⟩ | ⟨more, rfl, hmore⟩
      · exact absurd heq (hnone name c after hname.signed)
      · have hle := ih hmore
        refine ⟨Nat.succ_le_succ hle.1, fun hsigned => Nat.succ_lt_succ (hle.2 ?_)⟩
        rcases hsigned.of_ampersand with ⟨name, c, after, hname, _, heq⟩ | hsigned
        · exact absurd heq (hnone name c after hname)
        · exact hsigned
  | @reference name rest out c hname _ ih =>
      -- No other reference starts inside of this one.
      have hfront : '&' ∉ name ++ [';'] := by
        rw [List.mem_append, List.mem_singleton, not_or]
        exact ⟨fun hmem => (hname.forall_mem _ hmem).1 rfl, by decide⟩
      have hsplit : name ++ ';' :: rest = name ++ [';'] ++ rest := List.append_cons name ';' rest
      rcases h'.of_ampersand with
        ⟨name', c', rest', more, hname', heq, rfl, hmore⟩ | ⟨more, rfl, hmore⟩
      · -- The same reference is decoded on either side, so it has no sign.
        rcases hname.eq_of_append hname' heq with ⟨rfl, rfl⟩
        have hle := ih hmore
        refine ⟨Nat.succ_le_succ hle.1, fun hsigned => Nat.succ_lt_succ (hle.2 ?_)⟩
        rcases hsigned.of_ampersand with ⟨other, d, after, hother, hplus, hsame⟩ | hsigned
        · rw [← (hname.eq_of_append hother hsame).1] at hplus
          exact absurd ((hname'.forall_mem _ hplus).2.2 rfl) Bool.false_ne_true
        · rw [hsplit] at hsigned
          exact hsigned.of_append hfront
      · -- It is kept where signs are not allowed, and that alone makes the difference.
        rw [hsplit] at hmore
        rcases hmore.of_append hfront with ⟨behind, rfl, hbehind⟩
        have hle := (ih hbehind).1
        have hlt : (c :: out).length < ('&' :: (name ++ [';'] ++ behind)).length := by
          simp only [List.length_cons, List.length_append, List.length_nil]
          omega
        exact ⟨Nat.le_of_lt hlt, fun _ => hlt⟩

/-- Expanding a text decodes it from left to right, each reference once, where numbers may have a
    plus sign. It decodes the text by references without signs if and only if no reference in the
    text has one. -/
theorem decodes_iff_expand (cs : List Char) :
    (∀ out, Decodes true cs out ↔ out = expand cs) ∧
    ((∀ out, Decodes false cs out ↔ out = expand cs) ↔ ¬ HasSigned cs) := by
  have hexpand : ∀ out, Decodes true cs out ↔ out = expand cs := by
    intro out
    constructor
    · exact Decodes.eq_expand
    · rintro rfl
      exact decodes_expand cs
  refine ⟨hexpand, ?_, ?_⟩
  · intro hfalse hsigned
    -- Both ways of decoding would agree on a text that they give different lengths.
    have hlt := (decodes_expand cs).length_lt ((hfalse _).mpr rfl)
    exact absurd (hlt.2 hsigned) (Nat.lt_irrefl _)
  · intro hno out
    rw [decodes_iff_of_not_hasSigned hno, hexpand]

/-- A plus sign before the digits of a number, which stands for itself where signs are not
    allowed. -/
theorem sign_is_passed_over :
    let cs := ['&', '#', '+', '6', '5', ';']
    HasSigned cs ∧ Decodes false cs cs ∧ expand cs = ['A'] := by
  intro cs
  have hname : Entity true ['#', '+', '6', '5'] 'A' := ofEntity?_eq_some_iff.mp (by decide)
  have hcopy : Decodes false ['#', '+', '6', '5', ';'] ['#', '+', '6', '5', ';'] :=
    .copy (by decide) (.copy (by decide) (.copy (by decide) (.copy (by decide)
      (.copy (by decide) .nil))))
  refine ⟨⟨_, _, hname, by decide, List.infix_refl cs⟩, .bare ?_ hcopy, by decide +kernel⟩
  -- Only the entity with the sign could start there.
  intro name c after hother heq
  rcases hname.eq_of_append hother heq with ⟨rfl, _⟩
  exact absurd ((hother.forall_mem '+' (by decide)).2.2 rfl) Bool.false_ne_true

end Reference

end Colloquy
