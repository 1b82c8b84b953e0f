import Colloquy.Proofs.Text.Utf16
import Colloquy.UnitText.Escape
import Colloquy.UnitText.Line

/-!
# Escaping Is Undone by Reading

What the escape of a character spells, and what it leaves on the line.

`units_ofChar_append` is the round trip for one character: whatever follows its escape, reading
starts with the units of the character and goes on behind the escape. The round trips for keys and
values are inductions over it, ended by the fact that the units of a text spell the text.

The scanner of lines looks at escaped text without undoing it, so it needs to know the shape of an
escape as well. `Paired` is that shape: every backslash has a character behind it that it escapes,
and the characters on their own are harmless. It is closed under appending, which a condition on
backslashes alone would not be, because a last backslash would escape what is appended.

## Main definitions

* `Escape.IsHarmless`: A character that means nothing to a scanner of lines.
* `Escape.Paired`: A text of escaped characters and bare ones of a kind.

## Theorems

* `units_ofChar_append`: The escape of a character spells its units.
* `decode_encodeKey`, `decode_encodeValue`: Reading undoes escaping.
* `paired_encodeKey`, `paired_encodeValue`: Escaped texts are paired.
* `mem_encodeKey`, `mem_encodeValue`: Escaped texts are printable.
-/

namespace Colloquy

namespace Escape

theorem digit?_upperDigit (n : Nat) (h : n < 16) : digit? (upperDigit n) = some n := by
  have hall : ∀ m ∈ List.range 16, digit? (upperDigit m) = some m := by decide
  exact hall n (List.mem_range.mpr h)

theorem unit?_fourDigits (unit : Nat) (h : unit < 0x10000) :
    unit? (fourDigits unit) = some unit := by
  rw [fourDigits, unit?, digit?_upperDigit _ (by omega), digit?_upperDigit _ (by omega),
    digit?_upperDigit _ (by omega), digit?_upperDigit _ (by omega)]
  simp only [Option.bind_eq_bind, Option.bind_some, Option.pure_def, Option.some.injEq]
  omega

/-- An escape by number spells its unit. -/
theorem units_ofUnit_append (unit : Nat) (h : unit < 0x10000) (rest : List Char) :
    units (ofUnit unit ++ rest) = unit :: units rest := by
  change units ('\\' :: 'u' :: (fourDigits unit ++ rest)) = _
  have htake : (fourDigits unit ++ rest).take 4 = fourDigits unit := rfl
  have hdrop : (fourDigits unit ++ rest).drop 4 = rest := rfl
  rw [units, htake, hdrop, unit?_fourDigits unit h]

theorem units_flatMap_ofUnit_append (us : List Nat) (h : ∀ unit ∈ us, unit < 0x10000)
    (rest : List Char) : units (us.flatMap ofUnit ++ rest) = us ++ units rest := by
  induction us with
  | nil => rfl
  | cons unit us ih =>
      rw [List.flatMap_cons, List.append_assoc,
        units_ofUnit_append unit (h unit List.mem_cons_self),
        ih (fun u hu => h u (List.mem_cons_of_mem _ hu)), List.cons_append]

/-- A character other than the one that starts an escape by number stands, behind a backslash, for
    what it is said to stand for. -/
theorem units_backslash_cons (c : Char) (h : c ≠ 'u') (rest : List Char) :
    units ('\\' :: c :: rest) = Utf16.units (escaped c) ++ units rest := by
  rw [units]
  exact fun hu => h hu

theorem units_cons (c : Char) (h : c ≠ '\\') (rest : List Char) :
    units (c :: rest) = Utf16.units c ++ units rest := by
  rw [units]
  · exact fun hc _ => h hc
  · exact fun _ hc _ => h hc
  · exact fun _ _ hc _ => h hc

/-- The escape of a character, whatever follows it, spells the units of the character. -/
theorem units_ofChar_append (spaces : Bool) (c : Char) (rest : List Char) :
    units (ofChar spaces c ++ rest) = Utf16.units c ++ units rest := by
  -- The cases are those of `ofChar`: first the characters that have an escape of their own.
  by_cases hspace : c = ' '
  · subst hspace
    cases spaces with
    | true => exact units_backslash_cons ' ' (by decide) rest
    | false => exact units_cons ' ' (by decide) rest
  by_cases hback : c = '\\'
  · subst hback
    exact units_backslash_cons '\\' (by decide) rest
  by_cases htab : c = '\t'
  · subst htab
    exact units_backslash_cons 't' (by decide) rest
  by_cases hfeed : c = '\n'
  · subst hfeed
    exact units_backslash_cons 'n' (by decide) rest
  by_cases hreturn : c = '\r'
  · subst hreturn
    exact units_backslash_cons 'r' (by decide) rest
  by_cases hform : c = '\x0c'
  · subst hform
    exact units_backslash_cons 'f' (by decide) rest
  rw [ofChar, if_neg hspace, if_neg hback, if_neg htab, if_neg hfeed, if_neg hreturn, if_neg hform]
  by_cases hsign : c = '=' ∨ c = ':' ∨ c = '#' ∨ c = '!'
  · -- A sign stands for itself behind a backslash.
    rw [if_pos hsign]
    rcases hsign with rfl | rfl | rfl | rfl
    · exact units_backslash_cons '=' (by decide) rest
    · exact units_backslash_cons ':' (by decide) rest
    · exact units_backslash_cons '#' (by decide) rest
    · exact units_backslash_cons '!' (by decide) rest
  rw [if_neg hsign]
  by_cases hrange : c.toNat < 0x20 ∨ 0x7E < c.toNat
  · -- What is not printable is escaped by number, unit by unit.
    rw [if_pos hrange]
    exact units_flatMap_ofUnit_append _ (fun _ hu => Utf16.lt_of_mem_units hu) rest
  · rw [if_neg hrange]
    exact units_cons c hback rest

theorem units_flatMap_ofChar (spaces : Bool) (cs : List Char) :
    units (cs.flatMap (ofChar spaces)) = cs.flatMap Utf16.units := by
  induction cs with
  | nil => rw [List.flatMap_nil, units, List.flatMap_nil]
  | cons c cs ih => rw [List.flatMap_cons, units_ofChar_append, ih, List.flatMap_cons]

/-- Reading undoes the escaping of keys. -/
theorem decode_encodeKey (key : List Char) : decode (encodeKey key) = key := by
  rw [decode, encodeKey, units_flatMap_ofChar, Utf16.ofUnits_flatMap_units]

/-- Reading undoes the escaping of values. -/
theorem decode_encodeValue (value : List Char) : decode (encodeValue value) = value := by
  cases value with
  | nil => rw [encodeValue, decode, units, Utf16.ofUnits]
  | cons c rest =>
      rw [encodeValue, decode, units_ofChar_append, units_flatMap_ofChar,
        Utf16.ofUnits_units_append, Utf16.ofUnits_flatMap_units]

/-- A character that neither separates nor starts a comment. -/
def IsHarmless (c : Char) : Prop :=
  Line.isSeparator c = false ∧ c ≠ '#' ∧ c ≠ '!'

instance (c : Char) : Decidable (IsHarmless c) := by
  unfold IsHarmless
  infer_instance

theorem IsHarmless.not_isGap {c : Char} (h : IsHarmless c) : Line.isGap c = false := by
  have hsep := h.1
  simp only [Line.isSeparator, Bool.or_eq_false_iff] at hsep
  exact hsep.2

/-- A text of escaped characters, each behind its backslash, and of bare characters of a kind. -/
inductive Paired (bare : Char → Prop) : List Char → Prop
  | nil : Paired bare []
  | bare (c : Char) (cs : List Char) : c ≠ '\\' → bare c → Paired bare cs → Paired bare (c :: cs)
  | escaped (c : Char) (cs : List Char) : Paired bare cs → Paired bare ('\\' :: c :: cs)

theorem Paired.append {bare : Char → Prop} {cs ds : List Char} (hc : Paired bare cs)
    (hd : Paired bare ds) : Paired bare (cs ++ ds) := by
  induction hc with
  | nil => exact hd
  | bare c cs hne hbare _ ih => exact .bare c _ hne hbare ih
  | escaped c cs _ ih => exact .escaped c _ ih

theorem Paired.flatMap {α : Type} {bare : Char → Prop} (f : α → List Char) (xs : List α)
    (h : ∀ x ∈ xs, Paired bare (f x)) : Paired bare (xs.flatMap f) := by
  induction xs with
  | nil => exact .nil
  | cons x xs ih =>
      rw [List.flatMap_cons]
      exact (h x List.mem_cons_self).append (ih fun y hy => h y (List.mem_cons_of_mem _ hy))

theorem Paired.mono {bare other : Char → Prop} (h : ∀ c, bare c → other c) {cs : List Char}
    (hc : Paired bare cs) : Paired other cs := by
  induction hc with
  | nil => exact .nil
  | bare c cs hne hbare _ ih => exact .bare c cs hne (h c hbare) ih
  | escaped c cs _ ih => exact .escaped c cs ih

theorem upperDigit_harmless (n : Nat) (h : n < 16) :
    upperDigit n ≠ '\\' ∧ IsHarmless (upperDigit n) := by
  have hall : ∀ m ∈ List.range 16, upperDigit m ≠ '\\' ∧ IsHarmless (upperDigit m) := by decide
  exact hall n (List.mem_range.mpr h)

theorem paired_ofUnit (unit : Nat) : Paired IsHarmless (ofUnit unit) := by
  have hdigit (n : Nat) : upperDigit (n % 16) ≠ '\\' ∧ IsHarmless (upperDigit (n % 16)) :=
    upperDigit_harmless _ (Nat.mod_lt _ (by decide))
  -- The backslash escapes the letter, and the four digits are bare.
  refine .escaped 'u' _ (.bare _ _ (hdigit _).1 (hdigit _).2 ?_)
  refine .bare _ _ (hdigit _).1 (hdigit _).2 (.bare _ _ (hdigit _).1 (hdigit _).2 ?_)
  exact .bare _ _ (hdigit _).1 (hdigit _).2 .nil

/-- The escape of a character is paired. A space is the one character that may be left bare and is
    not harmless. -/
theorem paired_ofChar (spaces : Bool) (c : Char) :
    Paired (fun d => IsHarmless d ∨ (spaces = false ∧ d = ' ')) (ofChar spaces c) := by
  unfold ofChar
  split
  · -- A space is escaped or left bare, as is asked for.
    rename_i hc
    split
    · exact .escaped ' ' [] .nil
    · rename_i hspaces
      exact .bare ' ' [] (by decide) (.inr ⟨Bool.of_not_eq_true hspaces, rfl⟩) .nil
  rename_i hspace
  split
  · exact .escaped '\\' [] .nil
  rename_i hback
  split
  · exact .escaped 't' [] .nil
  rename_i htab
  split
  · exact .escaped 'n' [] .nil
  split
  · exact .escaped 'r' [] .nil
  split
  · exact .escaped 'f' [] .nil
  rename_i hform
  split
  · exact .escaped c [] .nil
  rename_i hsign
  split
  · exact .flatMap ofUnit _ fun unit _ => (paired_ofUnit unit).mono fun _ h => .inl h
  · -- What is left is bare because it is none of the characters asked for before.
    refine .bare c [] hback (.inl ⟨?_, fun h => hsign (by simp [h]), fun h => hsign (by simp [h])⟩)
      .nil
    simp only [not_or] at hsign
    simp [Line.isSeparator, Line.isGap, hsign, hspace, htab, hform]

/-- An escaped key is paired and leaves nothing bare that a scanner of lines would look at. -/
theorem paired_encodeKey (key : List Char) : Paired IsHarmless (encodeKey key) :=
  .flatMap _ key fun c _ => (paired_ofChar true c).mono fun _ h => by simpa using h

/-- An escaped value is paired. -/
theorem paired_encodeValue (value : List Char) : Paired (fun _ => True) (encodeValue value) := by
  cases value with
  | nil => exact .nil
  | cons c rest =>
      exact ((paired_ofChar true c).mono fun _ _ => trivial).append
        (.flatMap _ rest fun d _ => (paired_ofChar false d).mono fun _ _ => trivial)

/-- A paired text starts with a backslash or with a bare character. -/
theorem Paired.head {bare : Char → Prop} {c : Char} {cs : List Char}
    (h : Paired bare (c :: cs)) : c = '\\' ∨ bare c := by
  cases h with
  | bare _ _ _ hbare _ => exact .inr hbare
  | escaped _ _ _ => exact .inl rfl

/-- The escape of a character has a first character, so it decides how a text starts. -/
theorem exists_ofChar_eq_cons (spaces : Bool) (c : Char) :
    ∃ d ds, ofChar spaces c = d :: ds := by
  unfold ofChar
  repeat' split
  all_goals try exact ⟨_, _, rfl⟩
  -- A character outside printable ASCII has one unit or two.
  unfold Utf16.units
  split
  · exact ⟨_, _, rfl⟩
  · exact ⟨_, _, rfl⟩

/-- A backslash is as little a separator or a sign of a comment as a harmless character is. -/
theorem isHarmless_of_head {c : Char} (h : c = '\\' ∨ IsHarmless c) : IsHarmless c := by
  rcases h with rfl | h
  · decide
  · exact h

theorem head?_encodeKey (key : List Char) : ∀ c ∈ (encodeKey key).head?, IsHarmless c := by
  intro c hc
  have hpaired := paired_encodeKey key
  rcases hkey : encodeKey key with _ | ⟨d, ds⟩
  · rw [hkey] at hc
    cases hc
  · rw [hkey] at hc hpaired
    cases hc
    exact isHarmless_of_head hpaired.head

/-- An escaped value does not start with a blank, because its first character is escaped as in a
    key. -/
theorem head?_encodeValue (value : List Char) :
    ∀ c ∈ (encodeValue value).head?, IsHarmless c := by
  cases value with
  | nil =>
      intro c hc
      cases hc
  | cons c rest =>
      intro d hd
      -- Only the first character of a value is written as in a key.
      have hkey := head?_encodeKey [c]
      rcases exists_ofChar_eq_cons true c with ⟨e, es, he⟩
      rw [encodeKey, List.flatMap_singleton, he] at hkey
      rw [encodeValue, he] at hd
      exact hkey d hd

/-- Whether a character is written to a unit as it is: printable ASCII. -/
def IsPrintable (c : Char) : Prop := 0x20 ≤ c.toNat ∧ c.toNat ≤ 0x7E

instance (c : Char) : Decidable (IsPrintable c) := by
  unfold IsPrintable
  infer_instance

theorem upperDigit_printable (n : Nat) (h : n < 16) : IsPrintable (upperDigit n) := by
  have hall : ∀ m ∈ List.range 16, IsPrintable (upperDigit m) := by decide
  exact hall n (List.mem_range.mpr h)

theorem mem_ofUnit {unit : Nat} {c : Char} (h : c ∈ ofUnit unit) : IsPrintable c := by
  have hdigit (n : Nat) : IsPrintable (upperDigit (n % 16)) :=
    upperDigit_printable _ (Nat.mod_lt _ (by decide))
  -- A unit is written as a backslash, a letter and four digits.
  simp only [ofUnit, fourDigits, List.cons_append, List.nil_append, List.mem_cons,
    List.not_mem_nil, or_false] at h
  rcases h with rfl | rfl | rfl | rfl | rfl | rfl
  · decide
  · decide
  all_goals exact hdigit _

/-- The escape of a character is printable. -/
theorem mem_ofChar {spaces : Bool} {c d : Char} (h : d ∈ ofChar spaces c) : IsPrintable d := by
  unfold ofChar at h
  split at h
  · split at h <;> simp only [List.mem_cons, List.not_mem_nil, or_false] at h
    · rcases h with rfl | rfl <;> decide
    · rw [h]
      decide
  -- A backslash and the four control characters with a letter of their own.
  iterate 5
    split at h
    · simp only [List.mem_cons, List.not_mem_nil, or_false] at h
      rcases h with rfl | rfl <;> decide
  split at h
  · rename_i hsign
    simp only [List.mem_cons, List.not_mem_nil, or_false] at h
    rcases h with rfl | rfl
    · decide
    · rcases hsign with rfl | rfl | rfl | rfl <;> decide
  split at h
  · rcases List.mem_flatMap.mp h with ⟨unit, _, hunit⟩
    exact mem_ofUnit hunit
  · -- A character that stands for itself is in the printable range.
    rename_i hrange
    rw [List.mem_singleton.mp h]
    simp only [IsPrintable]
    omega

theorem mem_encodeKey {key : List Char} {c : Char} (h : c ∈ encodeKey key) : IsPrintable c := by
  rcases List.mem_flatMap.mp h with ⟨_, _, hc⟩
  exact mem_ofChar hc

theorem mem_encodeValue {value : List Char} {c : Char} (h : c ∈ encodeValue value) :
    IsPrintable c := by
  cases value with
  | nil => cases h
  | cons d rest =>
      rw [encodeValue, List.mem_append, List.mem_flatMap] at h
      rcases h with h | ⟨_, _, h⟩
      · exact mem_ofChar h
      · exact mem_ofChar h

end Escape

end Colloquy
