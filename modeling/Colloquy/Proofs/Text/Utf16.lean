import Colloquy.Text.Utf16

/-!
# Characters From Their Units

Reading the units of a text gives back the text. A character is never a lone half: the code points
of the halves are no characters, so a unit of the basic plane is read on its own whatever follows
it, and the two units of a character above the plane are always read as a pair.

## Theorems

* `not_isHigh_toNat`, `not_isLow_toNat`: No character has the code point of a half.
* `ofUnits_units_append`: The units of a character in front of others spell that character.
* `ofUnits_flatMap_units`: The units of a text spell the text.
-/

namespace Colloquy

namespace Utf16

/-- The code points of characters leave out the halves and end where two halves reach. -/
theorem toNat_bounds (c : Char) :
    c.toNat < 0xD800 ∨ (0xDFFF < c.toNat ∧ c.toNat < 0x110000) := by
  have h := c.valid
  simp only [UInt32.isValidChar, Nat.isValidChar] at h
  exact h

theorem not_isHigh_toNat (c : Char) : isHigh c.toNat = false := by
  have h := toNat_bounds c
  simp only [isHigh, Bool.and_eq_false_iff, decide_eq_false_iff_not]
  omega

theorem not_isLow_toNat (c : Char) : isLow c.toNat = false := by
  have h := toNat_bounds c
  simp only [isLow, Bool.and_eq_false_iff, decide_eq_false_iff_not]
  omega

theorem single_toNat (c : Char) : single c.toNat = c := by
  rw [single, not_isHigh_toNat, not_isLow_toNat]
  exact Char.ofNat_toNat c

/-- A unit that is a character is read on its own, whatever follows it. -/
theorem ofUnits_toNat_cons (c : Char) (rest : List Nat) :
    ofUnits (c.toNat :: rest) = c :: ofUnits rest := by
  cases rest with
  | nil =>
      change [single c.toNat] = [c]
      rw [single_toNat]
  | cons next rest =>
      -- A character of its own is no first half, so the next unit is not looked at.
      rw [ofUnits, not_isHigh_toNat, single_toNat]
      rfl

/-- The two units of a character above the basic plane are read as a pair. -/
theorem ofUnits_pair_cons (c : Char) (rest : List Nat) (h : 0x10000 ≤ c.toNat) :
    ofUnits ((0xD800 + (c.toNat - 0x10000) / 0x400) ::
      (0xDC00 + (c.toNat - 0x10000) % 0x400) :: rest) = c :: ofUnits rest := by
  have hbound := toNat_bounds c
  have hhigh : isHigh (0xD800 + (c.toNat - 0x10000) / 0x400) = true := by
    simp only [isHigh, Bool.and_eq_true, decide_eq_true_eq]
    omega
  have hlow : isLow (0xDC00 + (c.toNat - 0x10000) % 0x400) = true := by
    simp only [isLow, Bool.and_eq_true, decide_eq_true_eq]
    omega
  -- Both halves together have all the bits of the character.
  have hpaired : paired (0xD800 + (c.toNat - 0x10000) / 0x400)
      (0xDC00 + (c.toNat - 0x10000) % 0x400) = c := by
    rw [paired, show 0x10000 + (0xD800 + (c.toNat - 0x10000) / 0x400 - 0xD800) * 0x400
      + (0xDC00 + (c.toNat - 0x10000) % 0x400 - 0xDC00) = c.toNat by omega]
    exact Char.ofNat_toNat c
  rw [ofUnits, hhigh, hlow, hpaired]
  rfl

/-- The units of a character in front of others spell that character. -/
theorem ofUnits_units_append (c : Char) (rest : List Nat) :
    ofUnits (units c ++ rest) = c :: ofUnits rest := by
  -- A character is one unit or two, which is decided by its plane.
  by_cases h : c.toNat < 0x10000
  · rw [units, if_pos h]
    exact ofUnits_toNat_cons c rest
  · rw [units, if_neg h]
    exact ofUnits_pair_cons c rest (Nat.le_of_not_lt h)

/-- The units of a text spell the text. -/
theorem ofUnits_flatMap_units (cs : List Char) : ofUnits (cs.flatMap units) = cs := by
  induction cs with
  | nil => rfl
  | cons c cs ih => rw [List.flatMap_cons, ofUnits_units_append, ih]

/-- Every unit of a character fits into four hexadecimal digits. -/
theorem lt_of_mem_units {c : Char} {unit : Nat} (h : unit ∈ units c) : unit < 0x10000 := by
  have hbound := toNat_bounds c
  by_cases hc : c.toNat < 0x10000
  · rw [units, if_pos hc, List.mem_singleton] at h
    omega
  · rw [units, if_neg hc, List.mem_cons, List.mem_singleton] at h
    omega

end Utf16

end Colloquy
