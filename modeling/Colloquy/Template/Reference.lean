/-!
# Character References

Text and attribute values may name characters instead of holding them: five by name, and any by
number. A reference runs from an ampersand to the next semicolon. What stands between must be one of
the names, or a number sign with a decimal number, or a number sign with an x and a hexadecimal one,
and the number must be that of a character. Anything else is not a reference: the ampersand stands
for itself, and reading goes on right behind it.

A number may be written with a plus sign and with any number of leading zeros.

Reading goes from left to right and never looks at a character it has produced, so a reference to an
ampersand does not begin another reference.

## Main definitions

* `Reference.number?`: The value of a run of digits.
* `Reference.ofEntity?`: The character that a reference names.
* `Reference.read?`: The reference at the start of a text, and what follows it.
* `Reference.expand`: A text with its references replaced.
-/

namespace Colloquy

namespace Reference

/-- The value of a digit in a base of at most sixteen. -/
def digit? (base : Nat) (c : Char) : Option Nat :=
  let value :=
    if '0' ≤ c ∧ c ≤ '9' then c.toNat - '0'.toNat
    else if 'a' ≤ c ∧ c ≤ 'f' then c.toNat - 'a'.toNat + 10
    else if 'A' ≤ c ∧ c ≤ 'F' then c.toNat - 'A'.toNat + 10
    else base
  if value < base then some value else none

/-- The value of digits that follow those already read. -/
def digits? (base : Nat) (value : Nat) : List Char → Option Nat
  | [] => some value
  | c :: rest => (digit? base c).bind fun d => digits? base (value * base + d) rest

/-- The value of a number: at least one digit, after a plus sign or none. -/
def number? (base : Nat) : List Char → Option Nat
  | [] => none
  | ['+'] => none
  | '+' :: rest => digits? base 0 rest
  | cs => digits? base 0 cs

/-- The character of a code point, if there is one. -/
def scalar? (n : Nat) : Option Char :=
  if h : n.isValidChar then some (Char.ofNatAux n h) else none

/-- The characters that have a name. -/
def named? (name : List Char) : Option Char :=
  if name = ['l', 't'] then some '<'
  else if name = ['g', 't'] then some '>'
  else if name = ['a', 'm', 'p'] then some '&'
  else if name = ['q', 'u', 'o', 't'] then some '"'
  else if name = ['a', 'p', 'o', 's'] then some '\''
  else none

/-- The character that the text between an ampersand and a semicolon stands for. -/
def ofEntity? : List Char → Option Char
  | '#' :: 'x' :: digits => (number? 16 digits).bind scalar?
  | '#' :: 'X' :: digits => (number? 16 digits).bind scalar?
  | '#' :: digits => (number? 10 digits).bind scalar?
  | name => named? name

/-- The reference whose ampersand has just been read, and the text after its semicolon. -/
def read? (cs : List Char) : Option (Char × List Char) :=
  match cs.dropWhile (· ≠ ';') with
  | [] => none
  | _ :: after => (ofEntity? (cs.takeWhile (· ≠ ';'))).map fun c => (c, after)

theorem read?_length {cs after : List Char} {c : Char} (h : read? cs = some (c, after)) :
    after.length < cs.length := by
  unfold read? at h
  split at h
  · cases h
  · rename_i first rest heq
    obtain ⟨_, _, hp⟩ := Option.map_eq_some_iff.1 h
    cases hp
    have := (List.dropWhile_sublist (fun c => c ≠ ';') (l := cs)).length_le
    rw [heq] at this
    exact this

/-- A text with every reference replaced by its character, once and from left to right. -/
def expand : List Char → List Char
  | [] => []
  | c :: rest =>
    if c = '&' then
      match _h : read? rest with
      | some (named, after) => named :: expand after
      | none => '&' :: expand rest
    else c :: expand rest
termination_by cs => cs.length
decreasing_by
  · have := read?_length _h
    simp
    omega
  · simp
  · simp

end Reference

end Colloquy
