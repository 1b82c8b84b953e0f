import Colloquy.Text.CharRange

/-!
# Character Classes of Patterns

The classes of characters that a pattern can ask for: ranges of code points, and what can be made
of classes by the operations on sets. A class is kept as it was written, so that asking it about a
character is one recursion over its parts.

## Main definitions

* `CharClass`: A class.
* `CharClass.holds`: Whether a character is in a class.
* `CharClass.named?`: The classes that have a name.
-/

namespace Colloquy

/-- A class of characters. -/
inductive CharClass where
  /-- The characters with code points in one of the closed ranges. -/
  | ranges (members : List (Nat × Nat))
  | negation (inner : CharClass)
  | union (left right : CharClass)
  | intersection (left right : CharClass)
  | difference (left right : CharClass)
  | symmetricDifference (left right : CharClass)
  /-- The characters that are in the class in either case of the ASCII letters. -/
  | anyCase (inner : CharClass)
  deriving DecidableEq, Repr

namespace CharClass

/-- Whether a character is in a class. -/
def holds : CharClass → Char → Bool
  | ranges members, c => CharRange.holds members c.toNat
  | negation inner, c => !inner.holds c
  | union left right, c => left.holds c || right.holds c
  | intersection left right, c => left.holds c && right.holds c
  | difference left right, c => left.holds c && !right.holds c
  | symmetricDifference left right, c => left.holds c != right.holds c
  | anyCase inner, c => inner.holds c || inner.holds c.toLower || inner.holds c.toUpper

/-- The class of one character. -/
def single (c : Char) : CharClass := ranges [(c.toNat, c.toNat)]

/-- The digits. -/
def digit : CharClass := ranges [(0x30, 0x39)]

/-- The blanks and line ends. -/
def space : CharClass := ranges [(0x09, 0x0D), (0x20, 0x20)]

/-- The letters, the digits and the underscore. -/
def word : CharClass := ranges [(0x30, 0x39), (0x41, 0x5A), (0x5F, 0x5F), (0x61, 0x7A)]

/-- The class that a name stands for. All of these are classes of ASCII characters. -/
def named? (name : List Char) : Option CharClass :=
  List.lookup (String.ofList name)
    [("alnum", ranges [(0x30, 0x39), (0x41, 0x5A), (0x61, 0x7A)]),
     ("alpha", ranges [(0x41, 0x5A), (0x61, 0x7A)]),
     ("ascii", ranges [(0x00, 0x7F)]),
     ("blank", ranges [(0x09, 0x09), (0x20, 0x20)]),
     ("cntrl", ranges [(0x00, 0x1F), (0x7F, 0x7F)]),
     ("digit", digit),
     ("graph", ranges [(0x21, 0x7E)]),
     ("lower", ranges [(0x61, 0x7A)]),
     ("print", ranges [(0x20, 0x7E)]),
     ("punct", ranges [(0x21, 0x2F), (0x3A, 0x40), (0x5B, 0x60), (0x7B, 0x7E)]),
     ("space", space),
     ("upper", ranges [(0x41, 0x5A)]),
     ("word", word),
     ("xdigit", ranges [(0x30, 0x39), (0x41, 0x46), (0x61, 0x66)])]

end CharClass

end Colloquy
