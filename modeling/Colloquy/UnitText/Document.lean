import Colloquy.Dictionary
import Colloquy.UnitText.Escape
import Colloquy.UnitText.Line

/-!
# The Text of a Predicate Unit

A unit holds the predicates of one user talking to one agent. Its text is a comment line with the
time of writing, and then one line for each predicate in ascending order of name.

## Main definitions

* `Predicates`: Values by name.
* `UnitText.entryLine`: The line of one predicate.
* `UnitText.encode`: The text of a unit.
* `UnitText.decode`: The predicates of a text, of which a later one wins.
-/

namespace Colloquy

/-- The predicates of one user talking to one agent. -/
abbrev Predicates := Dictionary String

namespace UnitText

/-- The line of one predicate, without its line end. -/
def entryLine (entry : String × String) : List Char :=
  Escape.encodeKey entry.1.toList ++ '=' :: Escape.encodeValue entry.2.toList

/-- The lines of predicates, each with its line end. -/
def entryLines (entries : List (String × String)) : List Char :=
  entries.flatMap fun entry => entryLine entry ++ ['\n']

/-- The text of a unit under a header, which names the time of writing. -/
def encode (header : String) (predicates : Predicates) : String :=
  String.ofList ('#' :: header.toList ++ '\n' :: entryLines predicates.entries)

/-- The predicate that an entry spells. -/
def predicate (line : List Char) : String × String :=
  (String.ofList (Escape.decode (Line.entry line).1),
    String.ofList (Escape.decode (Line.entry line).2))

/-- The predicates of a text. -/
def decode (text : String) : Predicates :=
  Dictionary.ofList ((Line.logical text.toList).map predicate)

end UnitText

end Colloquy
