import Colloquy.Pattern.CharClass

/-!
# Patterns

Regular expressions: what a text has to look like in some part of it. A repetition is greedy if it
prefers more turns to fewer, and a choice prefers its left side; among all the places where a
pattern is found, these preferences and the order of the text single out one.

## Main definitions

* `Edge`: A place between two characters.
* `Edge.holds`: Whether a place is such an edge.
* `Pattern`: A pattern.
* `Pattern.asksForWords`: Whether a pattern depends on what a word is in every script.
-/

namespace Colloquy

/-- A place between two characters, or at an end of the text, that a pattern can ask for. -/
inductive Edge where
  | textStart
  | textEnd
  | lineStart
  | lineEnd
  /-- The ends of lines that a carriage return may end too. -/
  | returnLineStart
  | returnLineEnd
  /-- The edges of words made of ASCII letters, digits and underscores. -/
  | wordEdge
  | wordInside
  | wordStart
  | wordEnd
  /-- An edge of words in any script. -/
  | scriptWord
  deriving DecidableEq, Repr

namespace Edge

/-- Whether there is a character of a word. -/
def isWord : Option Char → Bool
  | some c => CharClass.word.holds c
  | none => false

/-- Whether the place between two characters is an edge. There is no character before the start of
    a text and none after its end. What a word is in every script is not known here, so no place is
    an edge of one. -/
def holds (edge : Edge) (before after : Option Char) : Bool :=
  match edge with
  | textStart => before.isNone
  | textEnd => after.isNone
  | lineStart => before.isNone || before = some '\n'
  | lineEnd => after.isNone || after = some '\n'
  | returnLineStart =>
    before.isNone || before = some '\n' || (before = some '\r' && after ≠ some '\n')
  | returnLineEnd =>
    after.isNone || after = some '\r' || (after = some '\n' && before ≠ some '\r')
  | wordEdge => isWord before != isWord after
  | wordInside => isWord before == isWord after
  | wordStart => !isWord before && isWord after
  | wordEnd => isWord before && !isWord after
  | scriptWord => false

end Edge

/-- A pattern. -/
inductive Pattern where
  | empty
  | one (members : CharClass)
  | edge (place : Edge)
  | sequence (first second : Pattern)
  | choice (left right : Pattern)
  | optional (greedy : Bool) (inner : Pattern)
  | repeated (greedy : Bool) (inner : Pattern)
  deriving DecidableEq, Repr

namespace Pattern

/-- Any number of turns: none, or one and more. -/
def star (greedy : Bool) (inner : Pattern) : Pattern := optional greedy (repeated greedy inner)

/-- Whether a pattern depends on what a word is in every script. -/
def asksForWords : Pattern → Bool
  | .edge place => place = .scriptWord
  | sequence first second => first.asksForWords || second.asksForWords
  | choice left right => left.asksForWords || right.asksForWords
  | optional _ inner => inner.asksForWords
  | repeated _ inner => inner.asksForWords
  | empty | one _ => false

end Pattern

end Colloquy
