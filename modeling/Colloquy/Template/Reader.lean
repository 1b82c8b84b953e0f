import Colloquy.Template.Lexeme

/-!
# Reading Templates

Building the tree of a template from its lexemes. The elements that are still open are kept on a
stack, innermost first, each with the siblings that were complete before it; a closing tag turns the
innermost one into a node. How deeply elements nest is the height of that stack, so the limit on
nesting is one comparison where an element starts, and nothing else in the reader knows about it.

An error names the place where the text stopped making sense. That is not always where the lexeme
starts: a tag without an end is reported behind its attributes. Every place is kept as the text from
there on, so that an error lies at a character of the source by construction; the number of bytes
before it is counted at the end.

## Main definitions

* `ParseFault`: What is wrong with a template.
* `ParseError`: A fault with its place.
* `Reader.build`: The tree of a list of lexemes, given the open elements.
* `parseTemplate`: The tree of a source text.
* `nestingCeiling`: The deepest nesting that is ever read.
-/

namespace Colloquy

/-- The deepest nesting that is ever read, whatever limit a caller asks for. -/
def nestingCeiling : Nat := 128

/-- The nesting read and evaluated where nobody asks for another limit. -/
def defaultNesting : Nat := 64

/-- What the reader was waiting for. -/
inductive Expectation where
  | tagEnd
  | closingTag
  deriving DecidableEq, Repr

/-- The words for what the reader was waiting for. -/
def Expectation.label : Expectation → String
  | .tagEnd => "'>' or '/>'"
  | .closingTag => "matching closing tag"

/-- What is wrong with a template. -/
inductive ParseFault where
  | unexpected
  | expected (what : Expectation)
  | tooDeep (tag : String) (limit : Nat)
  deriving DecidableEq, Repr

/-- The words for a fault. -/
def ParseFault.message : ParseFault → String
  | .unexpected => "unexpected input"
  | .expected what => "expected " ++ what.label
  | .tooDeep tag limit =>
    "maximum nesting depth " ++ toString limit ++ " exceeded at <" ++ tag ++ ">"

/-- A fault and the number of bytes before its place. -/
structure ParseError where
  offset : Nat
  fault : ParseFault
  deriving DecidableEq, Repr

/-- What is said about a template that cannot be read. -/
def ParseError.message (error : ParseError) : String :=
  "template parse error at byte " ++ toString error.offset ++ ": " ++ error.fault.message

namespace Reader

/-- An open element: its tag and the siblings complete before it, last first. -/
structure Frame where
  tag : Tag
  before : List Node

/-- A fault and the text from its place on. -/
structure Failure where
  rest : List Char
  fault : ParseFault

/-- The fault at a place where nothing can go on: an open element misses its closing tag, and
    without open elements nothing was expected at all. -/
def dangling (stack : List Frame) : ParseFault :=
  if stack.isEmpty then .unexpected else .expected .closingTag

/-- The nodes of a list of lexemes. `stack` holds the open elements, innermost first, and
    `siblings` the complete nodes of the innermost one, last first. -/
def build (limit : Nat) :
    List Token → List Frame → List Node → Except Failure (List Node)
  | [], [], siblings => .ok siblings.reverse
  | [], _ :: _, _ => .error ⟨[], .expected .closingTag⟩
  | ⟨source, lexeme⟩ :: tokens, stack, siblings =>
    match lexeme with
    | .comment _ => build limit tokens stack siblings
    | .text run =>
      build limit tokens stack (.text (String.ofList (Reference.expand run)) :: siblings)
    | .leaf tag =>
      if stack.length < limit then build limit tokens stack (.leaf tag :: siblings)
      else .error ⟨source, .tooDeep tag.name limit⟩
    -- What is complete so far waits on the stack until the element closes.
    | .opening tag =>
      if stack.length < limit then build limit tokens (⟨tag, siblings⟩ :: stack) []
      else .error ⟨source, .tooDeep tag.name limit⟩
    -- A tag without an end still has a depth, and being too deep comes first.
    | .broken name rest =>
      if stack.length < limit then .error ⟨rest, .expected .tagEnd⟩
      else .error ⟨source, .tooDeep name limit⟩
    | .closing name =>
      match stack with
      | [] => .error ⟨source, .unexpected⟩
      | frame :: outer =>
        if name = frame.tag.name then
          build limit tokens outer (.container frame.tag siblings.reverse :: frame.before)
        else .error ⟨source, .expected .closingTag⟩
    | .stray => .error ⟨source, dangling stack⟩

/-- The number of bytes of a text. -/
def byteLength (cs : List Char) : Nat :=
  cs.foldr (fun c bytes => c.utf8Size + bytes) 0

/-- A failure with its place counted from the start of the source. -/
def Failure.located (source : List Char) (failure : Failure) : ParseError :=
  ⟨byteLength source - byteLength failure.rest, failure.fault⟩

end Reader

/-- The tree of a template in which elements nest at most `limit` deep, and never deeper than the
    ceiling. -/
def parseTemplate (source : String) (limit : Nat := defaultNesting) :
    Except ParseError (List Node) :=
  match Reader.build (min limit nestingCeiling) (Token.list source.toList) [] [] with
  | .ok nodes => .ok nodes
  | .error failure => .error (failure.located source.toList)

end Colloquy
