/-!
# JSON Text

The part of JSON that is ever written: texts, numbers and objects, in one line or indented. Quotes
and backslashes are escaped, and so are control characters, by a letter where there is one and by
number otherwise. All other characters stand for themselves.

## Main definitions

* `Json`: What is written.
* `Json.quote`: A text between quotes.
* `Json.line`: A value in one line.
* `Json.indented`: A value with each entry of an object in a line of its own.
-/

namespace Colloquy

/-- What is written as JSON. Objects are written in the order given. -/
inductive Json where
  | number (value : Nat)
  | text (value : String)
  | object (entries : List (String × Json))
  deriving Repr, Inhabited

namespace Json

/-- A character as it stands between quotes. -/
def escape (c : Char) : List Char :=
  if c = '"' then ['\\', '"']
  else if c = '\\' then ['\\', '\\']
  else if c = '\x08' then ['\\', 'b']
  else if c = '\x0c' then ['\\', 'f']
  else if c = '\n' then ['\\', 'n']
  else if c = '\r' then ['\\', 'r']
  else if c = '\t' then ['\\', 't']
  else if c < ' ' then
    ['\\', 'u', '0', '0', Nat.digitChar (c.toNat / 16), Nat.digitChar (c.toNat % 16)]
  else [c]

/-- A text between quotes. -/
def quote (text : String) : String :=
  String.ofList ('"' :: text.toList.flatMap escape ++ ['"'])

mutual

/-- A value in one line. -/
def line : Json → String
  | .number value => toString value
  | .text value => quote value
  | .object entries => "\x7b" ++ ",".intercalate (lines entries) ++ "\x7d"

/-- Entries in one line each. -/
def lines : List (String × Json) → List String
  | [] => []
  | (name, value) :: rest => (quote name ++ ":" ++ line value) :: lines rest

end

/-- The blanks in front of a line at a depth. -/
def indentation (depth : Nat) : String :=
  String.ofList (List.replicate (2 * depth) ' ')

mutual

/-- A value that stands at a depth, with each entry of an object in a line of its own. -/
def indentedAt (depth : Nat) : Json → String
  | .number value => toString value
  | .text value => quote value
  | .object [] => "\x7b\x7d"
  | .object (entry :: rest) =>
    "\x7b\n" ++ ",\n".intercalate (indentedEntries (depth + 1) (entry :: rest)) ++ "\n" ++
      indentation depth ++ "\x7d"

/-- Entries that stand at a depth. -/
def indentedEntries (depth : Nat) : List (String × Json) → List String
  | [] => []
  | (name, value) :: rest =>
    (indentation depth ++ quote name ++ ": " ++ indentedAt depth value) ::
      indentedEntries depth rest

end

/-- A value with each entry of an object in a line of its own. -/
def indented (value : Json) : String := indentedAt 0 value

end Json

end Colloquy
