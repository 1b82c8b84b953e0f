import Colloquy.Text.Split

/-!
# Lines of Predicate Units

How the text of a unit falls into entries, and an entry into key and value. A physical line ends
at a line feed, before which one carriage return is dropped, and its leading blanks mean nothing.
Blank lines and lines that start with a number sign or an exclamation mark are skipped. A line
that ends in an odd number of backslashes goes on in the next physical line, whatever that line
starts with; an even number is a row of escaped backslashes.

The key of an entry ends at the first blank, equals sign or colon that is not escaped. Blanks around
the separator do not count, and neither does a second separator: what follows belongs to the value.

Nothing is unescaped here. The pieces are found in the text as it is written, so that an escaped
separator is still recognised as escaped.

## Main definitions

* `Line.joined`: The entries of a list of physical lines, given the entry begun before them.
* `Line.logical`: The entries of a text.
* `Line.splitKey`: An entry cut where its key ends.
* `Line.entry`: The key and the value of an entry.
-/

namespace Colloquy

namespace Line

/-- The characters that separate without being written. -/
def isGap (c : Char) : Bool := c = ' ' || c = '\t' || c = '\x0c'

/-- A physical line without the carriage return of its line end. -/
def withoutReturn (line : List Char) : List Char :=
  if line.getLast? = some '\r' then line.dropLast else line

/-- A physical line without its line end and its leading blanks. -/
def trimmed (line : List Char) : List Char :=
  (withoutReturn line).dropWhile isGap

/-- Whether a text ends in an odd number of backslashes. -/
def continues (line : List Char) : Bool :=
  (line.reverse.takeWhile (· = '\\')).length % 2 = 1

/-- Whether a line, without its leading blanks, holds no entry. -/
def isSkipped : List Char → Bool
  | [] => true
  | c :: _ => c = '#' || c = '!'

/-- The entries of a list of physical lines. `pending` is an entry that goes on in the first of
    them, without the backslash that says so. -/
def joined : Option (List Char) → List (List Char) → List (List Char)
  | none, [] => []
  | some last, [] => [last]
  -- Only a line that begins an entry can be skipped.
  | none, line :: rest =>
    if isSkipped (trimmed line) then joined none rest
    else if continues (trimmed line) then joined (some (trimmed line).dropLast) rest
    else trimmed line :: joined none rest
  | some begun, line :: rest =>
    let current := begun ++ trimmed line
    if continues current then joined (some current.dropLast) rest
    else current :: joined none rest

/-- The entries of a text, as they are written. -/
def logical (text : List Char) : List (List Char) :=
  joined none (splitAt '\n' text)

/-- Whether a character ends a key. -/
def isSeparator (c : Char) : Bool := c = '=' || c = ':' || isGap c

/-- An entry cut in front of the first separator that is not escaped. -/
def splitKey : List Char → List Char × List Char
  | [] => ([], [])
  | [c] => if isSeparator c then ([], [c]) else ([c], [])
  | c :: next :: rest =>
    -- An escaped character never separates.
    if c = '\\' then
      let cut := splitKey rest
      (c :: next :: cut.1, cut.2)
    else if isSeparator c then ([], c :: next :: rest)
    else
      let cut := splitKey (next :: rest)
      (c :: cut.1, cut.2)

/-- The value in what follows a key: blanks, at most one sign, and blanks again are passed over. -/
def valueOf (rest : List Char) : List Char :=
  match rest.dropWhile isGap with
  | '=' :: value => value.dropWhile isGap
  | ':' :: value => value.dropWhile isGap
  | value => value

/-- The key and the value of an entry, still escaped. -/
def entry (line : List Char) : List Char × List Char :=
  let cut := splitKey line
  (cut.1, valueOf cut.2)

end Line

end Colloquy
