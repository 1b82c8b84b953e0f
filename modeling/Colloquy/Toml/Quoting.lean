import Colloquy.Template.Reference
import Colloquy.Text.Split

/-!
# Quoted Text in TOML

Text stands between quotes on one line, or between triple quotes on any number of lines. Between
double quotes a backslash begins an escape; between single quotes it is a character like any other.

In a block, one or two quotes in a row are text. Of a longer row the last three close the block
and up to two before them are still text. A line end is read as a line feed, the one right behind
the opening quotes is dropped, and a backslash at the end of a line joins the line to the next
character that is neither a blank nor a line end.

## Main definitions

* `Toml.Quotes`: The two kinds of quotes.
* `Toml.escaped?`: What an escape stands for.
* `Toml.line?`, `Toml.block?`: The text up to the closing quotes, and what follows them.
* `Toml.quotedText?`: Text in any quotes.
-/

namespace Colloquy

namespace Toml

/-- A kind of quotes, and whether a backslash begins an escape between them. -/
structure Quotes where
  mark : Char
  escapes : Bool

/-- Double quotes. -/
def doubleQuotes : Quotes := ⟨'"', true⟩

/-- Single quotes. -/
def singleQuotes : Quotes := ⟨'\'', false⟩

/-- Whether a character separates words on a line. -/
def isGap (c : Char) : Bool := c = ' ' || c = '\t'

/-- Whether a character may stand in a comment and in text, where it is neither quote nor escape. -/
def isPlain (c : Char) : Bool := c = '\t' || (' ' ≤ c && c ≠ '\x7f')

/-- The text after a line end, if one begins here. -/
def lineEnd? : List Char → Option (List Char)
  | '\n' :: rest => some rest
  | '\r' :: '\n' :: rest => some rest
  | _ => none

/-- The character of a hexadecimal number with a fixed count of digits. -/
def hexScalar? (count : Nat) (cs : List Char) : Option Char :=
  let digits := cs.take count
  if digits.length = count then (Reference.digits? 16 0 digits).bind Reference.scalar? else none

/-- What an escape stands for, given what follows its backslash, and how many characters of that it
    takes. -/
def escaped? : List Char → Option (Char × Nat)
  | 'b' :: _ => some ('\x08', 1)
  | 't' :: _ => some ('\t', 1)
  | 'n' :: _ => some ('\n', 1)
  | 'f' :: _ => some ('\x0c', 1)
  | 'r' :: _ => some ('\r', 1)
  | '"' :: _ => some ('"', 1)
  | '\\' :: _ => some ('\\', 1)
  | 'u' :: rest => (hexScalar? 4 rest).map (·, 5)
  | 'U' :: rest => (hexScalar? 8 rest).map (·, 9)
  | _ => none

/-- The text up to a closing quote on the same line, and what follows the quote. -/
def line? (quotes : Quotes) : List Char → Option (List Char × List Char)
  | [] => none
  | c :: rest =>
    if c = quotes.mark then some ([], rest)
    else if c = '\\' && quotes.escapes then
      match escaped? rest with
      | some (named, count) =>
        (line? quotes (rest.drop count)).map fun (text, after) => (named :: text, after)
      | none => none
    else if isPlain c then (line? quotes rest).map fun (text, after) => (c :: text, after)
    else none
termination_by cs => cs.length
decreasing_by
  all_goals simp only [List.length_cons, List.length_drop]
  all_goals omega

theorem lineEnd?_length {cs rest : List Char} (h : lineEnd? cs = some rest) :
    rest.length < cs.length := by
  unfold lineEnd? at h
  split at h <;> cases h <;> simp only [List.length_cons] <;> omega

/-- A text without the blanks and line ends that it starts with. -/
def skipLines : List Char → List Char
  | [] => []
  | '\n' :: rest => skipLines rest
  | '\r' :: '\n' :: rest => skipLines rest
  | c :: rest => if isGap c then skipLines rest else c :: rest

theorem skipLines_length_le (cs : List Char) : (skipLines cs).length ≤ cs.length := by
  fun_induction skipLines cs <;> simp only [List.length_nil, List.length_cons] <;> omega

/-- What a backslash joins a line to, given what follows it. -/
def joined? (cs : List Char) : Option (List Char) :=
  (lineEnd? (cs.dropWhile isGap)).map skipLines

theorem joined?_length {cs rest : List Char} (h : joined? cs = some rest) :
    rest.length < cs.length := by
  obtain ⟨after, hafter, rfl⟩ := Option.map_eq_some_iff.1 h
  have := skipLines_length_le after
  have := lineEnd?_length hafter
  have := length_dropWhile_le isGap cs
  omega

/-- The text up to three closing quotes, and what follows them. -/
def block? (quotes : Quotes) : List Char → Option (List Char × List Char)
  | [] => none
  | c :: rest =>
    if c = quotes.mark then
      -- The longest row that closes a block has two quotes of text in front of three.
      let row := (rest.takeWhile (· = quotes.mark)).length + 1
      if 3 ≤ row then
        some (List.replicate (min row 5 - 3) quotes.mark, rest.drop (min row 5 - 1))
      else (block? quotes rest).map fun (text, after) => (c :: text, after)
    else if c = '\\' && quotes.escapes then
      match _h : joined? rest with
      | some next => block? quotes next
      | none =>
        match escaped? rest with
        | some (named, count) =>
          (block? quotes (rest.drop count)).map fun (text, after) => (named :: text, after)
        | none => none
    else
      match _h : lineEnd? (c :: rest) with
      | some next => (block? quotes next).map fun (text, after) => ('\n' :: text, after)
      | none =>
        if isPlain c then (block? quotes rest).map fun (text, after) => (c :: text, after)
        else none
termination_by cs => cs.length
decreasing_by
  · exact Nat.lt_succ_self _
  · have := joined?_length _h
    rw [List.length_cons]
    omega
  · rw [List.length_cons, List.length_drop]
    omega
  · exact lineEnd?_length _h
  · exact Nat.lt_succ_self _

/-- A text without the line end that it starts with. -/
def withoutLineEnd (cs : List Char) : List Char :=
  (lineEnd? cs).getD cs

/-- Text in quotes on one line, if one begins here. -/
def quotedLine? : List Char → Option (List Char × List Char)
  | '"' :: rest => line? doubleQuotes rest
  | '\'' :: rest => line? singleQuotes rest
  | _ => none

/-- Text in any quotes, if some begins here. -/
def quotedText? : List Char → Option (List Char × List Char)
  | '"' :: '"' :: '"' :: rest => block? doubleQuotes (withoutLineEnd rest)
  | '\'' :: '\'' :: '\'' :: rest => block? singleQuotes (withoutLineEnd rest)
  | cs => quotedLine? cs

end Toml

end Colloquy
