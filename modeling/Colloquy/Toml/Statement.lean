import Colloquy.Toml.Quoting
import Colloquy.Toml.Scalar
import Colloquy.Toml.Table

/-!
# Statements of a TOML Document

A document is a list of statements, one to a line: pairs of a path and a value, and headers of
tables. A value can hold further values, between brackets or between braces, and only there, and
in blocks of text, does a statement go on over the end of its line. How deep values nest is
limited, and so is the length of a path.

Every function here takes the text that is left and gives back what stands at its start and the
rest. The loops over the items of a list and over the names of a path are bounded by the length of
the text, which each turn makes shorter.

## Main definitions

* `Toml.path?`: A path of names.
* `Toml.value?`: A value, with so many levels of nesting left.
* `Toml.Statement`: A header or a pair.
* `Toml.statement?`: The statement at the start of a line.
-/

namespace Colloquy

namespace Toml

/-- The number of names in a path, and of values within each other, that is too many. -/
def nestingLimit : Nat := 80

/-- A text without the blanks that it starts with. -/
def skipGap (cs : List Char) : List Char := cs.dropWhile isGap

/-- A text without the comment that it starts with. -/
def skipComment : List Char → List Char
  | '#' :: rest => rest.dropWhile isPlain
  | cs => cs

/-- What follows the end of a statement: blanks, perhaps a comment, and the end of the line or of
    the text. -/
def finished? (cs : List Char) : Option (List Char) :=
  match skipComment (skipGap cs) with
  | [] => some []
  | rest => lineEnd? rest

/-- A text without the blanks, line ends and comments that it starts with. `fuel` bounds the
    number of comments. -/
def skipAll (fuel : Nat) (cs : List Char) : List Char :=
  match fuel, skipLines cs with
  | fuel + 1, '#' :: rest => skipAll fuel (rest.dropWhile isPlain)
  | _, rest => rest

/-- A text without the blanks, line ends and comments that it starts with. -/
def skipBetween (cs : List Char) : List Char := skipAll cs.length cs

/-- A name, in quotes or without. -/
def name? (cs : List Char) : Option (String × List Char) :=
  match quotedLine? cs with
  | some (text, rest) => some (String.ofList text, rest)
  | none =>
    let isBare := fun c : Char => c.isAlphanum || c = '_' || c = '-'
    let bare := cs.takeWhile isBare
    if bare.isEmpty then none else some (String.ofList bare, cs.dropWhile isBare)

/-- Names joined by dots, with blanks around each. -/
def names? : (fuel : Nat) → List Char → Option (List String × List Char)
  | 0, _ => none
  | fuel + 1, cs => do
    let (name, rest) ← name? (skipGap cs)
    match skipGap rest with
    | '.' :: rest => do
      let (more, rest) ← names? fuel rest
      pure (name :: more, rest)
    | rest => pure ([name], rest)

/-- A path: the names before the last one, the last one, and what follows. -/
def path? (cs : List Char) : Option (List String × String × List Char) := do
  let (names, rest) ← names? cs.length cs
  let last ← names.getLast?
  if names.length < nestingLimit then pure (names.dropLast, last, rest) else none

/-- The items of a list up to its closing bracket. A comma may follow the last one. -/
def listItems? (item : List Char → Option (Datum × List Char)) :
    (fuel : Nat) → List Char → Option (List Datum × List Char)
  | 0, _ => none
  | fuel + 1, cs =>
    match skipBetween cs with
    | ']' :: rest => some ([], rest)
    | cs => do
      let (value, rest) ← item cs
      match skipBetween rest with
      | ']' :: rest => pure ([value], rest)
      | ',' :: rest => do
        let (more, rest) ← listItems? item fuel rest
        pure (value :: more, rest)
      | _ => none

/-- A pair, with blanks around its parts. -/
def pair? (item : List Char → Option (Datum × List Char)) (cs : List Char) :
    Option (Pair × List Char) := do
  let (path, name, rest) ← path? cs
  match rest with
  | '=' :: rest => do
    let (value, rest) ← item (skipGap rest)
    pure (⟨path, name, value⟩, rest)
  | _ => none

/-- The pairs of a table between braces, up to its closing brace. There is at least one. -/
def tablePairs? (item : List Char → Option (Datum × List Char)) :
    (fuel : Nat) → List Char → Option (List Pair × List Char)
  | 0, _ => none
  | fuel + 1, cs => do
    let (pair, rest) ← pair? item cs
    match skipGap rest with
    | '\x7d' :: rest => pure ([pair], rest)
    | ',' :: rest => do
      let (more, rest) ← tablePairs? item fuel rest
      pure (pair :: more, rest)
    | _ => none

/-- A table between braces, after its opening brace. -/
def inlineTable? (item : List Char → Option (Datum × List Char)) (cs : List Char) :
    Option (Datum × List Char) :=
  match skipGap cs with
  | '\x7d' :: rest => some (.table [], rest)
  | _ => do
    let (pairs, rest) ← tablePairs? item cs.length cs
    match assignPairs [] pairs with
    | .ok entries => pure (.table (entryData entries), rest)
    | .error _ => none

/-- A value, with so many levels of nesting left. -/
def value? : (levels : Nat) → List Char → Option (Datum × List Char)
  | 0, cs => plainValue? cs
  | levels + 1, cs =>
    match cs with
    | '[' :: rest =>
      (listItems? (value? levels) (rest.length + 1) rest).map fun (items, rest) =>
        (.list items, rest)
    | '\x7b' :: rest => inlineTable? (value? levels) rest
    | cs => plainValue? cs
where
  /-- A value that holds no others. -/
  plainValue? (cs : List Char) : Option (Datum × List Char) :=
    match quotedText? cs with
    | some (text, rest) => some (.text (String.ofList text), rest)
    | none => scalar? cs

/-- A statement of a document. -/
inductive Statement where
  | table (path : List String) (name : String)
  | element (path : List String) (name : String)
  | pair (pair : Pair)

/-- The statement at the start of a line, and what follows its end. -/
def statement? : List Char → Option (Statement × List Char)
  | '[' :: '[' :: rest => do
    let (path, name, rest) ← path? rest
    match rest with
    | ']' :: ']' :: rest => (finished? rest).map fun rest => (.element path name, rest)
    | _ => none
  | '[' :: rest => do
    let (path, name, rest) ← path? rest
    match rest with
    | ']' :: rest => (finished? rest).map fun rest => (.table path name, rest)
    | _ => none
  | cs => do
    let (pair, rest) ← pair? (value? (nestingLimit - 1)) cs
    (finished? rest).map fun rest => (.pair pair, rest)

end Toml

end Colloquy
