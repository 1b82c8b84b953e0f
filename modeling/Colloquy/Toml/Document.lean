import Colloquy.Toml.Statement

/-!
# TOML Documents

A document read as a whole: its statements one after the other, grouped by the headers they stand
under, and the tables that they build. A fault is a line that is no statement, a name that is given
a meaning twice, or a table that ought to be a date and is none.

## Main definitions

* `TomlFault`: What is wrong with a document.
* `Toml.statements`: The statements of a text.
* `Toml.build`: The entries that statements make.
* `Toml.read`: The entries of a document.
-/

namespace Colloquy

/-- What is wrong with a document. -/
inductive TomlFault where
  | malformed (line : Nat)
  | repeated (name : String)
  | noTable
  deriving DecidableEq, Repr

/-- What is said about a document that cannot be read. -/
def TomlFault.message : TomlFault → String
  | .malformed line => "TOML parse error at line " ++ toString line
  | .repeated name => "duplicate key: " ++ name
  | .noTable => "invalid datetime or root"

namespace Toml

/-- The number of the line on which what is left of a text starts. -/
def lineNumber (text rest : List Char) : Nat :=
  (text.take (text.length - rest.length)).count '\n' + 1

/-- The statements of a text, of which `whole` is the whole. `fuel` bounds their number. -/
def statements (whole : List Char) : (fuel : Nat) → List Char → Except TomlFault (List Statement)
  | fuel, cs =>
    match skipBetween cs, fuel with
    | [], _ => .ok []
    | rest, 0 => .error (.malformed (lineNumber whole rest))
    | rest, fuel + 1 =>
      match statement? rest with
      | none => .error (.malformed (lineNumber whole rest))
      | some (statement, rest) => do
        let more ← statements whole fuel rest
        pure (statement :: more)

/-- The pairs at the start of a list of statements. -/
def leadingPairs : List Statement → List Pair
  | .pair pair :: rest => pair :: leadingPairs rest
  | _ => []

/-- A document with the tables of statements added. Pairs were taken by the header before them. -/
def addTables : List Statement → Entries → Except Clash Entries
  | [], entries => .ok entries
  | .pair _ :: rest, entries => addTables rest entries
  | .table path name :: rest, entries => do
    addTables rest (← declareTable path name (leadingPairs rest) entries)
  | .element path name :: rest, entries => do
    addTables rest (← declareElement path name (leadingPairs rest) entries)

/-- The entries that statements make. The pairs before the first header belong to the document. -/
def build (statements : List Statement) : Except Clash Entries := do
  addTables statements (← assignPairs [] (leadingPairs statements))

/-- The entries of a document. A byte order mark at its start means nothing. -/
def read (text : String) : Except TomlFault (List (String × Value)) :=
  let cs := match text.toList with
    | '\uFEFF' :: rest => rest
    | cs => cs
  match statements cs cs.length cs with
  | .error fault => .error fault
  | .ok statements =>
    match build statements with
    | .error clash => .error (.repeated clash.name)
    | .ok entries =>
      match (Datum.table (entryData entries)).toValue? with
      | some (.table entries) => .ok entries
      | _ => .error .noTable

end Toml

end Colloquy
