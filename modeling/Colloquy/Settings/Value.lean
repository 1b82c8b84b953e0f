import Colloquy.Number.Binary64

/-!
# Setting Values

What a settings file or a variable can say: nothing, a truth value, a number, a text, a list, or a
table of further values. The values of a source are read before anybody knows which settings they
are for, so a setting that wants a number may be given a text and has to decide for itself what to
make of it.

A table is a list of entries. The first entry of a name is the one that counts, and the operations
here never leave a second one behind.

## Main definitions

* `Value`: A value as its source gives it.
* `Value.entries`, `Value.items`: What a value holds as a table or as a list.
* `entryAt?`, `putEntry`: Looking up and replacing an entry of a table.
-/

namespace Colloquy

/-- A value as its source gives it. -/
inductive Value where
  | nothing
  | boolean (value : Bool)
  | integer (value : Int)
  | fraction (value : Binary64)
  | text (value : String)
  | list (items : List Value)
  | table (entries : List (String × Value))
  deriving Repr, Inhabited

/-- The value of a name in a table. -/
def entryAt? (entries : List (String × Value)) (name : String) : Option Value :=
  entries.lookup name

/-- A table with one entry replaced where it stands, or added at the end. -/
def putEntry (entries : List (String × Value)) (name : String) (value : Value) :
    List (String × Value) :=
  match entries with
  | [] => [(name, value)]
  | entry :: rest =>
    if entry.1 = name then (name, value) :: rest else entry :: putEntry rest name value

namespace Value

/-- The entries of a table; any other value has none. -/
def entries : Value → List (String × Value)
  | .table entries => entries
  | _ => []

/-- The items of a list; any other value has none. -/
def items : Value → List Value
  | .list items => items
  | _ => []

end Value

end Colloquy
