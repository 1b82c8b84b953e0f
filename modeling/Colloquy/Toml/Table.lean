import Colloquy.Toml.Datum

/-!
# Tables of a TOML Document

How the statements of a document build its tables. A table may be written once. It can be written
under a header, between braces, or come about because a path leads through it; tables of the last
kind may still be added to, and whether they may depends on the kind of path. So a table remembers
how it came about.

* A header may declare a table that so far only other headers led through.
* A path of a header leads through any table that is not written between braces, and through the
  latest element of a list of tables.
* A path in front of a value leads through tables that paths made, and ends in one that such a path
  made or makes.

## Main definitions

* `Toml.Origin`, `Toml.Item`: What a document has under a name while it is being read.
* `Toml.Item.toDatum`: The datum that an item is in the end.
* `Toml.assignPair`: A table with a value at a path.
* `Toml.declareTable`, `Toml.declareElement`: A document with one more table under a header.
-/

namespace Colloquy

namespace Toml

/-- How a table came about: under its own header, because a header leads through it, or because a
    path in front of a value does. -/
inductive Origin where
  | declared
  | passed
  | dotted
  deriving DecidableEq, Repr

/-- What a document has under a name while it is being read. The latest table of a list comes
    first. -/
inductive Item where
  | value (value : Datum)
  | table (origin : Origin) (entries : List (String × Item))
  | tables (latest : List (String × Item)) (earlier : List (List (String × Item)))

/-- The entries of a table while it is being read. -/
abbrev Entries := List (String × Item)

/-- Entries with one of them replaced where it stands, or added at the end. -/
def put : Entries → String → Item → Entries
  | [], name, item => [(name, item)]
  | entry :: rest, name, item =>
    if entry.1 = name then (name, item) :: rest else entry :: put rest name item

mutual

/-- The datum that an item is in the end. -/
def Item.toDatum : Item → Datum
  | .value value => value
  | .table _ entries => .table (entryData entries)
  | .tables latest earlier => .list (tableData earlier [.table (entryData latest)])

/-- The data of entries. -/
def entryData : Entries → List (String × Datum)
  | [] => []
  | (name, item) :: rest => (name, item.toDatum) :: entryData rest

/-- The data of a list of tables, latest first, in front of those already made. -/
def tableData : List Entries → List Datum → List Datum
  | [], made => made
  | entries :: earlier, made => tableData earlier (.table (entryData entries) :: made)

end

/-- A name that was given a meaning twice. -/
structure Clash where
  name : String
  deriving DecidableEq, Repr

/-- A table with a value at a path. `path` holds the names before the last one. -/
def assignPair : (path : List String) → (name : String) → Datum → Entries → Except Clash Entries
  | [], name, value, entries =>
    match entries.lookup name with
    | some _ => .error ⟨name⟩
    | none => .ok (put entries name (.value value))
  | through :: path, name, value, entries =>
    match entries.lookup through with
    | none => do
      let inner ← assignPair path name value []
      pure (put entries through (.table .dotted inner))
    | some (.value _) => .error ⟨through⟩
    | some (.table origin inner) =>
      -- A longer path may lead through what headers passed, but no path may end there.
      if origin = .declared || (path.isEmpty && origin ≠ .dotted) then .error ⟨through⟩
      else do
        let inner ← assignPair path name value inner
        pure (put entries through (.table origin inner))
    | some (.tables latest earlier) =>
      if path.isEmpty then .error ⟨through⟩
      else do
        let latest ← assignPair path name value latest
        pure (put entries through (.tables latest earlier))

/-- A value in front of which a path stands: the names before the last one, and the last one. -/
structure Pair where
  path : List String
  name : String
  value : Datum

/-- A table with the values of pairs. -/
def assignPairs (entries : Entries) (pairs : List Pair) : Except Clash Entries :=
  pairs.foldlM (fun entries pair => assignPair pair.path pair.name pair.value entries) entries

/-- The table at the end of a header's path changed. -/
def along : (path : List String) → (Entries → Except Clash Entries) → Entries →
    Except Clash Entries
  | [], change, entries => change entries
  | through :: path, change, entries =>
    match entries.lookup through with
    | none => do
      let inner ← along path change []
      pure (put entries through (.table .passed inner))
    | some (.value _) => .error ⟨through⟩
    | some (.table origin inner) => do
      let inner ← along path change inner
      pure (put entries through (.table origin inner))
    | some (.tables latest earlier) => do
      let latest ← along path change latest
      pure (put entries through (.tables latest earlier))

/-- A document with a table under a header. A table that so far only other headers led through moves
    behind the entries beside it. -/
def declareTable (path : List String) (name : String) (pairs : List Pair) :
    Entries → Except Clash Entries :=
  along path fun entries =>
    match entries.lookup name with
    | none => do
      let inner ← assignPairs [] pairs
      pure (put entries name (.table .declared inner))
    | some (.table .passed inner) => do
      let inner ← assignPairs inner pairs
      pure (put (entries.filter (·.1 ≠ name)) name (.table .declared inner))
    | some _ => .error ⟨name⟩

/-- A document with one more table in a list of tables under a header. -/
def declareElement (path : List String) (name : String) (pairs : List Pair) :
    Entries → Except Clash Entries :=
  along path fun entries =>
    match entries.lookup name with
    | none => do
      let inner ← assignPairs [] pairs
      pure (put entries name (.tables inner []))
    | some (.tables latest earlier) => do
      let inner ← assignPairs [] pairs
      pure (put entries name (.tables inner (latest :: earlier)))
    | some _ => .error ⟨name⟩

end Toml

end Colloquy
