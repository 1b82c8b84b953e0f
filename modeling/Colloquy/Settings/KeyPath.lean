import Colloquy.Settings.Value
import Colloquy.Number.Literal
import Colloquy.Text.Lowercase
import Colloquy.Text.Split

/-!
# Laying Settings over Settings

Settings come from several sources, and a later source is laid over the earlier ones entry by
entry. A table is merged into what is there; anything else replaces it. Names are compared in
lower case and kept that way, so that a file, whose author chooses the case, and an environment
variable, whose author cannot, mean the same setting.

The outermost names of a source may be paths into the settings: names joined by dots, and
positions in lists between brackets. A name that is no path stands for itself. Whatever lies
across a path is replaced by the table or list that the path needs.

A source is a table, and so its entries come in no particular order. Here they are laid over the
settings in the order of the list. This matters only where two entries of one source have a say
about the same place, by names that differ in case or by a path beside an entry, and which of them
counts is then left open: what is said about settings holds for every order of the entries.

## Main definitions

* `KeyPath`: The steps of a path into settings.
* `KeyPath.ofText`: The path that an outermost name is.
* `mergeEntry`: A table with one entry laid over it.
* `Value.assign`: Settings with a value laid over a place.
* `Value.overlay`: Settings with a whole source laid over them.
-/

namespace Colloquy

/-- One step into settings. -/
inductive KeyStep where
  | name (name : String)
  | position (position : Int)
  deriving DecidableEq, Repr

/-- The steps of a path into settings, outermost first. -/
abbrev KeyPath := List KeyStep

namespace KeyPath

/-- The characters of names in a path. -/
def isNameChar (c : Char) : Bool :=
  c.isAlphanum || c = ' ' || c = '_' || c = '-'

/-- The position that the text between two brackets gives. Blanks around it do not count. A minus
    may stand in front of it, but no plus. -/
def position? (cs : List Char) : Option Int :=
  let isGap := fun c : Char => c = ' ' || c = '\t'
  let digits := ((cs.dropWhile isGap).reverse.dropWhile isGap).reverse
  if digits.head? = some '+' then none else Literal.integer? digits

/-- The steps that follow a first name, or nothing if the text is not made of steps. -/
def steps? : List Char → Option KeyPath
  | [] => some []
  | '.' :: rest =>
    let name := rest.takeWhile isNameChar
    if name.isEmpty then none
    else (steps? (rest.dropWhile isNameChar)).map (.name (String.ofList name) :: ·)
  | '[' :: rest =>
    match _h : rest.dropWhile (· ≠ ']') with
    | _ :: after =>
      (position? (rest.takeWhile (· ≠ ']'))).bind fun position =>
        (steps? after).map (.position position :: ·)
    | [] => none
  | _ => none
termination_by cs => cs.length
decreasing_by
  · have := length_dropWhile_le isNameChar rest
    simp
    omega
  · have := length_dropWhile_le (· ≠ ']') rest
    rw [_h] at this
    simp at this ⊢
    omega

/-- The path that an outermost name is. -/
def ofText (name : String) : KeyPath :=
  let first := name.toList.takeWhile isNameChar
  match if first.isEmpty then none else steps? (name.toList.dropWhile isNameChar) with
  | some rest => .name (String.ofList first) :: rest
  | none => [.name name]

end KeyPath

mutual

/-- A table with one entry laid over it. An empty table changes nothing where a value is. -/
def mergeEntry (name : String) (value : Value) (entries : List (String × Value)) :
    List (String × Value) :=
  match value with
  | .table incoming =>
    match entryAt? entries (lowercase name) with
    | some present =>
      -- What is there and is no table gives way, but only to a table with entries.
      if incoming.isEmpty then entries
      else putEntry entries (lowercase name) (.table (mergeEntries incoming present.entries))
    | none => putEntry entries (lowercase name) (.table (mergeEntries incoming []))
  | _ => putEntry entries (lowercase name) value

/-- A table with several entries laid over it, one after the other. -/
def mergeEntries (incoming : List (String × Value)) (entries : List (String × Value)) :
    List (String × Value) :=
  match incoming with
  | [] => entries
  | (name, value) :: rest => mergeEntries rest (mergeEntry name value entries)

end

namespace Value

/-- A list made long enough to have a position, and that position counted from its start. A position
    below zero counts from the end. -/
def reaching (items : List Value) (position : Int) : List Value × Nat :=
  let index := if 0 ≤ position then position.toNat else items.length - position.natAbs
  (items ++ List.replicate (index + 1 - items.length) .nothing, index)

/-- Settings with a value laid over the place that a path leads to. -/
def assign : KeyPath → Value → Value → Value
  | [], value, _ => value
  | [.name name], value, target => .table (mergeEntry name value target.entries)
  | .name name :: rest, value, target =>
    let present := (entryAt? target.entries (lowercase name)).getD .nothing
    .table (putEntry target.entries (lowercase name) (assign rest value present))
  | .position position :: rest, value, target =>
    let (items, index) := reaching target.items position
    .list (items.set index (assign rest value (items.getD index .nothing)))

/-- Settings with the entries of a source laid over them. The order of the list is one of the orders
    in which this can be done. -/
def overlay (settings : Value) (source : List (String × Value)) : Value :=
  source.foldl (fun settings entry => assign (KeyPath.ofText entry.1) entry.2 settings) settings

end Value

end Colloquy
