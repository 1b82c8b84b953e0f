import Colloquy.Number.Literal
import Colloquy.Settings.Schema
import Colloquy.Settings.Value
import Colloquy.Text.Lowercase

/-!
# Reading Settings from Values

How values become settings. Settings are grouped in sections. A section is a table, whose entries
are found by name, or a list, whose items come in the order in which the section names its
settings. What a section does not say keeps its default; what it says beyond its settings is
ignored.

Sources differ in what they let a value stand for. A structured source knows its kinds, so a truth
value is nothing else. Files and variables are written by hand, and there a text that spells a
number is as good as the number. The difference is in one record, `Reading`, and nowhere else.

## Main definitions

* `Reading`: What values may stand for.
* `Reading.strict`, `Reading.lenient`: The two ways of reading.
* `Settings.ofValue?`: The settings that a value describes.
-/

namespace Colloquy

/-- What values may stand for. -/
structure Reading where
  boolean? : Value → Option Bool
  natural? : Value → Option Nat
  text? : Value → Option String
  /-- Whether a list may have more items than its section has settings. -/
  allowsSurplus : Bool

namespace Reading

/-- The words for the two truth values. -/
def truthWord? (word : String) : Option Bool :=
  if word = "true" ∨ word = "on" ∨ word = "yes" then some true
  else if word = "false" ∨ word = "off" ∨ word = "no" then some false
  else none

/-- A whole number from zero to the greatest of sixty-four bits. -/
def natural64? (n : Int) : Option Nat :=
  if 0 ≤ n ∧ n < (Nat.pow 2 64 : Nat) then some n.toNat else none

/-- A whole number written in text, with a plus sign or none. -/
def writtenNatural? (cs : List Char) : Option Nat :=
  let digits := match cs with
    | '+' :: rest => rest
    | _ => cs
  if digits.isEmpty || !digits.all Char.isDigit then none
  else natural64? (Literal.digitsValue digits)

/-- Every value stands for its own kind alone. -/
def strict : Reading where
  boolean?
    | .boolean value => some value
    | _ => none
  natural?
    | .integer value => natural64? value
    | _ => none
  text?
    | .text value => some value
    | _ => none
  allowsSurplus := false

/-- Truth values, numbers and texts stand for each other where one can be read as the other. -/
def lenient : Reading where
  boolean?
    | .boolean value => some value
    | .integer value => some (value ≠ 0)
    | .fraction value => some !value.isZero
    | .text value =>
      if value = "1" then some true
      else if value = "0" then some false
      else truthWord? (lowercase value)
    | _ => none
  natural?
    | .boolean value => some value.toNat
    | .integer value => natural64? value
    | .fraction value => some value.nearestNat
    -- A word for a truth value counts as one or zero here too.
    | .text value =>
      match truthWord? (lowercase value) with
      | some truth => some truth.toNat
      | none => writtenNatural? value.toList
    | _ => none
  text?
    | .boolean value => some (if value then "true" else "false")
    | .integer value => some (toString value)
    | .fraction value => some value.text
    | .text value => some value
    | _ => none
  allowsSurplus := true

/-- The values of a section by the names of its settings, or nothing if a value is no section. -/
def section? (reading : Reading) (names : List String) : Value → Option (String → Option Value)
  | .table entries => some (entryAt? entries)
  | .list items =>
    if names.length < items.length && !reading.allowsSurplus then none
    else some fun name => (names.idxOf? name).bind (items[·]?)
  | _ => none

/-- A setting of a section: its default, if the section does not say. -/
def setting? {α : Type} (values : String → Option Value) (name : String) (default : α)
    (read : Value → Option α) : Option α :=
  match values name with
  | some value => read value
  | none => some default

/-- A dictionary, which only a table can be. -/
def dictionary? {α : Type} (read : Value → Option α) : Value → Option (Dictionary α)
  | .table entries =>
    (entries.mapM fun entry => (read entry.2).map fun value => (entry.1, value)).map
      Dictionary.ofList
  | _ => none

/-- A text that may be left out. -/
def optionalText? (reading : Reading) : Value → Option (Option String)
  | .nothing => some none
  | value => (reading.text? value).map some

/-- The settings of the log. -/
def logging? (reading : Reading) (value : Value) : Option LogSettings := do
  let values ← reading.section?
    ["enabled", "level", "format", "output", "file", "color", "modules"] value
  let initial : LogSettings := {}
  let enabled ← setting? values "enabled" initial.enabled reading.boolean?
  let level ← setting? values "level" initial.level reading.text?
  let format ← setting? values "format" initial.format reading.text?
  let output ← setting? values "output" initial.output reading.text?
  let file ← setting? values "file" initial.file reading.optionalText?
  let color ← setting? values "color" initial.color reading.boolean?
  let modules ← setting? values "modules" initial.modules (dictionary? reading.text?)
  pure { enabled, level, format, output, file, color, modules }

/-- The settings of the share log. -/
def shareLog? (reading : Reading) (value : Value) : Option ShareLog := do
  let values ← reading.section? ["xml_enabled", "xml_path", "xml_root", "plain_path"] value
  let initial : ShareLog := {}
  let documentEnabled ← setting? values "xml_enabled" initial.documentEnabled reading.boolean?
  let documentPath ← setting? values "xml_path" initial.documentPath reading.text?
  let root ← setting? values "xml_root" initial.root reading.text?
  let plainPath ← setting? values "plain_path" initial.plainPath reading.text?
  pure { documentEnabled, documentPath, root, plainPath }

/-- The base directory and the suffix of a store. -/
def store? (reading : Reading) (value : Value) : Option (String × String) := do
  let values ← reading.section? ["base_dir", "suffix"] value
  let initial : Settings := {}
  let baseDir ← setting? values "base_dir" initial.baseDir reading.text?
  let suffix ← setting? values "suffix" initial.suffix reading.text?
  pure (baseDir, suffix)

/-- A section with one setting. -/
def single? {α : Type} (reading : Reading) (name : String) (default : α)
    (read : Value → Option α) (value : Value) : Option α := do
  let values ← reading.section? [name] value
  setting? values name default read

/-- The properties of an agent. -/
def agent? (reading : Reading) (value : Value) : Option (Dictionary String) :=
  reading.single? "properties" ∅ (dictionary? reading.text?) value

end Reading

/-- The settings that a value describes, whether they are usable or not. -/
def Settings.ofValue? (reading : Reading) (value : Value) : Option Settings := do
  let values ← reading.section?
    ["store", "evaluator", "predicates", "gossip", "logging", "agents"] value
  let initial : Settings := {}
  let (baseDir, suffix) ←
    Reading.setting? values "store" (initial.baseDir, initial.suffix) reading.store?
  let maxDepth ← Reading.setting? values "evaluator" initial.maxDepth
    (reading.single? "max_depth" initial.maxDepth reading.natural?)
  let emptyDefault ← Reading.setting? values "predicates" initial.emptyDefault
    (reading.single? "empty_default" initial.emptyDefault reading.text?)
  let shareLog ← Reading.setting? values "gossip" initial.shareLog reading.shareLog?
  let logging ← Reading.setting? values "logging" initial.logging reading.logging?
  let agents ← Reading.setting? values "agents" initial.agents
    (Reading.dictionary? reading.agent?)
  pure { baseDir, suffix, maxDepth, emptyDefault, shareLog, logging, agents }

end Colloquy
