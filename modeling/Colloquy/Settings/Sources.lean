import Colloquy.Disk
import Colloquy.Environment
import Colloquy.Settings.Decode
import Colloquy.Settings.KeyPath
import Colloquy.Toml.Document

/-!
# Sources of Settings

Where settings come from and which source wins. Without a named file there is a file of the user
and one in the directory where the program is started, each of which may be missing; a named file
has to be there and is the only one. Variables are laid over files.

A variable sets what its name says behind the program's prefix, with two underscores between the
names of tables, and in any case. Its text is read as a truth value, a whole number or a fraction
if it is one.

## Main definitions

* `LoadError`: Why settings could not be loaded.
* `Settings.readFile`: The entries of a settings file.
* `Settings.variableEntries`: The entries that variables make.
* `Settings.load`, `Settings.loadFile`: Settings from all their sources.
-/

namespace Colloquy

/-- Why settings could not be loaded. -/
inductive LoadError where
  | notFound (path : String)
  | unreadable (path : String)
  | malformed (path : String) (fault : TomlFault)
  | mistyped
  | unusable (fault : SettingsFault)
  deriving DecidableEq, Repr

/-- What is said about settings that could not be loaded. -/
def LoadError.message : LoadError → String
  | .notFound path => "configuration property " ++ quoted path ++ " not found"
  | .unreadable path => "configuration file " ++ quoted path ++ " not found"
  | .malformed path fault => fault.message ++ " in " ++ path
  | .mistyped => "invalid type of a setting"
  | .unusable fault => fault.message

namespace Settings

/-- The paths of a file that may be meant by a path: the path itself, or with an ending added. -/
def candidates (path : String) : List String :=
  [path, Path.withEnding path ".toml"]

/-- The entries of the settings file at a path, or nothing if there is no file. -/
def readFile (disk : Disk) (path : String) : Except LoadError (Option (List (String × Value))) :=
  -- A directory of that name is passed over like a file that is missing.
  match (candidates path).find? disk.isFile with
  | none => .ok none
  | some path =>
    match disk.readText path with
    | .error _ => .error (.unreadable path)
    | .ok text =>
      match Toml.read text with
      | .error fault => .error (.malformed path fault)
      | .ok entries => .ok (some entries)

/-- The entries of a settings file that may be missing. A file that cannot be read, or is no text,
    is as good as missing. -/
def readOptional (disk : Disk) (path : String) :
    Except LoadError (Option (List (String × Value))) :=
  match readFile disk path with
  | .error (.unreadable _) => .ok none
  | result => result

/-- What the name of a variable has to start with to be a setting, in lower case. -/
def variableStart : List Char := "parlance__".toList

/-- A name with dots in place of two underscores in a row. -/
def withDots : List Char → List Char
  | '_' :: '_' :: rest => '.' :: withDots rest
  | c :: rest => c :: withDots rest
  | [] => []

/-- The value that the text of a variable is. -/
def variableValue (text : String) : Value :=
  let word := lowercase text
  if word = "true" then .boolean true
  else if word = "false" then .boolean false
  else match Literal.integer? text.toList with
    | some n => .integer n
    | none =>
      match Literal.fraction? text.toList with
      | some n => .fraction n
      | none => .text text

/-- The entry that a variable makes, if it is a setting. -/
def variableEntry? (setting : String × String) : Option (String × Value) :=
  let name := (lowercase setting.1).toList
  if variableStart.isPrefixOf name then
    some (String.ofList (withDots (name.drop variableStart.length)), variableValue setting.2)
  else none

/-- The entries that variables make. -/
def variableEntries (environment : Environment) : List (String × Value) :=
  environment.filterMap variableEntry?

/-- Settings from the entries of sources, the last of which wins. -/
def ofSources (sources : List (List (String × Value))) : Except LoadError Settings :=
  match Settings.ofValue? .lenient (sources.foldl Value.overlay (.table [])) with
  | none => .error .mistyped
  | some settings =>
    match settings.check with
    | .error fault => .error (.unusable fault)
    | .ok () => .ok settings

/-- Settings from a named file and from variables. -/
def loadFile (disk : Disk) (environment : Environment) (path : String) :
    Except LoadError Settings :=
  if !disk.holds path then .error (.notFound path)
  else
    match readFile disk path with
    | .error error => .error error
    | .ok none => .error (.unreadable path)
    | .ok (some entries) => ofSources [entries, variableEntries environment]

/-- The settings files that are read where none is named, of which a later one wins. -/
def standardPaths (environment : Environment) : List String :=
  (environment.configDirectory?.map fun directory => Path.join directory "config.toml").toList ++
    ["parlance.toml"]

/-- Settings from the standard files and from variables. -/
def load (disk : Disk) (environment : Environment) : Except LoadError Settings :=
  match (standardPaths environment).mapM (readOptional disk) with
  | .error error => .error error
  | .ok files =>
    ofSources (files.filterMap id ++ [variableEntries environment])

end Settings

end Colloquy
