import Colloquy.Disk
import Colloquy.Environment
import Colloquy.Logging.Filter
import Colloquy.Settings.Schema

/-!
# Setting up the Log

What the settings and the environment together say about logging: which events, in which form, and
where to. A variable wins over a setting, with two exceptions. A variable for the form that names
no form is passed over, and so is one for the filter that is not right as a whole; but a variable
for the destination always wins, right or wrong. A directive of which a word would be cut within a
character is never passed over, and no program can go on with one.

The log file is made, with its directory, when the log is set up, and only if lines are to go
there. Everything that can be wrong is found out in a fixed order: the filter, the form, the
destination, and the file.

## Main definitions

* `LogFault`: Why a log cannot be set up.
* `logFilePath?`: The path of the log file.
* `LogForm`, `LogTargets`: The form and the destinations of lines.
* `LogSetup`: A log that is set up.
* `LogSetup.prepare`: The log that settings and environment ask for.
-/

namespace Colloquy

/-- Why a log cannot be set up. -/
inductive LogFault where
  | directive (fault : DirectiveFault)
  | variableDirective (fault : DirectiveFault)
  | form (text : String)
  | output (text : String)
  | noDirectory
  | directory (fault : Disk.Fault)
  | file (path : String) (fault : Disk.Fault)
  deriving DecidableEq, Repr

/-- Whether a fault ends a run of the program, which can do without a log otherwise. -/
def LogFault.endsRun : LogFault → Bool
  | .directive .torn | .variableDirective .torn => true
  | _ => false

/-- What is said about a log that cannot be set up. -/
def LogFault.message : LogFault → String
  | .directive fault => "Invalid log directive: " ++ fault.message
  | .variableDirective fault => "Invalid log directive from env: " ++ fault.message
  | .form text => "Invalid log format: " ++ text ++ " (must be 'json' or 'text')"
  | .output text =>
    "Invalid log output: " ++ text ++
      " (must be 'stdout', 'stderr', 'file', 'file+stderr', or 'both')"
  | .noDirectory => "Could not determine platform state directory for log file"
  | .directory fault => "Failed to create log directory: " ++ fault.message
  | .file path fault => "Failed to open log file " ++ quoted path ++ ": " ++ fault.message

/-- The path of the log file: the first that is given and not empty of a flag, a variable and a
    setting, or else one in the user's directory. -/
def logFilePath? (environment : Environment) (flag setting : Option String) : Option String :=
  let given := [flag, environment.value? "PARLANCE_LOG_FILE", setting].filterMap id
  match given.find? (!·.isEmpty) with
  | some path => some path
  | none => environment.stateDirectory?.map fun directory => Path.join directory "parlance.log"

/-- The form of log lines. -/
inductive LogForm where
  | text
  | json
  deriving DecidableEq, Repr

/-- The form that a word names. -/
def LogForm.ofText? (word : String) : Option LogForm :=
  if word = "json" then some .json else if word = "text" then some .text else none

/-- Where log lines go. -/
structure LogTargets where
  stdout : Bool
  stderr : Bool
  file : Bool
  deriving DecidableEq, Repr

/-- The destinations that a word names. -/
def LogTargets.ofText? (word : String) : Option LogTargets :=
  if word = "stdout" then some ⟨true, false, false⟩
  else if word = "stderr" then some ⟨false, true, false⟩
  else if word = "file" then some ⟨false, false, true⟩
  else if word = "file+stderr" then some ⟨false, true, true⟩
  else if word = "both" then some ⟨true, true, false⟩
  else none

/-- A log that is set up: its filter, the form and the destinations of its lines, and the path of
    its file if lines go there. -/
structure LogSetup where
  filter : LogFilter
  form : LogForm
  targets : LogTargets
  path : Option String
  deriving Repr

namespace LogSetup

/-- A log that logs nothing. -/
def silent : LogSetup :=
  { filter := {}, form := .text, targets := ⟨false, false, false⟩, path := none }

/-- A filter with the directives for channels added. -/
def addChannels (fault : DirectiveFault → LogFault) (filter : LogFilter) (texts : List String) :
    Except LogFault LogFilter :=
  texts.foldlM
    (fun filter text => match Directive.ofText text with
      | .ok directive => .ok (filter.add directive)
      | .error reason => .error (fault reason))
    filter

/-- The directives for channels in a variable. Parts without an equals sign mean nothing. -/
def variableTexts (list : String) : List String :=
  (splitAt ',' list.toList).filterMap fun part =>
    (splitOnce? '=' part).map fun (channel, level) =>
      String.ofList (trimBlanks channel ++ '=' :: trimBlanks level)

/-- The filter that the environment asks for by itself, if it is right as a whole. -/
def ownFilter (environment : Environment) : Except LogFault (Option LogFilter) :=
  match (environment.value? "PARLANCE_LOG").map LogFilter.ofList with
  | some (.ok filter) => .ok (some filter)
  | some (.error .torn) => .error (.directive .torn)
  | some (.error _) | none => .ok none

/-- The filter of the level in the settings. -/
def levelFilter (level : String) : Except LogFault LogFilter :=
  if (LogFilter.texts level).any LogFilter.isTorn then .error (.directive .torn)
  else .ok (LogFilter.ofListLeniently level)

/-- The filter that settings and environment ask for. A log that is off does not look at directives,
    right or wrong. -/
def filterFor (environment : Environment) (settings : LogSettings) :
    Except LogFault LogFilter := do
  match ← ownFilter environment with
  | some filter => return filter
  | none =>
    if settings.level = "off" then return LogFilter.addRule {} ⟨none, [], none⟩
    else
      let filter ← levelFilter settings.level
      let filter ← addChannels .directive filter
        (settings.modules.entries.map fun entry => entry.1 ++ "=" ++ entry.2)
      addChannels .variableDirective filter
        (variableTexts ((environment.value? "PARLANCE_LOG_MODULES").getD ""))

/-- What is said about directives that are passed over while a log is set up. -/
def remarks (environment : Environment) (settings : LogSettings) : String :=
  match ownFilter environment with
  | .ok none =>
    if settings.enabled && settings.level ≠ "off" then LogFilter.remarks settings.level else ""
  | _ => ""

/-- The form that settings and environment ask for. -/
def formFor (environment : Environment) (settings : LogSettings) : Except LogFault LogForm :=
  match (environment.value? "PARLANCE_LOG_FORMAT").bind LogForm.ofText? with
  | some form => .ok form
  | none =>
    match LogForm.ofText? settings.format with
    | some form => .ok form
    | none => .error (.form settings.format)

/-- The destinations that settings and environment ask for. -/
def targetsFor (environment : Environment) (settings : LogSettings) :
    Except LogFault LogTargets :=
  let word := (environment.value? "PARLANCE_LOG_OUTPUT").getD settings.output
  match LogTargets.ofText? word with
  | some targets => .ok targets
  | none => .error (.output word)

/-- The disk with an empty log file, unless there is one already, and the directory it needs. -/
def makeFile (disk : Disk) (path : String) : Except LogFault Unit × Disk :=
  match Path.parent? path with
  | none => openFile disk
  | some parent =>
    match disk.makeDirectories parent with
    | (.error fault, disk) => (.error (.directory fault), disk)
    | (.ok (), disk) => openFile disk
where
  /-- The file made if it is missing. -/
  openFile (disk : Disk) : Except LogFault Unit × Disk :=
    match disk.touch path with
    | .error fault => (.error (.file path fault), disk)
    | .ok disk => (.ok (), disk)

/-- The filter, the form and the destinations that settings and environment ask for. -/
def planFor (environment : Environment) (settings : LogSettings) : Except LogFault LogSetup := do
  let filter ← filterFor environment settings
  let form ← formFor environment settings
  let targets ← targetsFor environment settings
  if targets.file then
    -- A flag for the file has become a setting by now.
    match logFilePath? environment none settings.file with
    | some path => pure { filter, form, targets, path := some path }
    | none => .error .noDirectory
  else pure { filter, form, targets, path := none }

/-- The log that settings and environment ask for, its file made. -/
def prepare (environment : Environment) (settings : LogSettings) (disk : Disk) :
    Except LogFault LogSetup × Disk :=
  if !settings.enabled then (.ok silent, disk)
  else match planFor environment settings with
    | .error fault => (.error fault, disk)
    | .ok setup =>
      match setup.path with
      | none => (.ok setup, disk)
      | some path =>
        match makeFile disk path with
        | (.error fault, disk) => (.error fault, disk)
        | (.ok (), disk) => (.ok setup, disk)

end LogSetup

end Colloquy
