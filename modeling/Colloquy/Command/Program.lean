import Colloquy.Command.Execution
import Colloquy.Logging.Line

/-!
# The Program

One run of the program from its arguments to its exit code. It loads its settings, sets up its
log, assembles an installation and carries out one command. A log that cannot be set up is, but
for one fault, only worth a warning; anything else that fails ends the run. Whatever ends it is
said on the error output, and from the point where there is a log, in the log too.

A run changes the world and produces text, and nothing else: what is printed is part of its result.

## Main definitions

* `RunResult`: The exit code and the two outputs of a run.
* `Invocation.loadSettings`: The settings of an invocation.
* `run`: A run of the program.
-/

namespace Colloquy

/-- The exit code and the two outputs of a run. -/
structure RunResult where
  exitCode : Nat
  output : String := ""
  errors : String := ""
  deriving DecidableEq, Repr

/-- The settings of an invocation, with its options in place. -/
def Invocation.loadSettings (invocation : Invocation) (environment : Environment) (disk : Disk) :
    Except LoadError Settings :=
  (match invocation.config with
    | some path => Settings.loadFile disk environment path
    | none => Settings.load disk environment).map invocation.applyTo

namespace Run

/-- The channel on which a run itself reports. -/
def channel : String := "parlance"

/-- The report of a failure that ends a run. -/
def failureEvent (message : String) (failure : Failure) : Event :=
  { channel := channel, level := .error, message
    facts := [("error", .text failure.message)] }

/-- What is said about a command line that is wrong. -/
def usageText : String :=
  "Usage: parlance [OPTIONS] <COMMAND>\n\nCommands: eval, predicate, users, tags, help\n"

/-- The result of a command line that is wrong, or that asks for help. -/
def usageResult (error : UsageError) : RunResult :=
  if error = .help then { exitCode := 0, output := usageText }
  else { exitCode := 2, errors := usageText }

/-- The warning about a log that cannot be set up. -/
def logWarning (fault : LogFault) : String :=
  "Warning: logging disabled: " ++ (Failure.configuration (.log fault)).message ++ "\n"

/-- The events of a run and its result, from the point where the log is set up. -/
def conclude (settings : Settings) (command : Command) (world : World) : RunResult × World :=
  match Installation.assemble settings world with
  | (.error failure, world) =>
    ({ exitCode := 1, errors := "Error initializing runtime: " ++ failure.message ++ "\n" },
      world.report (failureEvent "Runtime initialization failed" failure))
  | (.ok installation, world) =>
    match installation.execute command world with
    | (.ok text, world) => ({ exitCode := 0, output := text ++ "\n" }, world)
    | (.error failure, world) =>
      ({ exitCode := 1, errors := "Error: " ++ failure.message ++ "\n" },
        world.report (failureEvent "Command failed" failure))

/-- The lines of a log put where they go. A log file that has become unwritable loses its lines. -/
def writeLog (setup : LogSetup) (lines : String) (result : RunResult) (world : World) :
    RunResult × World :=
  let result :=
    { result with
      output := if setup.targets.stdout then lines ++ result.output else result.output
      errors := if setup.targets.stderr then lines ++ result.errors else result.errors }
  match setup.path with
  | none => (result, world)
  | some path =>
    match world.disk.append path lines.toUTF8 with
    | .ok disk => (result, { world with disk })
    | .error _ => (result, world)

/-- A run with settings and a log. The events of the run alone are logged. -/
def withLog (setup : LogSetup) (settings : Settings) (command : Command) (world : World) :
    RunResult × World :=
  let (result, after) := conclude settings command world
  -- Lines are stamped with the time of the run, which is one for all of them.
  let lines := setup.lines world.now.logText (after.events.drop world.events.length)
  writeLog setup lines result after

/-- A run with settings. -/
def withSettings (environment : Environment) (settings : Settings) (command : Command)
    (world : World) : RunResult × World :=
  let remarks := LogSetup.remarks environment settings.logging
  match LogSetup.prepare environment settings.logging world.disk with
  | (.ok setup, disk) =>
    let (result, world) := withLog setup settings command { world with disk }
    ({ result with errors := remarks ++ result.errors }, world)
  | (.error fault, disk) =>
    if fault.endsRun then
      ({ exitCode := 101, errors := remarks ++ fault.message ++ "\n" }, { world with disk })
    else
      let (result, world) := conclude settings command { world with disk }
      ({ result with errors := remarks ++ logWarning fault ++ result.errors }, world)

end Run

/-- A run of the program. -/
def run (environment : Environment) (arguments : List String) (world : World) :
    RunResult × World :=
  match Invocation.ofArguments arguments with
  | .error error => (Run.usageResult error, world)
  | .ok invocation =>
    match invocation.loadSettings environment world.disk with
    | .error error =>
      ({ exitCode := 1
         errors := "Error loading configuration: " ++
           (Failure.configuration (.load error)).message ++ "\n" }, world)
    | .ok settings => Run.withSettings environment settings invocation.command world

end Colloquy
