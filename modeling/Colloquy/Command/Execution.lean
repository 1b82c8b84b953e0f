import Colloquy.Command.Grid
import Colloquy.Command.Invocation
import Colloquy.Installation
import Colloquy.Text.Json

/-!
# Carrying out Commands

What a command answers, and what it does to the world. The answer is one text without a line end. To
answer a template for an agent that is not configured is unusual enough to be reported, but nothing
keeps it from being done.

## Main definitions

* `Installation.execute`: The answer to a command.
* `executeOnce`: The answer to a command by a new installation.
-/

namespace Colloquy

namespace Command

/-- The channel on which commands report. -/
def channel : String := "parlance::tooling::cli"

/-- The report of a template answered for an agent that is not configured. -/
def unconfiguredEvent (agent : String) (failure : Failure) : Event :=
  { channel := channel, level := .warn, message := "Evaluating for an unconfigured agent"
    facts := [("agent_id", .text agent), ("error", .text failure.message)] }

/-- The report of a predicate that a command has set. -/
def setEvent (scope : Scope) (name : String) : Event :=
  { channel := channel, level := .info, message := "Predicate set from CLI"
    facts := [("predicate", .text name), ("user_id", .text scope.user),
      ("agent_id", .text scope.agent)] }

/-- The template that a command gives, in place or in a file. -/
def source (disk : Disk) (template file : Option String) : Except Failure String :=
  match template, file with
  | some template, _ => .ok template
  | none, some path =>
    match disk.readText path with
    | .ok text => .ok text
    | .error fault => .error (.configuration (.unreadableTemplate path fault))
  | none, none => .error (.configuration .noTemplate)

/-- Predicates in a form. -/
def listing (scope : Scope) (form : ListForm) (predicates : Predicates) : Except Failure String :=
  if form = "json" then
    .ok (Json.object
      [("agent_id", .text scope.agent),
        ("predicates", .object (predicates.entries.map fun entry => (entry.1, .text entry.2))),
        ("user_id", .text scope.user)]).indented
  else if form = "text" then
    .ok (Grid.draw ["Predicate", "Value"]
      (predicates.entries.map fun entry => [entry.1, entry.2]))
  else .error (.configuration (.listForm form))

end Command

namespace Installation

/-- The answer to the template of a command. -/
def executeRespond (installation : Installation) (scope : Scope) (template file : Option String)
    (world : World) : Except Failure String × World :=
  match Command.source world.disk template file with
  | .error failure => (.error failure, world)
  | .ok source =>
    match installation.agent? scope.agent with
    | .ok _ => installation.respond scope source world
    | .error failure =>
      installation.respond scope source
        (world.report (Command.unconfiguredEvent scope.agent failure))

/-- The answer to a command. -/
def execute (installation : Installation) (command : Command) (world : World) :
    Except Failure String × World :=
  match command with
  | .respond scope template file => installation.executeRespond scope template file world
  | .getPredicate scope name =>
    match installation.backend.load scope name world with
    | (.ok (some value), world) => (.ok value, world)
    | (.ok none, world) => (.ok (name ++ " is not set"), world)
    | (.error error, world) => (.error (.store error), world)
  | .setPredicate scope name value =>
    match installation.backend.save scope name value world with
    | (.ok (), world) => (.ok (name ++ "=" ++ value), world.report (Command.setEvent scope name))
    | (.error error, world) => (.error (.store error), world)
  | .listPredicates scope form =>
    match installation.backend.predicates scope world with
    | (.ok predicates, world) => (Command.listing scope form predicates, world)
    | (.error error, world) => (.error (.store error), world)
  | .countUsers agent =>
    match installation.backend.userCount agent world with
    | .ok count => (.ok (toString count), world)
    | .error error => (.error (.store error), world)
  | .listElements => (.ok ("\n".intercalate installation.evaluator.registry.names), world)

end Installation

/-- The answer to a command by a new installation with predicates in files. -/
def executeOnce (settings : Settings) (command : Command) (world : World) :
    Except Failure String × World :=
  match Installation.assemble settings world with
  | (.error failure, world) => (.error failure, world)
  | (.ok installation, world) => installation.execute command world

end Colloquy
