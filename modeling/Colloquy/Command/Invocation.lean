import Colloquy.Command.Usage
import Colloquy.Scope
import Colloquy.Settings.Schema

/-!
# Invocations

What the program can be asked on its command line: to answer a template, to show or change
predicates, to count users, to list the elements that have handlers. In front of the command,
options choose the settings file and change the settings of the log for one run.

## Main definitions

* `Command`: What the program is asked to do.
* `Invocation`: A command with the options in front of it.
* `Invocation.shape`: The command lines that there are.
* `Invocation.ofArguments`: The invocation that arguments are.
* `Invocation.applyTo`: Settings with the options for the log in place.
-/

namespace Colloquy

/-- How predicates are listed: a word that names a form, or any other, which is refused only when
    there is something to list. -/
abbrev ListForm := String

/-- What the program is asked to do. -/
inductive Command where
  | respond (scope : Scope) (template file : Option String)
  | getPredicate (scope : Scope) (name : String)
  | setPredicate (scope : Scope) (name value : String)
  | listPredicates (scope : Scope) (form : ListForm)
  | countUsers (agent : String)
  | listElements
  deriving DecidableEq, Repr

/-- A command with the options in front of it. -/
structure Invocation where
  command : Command
  config : Option String := none
  logLevel : Option String := none
  logFormat : Option String := none
  logOutput : Option String := none
  logFile : Option String := none
  deriving DecidableEq, Repr

namespace Invocation

/-- The options that name a scope. -/
def scopeOptions : List OptionShape :=
  [{ name := "user", isRequired := true }, { name := "agent", isRequired := true }]

/-- The commands about predicates. -/
def predicateShape : CommandShape :=
  .branch "predicate" []
    [.leaf "get" scopeOptions 1 1 [], .leaf "set" scopeOptions 2 2 [],
      .leaf "list" (scopeOptions ++ [{ name := "format" }]) 0 0 []]

/-- The command lines that there are. -/
def shape : CommandShape :=
  .branch "parlance"
    [{ name := "config", isPath := true }, { name := "log-level" }, { name := "log-format" },
      { name := "log-output" }, { name := "log-file", isPath := true }]
    [.leaf "eval" (scopeOptions ++ [{ name := "file", isPath := true }]) 1 0 ["file"],
      predicateShape, .leaf "users" [{ name := "agent", isRequired := true }] 0 0 [],
      .leaf "tags" [] 0 0 []]

/-- The scope that the options of a line name. -/
def scope? (line : CommandLine) : Option Scope := do
  pure ⟨← line.option? "user", ← line.option? "agent"⟩

/-- The command of a line about predicates. -/
def predicateCommand? (line : CommandLine) : Option Command := do
  let scope ← scope? line
  if line.name = "get" then
    pure (.getPredicate scope (← line.word? 0))
  else if line.name = "set" then
    pure (.setPredicate scope (← line.word? 0) (← line.word? 1))
  else pure (.listPredicates scope ((line.option? "format").getD "text"))

/-- The command of a line. A line that has its shape always has one. -/
def command? (line : CommandLine) : Option Command :=
  if line.name = "eval" then
    (scope? line).map fun scope => .respond scope (line.word? 0) (line.option? "file")
  else if line.name = "predicate" then line.subcommand?.bind predicateCommand?
  else if line.name = "users" then (line.option? "agent").map .countUsers
  else some .listElements

/-- The invocation that arguments are. -/
def ofArguments (arguments : List String) : Except UsageError Invocation :=
  match shape.read arguments with
  | .error error => .error error
  | .ok line =>
    match line.subcommand?.bind command? with
    | none => .error .missingArgument
    | some command =>
      .ok
        { command
          config := line.option? "config"
          logLevel := line.option? "log-level"
          logFormat := line.option? "log-format"
          logOutput := line.option? "log-output"
          logFile := line.option? "log-file" }

/-- Settings with the options for the log in place. -/
def applyTo (invocation : Invocation) (settings : Settings) : Settings :=
  let log := settings.logging
  { settings with
    logging :=
      { log with
        level := invocation.logLevel.getD log.level
        format := invocation.logFormat.getD log.format
        output := invocation.logOutput.getD log.output
        file := invocation.logFile <|> log.file } }

end Invocation

end Colloquy
