import Colloquy.Evaluation.Evaluator
import Colloquy.Evaluation.Standard
import Colloquy.Failure

/-!
# Installations

The program put together from its settings: the agents, the store and the evaluator with the
standard handlers. Everything that settings can get wrong is reported while an installation is
assembled, before it is asked anything: first unusable values, then a suffix that no file name can
have, then an agent without an id.

An answer is a template read and evaluated. The limit on nesting is the same for both, so a template
that nests too deep is refused before anything in it is evaluated, and it is refused with the error
that evaluating it would have ended in.

## Main definitions

* `Installation`: Agents and an evaluator.
* `Installation.assembleWith`, `Installation.assemble`: The installation of settings, around a
  store or with files.
* `Installation.evaluate`, `Installation.respond`: The answer to a template.
* `Installation.agent?`, `Installation.property?`: What is known about an agent.
-/

namespace Colloquy

/-- The agents that are configured, with their properties, and what evaluates templates for them. -/
structure Installation where
  agents : Dictionary (Dictionary String)
  evaluator : Evaluator

namespace Installation

/-- The channel on which assembling is reported. -/
def channel : String := "parlance::runtime"

/-- The report of an installation that was assembled. -/
def assembledEvent (handlers agents maxDepth : Nat) : Event :=
  { channel := channel, level := .info, message := "Runtime assembled"
    facts := [("handlers", .number handlers), ("agents", .number agents),
      ("max_depth", .number maxDepth)] }

/-- The store that an installation keeps predicates in. -/
def backend (installation : Installation) : Backend := installation.evaluator.backend

/-- The value of a property of an agent, where both are known. -/
def property? (agents : Dictionary (Dictionary String)) : Properties := fun agent name =>
  (agents.get? agent).bind (·.get? name)

/-- The agents that settings name. -/
def agentsOf (settings : Settings) : Except Failure (Dictionary (Dictionary String)) :=
  if settings.agents.contains "" then .error (.configuration .emptyAgent) else .ok settings.agents

/-- Nothing, if settings are usable. -/
def check (settings : Settings) : Except Failure Unit :=
  match settings.check with
  | .ok () => .ok ()
  | .error fault => .error (.configuration (.settings fault))

/-- The parts of the installation of settings around a store. -/
def ofSettings (settings : Settings) (backend : Backend) : Except Failure Installation := do
  check settings
  let agents ← agentsOf settings
  match Standard.registry (property? agents) settings.emptyDefault with
  | .error error => .error (.configuration (.registry error))
  | .ok registry =>
    .ok ⟨agents, { registry, backend, shareLog := settings.shareLog, limit := settings.maxDepth }⟩

/-- The installation of settings around a store, and its report. -/
def assembleWith (settings : Settings) (backend : Backend) (world : World) :
    Except Failure Installation × World :=
  match ofSettings settings backend with
  | .error failure => (.error failure, world)
  | .ok installation =>
    (.ok installation,
      world.report (assembledEvent installation.evaluator.registry.size installation.agents.size
        settings.maxDepth))

/-- The store of settings that keep predicates in files. -/
def filesOf (settings : Settings) : Except Failure Backend := do
  check settings
  match FlatFile.open? settings.baseDir settings.suffix with
  | .ok store => .ok (.files store)
  | .error error => .error (.store error)

/-- The installation of settings, with predicates in files. -/
def assemble (settings : Settings) (world : World) : Except Failure Installation × World :=
  match filesOf settings with
  | .error failure => (.error failure, world)
  | .ok backend => assembleWith settings backend world

/-- The properties of an agent. -/
def agent? (installation : Installation) (agent : String) : Except Failure (Dictionary String) :=
  match installation.agents.get? agent with
  | some properties => .ok properties
  | none => .error (.configuration (.unknownAgent agent))

/-- The answer to a template that has been read. -/
def evaluate (installation : Installation) (scope : Scope) (template : List Node) (world : World) :
    Except Failure String × World :=
  match installation.evaluator.evaluate scope template world with
  | (.ok text, world) => (.ok text, world)
  | (.error error, world) => (.error (.evaluation error), world)

/-- The failure of a template that cannot be read. -/
def unreadable (error : ParseError) : Failure :=
  match error.fault with
  | .tooDeep tag limit => .evaluation (.depthExceeded tag limit)
  | _ => .template error

/-- The answer to a template. -/
def respond (installation : Installation) (scope : Scope) (source : String) (world : World) :
    Except Failure String × World :=
  match parseTemplate source installation.evaluator.limit with
  | .error error => (.error (unreadable error), world)
  | .ok template => installation.evaluate scope template world

end Installation

end Colloquy
