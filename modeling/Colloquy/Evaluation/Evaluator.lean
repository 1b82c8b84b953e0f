import Colloquy.Evaluation.Registry
import Colloquy.Store.Backend

/-!
# Evaluating Templates

The text of a list of nodes, and what evaluating it does to the world. Text stands for itself. An
element is handed to the handler of its name, whose script is carried out; an element without a
handler is reported and then its children are evaluated in its place, so that an unknown name never
spoils an answer. The first error ends the evaluation, and what was done before it stays done.

Evaluation nests: to evaluate an element is one level, whoever asked for it, be it the tree or a
handler that evaluates its own element again. Levels are counted down from a limit. An element
that finds none left is an error, and since every other element passes on one level less than it
was given, the count that remains is also the reason why evaluation ends.

## Main definitions

* `Evaluator`: Handlers, a store, a share log and a limit.
* `Evaluator.perform`: A script carried out, given how to evaluate nodes.
* `Evaluator.node`, `Evaluator.concatenate`: Nodes evaluated in order, given how to evaluate an
  element.
* `Evaluator.element`: An element evaluated with so many levels left.
* `Evaluator.evaluate`: A template evaluated from the top.
-/

namespace Colloquy

/-- What an evaluation needs to know: the handlers, the store, the share log, and how deep elements
    may nest. -/
structure Evaluator where
  registry : Registry
  backend : Backend
  shareLog : ShareLog
  limit : Nat

namespace Evaluator

/-- The channel on which evaluation reports. -/
def channel : String := "parlance::evaluator"

/-- The report of an element without a handler. -/
def unknownEvent (tag : String) (depth : Nat) : Event :=
  { channel := channel, level := .warn, message := "Ignoring unknown element"
    facts := [("tag", .text tag), ("depth", .number depth)] }

/-- The evaluation of a template, as work that events are part of. -/
def work (scope : Scope) : Work :=
  { channel := channel, level := .debug, name := "evaluate"
    facts := [("user_id", scope.user), ("agent_id", scope.agent)] }

/-- A script carried out in a conversation. `evaluate` evaluates nodes one level further down. -/
def perform (evaluator : Evaluator) (scope : Scope)
    (evaluate : List Node → World → Except EvalError String × World) :
    Script → World → Except EvalError String × World
  | .finish text, world => (.ok text, world)
  | .fail error, world => (.error error, world)
  | .evaluate nodes next, world =>
    let (result, world) := evaluate nodes world
    perform evaluator scope evaluate (next result) world
  | .load name next, world =>
    let (result, world) := evaluator.backend.load scope name world
    perform evaluator scope evaluate (next result) world
  | .save name value next, world =>
    let (result, world) := evaluator.backend.save scope name value world
    perform evaluator scope evaluate (next result) world
  | .share text next, world =>
    let (result, world) := evaluator.shareLog.record scope text world
    perform evaluator scope evaluate (next result) world
  | .report event next, world => perform evaluator scope evaluate next (world.report event)

/-- The text of one node, given how to evaluate an element. -/
def node (element : Element → World → Except EvalError String × World) :
    Node → World → Except EvalError String × World
  | .text content, world => (.ok content, world)
  | .leaf tag, world => element ⟨tag, none⟩ world
  | .container tag children, world => element ⟨tag, some children⟩ world

/-- The texts of nodes one after the other, up to the first error. -/
def concatenate (element : Element → World → Except EvalError String × World) :
    List Node → World → Except EvalError String × World
  | [], world => (.ok "", world)
  | first :: rest, world =>
    match node element first world with
    | (.error error, world) => (.error error, world)
    | (.ok text, world) =>
      match concatenate element rest world with
      | (.ok more, world) => (.ok (text ++ more), world)
      | (.error error, world) => (.error error, world)

/-- An element carried out by its handler, or by evaluating its children if it has none. `depth`
    counts the elements being evaluated, this one included. -/
def dispatch (evaluator : Evaluator) (scope : Scope) (depth : Nat)
    (evaluate : List Node → World → Except EvalError String × World)
    (element : Element) (world : World) : Except EvalError String × World :=
  match evaluator.registry.lookup element.tag.name with
  | some handler =>
    match handler.policy.check element with
    -- The content is looked at before anything is evaluated.
    | .error error => (.error error, world)
    | .ok () =>
      evaluator.perform scope evaluate
        (handler.script ⟨scope, depth, evaluator.registry.names⟩ element) world
  -- An unknown element is transparent, but it takes up a level like any other.
  | none => evaluate element.children (world.report (unknownEvent element.tag.name depth))

/-- An element evaluated with `levels` left, this one's own included. -/
def element (evaluator : Evaluator) (scope : Scope) :
    (levels : Nat) → Element → World → Except EvalError String × World
  | 0, element, world => (.error (.depthExceeded element.tag.name evaluator.limit), world)
  | levels + 1, element, world =>
    evaluator.dispatch scope (evaluator.limit - levels)
      (concatenate (evaluator.element scope levels)) element world

/-- Nodes evaluated with `levels` left. -/
def nodes (evaluator : Evaluator) (scope : Scope) (levels : Nat) (nodes : List Node)
    (world : World) : Except EvalError String × World :=
  concatenate (evaluator.element scope levels) nodes world

/-- A template evaluated in a conversation, with all levels left. What is reported on the way is
    part of this evaluation. -/
def evaluate (evaluator : Evaluator) (scope : Scope) (template : List Node) (world : World) :
    Except EvalError String × World :=
  let (result, after) := evaluator.nodes scope evaluator.limit template world
  (result, after.during (work scope) world.events.length)

end Evaluator

end Colloquy
