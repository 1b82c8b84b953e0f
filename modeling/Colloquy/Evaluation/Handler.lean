import Colloquy.Evaluation.Policy

/-!
# Handlers

A handler says what an element of one name does. It does not do it itself: it is a script of
requests that the evaluator carries out one after the other, each with a continuation for the
answer. So a handler can evaluate nodes, its own element included, as often as it likes, may carry
on after an error, and can reach the predicates of the conversation it runs in. It cannot reach
those of another conversation or tamper with the evaluator's count of how deep it is, because
there is no request for that.

Every script is a well-founded tree, so carrying one out ends as soon as the requests in it do.

## Main definitions

* `Surroundings`: What a handler is told about where it runs.
* `Script`: The requests of a handler.
* `Script.evaluateThen`: Nodes evaluated for their text, where an error ends the script.
* `Handler`: A name, a content policy and a script for every element.
-/

namespace Colloquy

/-- What a handler is told about where it runs: the conversation, how many elements are being
    evaluated, its own included, and which names have handlers. -/
structure Surroundings where
  scope : Scope
  depth : Nat
  names : List String

/-- The requests of a handler, in order, ending in the text it contributes or in an error. -/
inductive Script where
  | finish (text : String)
  | fail (error : EvalError)
  | evaluate (nodes : List Node) (next : Except EvalError String → Script)
  | load (name : String) (next : Except StoreError (Option String) → Script)
  | save (name value : String) (next : Except StoreError Unit → Script)
  | share (text : String) (next : Except ShareLogError Unit → Script)
  | report (event : Event) (next : Script)

namespace Script

/-- Nodes evaluated for their text. -/
def evaluateThen (nodes : List Node) (next : String → Script) : Script :=
  .evaluate nodes fun
    | .ok text => next text
    | .error error => .fail error

/-- A predicate loaded for its value. -/
def loadThen (name : String) (next : Option String → Script) : Script :=
  .load name fun
    | .ok value => next value
    | .error error => .fail (.store error)

/-- A predicate saved. -/
def saveThen (name value : String) (next : Script) : Script :=
  .save name value fun
    | .ok () => next
    | .error error => .fail (.store error)

/-- A text recorded in the share log. -/
def shareThen (text : String) (next : Script) : Script :=
  .share text fun
    | .ok () => next
    | .error error => .fail (.shareLog error)

end Script

/-- What the elements of one name do. -/
structure Handler where
  name : String
  policy : ContentPolicy
  script : Surroundings → Element → Script

end Colloquy
