import Colloquy.Evaluation.Registry

/-!
# Re-entrant Handlers

Handlers that exercise what a script may ask for beyond what the standard ones do: evaluating their
own element again, their children twice or only in part, carrying on after an error, and reporting
where they run. They are the hard cases for the evaluator's count of levels.

## Main definitions

* `Reentrant.again`, `Reentrant.twice`, `Reentrant.first`: Evaluation repeated or cut short.
* `Reentrant.attempt`: Errors turned into text.
* `Reentrant.strict`: A content policy applied from within.
* `Reentrant.ofName`: The handler of each kind by name.
-/

namespace Colloquy

namespace Reentrant

/-- The children between square brackets. -/
def bracket (_ : Surroundings) (element : Element) : Script :=
  .evaluateThen element.children fun text => .finish ("[" ++ text ++ "]")

/-- The element itself, evaluated again. -/
def again (_ : Surroundings) (element : Element) : Script :=
  .evaluateThen [element.toNode] .finish

/-- The children evaluated two times over. -/
def twice (_ : Surroundings) (element : Element) : Script :=
  .evaluateThen element.children fun once =>
    .evaluateThen element.children fun more => .finish (once ++ more)

/-- The number of elements being evaluated. -/
def depth (surroundings : Surroundings) (_ : Element) : Script :=
  .finish (toString surroundings.depth)

/-- The agent of the conversation. -/
def agent (surroundings : Surroundings) (_ : Element) : Script :=
  .finish surroundings.scope.agent

/-- The names that have handlers. -/
def names (surroundings : Surroundings) (_ : Element) : Script :=
  .finish (",".intercalate surroundings.names)

/-- The first child alone. -/
def first (_ : Surroundings) (element : Element) : Script :=
  .evaluateThen (element.children.take 1) .finish

/-- The children of an element that has to have some. -/
def strict (_ : Surroundings) (element : Element) : Script :=
  match ContentPolicy.required.check element with
  | .ok () => .evaluateThen element.children .finish
  | .error error => .fail error

/-- The children, or what is said about the error that ended them. -/
def attempt (_ : Surroundings) (element : Element) : Script :=
  .evaluate element.children fun
    | .ok text => .finish text
    | .error error => .finish ("(" ++ error.message ++ ")")

/-- The script of each kind. Any other name contributes itself. -/
def scriptOf (name : String) : Surroundings → Element → Script :=
  if name = "bracket" then bracket
  else if name = "loop" then again
  else if name = "twice" then twice
  else if name = "depth" then depth
  else if name = "agent" then agent
  else if name = "handlers" then names
  else if name = "first" then first
  else if name = "strict" then strict
  else if name = "try" then attempt
  else fun _ _ => .finish name

/-- The handler of a name. -/
def ofName (name : String) : Handler where
  name := name
  policy := .either
  script := scriptOf name

end Reentrant

end Colloquy
