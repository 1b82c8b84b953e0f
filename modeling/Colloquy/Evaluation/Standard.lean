import Colloquy.Evaluation.Registry

/-!
# The Standard Handlers

What the elements of templates do in a conversation. `bot` gives a property of the agent, `id` the
user; `get` and `set` read and write a predicate of the conversation; `think` evaluates its content
for what it does and says nothing; `gossip` records its content in the share log and says nothing
either.

`set` looks at its name before its content, so a set without a name does nothing at all, and it
saves after its content is evaluated, so a set within it comes first.

## Main definitions

* `Properties`: The properties of agents.
* `Standard.property`, `Standard.gossip`, `Standard.getPredicate`, `Standard.setPredicate`,
  `Standard.think`, `Standard.userId`: The handlers.
* `Standard.handlers`: All of them, in the order in which they are registered.
-/

namespace Colloquy

/-- The value of a property of an agent, where both are known. -/
abbrev Properties := (agent : String) → (name : String) → Option String

namespace Standard

/-- The name that an element gives, which is empty where it gives none. -/
def nameOf (element : Element) : String :=
  (element.tag.attribute? "name").getD ""

/-- The report of a property that an agent has not. -/
def undefinedEvent (agent name : String) : Event :=
  { channel := "parlance::handlers::bot", level := .debug
    message := "Agent property not defined"
    facts := [("agent_id", .text agent), ("property", .text name)] }

/-- The value of a property of the agent. -/
def property (properties : Properties) : Handler where
  name := "bot"
  policy := .forbidden
  script surroundings element :=
    let name := nameOf element
    if name.isEmpty then .finish ""
    else match properties surroundings.scope.agent name with
      | some value => .finish value
      | none => .report (undefinedEvent surroundings.scope.agent name) (.finish "")

/-- The content recorded in the share log. -/
def gossip : Handler where
  name := "gossip"
  policy := .required
  script _ element :=
    .evaluateThen element.children fun text => .shareThen text (.finish "")

/-- The value of a predicate, or a default where it was never set or no name is given. -/
def getPredicate (emptyDefault : String) : Handler where
  name := "get"
  policy := .forbidden
  script _ element :=
    let name := nameOf element
    if name.isEmpty then .finish emptyDefault
    else .loadThen name fun value => .finish (value.getD emptyDefault)

/-- The content, saved as the value of a predicate. -/
def setPredicate : Handler where
  name := "set"
  policy := .either
  script _ element :=
    let name := nameOf element
    -- A set without a name fails before its content is evaluated.
    if name.isEmpty then .fail (.invalidContent element.tag.name .missingName)
    else .evaluateThen element.children fun value => .saveThen name value (.finish value)

/-- The content evaluated for its effects only. -/
def think : Handler where
  name := "think"
  policy := .either
  script _ element := .evaluateThen element.children fun _ => .finish ""

/-- The user of the conversation. -/
def userId : Handler where
  name := "id"
  policy := .forbidden
  script surroundings _ := .finish surroundings.scope.user

/-- The standard handlers, in the order in which they are registered. -/
def handlers (properties : Properties) (emptyDefault : String) : List Handler :=
  [property properties, gossip, getPredicate emptyDefault, setPredicate, think, userId]

/-- The registry of the standard handlers. -/
def registry (properties : Properties) (emptyDefault : String) : Except RegistryError Registry :=
  Registry.registerAll {} (handlers properties emptyDefault)

end Standard

end Colloquy
