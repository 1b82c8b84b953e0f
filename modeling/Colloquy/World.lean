import Colloquy.Disk
import Colloquy.Event
import Colloquy.Moment.Calendar
import Colloquy.Scope
import Colloquy.UnitText.Document

/-!
# The World

Everything outside a conversation that a conversation can change or look at: the disk, the
predicates held in memory, the events reported so far, and the time. Every operation of the
program is a function from one world to a result and the next world, so what an operation leaves
alone can be read off its equation.

Both kinds of predicate storage are always present. Which of them a conversation uses is a matter of
the store it was given, not of the world.

## Main definitions

* `Memory`: Predicates held in memory.
* `World`: The state that conversations share.
* `World.report`: The world with one more event.
* `World.during`: The world with the latest events made part of some work.
-/

namespace Colloquy

/-- Predicates held in memory, by scope. A scope is listed from its first save on. -/
structure Memory where
  units : List (Scope × Predicates) := []

namespace Memory

/-- The predicates of a scope, if one was ever saved. -/
def unit? (memory : Memory) (scope : Scope) : Option Predicates :=
  memory.units.lookup scope

/-- The predicates of a scope. -/
def predicates (memory : Memory) (scope : Scope) : Predicates :=
  (memory.unit? scope).getD ∅

/-- The memory with one predicate of a scope set. -/
def save (memory : Memory) (scope : Scope) (name value : String) : Memory :=
  { units := (scope, (memory.predicates scope).insert name value) ::
      memory.units.filter (·.1 ≠ scope) }

/-- The number of users with predicates under an agent. -/
def userCount (memory : Memory) (agent : String) : Nat :=
  memory.units.countP (·.1.agent = agent)

end Memory

/-- The state that conversations share. -/
structure World where
  disk : Disk := {}
  memory : Memory := {}
  events : List Event := []
  now : Moment := ⟨0, 0⟩

/-- The world with one more event, after those reported before. -/
def World.report (world : World) (event : Event) : World :=
  { world with events := world.events ++ [event] }

/-- The world with all events behind the first `count` made part of some work. -/
def World.during (world : World) (work : Work) (count : Nat) : World :=
  { world with
    events := world.events.take count ++
      (world.events.drop count).map fun event => { event with work := some work } }

end Colloquy
