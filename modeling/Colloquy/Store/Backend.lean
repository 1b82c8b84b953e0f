import Colloquy.Store.FlatFile
import Colloquy.World

/-!
# Predicate Stores

The store that a conversation was given: predicates in memory or in files. Evaluation asks only for
the operations here and cannot tell which of the two it talks to, except by what they answer.

Memory takes any identifiers and never fails. Files report every completed save as an event.

## Main definitions

* `Backend`: Where the predicates of conversations are kept.
* `Backend.load`, `Backend.save`, `Backend.predicates`, `Backend.userCount`: The operations.
-/

namespace Colloquy

/-- Where the predicates of conversations are kept. -/
inductive Backend where
  | memory
  | files (store : FlatFile)
  deriving DecidableEq, Repr

namespace Backend

/-- The channel on which files report. -/
def channel : String := "parlance::store::flat_file"

/-- The report of a completed save. -/
def savedEvent (scope : Scope) (name path : String) : Event :=
  { channel := channel, level := .debug, message := "Saved predicate"
    facts := [("predicate", .text name), ("user_id", .text scope.user),
      ("agent_id", .text scope.agent), ("path", .text path)] }

/-- Every predicate of a scope. -/
def predicates (backend : Backend) (scope : Scope) (world : World) :
    Except StoreError Predicates × World :=
  match backend with
  | .memory => (.ok (world.memory.predicates scope), world)
  | .files store =>
    let (result, disk) := store.predicates world.disk scope
    (result, { world with disk })

/-- The value of a predicate, or nothing if it was never set. -/
def load (backend : Backend) (scope : Scope) (name : String) (world : World) :
    Except StoreError (Option String) × World :=
  match backend with
  | .memory => (.ok ((world.memory.predicates scope).get? name), world)
  | .files store =>
    let (result, disk) := store.load world.disk scope name
    (result, { world with disk })

/-- The world with a predicate set. -/
def save (backend : Backend) (scope : Scope) (name value : String) (world : World) :
    Except StoreError Unit × World :=
  match backend with
  | .memory => (.ok (), { world with memory := world.memory.save scope name value })
  | .files store =>
    match store.save world.disk world.now.mailText scope name value with
    | (.error error, disk) => (.error error, { world with disk })
    | (.ok path, disk) => (.ok (), { world with disk }.report (savedEvent scope name path))

/-- The number of users with state under an agent. -/
def userCount (backend : Backend) (agent : String) (world : World) : Except StoreError Nat :=
  match backend with
  | .memory => .ok (world.memory.userCount agent)
  | .files store => store.userCount world.disk agent

end Backend

end Colloquy
