import Colloquy.Evaluation.Handler

/-!
# Registries of Handlers

Which names have handlers. A registry is put together once, before any conversation starts; a name
that is empty could never be written in a template, and of two handlers for one name one could never
run, so both are mistakes that are reported then.

Names are compared exactly.

## Main definitions

* `RegistryError`: Why a handler was refused.
* `Registry`: Handlers by name.
* `Registry.register`: A registry with one more handler.
* `Registry.lookup`: The handler of a name.
-/

namespace Colloquy

/-- Why a handler was refused. -/
inductive RegistryError where
  | emptyName
  | duplicate (name : String)
  deriving DecidableEq, Repr

/-- What is said about a handler that was refused. -/
def RegistryError.message : RegistryError → String
  | .emptyName => "Tag handler registered with an empty tag name"
  | .duplicate name => "Duplicate handler for tag <" ++ name ++ ">"

/-- Handlers by the name of the elements they handle. -/
structure Registry where
  handlers : Dictionary Handler := ∅

namespace Registry

/-- The handler of a name. -/
def lookup (registry : Registry) (name : String) : Option Handler :=
  registry.handlers.get? name

/-- The names that have handlers, in ascending order. -/
def names (registry : Registry) : List String := registry.handlers.keys

/-- The number of handlers. -/
def size (registry : Registry) : Nat := registry.handlers.size

/-- The registry with one more handler. -/
def register (registry : Registry) (handler : Handler) : Except RegistryError Registry :=
  if handler.name.isEmpty then .error .emptyName
  else if registry.handlers.contains handler.name then .error (.duplicate handler.name)
  else .ok ⟨registry.handlers.insert handler.name handler⟩

/-- The registry with more handlers, up to the first that is refused. -/
def registerAll : Registry → List Handler → Except RegistryError Registry
  | registry, [] => .ok registry
  | registry, handler :: rest =>
    match registry.register handler with
    | .ok registry => registry.registerAll rest
    | .error error => .error error

end Registry

end Colloquy
