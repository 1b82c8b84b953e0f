import Colloquy.Scope

/-!
# Scope Locks

One lock for each scope, handed out to whoever works on the scope's predicates. The table that hands
them out does not keep them: it only remembers which lock belongs to which scope, and a lock is gone
when its last holder lets go of it. A scope asked for again afterwards gets a new lock, and that is
the moment when the table forgets every lock that is gone. So holders of one scope always share one
lock, and scopes nobody works on do not pile up.

Locks are told apart by number. A number is never given out twice, so two holders have the same lock
exactly if they have the same number.

## Main definitions

* `LockTable`: Which lock belongs to which scope, and which locks are held.
* `LockTable.acquire`, `LockTable.release`: One more holder, one holder less.
* `LockTable.tracked`: The number of scopes whose lock is held.
* `Hold`, `admits`: What a lock in use still lets others do.
-/

namespace Colloquy

/-- Locks by scope. `entries` may still name locks that are gone; `held` lists every holder's
    lock. -/
structure LockTable where
  entries : List (Scope × Nat) := []
  held : List Nat := []
  next : Nat := 0
  deriving Repr

namespace LockTable

/-- Whether anybody holds a lock. -/
def isLive (table : LockTable) (lock : Nat) : Bool := table.held.contains lock

/-- The lock of a scope, if anybody holds it. -/
def current? (table : LockTable) (scope : Scope) : Option Nat :=
  (table.entries.lookup scope).filter table.isLive

/-- The lock of a scope with one more holder. -/
def acquire (table : LockTable) (scope : Scope) : Nat × LockTable :=
  match table.current? scope with
  | some lock => (lock, { table with held := lock :: table.held })
  | none =>
    -- The only place where locks that are gone are forgotten.
    (table.next,
      { entries := (scope, table.next) :: table.entries.filter fun entry => table.isLive entry.2
        held := table.next :: table.held
        next := table.next + 1 })

/-- The table after one holder of a lock let go of it. -/
def release (table : LockTable) (lock : Nat) : LockTable :=
  { table with held := table.held.erase lock }

/-- The number of scopes whose lock is held. -/
def tracked (table : LockTable) : Nat :=
  table.entries.countP fun entry => table.isLive entry.2

end LockTable

/-- The two ways of using a lock. -/
inductive Hold where
  | shared
  | exclusive
  deriving DecidableEq, Repr

/-- Whether a lock can be taken while others are in use: sharing goes with sharing, and nothing else
    goes together on one lock. -/
def admits (inUse : List (Nat × Hold)) (lock : Nat) (want : Hold) : Bool :=
  inUse.all fun use => use.1 ≠ lock || (use.2 = .shared && want = .shared)

end Colloquy
