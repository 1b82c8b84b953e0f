import Colloquy.Evaluation.Evaluator
import Colloquy.Proofs.Store.Stored

/-!
# What an Evaluation Does

An evaluation can do two things that last: save a predicate and record gossip. `Evaluator.deeds`
lists what it has done, in order. It runs beside the evaluator rather than instead of it: the
evaluator says what every request is answered and in which world the next one is made, and the
list follows it. A request that fails is not a deed.

The list is complete. `Evaluator.Performs` says that a world comes of another one by asking for
these deeds, each once and in this order, and by nothing else but reading, reporting and requests
that fail; and so it is with the world that an evaluation leaves, whether it succeeds or ends in an
error. Hence the list is all there is to know about what a store holds afterwards. This holds of any
handlers.

## Main definitions

* `Deed`: A predicate saved or gossip recorded.
* `Deed.effect`: What a deed does to what is held.
* `Evaluator.deeds`: What the evaluation of nodes does.
* `Evaluator.Performs`: Deeds done between two worlds.
* `Backend.Accounted`: What is held follows from deeds.

## Theorems

* `Performs.accounted`: What is held follows from the deeds done.
* `performs_nodes`, `performs_evaluate`: What an evaluation does is done.
-/

namespace Colloquy

/-- Something that an evaluation does and that lasts. -/
inductive Deed where
  | saved (scope : Scope) (name value : String)
  | recorded (scope : Scope) (text : String)
  deriving DecidableEq

namespace Deed

/-- What a deed does to what is held. -/
def effect (held : Scope → Predicates) : Deed → Scope → Predicates
  | .saved scope name value => Function.update held scope ((held scope).insert name value)
  | .recorded _ _ => held

/-- A deed, if what was asked for was done. -/
def ifDone {ε α : Type} (deed : Deed) : Except ε α → List Deed
  | .ok _ => [deed]
  | .error _ => []

end Deed

namespace Evaluator

/-- What a script does. `evaluate` evaluates nodes one level further down, and `inner` lists what
    that does. -/
def performDeeds (evaluator : Evaluator) (scope : Scope)
    (evaluate : List Node → World → Except EvalError String × World)
    (inner : List Node → World → List Deed) : Script → World → List Deed
  | .finish _, _ => []
  | .fail _, _ => []
  | .evaluate nodes next, world =>
    inner nodes world ++ performDeeds evaluator scope evaluate inner
      (next (evaluate nodes world).1) (evaluate nodes world).2
  | .load name next, world =>
    let (result, world) := evaluator.backend.load scope name world
    performDeeds evaluator scope evaluate inner (next result) world
  | .save name value next, world =>
    let (result, world) := evaluator.backend.save scope name value world
    (Deed.saved scope name value).ifDone result ++
      performDeeds evaluator scope evaluate inner (next result) world
  | .share text next, world =>
    let (result, world) := evaluator.shareLog.record scope text world
    (Deed.recorded scope text).ifDone result ++
      performDeeds evaluator scope evaluate inner (next result) world
  | .report event next, world =>
    performDeeds evaluator scope evaluate inner next (world.report event)

/-- What one node does. -/
def nodeDeeds (inner : Element → World → List Deed) : Node → World → List Deed
  | .text _, _ => []
  | .leaf tag, world => inner ⟨tag, none⟩ world
  | .container tag children, world => inner ⟨tag, some children⟩ world

/-- What nodes do one after the other, up to the first error. -/
def concatenateDeeds (element : Element → World → Except EvalError String × World)
    (inner : Element → World → List Deed) : List Node → World → List Deed
  | [], _ => []
  | first :: rest, world =>
    nodeDeeds inner first world ++
      match node element first world with
      | (.ok _, world) => concatenateDeeds element inner rest world
      | (.error _, _) => []

/-- What an element does by its handler, or by its children if it has none. -/
def dispatchDeeds (evaluator : Evaluator) (scope : Scope) (depth : Nat)
    (evaluate : List Node → World → Except EvalError String × World)
    (inner : List Node → World → List Deed) (element : Element) (world : World) : List Deed :=
  match evaluator.registry.lookup element.tag.name with
  | some handler =>
    match handler.policy.check element with
    | .error _ => []
    | .ok () =>
      evaluator.performDeeds scope evaluate inner
        (handler.script ⟨scope, depth, evaluator.registry.names⟩ element) world
  | none => inner element.children (world.report (unknownEvent element.tag.name depth))

/-- What an element does with `levels` left. -/
def elementDeeds (evaluator : Evaluator) (scope : Scope) :
    (levels : Nat) → Element → World → List Deed
  | 0, _, _ => []
  | levels + 1, element, world =>
    evaluator.dispatchDeeds scope (evaluator.limit - levels) (evaluator.nodes scope levels)
      (concatenateDeeds (evaluator.element scope levels) (evaluator.elementDeeds scope levels))
      element world

/-- What the evaluation of nodes with `levels` left does. -/
def deeds (evaluator : Evaluator) (scope : Scope) (levels : Nat) (nodes : List Node)
    (world : World) : List Deed :=
  concatenateDeeds (evaluator.element scope levels) (evaluator.elementDeeds scope levels) nodes
    world

/-- An evaluator does these things for a scope between two worlds: each was asked for once, in this
    order, and was done. Whatever else was asked for was only read, or reported, or failed. -/
inductive Performs (evaluator : Evaluator) (scope : Scope) : List Deed → World → World → Prop where
  | refl (world : World) : Performs evaluator scope [] world world
  | load (name : String) {deeds : List Deed} {world world' : World}
      (h : Performs evaluator scope deeds (evaluator.backend.load scope name world).2 world') :
      Performs evaluator scope deeds world world'
  | save (name value : String) {deeds : List Deed} {world world' : World}
      (h : Performs evaluator scope deeds (evaluator.backend.save scope name value world).2
        world') :
      Performs evaluator scope
        ((Deed.saved scope name value).ifDone (evaluator.backend.save scope name value world).1 ++
          deeds) world world'
  | share (text : String) {deeds : List Deed} {world world' : World}
      (h : Performs evaluator scope deeds (evaluator.shareLog.record scope text world).2 world') :
      Performs evaluator scope
        ((Deed.recorded scope text).ifDone (evaluator.shareLog.record scope text world).1 ++ deeds)
        world world'
  | events (events : List Event) {deeds : List Deed} {world world' : World}
      (h : Performs evaluator scope deeds { world with events } world') :
      Performs evaluator scope deeds world world'

theorem Performs.trans {evaluator : Evaluator} {scope : Scope} {deeds more : List Deed}
    {world between world' : World} (h : evaluator.Performs scope deeds world between)
    (h' : evaluator.Performs scope more between world') :
    evaluator.Performs scope (deeds ++ more) world world' := by
  induction h with
  | refl world => exact h'
  | load name _ ih => exact .load name (ih h')
  | save name value _ ih =>
      rw [List.append_assoc]
      exact .save name value (ih h')
  | share text _ ih =>
      rw [List.append_assoc]
      exact .share text (ih h')
  | events events _ ih => exact .events events (ih h')

end Evaluator

/-- What deeds leave for a scope depends on what was held for that scope alone. -/
theorem foldl_effect_congr {held held' : Scope → Predicates} {scope : Scope}
    (h : held scope = held' scope) (deeds : List Deed) :
    deeds.foldl Deed.effect held scope = deeds.foldl Deed.effect held' scope := by
  induction deeds generalizing held held' with
  | nil => exact h
  | cons deed deeds ih =>
      refine ih ?_
      cases deed with
      | recorded _ _ => exact h
      | saved other name value =>
          -- The deed changes what is held for its own scope alone.
          by_cases hother : scope = other
          · rw [← hother, Deed.effect, Deed.effect, Function.update_self, Function.update_self, h]
          · rw [Deed.effect, Deed.effect, Function.update_of_ne hother,
              Function.update_of_ne hother, h]

/-- What a store holds for a scope in a later world follows from what it held and the deeds
    between. -/
structure Backend.Accounted (backend : Backend) (scope : Scope) (deeds : List Deed)
    (world world' : World) : Prop where
  here : world'.disk.here = world.disk.here
  held : backend.stored world' scope = deeds.foldl Deed.effect (backend.stored world) scope

namespace Backend.Accounted

variable {backend : Backend} {scope : Scope} {deeds more : List Deed}
  {world between world' : World}

theorem refl (backend : Backend) (scope : Scope) (world : World) :
    backend.Accounted scope [] world world := ⟨rfl, rfl⟩

theorem trans (h : backend.Accounted scope deeds world between)
    (h' : backend.Accounted scope more between world') :
    backend.Accounted scope (deeds ++ more) world world' := by
  refine ⟨h'.here.trans h.here, ?_⟩
  rw [List.foldl_append, h'.held]
  exact foldl_effect_congr h.held more

theorem events (backend : Backend) (scope : Scope) (world : World) (events : List Event) :
    backend.Accounted scope [] world { world with events } := by
  refine ⟨rfl, ?_⟩
  cases backend <;> rfl

end Backend.Accounted

namespace Evaluator

variable {evaluator : Evaluator} {other : Scope}

section Accounts

variable (hproper : evaluator.backend.IsProper)
include hproper

theorem accounted_load (scope other : Scope) (name : String) (world : World) :
    evaluator.backend.Accounted other [] world (evaluator.backend.load scope name world).2 := by
  have hattempted := Backend.load_attempted hproper scope world name
  generalize evaluator.backend.load scope name world = outcome at hattempted ⊢
  cases hattempted with
  | refused _ _ => exact .refl _ _ _
  | failed _ haltered hheld => exact ⟨haltered.here, congrFun hheld other⟩
  | done haltered hheld => exact ⟨haltered.here, congrFun hheld other⟩

theorem accounted_save (scope other : Scope) (name value : String) (world : World) :
    evaluator.backend.Accounted other
      ((Deed.saved scope name value).ifDone (evaluator.backend.save scope name value world).1) world
      (evaluator.backend.save scope name value world).2 := by
  have hattempted := Backend.save_attempted hproper scope world name value
  generalize evaluator.backend.save scope name value world = outcome at hattempted ⊢
  cases hattempted with
  | refused _ _ => exact .refl _ _ _
  | failed _ haltered hheld => exact ⟨haltered.here, congrFun hheld other⟩
  | done haltered hheld => exact ⟨haltered.here, congrFun hheld other⟩

omit hproper in
theorem accounted_share {world : World}
    (hspares : evaluator.shareLog.SparesUnit evaluator.backend world.disk other) (scope : Scope)
    (text : String) :
    evaluator.backend.Accounted other
      ((Deed.recorded scope text).ifDone (evaluator.shareLog.record scope text world).1) world
      (evaluator.shareLog.record scope text world).2 := by
  refine ⟨(evaluator.shareLog.record_altered scope text world).1.here, ?_⟩
  rw [Backend.stored_record hspares]
  cases (evaluator.shareLog.record scope text world).1 <;> rfl

/-- What is held for any scope follows from what the evaluator did, if the share log is not written
    where the unit of that scope is. -/
theorem Performs.accounted {scope : Scope} {deeds : List Deed} {world world' : World}
    (h : evaluator.Performs scope deeds world world')
    (hspares : evaluator.shareLog.SparesUnit evaluator.backend world.disk other) :
    evaluator.backend.Accounted other deeds world world' := by
  induction h with
  | refl world => exact .refl _ _ _
  | @load name _ before _ _ ih =>
      have hfirst := accounted_load hproper scope other name before
      exact hfirst.trans (ih (hspares.of_here hfirst.here))
  | @save name value _ before _ _ ih =>
      have hfirst := accounted_save hproper scope other name value before
      exact hfirst.trans (ih (hspares.of_here hfirst.here))
  | share text _ ih =>
      have hfirst := accounted_share hspares scope text
      exact hfirst.trans (ih (hspares.of_here hfirst.here))
  | events events _ ih => exact (Backend.Accounted.events _ _ _ events).trans (ih hspares)

end Accounts

/-- What a script does is done, if this is so of the nodes it evaluates. -/
theorem performs_perform {scope : Scope}
    {evaluate : List Node → World → Except EvalError String × World}
    {inner : List Node → World → List Deed}
    (hinner : ∀ nodes world,
      evaluator.Performs scope (inner nodes world) world (evaluate nodes world).2)
    (script : Script) (world : World) :
    evaluator.Performs scope (evaluator.performDeeds scope evaluate inner script world) world
      (evaluator.perform scope evaluate script world).2 := by
  induction script generalizing world with
  | finish text => exact .refl _
  | fail error => exact .refl _
  | evaluate nodes next ih => exact (hinner nodes world).trans (ih _ _)
  | load name next ih => exact .load name (ih _ _)
  | save name value next ih => exact .save name value (ih _ _)
  | share text next ih => exact .share text (ih _ _)
  | report event next ih => exact .events _ (ih _)

theorem performs_concatenate {scope : Scope}
    {element : Element → World → Except EvalError String × World}
    {inner : Element → World → List Deed}
    (hinner : ∀ opened world,
      evaluator.Performs scope (inner opened world) world (element opened world).2)
    (nodes : List Node) (world : World) :
    evaluator.Performs scope (concatenateDeeds element inner nodes world) world
      (concatenate element nodes world).2 := by
  induction nodes generalizing world with
  | nil => exact .refl _
  | cons first rest ih =>
      have hfirst : evaluator.Performs scope (nodeDeeds inner first world) world
          (node element first world).2 := by
        cases first with
        | text content => exact .refl _
        | leaf tag => exact hinner _ world
        | container tag children => exact hinner _ world
      rw [concatenateDeeds, concatenate]
      rcases hnode : node element first world with ⟨result, between⟩
      rw [hnode] at hfirst
      cases result with
      | error error => exact hfirst.trans (.refl _)
      | ok text =>
          -- The rest goes on in the world that the first one has left.
          have hrest := ih between
          simp only []
          rcases hmore : concatenate element rest between with ⟨result, world'⟩
          rw [hmore] at hrest
          cases result <;> exact hfirst.trans hrest

/-- What an element does is done. -/
theorem performs_element (evaluator : Evaluator) (scope : Scope) (levels : Nat) (element : Element)
    (world : World) :
    evaluator.Performs scope (evaluator.elementDeeds scope levels element world) world
      (evaluator.element scope levels element world).2 := by
  -- Induction on the levels: what an element evaluates has one less.
  induction levels generalizing element world with
  | zero => exact .refl _
  | succ levels ih =>
      rw [elementDeeds, Evaluator.element, dispatchDeeds, dispatch]
      cases evaluator.registry.lookup element.tag.name with
      | none => exact .events _ (performs_concatenate ih _ _)
      | some handler =>
          simp only []
          cases handler.policy.check element with
          | error error => exact .refl _
          | ok _ => exact performs_perform (performs_concatenate ih) _ world

/-- What the evaluation of nodes does is done, whether it succeeds or not. -/
theorem performs_nodes (evaluator : Evaluator) (scope : Scope) (levels : Nat) (nodes : List Node)
    (world : World) :
    evaluator.Performs scope (evaluator.deeds scope levels nodes world) world
      (evaluator.nodes scope levels nodes world).2 :=
  performs_concatenate (performs_element evaluator scope levels) nodes world

/-- What the evaluation of a template does is done. -/
theorem performs_evaluate (evaluator : Evaluator) (scope : Scope) (template : List Node)
    (world : World) :
    evaluator.Performs scope (evaluator.deeds scope evaluator.limit template world) world
      (evaluator.evaluate scope template world).2 := by
  have hnodes := performs_nodes evaluator scope evaluator.limit template world
  -- What is reported on the way is made part of the evaluation at the end.
  rw [← List.append_nil (evaluator.deeds scope evaluator.limit template world)]
  exact hnodes.trans (.events _ (.refl _))

end Evaluator

end Colloquy
