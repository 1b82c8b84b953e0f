import Colloquy.Evaluation.Reentrant
import Colloquy.Proofs.Evaluation.Machine
import Colloquy.Proofs.Evaluation.Transparency

/-!
# The Counter of Elements

Handlers see how deep they run as one number, and the guard against deep nesting sees nothing else.
The number is right because every step that puts an element on the stack counts up and every step
that takes one off counts down, on success and on failure alike. `IsBalanced` says so of one state,
with the guard's bound and with what the handlers on the stack have been told, and a case for each
kind of step shows that it is kept. Which steps are taken is up to the handlers, and it does not
matter: they may evaluate their own element again, their children twice or not at all, and carry on
after an error.

A handler that looks at the counter a second time, say after its children have failed, sees what it
was told at first.

## Main definitions

* `Machine.calls`: The elements being evaluated.
* `Machine.IsBalanced`: The counter is right, and handlers have been told so.

## Theorems

* `IsBalanced.step`, `isBalanced_of_reaches`: The counter is right after every step.
* `counter_is_balanced`: The counter is right, and evaluation leaves it as it was.
-/

namespace Colloquy

namespace Machine

/-- The elements being evaluated, the innermost first. -/
def calls : List Frame → List Element
  | [] => []
  | .call element :: frames => element :: calls frames
  | .siblings _ _ :: frames => calls frames
  | .handler _ _ :: frames => calls frames

/-- What a handler was told about its depth is the number of elements being evaluated, its own one
    included. -/
def IsTold (surroundings : Surroundings) (frames : List Frame) : Prop :=
  surroundings.depth = (calls frames).length ∧ 1 ≤ surroundings.depth

/-- What the handlers that wait on a stack have been told is right. -/
def AreTold : List Frame → Prop
  | [] => True
  | .call _ :: frames => AreTold frames
  | .siblings _ _ :: frames => AreTold frames
  | .handler surroundings _ :: frames => IsTold surroundings frames ∧ AreTold frames

/-- The counter is the number of elements being evaluated and within the limit, and that is what
    handlers have been told, the one at work as well as those that wait. -/
structure IsBalanced (evaluator : Evaluator) (state : State) : Prop where
  counter : state.counter = (calls state.frames).length
  bounded : state.counter ≤ evaluator.limit
  waiting : AreTold state.frames
  working : ∀ surroundings script, state.focus = .script surroundings script →
    IsTold surroundings state.frames

variable {evaluator : Evaluator} {scope : Scope} {state next : State}

theorem isBalanced_start (evaluator : Evaluator) (template : List Node) (world : World) :
    IsBalanced evaluator (start template world) :=
  ⟨rfl, Nat.zero_le _, trivial, nofun⟩

/-- An element is entered with the counter one up, or it is not entered at all. -/
theorem IsBalanced.enter {element : Element} {frames : List Frame} {counter : Nat} {world : World}
    (h : IsBalanced evaluator ⟨.element element, frames, counter, world⟩) :
    IsBalanced evaluator (enter evaluator scope element frames counter world) := by
  have hcounter : counter = (calls frames).length := h.counter
  have hcalls : counter + 1 = (calls (.call element :: frames)).length :=
    congrArg (· + 1) hcounter
  unfold Machine.enter
  split
  · exact ⟨hcounter, h.bounded, h.waiting, nofun⟩
  · -- There is room for one more, and the counter goes up with the call that is put on the stack.
    rename_i hroom
    have hbounded : counter + 1 ≤ evaluator.limit := Nat.lt_of_not_le hroom
    split
    · split
      · exact ⟨hcalls, hbounded, h.waiting, nofun⟩
      · refine ⟨hcalls, hbounded, h.waiting, ?_⟩
        rintro _ _ ⟨⟩
        exact ⟨hcalls, Nat.succ_pos counter⟩
    · exact ⟨hcalls, hbounded, h.waiting, nofun⟩

/-- A request leaves the counter alone. A handler that asks for nodes waits with what it knows. -/
theorem IsBalanced.request {surroundings : Surroundings} {script : Script} {frames : List Frame}
    {counter : Nat} {world : World}
    (h : IsBalanced evaluator ⟨.script surroundings script, frames, counter, world⟩) :
    IsBalanced evaluator (request evaluator scope surroundings frames counter world script) := by
  have htold : IsTold surroundings frames := h.working _ _ rfl
  -- A script that is not done goes on in the same frames.
  have hworking (script' : Script) (world' : World) :
      IsBalanced evaluator ⟨.script surroundings script', frames, counter, world'⟩ := by
    refine ⟨h.counter, h.bounded, h.waiting, ?_⟩
    rintro _ _ ⟨⟩
    exact htold
  cases script with
  | finish text => exact ⟨h.counter, h.bounded, h.waiting, nofun⟩
  | fail error => exact ⟨h.counter, h.bounded, h.waiting, nofun⟩
  | evaluate nodes next => exact ⟨h.counter, h.bounded, ⟨htold, h.waiting⟩, nofun⟩
  | load name next => exact hworking _ _
  | save name value next => exact hworking _ _
  | share text next => exact hworking _ _
  | report event next => exact hworking _ _

/-- An answer to an element counts down, whether it is a text or an error. -/
theorem IsBalanced.resume {result : Except EvalError String} {frames : List Frame} {counter : Nat}
    {world : World} (h : IsBalanced evaluator ⟨.answer result, frames, counter, world⟩)
    (hnext : resume result counter world frames = some next) : IsBalanced evaluator next := by
  have hcounter : counter = (calls frames).length := h.counter
  have hbounded : counter ≤ evaluator.limit := h.bounded
  have hwaiting : AreTold frames := h.waiting
  cases frames with
  | nil => cases hnext
  | cons frame frames =>
      cases frame with
      | siblings before rest =>
          cases result with
          | ok text =>
              cases hnext
              exact ⟨hcounter, hbounded, hwaiting, nofun⟩
          | error error =>
              cases hnext
              exact ⟨hcounter, hbounded, hwaiting, nofun⟩
      | call element =>
          cases hnext
          -- The call is over, and the counter goes down with it.
          refine ⟨?_, Nat.le_trans (Nat.sub_le counter 1) hbounded, hwaiting, nofun⟩
          exact congrArg (· - 1) hcounter
      | handler surroundings script =>
          cases hnext
          refine ⟨hcounter, hbounded, hwaiting.2, ?_⟩
          rintro _ _ ⟨⟩
          exact hwaiting.1

/-- The counter is right after a step if it was right before. -/
theorem IsBalanced.step (h : IsBalanced evaluator state)
    (hstep : step evaluator scope state = some next) : IsBalanced evaluator next := by
  rcases state with ⟨focus, frames, counter, world⟩
  cases focus with
  | nodes before nodes =>
      -- Going through nodes leaves the counter alone.
      cases nodes with
      | nil =>
          cases hstep
          exact ⟨h.counter, h.bounded, h.waiting, nofun⟩
      | cons first rest =>
          cases first with
          | text content =>
              cases hstep
              exact ⟨h.counter, h.bounded, h.waiting, nofun⟩
          | leaf tag =>
              cases hstep
              exact ⟨h.counter, h.bounded, h.waiting, nofun⟩
          | container tag children =>
              cases hstep
              exact ⟨h.counter, h.bounded, h.waiting, nofun⟩
  | element element =>
      cases hstep
      exact h.enter
  | script surroundings script =>
      cases hstep
      exact h.request
  | answer result => exact h.resume hstep

/-- The counter is right all the time. -/
theorem isBalanced_of_reaches (h : IsBalanced evaluator state)
    (hreaches : Reaches evaluator scope state next) : IsBalanced evaluator next := by
  induction hreaches with
  | refl => exact h
  | tail _ hstep ih => exact ih.step hstep

/-- A state in which a handler asks for nodes and then, whatever becomes of them, for an element. -/
def State.asking (state : State) (surroundings : Surroundings) (nodes : List Node)
    (opened : Element) (next : Except EvalError String → Except EvalError String → Script) :
    State :=
  { state with
    focus := .script surroundings
      (.evaluate nodes fun result => .evaluate [opened.toNode] (next result)) }

/-- A state in which the element is come to that a handler asked for. -/
def State.before (state : State) (surroundings : Surroundings) (opened : Element)
    (next : Except EvalError String → Script) (world : World) : State :=
  { state with
    focus := .element opened
    frames := .siblings "" [] :: .handler surroundings next :: state.frames
    world := world }

/-- A handler that asks for nodes and then for an element comes to it with the stack and the counter
    that it had at first. -/
theorem reaches_before {outcome : Except EvalError String × World} {nodes : List Node}
    (surroundings : Surroundings) (opened : Element)
    (next : Except EvalError String → Except EvalError String → Script) (state : State)
    (hnodes : ∀ frames, Reaches evaluator scope
      ⟨.nodes "" nodes, frames, state.counter, state.world⟩
      ⟨.answer outcome.1, frames, state.counter, outcome.2⟩) :
    Reaches evaluator scope (state.asking surroundings nodes opened next)
      (state.before surroundings opened (next outcome.1) outcome.2) := by
  have hopened := step_nodes_element evaluator scope (Evaluator.element?_toNode opened) "" []
    (.handler surroundings (next outcome.1) :: state.frames) state.counter outcome.2
  exact .head rfl ((hnodes _).trans (.head rfl (.head rfl (.single hopened))))

/-- The counter of elements is balanced and bounded, whatever the handlers are. All the time it is
    the number of elements that are being evaluated, it never passes the limit, and a handler that
    runs has been told its value, which is one at least. Nodes and elements that are evaluated at
    some value of the counter, whatever they are a part of, are answered as the evaluator answers
    them with the levels that this value leaves, by a text or by an error, and the stack and the
    counter are then as they were. So a handler that evaluates nodes and then, whatever became of
    them, an element comes to the element with the stack and the counter with which it would have
    come to it if there had been text in place of the nodes. -/
theorem counter_is_balanced (evaluator : Evaluator) (scope : Scope) (template : List Node)
    (world : World) :
    (∀ state, Reaches evaluator scope (start template world) state →
      state.counter = (calls state.frames).length ∧ state.counter ≤ evaluator.limit ∧
      ∀ surroundings script, state.focus = .script surroundings script →
        surroundings.depth = state.counter ∧ 1 ≤ state.counter) ∧
    (∀ counter levels, counter + levels = evaluator.limit →
      (∀ nodes, Answers evaluator scope counter (.nodes "" nodes)
        (evaluator.nodes scope levels nodes)) ∧
      ∀ opened, Answers evaluator scope counter (.element opened)
        (evaluator.element scope levels opened)) ∧
    ∀ (state : State) (surroundings : Surroundings) (nodes : List Node) (opened : Element) next,
      Reaches evaluator scope (start template world)
        (state.asking surroundings nodes opened next) →
      let (result, after) :=
        evaluator.nodes scope (evaluator.limit - state.counter) nodes state.world
      Reaches evaluator scope (state.asking surroundings nodes opened next)
        (state.before surroundings opened (next result) after) ∧
      ∀ content, Reaches evaluator scope (state.asking surroundings [.text content] opened next)
        (state.before surroundings opened (next (.ok content)) state.world) := by
  refine ⟨fun state hreaches => ?_, fun counter levels hlevels => ?_,
    fun state surroundings nodes opened next hreaches => ?_⟩
  · have h := isBalanced_of_reaches (isBalanced_start evaluator template world) hreaches
    refine ⟨h.counter, h.bounded, fun surroundings script hfocus => ?_⟩
    rcases h.working surroundings script hfocus with ⟨hdepth, hpos⟩
    rw [h.counter, ← hdepth]
    exact ⟨rfl, hpos⟩
  · exact ⟨answers_nodes scope hlevels, answers_element scope hlevels⟩
  · have h := isBalanced_of_reaches (isBalanced_start evaluator template world) hreaches
    -- What the counter has not used up is what the content may be nested.
    have hlevels : state.counter + (evaluator.limit - state.counter) = evaluator.limit :=
      Nat.add_sub_cancel' h.bounded
    refine ⟨?_, fun content => ?_⟩
    · exact reaches_before surroundings opened next state fun frames =>
        answers_nodes scope hlevels nodes frames state.world
    · -- A text alone is answered by itself, in any frames.
      have htext : evaluator.nodes scope (evaluator.limit - state.counter) [.text content]
          state.world = (.ok content, state.world) := Evaluator.concatenate_singleton _ _ _
      have hanswer := fun frames => answers_nodes scope hlevels [.text content] frames state.world
      rw [htext] at hanswer
      exact reaches_before surroundings opened next state hanswer

/-- A handler that evaluates an element which never ends, is left with an error at the limit, and
    then asks for its depth. It comes to that with the counter at one, as if it had evaluated text,
    and is told two. -/
theorem counter_is_balanced_caught :
    let opened : Element := ⟨⟨"depth", ∅⟩, none⟩
    let next (first second : Except EvalError String) : Script :=
      match first, second with
      | .error _, .ok text => .finish ("caught at " ++ text)
      | _, _ => .finish "never"
    let careful : Handler :=
      { name := "careful", policy := .either
        script := fun _ _ =>
          .evaluate [.leaf ⟨"loop", ∅⟩] fun result => .evaluate [opened.toNode] (next result) }
    ∃ registry, Registry.registerAll {} [careful, Reentrant.ofName "loop", Reentrant.ofName "depth"]
        = .ok registry ∧
      let evaluator : Evaluator := ⟨registry, .memory, {}, 3⟩
      let scope : Scope := ⟨"alice", "aria"⟩
      let template : List Node := [.leaf ⟨"careful", ∅⟩]
      (evaluator.evaluate scope template {}).1 = .ok "caught at 2" ∧
      ∃ (state : State) (surroundings : Surroundings),
        Reaches evaluator scope (start template {})
          (state.asking surroundings [.leaf ⟨"loop", ∅⟩] opened next) ∧
        state.counter = (calls state.frames).length ∧ state.counter = 1 ∧
        Reaches evaluator scope (state.asking surroundings [.leaf ⟨"loop", ∅⟩] opened next)
          (state.before surroundings opened (next (.error (.depthExceeded "loop" 3))) {}) ∧
        Reaches evaluator scope (state.asking surroundings [.text "-"] opened next)
          (state.before surroundings opened (next (.ok "-")) {}) := by
  refine ⟨_, rfl, ?_⟩
  intro evaluator scope template
  -- The state in which the loop is asked for, inside of the careful element.
  let state : State :=
    ⟨.nodes "" [], [.call ⟨⟨"careful", ∅⟩, none⟩, .siblings "" []], 1, {}⟩
  let surroundings : Surroundings := ⟨scope, 1, evaluator.registry.names⟩
  have hasking : Reaches evaluator scope (start template {})
      (state.asking surroundings [.leaf ⟨"loop", ∅⟩] _ _) := .head rfl (.single rfl)
  have hbalanced := counter_is_balanced evaluator scope template {}
  have hcounter := (hbalanced.1 _ hasking).1
  have hbefore := hbalanced.2.2 _ _ _ _ _ hasking
  exact ⟨by decide +kernel, state, surroundings, hasking, hcounter, rfl, hbefore.1, hbefore.2 "-"⟩

end Machine

end Colloquy
