import Colloquy.Proofs.Evaluation.Depth
import Mathlib.Logic.Relation

/-!
# Evaluation Step by Step

An evaluation as a machine that takes one step after the other. What has been begun and is not done
yet lies on a stack: siblings still to come, elements that are being evaluated, and handlers that
wait for the nodes they asked for. How deep elements nest is a counter, which goes up when an
element is entered and down when it has been answered. Nothing ties the counter to the stack: it is
one number for the whole run, and the guard against deep nesting looks at nothing else.

The evaluator counts levels down instead and hands them on, so there the levels of one element are
never within reach of another. `reaches_nodes` and `reaches_element` say that the two come to the
same: whatever is on the stack, nodes and elements are answered as the evaluator answers them with
as many levels as the counter leaves, and the stack and the counter are then what they were. They
hold of any handlers, for nothing in the machine depends on what a handler asks for.

The machine never has a choice, so two runs from one state are one run, and a run that can come to
an end always does.

## Main definitions

* `Machine.Frame`, `Machine.Focus`, `Machine.State`: What the machine goes back to, what it is
  working on, and both with a counter and a world.
* `Machine.step`: One step.
* `Machine.Reaches`: Any number of steps.
* `Machine.Answers`: A piece of work is answered at this counter, whatever it is a part of.

## Theorems

* `answers_concatenate`, `answers_perform`: Nodes and scripts are answered if their parts are.
* `answers_element`, `answers_nodes`: The machine answers what the evaluator answers.
* `reaches_end`, `not_endless`: A run that can end does end.
-/

namespace Colloquy

namespace Machine

/-- What is gone back to when the work on top of it has been answered. -/
inductive Frame where
  | siblings (before : String) (rest : List Node)
  | call (element : Element)
  | handler (surroundings : Surroundings) (next : Except EvalError String → Script)

/-- What is being worked on: nodes behind the text of those before them, an element to be entered, a
    script with what its handler was told, or an answer to what is on top of the stack. -/
inductive Focus where
  | nodes (before : String) (nodes : List Node)
  | element (element : Element)
  | script (surroundings : Surroundings) (script : Script)
  | answer (result : Except EvalError String)

/-- The state of an evaluation: its work, its stack, the counter of elements being evaluated, and
    the world. -/
structure State where
  focus : Focus
  frames : List Frame
  counter : Nat
  world : World

/-- An element entered, unless the counter has come to the limit. -/
def enter (evaluator : Evaluator) (scope : Scope) (element : Element) (frames : List Frame)
    (counter : Nat) (world : World) : State :=
  if evaluator.limit ≤ counter then
    ⟨.answer (.error (.depthExceeded element.tag.name evaluator.limit)), frames, counter, world⟩
  else
    match evaluator.registry.lookup element.tag.name with
    | some handler =>
      match handler.policy.check element with
      | .error error => ⟨.answer (.error error), .call element :: frames, counter + 1, world⟩
      | .ok () =>
        let surroundings := ⟨scope, counter + 1, evaluator.registry.names⟩
        ⟨.script surroundings (handler.script surroundings element), .call element :: frames,
          counter + 1, world⟩
    | none =>
      ⟨.nodes "" element.children, .call element :: frames, counter + 1,
        world.report (Evaluator.unknownEvent element.tag.name (counter + 1))⟩

/-- The first request of a script carried out. -/
def request (evaluator : Evaluator) (scope : Scope) (surroundings : Surroundings)
    (frames : List Frame) (counter : Nat) (world : World) : Script → State
  | .finish text => ⟨.answer (.ok text), frames, counter, world⟩
  | .fail error => ⟨.answer (.error error), frames, counter, world⟩
  | .evaluate nodes next =>
    ⟨.nodes "" nodes, .handler surroundings next :: frames, counter, world⟩
  | .load name next =>
    let (result, world) := evaluator.backend.load scope name world
    ⟨.script surroundings (next result), frames, counter, world⟩
  | .save name value next =>
    let (result, world) := evaluator.backend.save scope name value world
    ⟨.script surroundings (next result), frames, counter, world⟩
  | .share text next =>
    let (result, world) := evaluator.shareLog.record scope text world
    ⟨.script surroundings (next result), frames, counter, world⟩
  | .report event next => ⟨.script surroundings next, frames, counter, world.report event⟩

/-- An answer given to what is on top of the stack. Where the stack is empty, the run is over. -/
def resume (result : Except EvalError String) (counter : Nat) (world : World) :
    List Frame → Option State
  | [] => none
  | .siblings before rest :: frames =>
    match result with
    | .ok text => some ⟨.nodes (before ++ text) rest, frames, counter, world⟩
    | .error error => some ⟨.answer (.error error), frames, counter, world⟩
  | .call _ :: frames => some ⟨.answer result, frames, counter - 1, world⟩
  | .handler surroundings next :: frames =>
    some ⟨.script surroundings (next result), frames, counter, world⟩

/-- One step. -/
def step (evaluator : Evaluator) (scope : Scope) : State → Option State
  | ⟨.nodes before [], frames, counter, world⟩ =>
    some ⟨.answer (.ok before), frames, counter, world⟩
  | ⟨.nodes before (.text content :: rest), frames, counter, world⟩ =>
    some ⟨.nodes (before ++ content) rest, frames, counter, world⟩
  | ⟨.nodes before (.leaf tag :: rest), frames, counter, world⟩ =>
    some ⟨.element ⟨tag, none⟩, .siblings before rest :: frames, counter, world⟩
  | ⟨.nodes before (.container tag children :: rest), frames, counter, world⟩ =>
    some ⟨.element ⟨tag, some children⟩, .siblings before rest :: frames, counter, world⟩
  | ⟨.element element, frames, counter, world⟩ =>
    some (enter evaluator scope element frames counter world)
  | ⟨.script surroundings script, frames, counter, world⟩ =>
    some (request evaluator scope surroundings frames counter world script)
  | ⟨.answer result, frames, counter, world⟩ => resume result counter world frames

/-- Any number of steps. -/
abbrev Reaches (evaluator : Evaluator) (scope : Scope) : State → State → Prop :=
  Relation.ReflTransGen fun state next => step evaluator scope state = some next

/-- The machine at the start of a template. -/
def start (template : List Node) (world : World) : State :=
  ⟨.nodes "" template, [], 0, world⟩

/-- The machine with its work answered. Its stack and its counter are what they were. -/
def State.answered (state : State) (outcome : Except EvalError String × World) : State :=
  { state with focus := .answer outcome.1, world := outcome.2 }

/-- A piece of work that is begun at this counter is answered by `run`, whatever it is a part of,
    with the stack and the counter as they were. -/
def Answers (evaluator : Evaluator) (scope : Scope) (counter : Nat) (focus : Focus)
    (run : World → Except EvalError String × World) : Prop :=
  ∀ frames world, Reaches evaluator scope ⟨focus, frames, counter, world⟩
    (State.answered ⟨focus, frames, counter, world⟩ (run world))

variable {evaluator : Evaluator} {scope : Scope} {counter : Nat}

theorem step_nodes_element (evaluator : Evaluator) (scope : Scope) {first : Node}
    {opened : Element} (h : first.element? = some opened) (before : String) (rest : List Node)
    (frames : List Frame) (counter : Nat) (world : World) :
    step evaluator scope ⟨.nodes before (first :: rest), frames, counter, world⟩
      = some ⟨.element opened, .siblings before rest :: frames, counter, world⟩ := by
  cases first with
  | text content => cases h
  | leaf tag =>
      cases h
      rfl
  | container tag children =>
      cases h
      rfl

/-- An outcome with the text of what came before put in front. -/
def behind (before : String) (outcome : Except EvalError String × World) :
    Except EvalError String × World :=
  (outcome.1.map (before ++ ·), outcome.2)

theorem behind_empty (outcome : Except EvalError String × World) : behind "" outcome = outcome := by
  rcases outcome with ⟨result, world⟩
  cases result with
  | error error => rfl
  | ok text => rw [behind, Except.map, String.empty_append]

/-- What is behind one node is behind that node's text as well. -/
theorem behind_concatenate (before text : String)
    (element : Element → World → Except EvalError String × World) (rest : List Node)
    (world : World) :
    behind (before ++ text) (Evaluator.concatenate element rest world)
      = behind before
          (match Evaluator.concatenate element rest world with
          | (.ok more, world) => (.ok (text ++ more), world)
          | (.error error, world) => (.error error, world)) := by
  rcases Evaluator.concatenate element rest world with ⟨result, after⟩
  cases result with
  | error error => rfl
  | ok more => rw [behind, behind, Except.map, Except.map, String.append_assoc]

/-- Nodes are answered one after the other, behind the text of those before them. -/
theorem answers_concatenate {element : Element → World → Except EvalError String × World}
    (helement : ∀ opened, Answers evaluator scope counter (.element opened) (element opened))
    (before : String) (nodes : List Node) :
    Answers evaluator scope counter (.nodes before nodes) fun world =>
      behind before (Evaluator.concatenate element nodes world) := by
  intro frames world
  induction nodes generalizing before world with
  | nil =>
      have hempty : before ++ "" = before := String.append_empty
      dsimp only
      rw [Evaluator.concatenate, behind, Except.map, hempty]
      exact .single rfl
  | cons first rest ih =>
      dsimp only at ih ⊢
      rw [Evaluator.concatenate]
      cases hfirst : first.element? with
      | none =>
          cases first with
          | leaf tag => cases hfirst
          | container tag children => cases hfirst
          | text content =>
              have hrest := ih (before ++ content) world
              rw [behind_concatenate] at hrest
              exact .head rfl hrest
      | some opened =>
          have hbegin := step_nodes_element evaluator scope hfirst before rest frames counter world
          have hopened := helement opened (.siblings before rest :: frames) world
          rw [Evaluator.node_of_element hfirst]
          -- The answer to the element comes back to its siblings.
          refine .head hbegin (hopened.trans ?_)
          rcases element opened world with ⟨result, between⟩
          cases result with
          | error error => exact .single rfl
          | ok text =>
              have hrest := ih (before ++ text) between
              rw [behind_concatenate] at hrest
              exact .head rfl hrest

/-- Nodes with nothing in front of them are answered one after the other. -/
theorem answers_siblings {element : Element → World → Except EvalError String × World}
    (helement : ∀ opened, Answers evaluator scope counter (.element opened) (element opened))
    (nodes : List Node) :
    Answers evaluator scope counter (.nodes "" nodes) (Evaluator.concatenate element nodes) := by
  have hnodes := answers_concatenate helement "" nodes
  simp only [behind_empty] at hnodes
  exact hnodes

/-- A script is answered request by request. -/
theorem answers_perform {evaluate : List Node → World → Except EvalError String × World}
    (hevaluate : ∀ nodes, Answers evaluator scope counter (.nodes "" nodes) (evaluate nodes))
    (surroundings : Surroundings) (script : Script) :
    Answers evaluator scope counter (.script surroundings script)
      (evaluator.perform scope evaluate script) := by
  intro frames world
  induction script generalizing world with
  | finish text => exact .single rfl
  | fail error => exact .single rfl
  | evaluate nodes next ih =>
      have hnodes := hevaluate nodes (.handler surroundings next :: frames) world
      exact .head rfl (hnodes.trans (.head rfl (ih _ _)))
  | load name next ih => exact .head rfl (ih _ _)
  | save name value next ih => exact .head rfl (ih _ _)
  | share text next ih => exact .head rfl (ih _ _)
  | report event next ih => exact .head rfl (ih _)

/-- An element is answered as the evaluator answers it with the levels that the counter leaves. -/
theorem answers_element (scope : Scope) {levels : Nat} (h : counter + levels = evaluator.limit)
    (opened : Element) :
    Answers evaluator scope counter (.element opened) (evaluator.element scope levels opened) := by
  -- Induction on the levels that are left. The elements inside find the counter one higher.
  induction levels generalizing counter opened with
  | zero =>
      intro frames world
      have hfull : evaluator.limit ≤ counter := Nat.le_of_eq h.symm
      have henter : enter evaluator scope opened frames counter world
          = ⟨.answer (.error (.depthExceeded opened.tag.name evaluator.limit)), frames, counter,
              world⟩ := if_pos hfull
      exact .single (congrArg some henter)
  | succ levels ih =>
      intro frames world
      have hroom : ¬ evaluator.limit ≤ counter := by omega
      have hdepth : evaluator.limit - levels = counter + 1 := by omega
      have hbelow : counter + 1 + levels = evaluator.limit := by omega
      have hinside := answers_siblings (ih hbelow)
      rw [Evaluator.element, Evaluator.dispatch, hdepth]
      -- However the element is answered one level further down, the counter goes down again.
      suffices hcall : Reaches evaluator scope (enter evaluator scope opened frames counter world)
          ⟨.answer _, .call opened :: frames, counter + 1, _⟩ from
        .head rfl (hcall.tail rfl)
      rw [enter, if_neg hroom]
      cases hlookup : evaluator.registry.lookup opened.tag.name with
      | none => exact hinside opened.children _ _
      | some handler =>
          dsimp only
          cases handler.policy.check opened with
          | error error => exact .refl
          | ok u => exact answers_perform hinside _ _ _ _

/-- Nodes are answered as the evaluator answers them with the levels that the counter leaves. -/
theorem answers_nodes (scope : Scope) {levels : Nat} (h : counter + levels = evaluator.limit)
    (nodes : List Node) :
    Answers evaluator scope counter (.nodes "" nodes) (evaluator.nodes scope levels nodes) :=
  answers_siblings (answers_element scope h) nodes

/-- A template is answered as the evaluator answers it. -/
theorem reaches_answered (evaluator : Evaluator) (scope : Scope) (template : List Node)
    (world : World) :
    Reaches evaluator scope (start template world)
      ((start template world).answered (evaluator.nodes scope evaluator.limit template world)) :=
  answers_nodes scope (Nat.zero_add _) template [] world

variable {state other final : State}

/-- A run that can end comes to that end from wherever it is. -/
theorem reaches_end (hfinal : Reaches evaluator scope state final)
    (hend : step evaluator scope final = none) (hother : Reaches evaluator scope state other) :
    Reaches evaluator scope other final := by
  have hunique : Relator.RightUnique fun state next => step evaluator scope state = some next :=
    fun _ _ _ h h' => Option.some.inj (h.symm.trans h')
  rcases Relation.ReflTransGen.total_of_right_unique hunique hother hfinal with hon | hback
  · exact hon
  · -- Nothing comes behind the end.
    rcases hback.cases_head with rfl | ⟨next, hnext, _⟩
    · exact .refl
    · rw [hend] at hnext
      cases hnext

/-- A run that can end does not go on for ever. -/
theorem not_endless (hfinal : Reaches evaluator scope state final)
    (hend : step evaluator scope final = none) (states : Nat → State) (hfirst : states 0 = state) :
    ¬ ∀ n, step evaluator scope (states n) = some (states (n + 1)) := by
  intro hsteps
  induction hfinal using Relation.ReflTransGen.head_induction_on generalizing states with
  | refl =>
      have hnext := hsteps 0
      rw [hfirst, hend] at hnext
      cases hnext
  | head hstep _ ih =>
      have hnext := hsteps 0
      rw [hfirst, hstep] at hnext
      exact ih (fun n => states (n + 1)) (Option.some.inj hnext).symm fun n => hsteps (n + 1)

end Machine

end Colloquy
