import Colloquy.Proofs.Evaluation.Counter
import Colloquy.Proofs.Evaluation.Simulation

/-!
# Evaluation Ends

A handler may evaluate its own element again, so the tree alone does not say why an evaluation ends.
The levels do: an element that is evaluated again has one less, and a handler makes only so many
requests at each level. Both are in the evaluator already, which is a recursion on the levels with a
recursion on scripts and on nodes inside, and the machine comes to the same answer. What is left to
say is that the machine has no other way to go.

An element that only evaluates itself again uses up all levels that are left, so it fails for want
of one. From there the error goes down the stack: siblings and elements give it on, and so does
every handler that is not there to catch it. Candid handlers, which the standard ones are, never
catch an error, so where all handlers are candid it is enough that evaluation comes to the element.

## Main definitions

* `Script.EndsIn`: A script that ends in an error, whatever it is answered.
* `Machine.Frame.LetsPass`: What waits on the stack does not catch an error.
* `Registry.Loops`: An element that does nothing but evaluate itself again.
* `Machine.IsCandid`: What is at work and what waits pass on every error.

## Theorems

* `element_loops`: An element that evaluates itself again fails for want of levels.
* `letsPass_of_reaches`: Candid handlers never catch an error.
* `exists_reaches_error`: An error that nobody catches is the error of the whole evaluation.
* `evaluation_ends`: Evaluation ends, and an element that loops is what it ends in.
-/

namespace Colloquy

namespace Script

/-- A script that ends in this error, whatever its requests are answered. It may still do something
    before. -/
inductive EndsIn (error : EvalError) : Script → Prop where
  | fail : EndsIn error (.fail error)
  | evaluate {nodes : List Node} {next : Except EvalError String → Script}
      (h : ∀ result, (next result).EndsIn error) : EndsIn error (.evaluate nodes next)
  | load {name : String} {next : Except StoreError (Option String) → Script}
      (h : ∀ result, (next result).EndsIn error) : EndsIn error (.load name next)
  | save {name value : String} {next : Except StoreError Unit → Script}
      (h : ∀ result, (next result).EndsIn error) : EndsIn error (.save name value next)
  | share {text : String} {next : Except ShareLogError Unit → Script}
      (h : ∀ result, (next result).EndsIn error) : EndsIn error (.share text next)
  | report {event : Event} {next : Script}
      (h : next.EndsIn error) : EndsIn error (.report event next)

end Script

/-- An element that is let in by its handler, which then does nothing but evaluate it again. -/
def Registry.Loops (registry : Registry) (element : Element) : Prop :=
  ∃ handler, registry.lookup element.tag.name = some handler ∧
    handler.policy.check element = .ok () ∧
    ∀ surroundings, handler.script surroundings element = Reentrant.again surroundings element

/-- The handlers of a registry pass on every error that a request of theirs is answered with. -/
def Registry.IsCandid (registry : Registry) : Prop :=
  ∀ name handler, registry.lookup name = some handler →
    ∀ surroundings element, (handler.script surroundings element).IsCandid

/-- Candid handlers make a candid registry. -/
theorem Registry.isCandid_of_registerAll {registry : Registry} {handlers : List Handler}
    (h : Registry.registerAll {} handlers = .ok registry)
    (hhandlers : ∀ handler ∈ handlers, ∀ surroundings element,
      (handler.script surroundings element).IsCandid) : registry.IsCandid := by
  intro name handler hlookup
  rw [lookup_registerAll h] at hlookup
  exact hhandlers handler (List.mem_of_find?_eq_some hlookup)

namespace Machine

/-- What waits on the stack does not catch an error: siblings and elements never do, and a handler
    does not if it ends in that error itself. -/
def Frame.LetsPass (error : EvalError) : Frame → Prop
  | .siblings _ _ => True
  | .call _ => True
  | .handler _ next => (next (.error error)).EndsIn error

/-- What waits on the stack passes on every error. -/
def Frame.IsCandid : Frame → Prop
  | .siblings _ _ => True
  | .call _ => True
  | .handler _ next =>
    ∃ more : String → Script, next = Script.passOn id more ∧ ∀ text, (more text).IsCandid

theorem Frame.IsCandid.letsPass {frame : Frame} (h : frame.IsCandid) (error : EvalError) :
    frame.LetsPass error := by
  cases frame with
  | siblings before rest => trivial
  | call element => trivial
  | handler surroundings next =>
      rcases h with ⟨more, rfl, _⟩
      exact .fail

/-- What is at work and what waits on the stack pass on every error. -/
structure IsCandid (state : State) : Prop where
  waiting : ∀ frame ∈ state.frames, frame.IsCandid
  working : ∀ surroundings script, state.focus = .script surroundings script → script.IsCandid

variable {evaluator : Evaluator} {scope : Scope} {counter : Nat} {error : EvalError}
  {state next : State}

/-- A handler that is let in is candid if all handlers are. -/
theorem isCandid_enter (hregistry : evaluator.registry.IsCandid) {frames : List Frame}
    (hframes : ∀ frame ∈ frames, frame.IsCandid) (element : Element) (world : World) :
    IsCandid (enter evaluator scope element frames counter world) := by
  have hcall : ∀ frame ∈ Frame.call element :: frames, frame.IsCandid :=
    List.forall_mem_cons.mpr ⟨trivial, hframes⟩
  unfold enter
  split
  · exact ⟨hframes, nofun⟩
  · split
    · rename_i handler hlookup
      split
      · exact ⟨hcall, nofun⟩
      · refine ⟨hcall, ?_⟩
        rintro _ _ ⟨⟩
        exact hregistry _ handler hlookup _ _
    · exact ⟨hcall, nofun⟩

/-- A candid script is candid in what it waits with and in what it goes on with. -/
theorem isCandid_request {frames : List Frame} (hframes : ∀ frame ∈ frames, frame.IsCandid)
    {script : Script} (h : script.IsCandid) (surroundings : Surroundings) (world : World) :
    IsCandid (request evaluator scope surroundings frames counter world script) := by
  have hworking {script : Script} (h : script.IsCandid) (world : World) :
      IsCandid ⟨.script surroundings script, frames, counter, world⟩ := by
    refine ⟨hframes, ?_⟩
    rintro _ _ ⟨⟩
    exact h
  have hpassOn {ε α : Type} {lift : ε → EvalError} {more : α → Script}
      (h : ∀ value, (more value).IsCandid) (result : Except ε α) :
      (Script.passOn lift more result).IsCandid := by
    cases result with
    | error error => exact .fail _
    | ok value => exact h value
  cases h with
  | finish text => exact ⟨hframes, nofun⟩
  | fail error => exact ⟨hframes, nofun⟩
  | evaluate h => exact ⟨List.forall_mem_cons.mpr ⟨⟨_, rfl, h⟩, hframes⟩, nofun⟩
  | load h => exact hworking (hpassOn h _) _
  | save h => exact hworking (hpassOn h _) _
  | share h => exact hworking (hpassOn h _) _
  | report h => exact hworking h _

/-- Candid handlers stay candid with every step. -/
theorem IsCandid.step (hregistry : evaluator.registry.IsCandid) (h : IsCandid state)
    (hstep : step evaluator scope state = some next) : IsCandid next := by
  rcases state with ⟨focus, frames, counter, world⟩
  have hframes : ∀ frame ∈ frames, frame.IsCandid := h.waiting
  cases focus with
  | nodes before nodes =>
      have hsiblings (rest : List Node) :
          ∀ frame ∈ Frame.siblings before rest :: frames, frame.IsCandid :=
        List.forall_mem_cons.mpr ⟨trivial, hframes⟩
      cases nodes with
      | nil =>
          cases hstep
          exact ⟨hframes, nofun⟩
      | cons first rest =>
          cases first with
          | text content =>
              cases hstep
              exact ⟨hframes, nofun⟩
          | leaf tag =>
              cases hstep
              exact ⟨hsiblings rest, nofun⟩
          | container tag children =>
              cases hstep
              exact ⟨hsiblings rest, nofun⟩
  | element element =>
      cases hstep
      exact isCandid_enter hregistry hframes element world
  | script surroundings script =>
      cases hstep
      exact isCandid_request hframes (h.working _ _ rfl) surroundings world
  | answer result =>
      cases frames with
      | nil => cases hstep
      | cons frame frames =>
          rw [List.forall_mem_cons] at hframes
          rcases hframes with ⟨hframe, hframes⟩
          cases frame with
          | siblings before rest =>
              cases result with
              | ok text =>
                  cases hstep
                  exact ⟨hframes, nofun⟩
              | error error =>
                  cases hstep
                  exact ⟨hframes, nofun⟩
          | call element =>
              cases hstep
              exact ⟨hframes, nofun⟩
          | handler surroundings script =>
              cases hstep
              -- The script that waits has said that it passes every error on.
              rcases hframe with ⟨more, rfl, hmore⟩
              refine ⟨hframes, ?_⟩
              rintro _ _ ⟨⟩
              cases result with
              | error error => exact .fail error
              | ok text => exact hmore text

/-- Candid handlers never catch an error, wherever evaluation is. -/
theorem letsPass_of_reaches (hregistry : evaluator.registry.IsCandid) {template : List Node}
    {world : World} (hreaches : Reaches evaluator scope (start template world) state)
    (error : EvalError) : ∀ frame ∈ state.frames, frame.LetsPass error := by
  have hcandid : IsCandid state := by
    induction hreaches with
    | refl => exact ⟨nofun, nofun⟩
    | tail _ hstep ih => exact ih.step hregistry hstep
  exact fun frame hframe => (hcandid.waiting frame hframe).letsPass error

/-- An element that evaluates itself again fails for want of levels, however many it has. -/
theorem element_loops {opened : Element} (h : evaluator.registry.Loops opened) (levels : Nat)
    (world : World) :
    evaluator.element scope levels opened world
      = (.error (.depthExceeded opened.tag.name evaluator.limit), world) := by
  rcases h with ⟨handler, hlookup, hcheck, hscript⟩
  induction levels with
  | zero => rfl
  | succ levels ih =>
      -- Its own content is the element again, with one level less.
      have hagain : Evaluator.concatenate (evaluator.element scope levels) [opened.toNode] world
          = (.error (.depthExceeded opened.tag.name evaluator.limit), world) := by
        rw [Evaluator.concatenate_singleton,
          Evaluator.node_of_element (Evaluator.element?_toNode opened), ih]
      rw [Evaluator.element, Evaluator.dispatch, hlookup]
      dsimp only
      rw [hcheck]
      dsimp only
      rw [hscript, Reentrant.again, Script.evaluateThen, Evaluator.perform, hagain]
      rfl

/-- A script that ends in an error is answered with it. -/
theorem exists_reaches_of_endsIn (hcounter : counter ≤ evaluator.limit)
    (surroundings : Surroundings) {script : Script} (h : script.EndsIn error)
    (frames : List Frame) (world : World) :
    ∃ after, Reaches evaluator scope ⟨.script surroundings script, frames, counter, world⟩
      ⟨.answer (.error error), frames, counter, after⟩ := by
  induction h generalizing world with
  | fail => exact ⟨world, .single rfl⟩
  | @evaluate nodes next _ ih =>
      -- However the content is answered, the script goes on to its end in the error.
      have hnodes := answers_nodes scope (Nat.add_sub_cancel' hcounter) nodes
        (.handler surroundings next :: frames) world
      rcases ih _ _ with ⟨after, hafter⟩
      exact ⟨after, .head rfl (hnodes.trans (.head rfl hafter))⟩
  | load _ ih =>
      rcases ih _ _ with ⟨after, hafter⟩
      exact ⟨after, .head rfl hafter⟩
  | save _ ih =>
      rcases ih _ _ with ⟨after, hafter⟩
      exact ⟨after, .head rfl hafter⟩
  | share _ ih =>
      rcases ih _ _ with ⟨after, hafter⟩
      exact ⟨after, .head rfl hafter⟩
  | report _ ih =>
      rcases ih _ with ⟨after, hafter⟩
      exact ⟨after, .head rfl hafter⟩

/-- An error that nobody on the stack catches is what the whole run ends in. -/
theorem exists_reaches_error (hcounter : counter ≤ evaluator.limit) {frames : List Frame}
    (hframes : ∀ frame ∈ frames, frame.LetsPass error) (world : World) :
    ∃ counter' after, Reaches evaluator scope ⟨.answer (.error error), frames, counter, world⟩
      ⟨.answer (.error error), [], counter', after⟩ := by
  induction frames generalizing counter world with
  | nil => exact ⟨counter, world, .refl⟩
  | cons frame frames ih =>
      rw [List.forall_mem_cons] at hframes
      rcases hframes with ⟨hframe, hframes⟩
      cases frame with
      | siblings before rest =>
          rcases ih hcounter hframes world with ⟨counter', after, hafter⟩
          exact ⟨counter', after, .head rfl hafter⟩
      | call element =>
          rcases ih (Nat.le_trans (Nat.sub_le counter 1) hcounter) hframes world with
            ⟨counter', after, hafter⟩
          exact ⟨counter', after, .head rfl hafter⟩
      | handler surroundings next =>
          -- The handler may do more before it fails, but with this error and in these frames.
          rcases exists_reaches_of_endsIn hcounter surroundings hframe frames world with
            ⟨between, hbetween⟩
          rcases ih hcounter hframes between with ⟨counter', after, hafter⟩
          exact ⟨counter', after, .head rfl (hbetween.trans hafter)⟩

/-- Evaluation ends, whatever the template, the limit and the handlers are: the machine does not go
    on for ever, and wherever it is, it comes to the outcome of the evaluation. If it comes to an
    element that does nothing but evaluate itself again, and no handler that waits catches what
    becomes of that, then the whole evaluation fails with the error that this element has no level
    left, however deep it stands and whatever is around it. -/
theorem evaluation_ends (evaluator : Evaluator) (scope : Scope) (template : List Node)
    (world : World) :
    (∀ states : Nat → State, states 0 = start template world →
      ¬ ∀ n, step evaluator scope (states n) = some (states (n + 1))) ∧
    (∀ state, Reaches evaluator scope (start template world) state →
      Reaches evaluator scope state
        ((start template world).answered
          (evaluator.nodes scope evaluator.limit template world))) ∧
    ∀ state opened, Reaches evaluator scope (start template world) state →
      state.focus = .element opened → evaluator.registry.Loops opened →
      (∀ frame ∈ state.frames,
        frame.LetsPass (.depthExceeded opened.tag.name evaluator.limit)) →
      (evaluator.evaluate scope template world).1
        = .error (.depthExceeded opened.tag.name evaluator.limit) := by
  have hfinal := reaches_answered evaluator scope template world
  refine ⟨not_endless hfinal rfl, fun state => reaches_end hfinal rfl,
    fun state opened hreaches hfocus hloops hframes => ?_⟩
  have hbalanced := isBalanced_of_reaches (isBalanced_start evaluator template world) hreaches
  have hcounter := hbalanced.bounded
  rcases state with ⟨focus, frames, counter, between⟩
  cases hfocus
  -- The element fails, and its error goes down the whole stack.
  have hopened := answers_element scope (Nat.add_sub_cancel' hcounter) opened frames between
  rw [element_loops hloops] at hopened
  rcases exists_reaches_error hcounter hframes between with ⟨counter', after, herror⟩
  have hend := reaches_end hfinal rfl (hreaches.trans (hopened.trans herror))
  -- Nothing comes behind an answer with an empty stack, so it is the answer of the evaluation.
  rcases hend.cases_head with hsame | ⟨next, hnext, _⟩
  · rw [Evaluator.evaluate_fst]
    have hanswer := congrArg State.focus hsame
    exact (Focus.answer.inj hanswer).symm
  · cases hnext

/-- An element that loops, inside an element that is unknown, a set and a think, with a limit of
    six. -/
theorem evaluation_ends_inside_set :
    ∃ registry, Registry.registerAll {}
        (Standard.handlers (fun _ _ => none) "" ++ [Reentrant.ofName "loop"]) = .ok registry ∧
      let evaluator : Evaluator := ⟨registry, .memory, {}, 6⟩
      let scope : Scope := ⟨"alice", "aria"⟩
      let opened : Element := ⟨⟨"loop", ∅⟩, none⟩
      let template : List Node := [.text "a", .container ⟨"think", ∅⟩ [
        .container ⟨"set", Dictionary.ofList [("name", "n")]⟩ [
          .text "b", .container ⟨"x", ∅⟩ [opened.toNode]]], .text "c"]
      registry.Loops opened ∧
      (∃ state, Reaches evaluator scope (start template {}) state ∧ state.focus = .element opened ∧
        ∀ frame ∈ state.frames, frame.LetsPass (.depthExceeded "loop" 6)) ∧
      (evaluator.evaluate scope template {}).1 = .error (.depthExceeded "loop" 6) := by
  refine ⟨_, rfl, ?_⟩
  intro evaluator scope opened template
  have hregistry : Registry.registerAll {}
      (Standard.handlers (fun _ _ => none) "" ++ [Reentrant.ofName "loop"])
        = .ok evaluator.registry := rfl
  have hcandid : evaluator.registry.IsCandid := by
    refine Registry.isCandid_of_registerAll hregistry
      fun handler hhandler surroundings element => ?_
    rcases List.mem_append.mp hhandler with hstandard | hloop
    · exact Standard.isCandid_script hstandard surroundings element
    · rw [List.mem_singleton.mp hloop]
      exact Script.isCandid_evaluateThen .finish
  have hloops : evaluator.registry.Loops opened :=
    ⟨Reentrant.ofName "loop", rfl, rfl, fun _ => rfl⟩
  have hreaches : ∃ state, Reaches evaluator scope (start template {}) state ∧
      state.focus = .element opened :=
    ⟨_, .head rfl (.head rfl (.head rfl (.head rfl (.head rfl (.head rfl (.head rfl
      (.head rfl (.head rfl (.head rfl (.single rfl)))))))))), rfl⟩
  rcases hreaches with ⟨state, hstate, hfocus⟩
  have hframes := letsPass_of_reaches hcandid hstate (.depthExceeded "loop" 6)
  have hfails := (evaluation_ends evaluator scope template {}).2.2 state opened hstate hfocus
    hloops hframes
  exact ⟨hloops, ⟨state, hstate, hfocus, hframes⟩, hfails⟩

end Machine

end Colloquy
