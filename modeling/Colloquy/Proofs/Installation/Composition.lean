import Colloquy.Proofs.Evaluation.State
import Colloquy.Proofs.Installation.Depth
import Mathlib.Control.Monad.Basic

/-!
# Answers Put Together

Markup can be put together, and the answer to it is put together in the same way. Of two templates
that are written one behind the other, the first is answered and then the second; a template that is
written into a `think` is answered without its text. Both hold for answers that are errors, too,
with everything that was done up to the error.

Reading comes first. Templates that can be read can be read together, unless a run of text goes on
from one into the other, and what is read inside an element is what is read by itself. What was read
is then evaluated in parts, and an evaluation depends on nothing that a part could be without: it
does not look at the events before it, and it does not ask how many elements are around it.

## Theorems

* `inTurn_mapError`: Errors may be put into another form before or after.
* `respond_eq`: The answer to a template that can be read.
* `respond_append`, `respond_think`: Templates one behind the other, and inside a `think`.
* `answers_compose`: Both of them, for installations with any settings.
-/

namespace Colloquy

open Grammar

/-- Errors of two answers may be put into another form before the answers are given in turn or
    afterwards. -/
theorem inTurn_mapError {ε ε' : Type} (lift : ε → ε')
    (first second : World → Except ε String × World) (world : World) :
    inTurn (fun world => ((first world).1.mapError lift, (first world).2))
        (fun world => ((second world).1.mapError lift, (second world).2)) world
      = ((inTurn first second world).1.mapError lift, (inTurn first second world).2) := by
  rw [inTurn, inTurn]
  -- After a failure there is no second answer, so it is lifted once in any case.
  rcases first world with ⟨result, between⟩
  cases result with
  | error error => rfl
  | ok text =>
      dsimp only [Except.mapError]
      rcases second between with ⟨result, after⟩
      cases result with
      | error error => rfl
      | ok more => rfl

namespace Installation

open World (SameState)

variable {installation : Installation}

/-- The answer to a template that can be read is that of its evaluation. -/
theorem respond_eq {source : String} {nodes : List Node}
    (h : parseTemplate source installation.evaluator.limit = .ok nodes) (scope : Scope) :
    installation.respond scope source = fun world =>
      ((installation.evaluator.evaluate scope nodes world).1.mapError .evaluation,
        (installation.evaluator.evaluate scope nodes world).2) := by
  funext world
  rw [respond, h]
  dsimp only
  rw [evaluate]
  rcases installation.evaluator.evaluate scope nodes world with ⟨result, after⟩
  cases result with
  | error error => rfl
  | ok text => rfl

section Standard

variable {properties : Properties} {emptyDefault : String}
  (hstandard : installation.evaluator.IsStandard properties emptyDefault)
include hstandard

/-- Templates that are written one behind the other are answered in turn. -/
theorem respond_append {first second : String} {nodes more : List Node}
    (hfirst : parseTemplate first installation.evaluator.limit = .ok nodes)
    (hsecond : parseTemplate second installation.evaluator.limit = .ok more)
    (hstop : IsStop second.toList) (scope : Scope) (world : World) :
    (installation.respond scope (first ++ second) world).1
        = (inTurn (installation.respond scope first) (installation.respond scope second)
            world).1 ∧
      SameState (installation.respond scope (first ++ second) world).2
        (inTurn (installation.respond scope first) (installation.respond scope second)
          world).2 := by
  rcases Evaluator.evaluate_append hstandard scope nodes more world with ⟨hresult, hafter⟩
  -- Failures of reading are out of the question here, so only those of the evaluation are lifted.
  rw [respond_eq (parseTemplate_append hfirst hsecond hstop), respond_eq hfirst,
    respond_eq hsecond, inTurn_mapError]
  exact ⟨congrArg (Except.mapError Failure.evaluation) hresult, hafter⟩

/-- A template inside a `think` is answered without its text. -/
theorem respond_think (hpositive : 0 < installation.evaluator.limit)
    (hceiling : installation.evaluator.limit ≤ nestingCeiling) {source : String}
    {nodes : List Node}
    (hread : parseTemplate source (installation.evaluator.limit - 1) = .ok nodes) (scope : Scope)
    (world : World) :
    (installation.respond scope ("<think>" ++ source ++ "</think>") world).1
        = (installation.respond scope source world).1.map (fun _ => "") ∧
      SameState (installation.respond scope ("<think>" ++ source ++ "</think>") world).2
        (installation.respond scope source world).2 := by
  -- What is read inside the element takes a level more than by itself, and the limit has it.
  have hname : IsName "think".toList := ⟨by decide, List.all_eq_true.mp (by decide)⟩
  have hstart : "<" ++ "think" ++ ">" = "<think>" := by decide
  have hstop : "</" ++ "think" ++ ">" = "</think>" := by decide
  have hinside := parseTemplate_inside hname (by omega) hread
  rw [Nat.sub_add_cancel hpositive, hstart, hstop] at hinside
  -- By itself the template has a level to spare.
  have hplain : parseTemplate source installation.evaluator.limit = .ok nodes := by
    rcases parseTemplate_of_le (Nat.sub_le installation.evaluator.limit 1) source with
      hsame | ⟨offset, tag, max, hdeep⟩
    · exact hsame.trans hread
    · rw [hdeep] at hread
      cases hread
  have hroom : ∀ place ∈ outline 0 nodes, place.around + 1 < installation.evaluator.limit := by
    rw [parseTemplate_eq_ok, Reader.build_eq_ok_iff] at hread
    intro place hplace
    have hlt := hread.2 place hplace
    omega
  rcases Evaluator.evaluate_think hstandard hpositive hroom scope world with ⟨hresult, hafter⟩
  rw [respond_eq hinside, respond_eq hplain]
  refine ⟨?_, hafter⟩
  dsimp only
  rw [hresult]
  rcases installation.evaluator.evaluate scope nodes world with ⟨result, after⟩
  cases result with
  | error error => rfl
  | ok text => rfl

end Standard

/-- Two templates that are written one behind the other, the second of them empty or starting with
    markup, are answered in turn: with both texts or the first error, and with what was done up to
    it. A template inside a `think`, where it has one level less, is answered without its text, and
    otherwise as it is by itself. -/
theorem answers_compose {settings : Settings} {backend : Backend}
    (h : ofSettings settings backend = .ok installation) (scope : Scope) (world : World) :
    (∀ first second nodes more, parseTemplate first installation.evaluator.limit = .ok nodes →
      parseTemplate second installation.evaluator.limit = .ok more → IsStop second.toList →
      (installation.respond scope (first ++ second) world).1
          = (inTurn (installation.respond scope first) (installation.respond scope second)
              world).1 ∧
        SameState (installation.respond scope (first ++ second) world).2
          (inTurn (installation.respond scope first) (installation.respond scope second)
            world).2) ∧
    ∀ source nodes, parseTemplate source (installation.evaluator.limit - 1) = .ok nodes →
      (installation.respond scope ("<think>" ++ source ++ "</think>") world).1
          = (installation.respond scope source world).1.map (fun _ => "") ∧
        SameState (installation.respond scope ("<think>" ++ source ++ "</think>") world).2
          (installation.respond scope source world).2 := by
  rcases isStandard_of_ofSettings h with ⟨hstandard, hpositive, hceiling⟩
  constructor
  · intro first second nodes more hfirst hsecond hstop
    exact respond_append hstandard hfirst hsecond hstop scope world
  · intro source nodes hread
    exact respond_think hstandard hpositive hceiling hread scope world

/-- Something that is set in one template and looked up in the next, with no more levels than the
    first one needs inside a `think`. -/
theorem answers_compose_remembered :
    ∃ installation, ofSettings { maxDepth := 2 } .memory = .ok installation ∧
      let scope : Scope := ⟨"alice", "aria"⟩
      let first := "So <set name='mood'>fine</set>"
      let second := "<get name='mood'/>"
      (∃ nodes, parseTemplate first installation.evaluator.limit = .ok nodes) ∧
      (∃ nodes, parseTemplate second installation.evaluator.limit = .ok nodes) ∧
      IsStop second.toList ∧
      (∃ nodes, parseTemplate first (installation.evaluator.limit - 1) = .ok nodes) ∧
      (installation.respond scope (first ++ second) {}).1 = .ok "So finefine" ∧
      SameState (installation.respond scope (first ++ second) {}).2
        (inTurn (installation.respond scope first) (installation.respond scope second) {}).2 ∧
      (installation.respond scope ("<think>" ++ first ++ "</think>") {}).1 = .ok "" ∧
      SameState (installation.respond scope ("<think>" ++ first ++ "</think>") {}).2
        (installation.respond scope first {}).2 := by
  have hread (source : String) (limit : Nat)
      (h : (parseTemplate source limit).map (fun _ => ()) = .ok ()) :
      ∃ nodes, parseTemplate source limit = .ok nodes := by
    cases hparse : parseTemplate source limit with
    | ok nodes => exact ⟨nodes, rfl⟩
    | error error =>
        rw [hparse] at h
        cases h
  refine ⟨_, rfl, ?_⟩
  intro scope first second
  rcases hread first 2 (by decide +kernel) with ⟨nodes, hfirst⟩
  rcases hread second 2 (by decide +kernel) with ⟨more, hsecond⟩
  rcases hread first 1 (by decide +kernel) with ⟨inside, hinside⟩
  have hhead : second.toList.head? = some '<' := by decide
  -- The second template starts with a tag, so no run of text goes on in it.
  have hstop : IsStop second.toList := by
    intro c hc
    rw [hhead] at hc
    cases hc
    rfl
  rcases @answers_compose _ { maxDepth := 2 } .memory rfl scope {} with ⟨happend, hthink⟩
  rcases happend first second nodes more hfirst hsecond hstop with ⟨hanswer, hstate⟩
  rcases hthink first inside hinside with ⟨hanswer', hstate'⟩
  exact ⟨⟨nodes, hfirst⟩, ⟨more, hsecond⟩, hstop, ⟨inside, hinside⟩,
    hanswer.trans (by decide +kernel), hstate, hanswer'.trans (by decide +kernel), hstate'⟩

end Installation

end Colloquy
