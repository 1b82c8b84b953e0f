import Colloquy.Proofs.Evaluation.Depth
import Colloquy.Proofs.Evaluation.Simulation
import Mathlib.Control.Monad.Basic

/-!
# What the Limit on Levels Changes

A higher limit changes nothing but where evaluation is cut off. The two evaluations are followed
side by side, element by element, and the one with the higher limit always has as many levels more
as its limit is higher. Handlers are told the same depth in both, and so they do the same, until the
lower limit cuts off the evaluation that has it. From then on nothing can be compared, and nothing
has to be: a candid handler passes the error on, so the whole evaluation ends in it.

What an evaluation that was not cut off leaves behind is therefore left behind under every higher
limit, whether it succeeded or failed, and so are the events that it reported on the way.

Where evaluation is cut off is a matter of the tree. The elements before the one that finds no level
left have one each, so it is the first that is nested inside as many others as the limit.

## Main definitions

* `Outlasts`: An outcome is kept unless it is that of an evaluation that was cut off.

## Theorems

* `perform_outlasts`, `element_outlasts`: Two evaluations with different limits side by side.
* `limit_only_cuts_off`: A higher limit changes nothing unless the lower one cuts off.
-/

namespace Colloquy

namespace Evaluator

/-- The second outcome is the first one, unless the first is that of an evaluation that was cut off
    for want of levels. -/
def Outlasts (limit : Nat) (outcome outcome' : Except EvalError String × World) : Prop :=
  outcome' = outcome ∨ ∃ tag, outcome.1 = .error (.depthExceeded tag limit)

/-- The evaluator with a limit that is higher. -/
def raised (evaluator : Evaluator) (more : Nat) : Evaluator :=
  { evaluator with limit := evaluator.limit + more }

variable {evaluator : Evaluator} {properties : Properties} {emptyDefault : String} {scope : Scope}
  {more limit : Nat}

/-- A candid script does the same, or passes on that evaluation was cut off. -/
theorem perform_outlasts {evaluate evaluate' : List Node → World → Except EvalError String × World}
    (hevaluate : ∀ nodes world, Outlasts limit (evaluate nodes world) (evaluate' nodes world))
    {script : Script} (hscript : script.IsCandid) (world : World) :
    Outlasts limit (evaluator.perform scope evaluate script world)
      ((evaluator.raised more).perform scope evaluate' script world) := by
  induction hscript generalizing world with
  | finish text => exact .inl rfl
  | fail error => exact .inl rfl
  | @evaluate nodes next _ ih =>
      rw [perform, perform]
      -- The content is answered the same, or it is cut off and everything with it.
      rcases hevaluate nodes world with hsame | ⟨tag, hcut⟩
      · rw [hsame]
        rcases evaluate nodes world with ⟨result, after⟩
        cases result with
        | ok text => exact ih text after
        | error error => exact .inl rfl
      · rcases hresult : evaluate nodes world with ⟨result, after⟩
        rw [hresult] at hcut
        cases hcut
        exact .inr ⟨tag, rfl⟩
  | @load name next _ ih =>
      rw [perform, perform, raised]
      rcases evaluator.backend.load scope name world with ⟨result, after⟩
      cases result with
      | ok value => exact ih value after
      | error error => exact .inl rfl
  | @save name value next _ ih =>
      rw [perform, perform, raised]
      rcases evaluator.backend.save scope name value world with ⟨result, after⟩
      cases result with
      | ok u => exact ih u after
      | error error => exact .inl rfl
  | @share text next _ ih =>
      rw [perform, perform, raised]
      rcases evaluator.shareLog.record scope text world with ⟨result, after⟩
      cases result with
      | ok u => exact ih u after
      | error error => exact .inl rfl
  | report _ ih => exact ih _

theorem concatenate_outlasts {element element' : Element → World → Except EvalError String × World}
    (helement : ∀ opened world, Outlasts limit (element opened world) (element' opened world))
    (nodes : List Node) (world : World) :
    Outlasts limit (concatenate element nodes world) (concatenate element' nodes world) := by
  induction nodes generalizing world with
  | nil => exact .inl rfl
  | cons first rest ih =>
      have hfirst : Outlasts limit (node element first world) (node element' first world) := by
        cases first with
        | text content => exact .inl rfl
        | leaf tag => exact helement _ world
        | container tag children => exact helement _ world
      rw [concatenate, concatenate]
      rcases hresult : node element first world with ⟨result, between⟩
      rw [hresult] at hfirst
      rcases hfirst with hsame | ⟨tag, hcut⟩
      · rw [hsame]
        cases result with
        | error error => exact .inl rfl
        | ok text =>
            dsimp only
            -- The first one has come out the same, so the rest starts in one world.
            rcases ih between with hsame | ⟨tag, hcut⟩
            · rw [hsame]
              exact .inl rfl
            · rcases hrest : concatenate element rest between with ⟨result, after⟩
              rw [hrest] at hcut
              cases hcut
              exact .inr ⟨tag, rfl⟩
      · cases hcut
        exact .inr ⟨tag, rfl⟩

/-- An element does the same with more levels, unless there are not enough to begin with. -/
theorem element_outlasts (hstandard : evaluator.IsStandard properties emptyDefault) (more : Nat)
    (levels : Nat) (opened : Element) (world : World) :
    Outlasts evaluator.limit (evaluator.element scope levels opened world)
      ((evaluator.raised more).element scope (levels + more) opened world) := by
  -- Induction on the levels under the lower limit, where the end of them is the cut-off.
  induction levels generalizing opened world with
  | zero => exact .inr ⟨_, rfl⟩
  | succ levels ih =>
      have hcontent := concatenate_outlasts ih
      -- The depth that is counted down from either limit is the same.
      have hdepth : (evaluator.raised more).limit - (levels + more) = evaluator.limit - levels :=
        Nat.add_sub_add_right _ _ _
      rw [Nat.add_right_comm, element, element, hdepth, dispatch, dispatch]
      have hregistry : (evaluator.raised more).registry = evaluator.registry := rfl
      rw [hregistry]
      cases hlookup : evaluator.registry.lookup opened.tag.name with
      | none => exact hcontent _ _
      | some handler =>
          dsimp only
          cases handler.policy.check opened with
          | error error => exact .inl rfl
          | ok _ => exact perform_outlasts hcontent (hstandard.isCandid hlookup _ opened) world

/-- A higher limit changes nothing unless the lower one cuts off the evaluation: the result and the
    world afterwards are the same. If it does, then the error names the first element that is nested
    inside as many others as the limit. -/
theorem limit_only_cuts_off (hstandard : evaluator.IsStandard properties emptyDefault)
    {limit' : Nat} (hlt : evaluator.limit < limit') (scope : Scope) (nodes : List Node)
    (world : World) :
    ((∀ tag max, (evaluator.evaluate scope nodes world).1 ≠ .error (.depthExceeded tag max)) →
      { evaluator with limit := limit' }.evaluate scope nodes world
        = evaluator.evaluate scope nodes world) ∧
    ∀ tag max, (evaluator.evaluate scope nodes world).1 = .error (.depthExceeded tag max) →
      max = evaluator.limit ∧ ∃ before place after, outline 0 nodes = before ++ place :: after ∧
        place.tag.name = tag ∧ place.around = evaluator.limit ∧
        ∀ other ∈ before, other.around ≠ evaluator.limit := by
  constructor
  · intro hdone
    rcases Nat.exists_eq_add_of_lt hlt with ⟨more, rfl⟩
    have hnodes : Outlasts evaluator.limit (evaluator.nodes scope evaluator.limit nodes world)
        ((evaluator.raised (more + 1)).nodes scope (evaluator.limit + (more + 1)) nodes world) :=
      concatenate_outlasts (element_outlasts hstandard (more + 1) evaluator.limit) nodes world
    rcases hnodes with hsame | ⟨tag, hcut⟩
    · have hraised : (evaluator.raised (more + 1)).evaluate scope nodes world
          = evaluator.evaluate scope nodes world := by
        rw [evaluate, evaluate]
        exact congrArg (fun outcome : Except EvalError String × World =>
          (outcome.1, outcome.2.during (work scope) world.events.length)) hsame
      exact hraised
    · exact absurd hcut (hdone tag _)
  · intro tag max hcut
    rw [evaluate_fst] at hcut
    rcases hrun : evaluator.nodes scope evaluator.limit nodes world with ⟨result, after⟩
    rw [hrun] at hcut
    cases hcut
    -- It fails at some element, and only an element without a level fails with this error.
    rcases exists_failsAt hstandard _ _ _ hrun with ⟨index, hfails⟩
    rcases hfails.exists_outline hstandard 0 with
      ⟨before, place, behind, houtline, _, hbefore, ⟨haround, herror⟩ | ⟨_, hother⟩⟩
    · cases herror
      rw [Nat.zero_add] at hbefore haround
      exact ⟨rfl, before, place, behind, houtline, rfl, haround,
        fun other hmem => Nat.ne_of_lt (hbefore other hmem)⟩
    · exact absurd rfl (hother tag max)

/-- Two templates for an evaluator of one level. The first one fails before it comes to the element
    that has no level left, and a higher limit does not mend that; the second one is cut off. -/
theorem limit_only_cuts_off_one_level :
    ∃ registry, Standard.registry (fun _ _ => none) "" = .ok registry ∧
      let evaluator : Evaluator := ⟨registry, .memory, {}, 1⟩
      let scope : Scope := ⟨"alice", "aria"⟩
      let nameless : List Node := [.leaf ⟨"set", ∅⟩, .container ⟨"b", ∅⟩ [.leaf ⟨"id", ∅⟩]]
      let nested : List Node := [.leaf ⟨"id", ∅⟩, .container ⟨"b", ∅⟩ [.text "-", .leaf ⟨"get", ∅⟩]]
      evaluator.limit < 3 ∧
      { evaluator with limit := 3 }.evaluate scope nameless {}
        = evaluator.evaluate scope nameless {} ∧
      (evaluator.evaluate scope nested {}).1 = .error (.depthExceeded "get" 1) ∧
      ∃ before place after, outline 0 nested = before ++ place :: after ∧
        place.tag.name = "get" ∧ place.around = 1 ∧ ∀ other ∈ before, other.around ≠ 1 := by
  refine ⟨_, rfl, ?_⟩
  intro evaluator scope nameless nested
  have hstandard : evaluator.IsStandard (fun _ _ => none) "" := rfl
  have hlt : evaluator.limit < 3 := by decide
  have hfail : (evaluator.evaluate scope nameless {}).1
      = .error (.invalidContent "set" .missingName) := by decide +kernel
  have hcut : (evaluator.evaluate scope nested {}).1 = .error (.depthExceeded "get" 1) := by
    decide +kernel
  have hkept := (limit_only_cuts_off hstandard hlt scope nameless {}).1 (by
    rw [hfail]
    exact nofun)
  have hfirst := (limit_only_cuts_off hstandard hlt scope nested {}).2 _ _ hcut
  exact ⟨hlt, hkept, hcut, hfirst.2⟩

end Evaluator

end Colloquy
