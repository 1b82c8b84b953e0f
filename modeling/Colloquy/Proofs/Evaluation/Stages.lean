import Colloquy.Proofs.Evaluation.Deeds
import Colloquy.Proofs.Evaluation.Standard

/-!
# The Deeds of the Standard Handlers

What an element with a standard handler does, and when. A handler that evaluates content does
nothing before, and at most one thing behind: `set` saves the text of its content and `gossip`
records it. A handler that evaluates none does nothing that lasts at all.

`Script.IsStaged` says this of a script, and `IsStandard.isStaged` of every standard handler. After
that, handlers need not be looked at again: `elementDeeds_succ` gives what an element does in the
three stages of `Evaluator.dispatch_eq`.

## Main definitions

* `Script.IsQuiet`: A script that does nothing that lasts.
* `Script.IsClosing`: A script that does one thing at most, and succeeds if that is done.
* `Script.IsStaged`: A script that is quiet, or evaluates content and then closes.
* `Standard.deed?`: What an element does with the text of its content.

## Theorems

* `IsStandard.isStaged`: The scripts of the standard handlers are staged.
* `elementDeeds_succ`: What an element does, in three stages.
-/

namespace Colloquy

/-- What an element does with the text of its content, if it does anything that lasts. -/
def Standard.deed? (scope : Scope) (element : Element) (content : String) : Option Deed :=
  if element.tag.name = "set" then some (.saved scope (nameOf element) content)
  else if element.tag.name = "gossip" then some (.recorded scope content)
  else none

namespace Script

/-- A script that evaluates nothing and does nothing that lasts. -/
inductive IsQuiet : Script → Prop where
  | finish (text : String) : IsQuiet (.finish text)
  | fail (error : EvalError) : IsQuiet (.fail error)
  | load {name : String} {next : Except StoreError (Option String) → Script}
      (h : ∀ result, (next result).IsQuiet) : IsQuiet (.load name next)
  | report {event : Event} {next : Script} (h : next.IsQuiet) : IsQuiet (.report event next)

/-- A script that does this, or nothing, and then succeeds if it was done. -/
inductive IsClosing (scope : Scope) : Option Deed → Script → Prop where
  | finish (text : String) : IsClosing scope none (.finish text)
  | save (name value text : String) :
      IsClosing scope (some (.saved scope name value)) (.saveThen name value (.finish text))
  | share (content text : String) :
      IsClosing scope (some (.recorded scope content)) (.shareThen content (.finish text))

/-- A script that does nothing that lasts, or else evaluates this content first and then does with
    its text what is said. -/
inductive IsStaged (scope : Scope) (content : List Node) (deed? : String → Option Deed) :
    Script → Prop where
  | quiet {script : Script} (h : script.IsQuiet) : IsStaged scope content deed? script
  | content {next : String → Script} (h : ∀ text, (next text).IsClosing scope (deed? text)) :
      IsStaged scope content deed? (.evaluateThen content next)

end Script

namespace Standard

open Script

theorem isStaged_setPredicate {element : Element} (hname : element.tag.name = "set")
    (surroundings : Surroundings) :
    (setPredicate.script surroundings element).IsStaged surroundings.scope element.children
      (deed? surroundings.scope element) := by
  dsimp only [setPredicate]
  split
  · exact .quiet (.fail _)
  · refine .content fun text => ?_
    rw [deed?, if_pos hname]
    exact .save _ _ _

theorem isStaged_gossip {element : Element} (hname : element.tag.name = "gossip")
    (surroundings : Surroundings) :
    (gossip.script surroundings element).IsStaged surroundings.scope element.children
      (deed? surroundings.scope element) := by
  refine .content fun text => ?_
  rw [deed?, if_neg (by rw [hname]; decide), if_pos hname]
  exact .share _ _

theorem isStaged_think {element : Element} (hname : element.tag.name = "think")
    (surroundings : Surroundings) :
    (think.script surroundings element).IsStaged surroundings.scope element.children
      (deed? surroundings.scope element) := by
  refine .content fun text => ?_
  rw [deed?, if_neg (by rw [hname]; decide), if_neg (by rw [hname]; decide)]
  exact .finish _

theorem isQuiet_getPredicate (emptyDefault : String) (surroundings : Surroundings)
    (element : Element) :
    ((getPredicate emptyDefault).script surroundings element).IsQuiet := by
  dsimp only [getPredicate]
  split
  · exact .finish _
  · refine .load fun result => ?_
    cases result with
    | ok value => exact .finish _
    | error error => exact .fail _

theorem isQuiet_property (properties : Properties) (surroundings : Surroundings)
    (element : Element) : ((property properties).script surroundings element).IsQuiet := by
  dsimp only [property]
  split
  · exact .finish _
  · split
    · exact .finish _
    · exact .report (.finish _)

end Standard

namespace Evaluator

variable {evaluator : Evaluator} {properties : Properties} {emptyDefault : String} {scope : Scope}

/-- Which handler an element has, by its name. -/
theorem IsStandard.lookup_cases (h : evaluator.IsStandard properties emptyDefault) (name : String) :
    (name = "set" ∧ evaluator.registry.lookup name = some Standard.setPredicate) ∨
    (name = "gossip" ∧ evaluator.registry.lookup name = some Standard.gossip) ∨
    (name = "think" ∧ evaluator.registry.lookup name = some Standard.think) ∨
    (name ≠ "set" ∧ name ≠ "gossip" ∧
      ((∃ handler, evaluator.registry.lookup name = some handler ∧
          ∀ surroundings element, (handler.script surroundings element).IsQuiet) ∨
        evaluator.registry.lookup name = none)) := by
  rw [h.lookup_eq]
  by_cases hset : name = "set"
  · exact .inl ⟨hset, by rw [hset]; rfl⟩
  by_cases hgossip : name = "gossip"
  · exact .inr (.inl ⟨hgossip, by rw [hgossip]; rfl⟩)
  by_cases hthink : name = "think"
  · exact .inr (.inr (.inl ⟨hthink, by rw [hthink]; rfl⟩))
  refine .inr (.inr (.inr ⟨hset, hgossip, ?_⟩))
  cases hfind : (Standard.handlers properties emptyDefault).find?
      fun handler => handler.name = name with
  | none => exact .inr rfl
  | some handler =>
      refine .inl ⟨handler, rfl, ?_⟩
      have hname := List.find?_some hfind
      rw [decide_eq_true_eq] at hname
      have hmem := List.mem_of_find?_eq_some hfind
      -- Three of the handlers have been named above, and the rest of them are quiet.
      simp only [Standard.handlers, List.mem_cons, List.not_mem_nil, or_false] at hmem
      rcases hmem with rfl | rfl | rfl | rfl | rfl | rfl
      · exact Standard.isQuiet_property properties
      · exact absurd hname.symm hgossip
      · exact Standard.isQuiet_getPredicate emptyDefault
      · exact absurd hname.symm hset
      · exact absurd hname.symm hthink
      · exact fun _ _ => .finish _

/-- The scripts of the standard handlers are staged, and what an element does that has no handler is
    nothing of its own. -/
theorem IsStandard.isStaged (h : evaluator.IsStandard properties emptyDefault)
    (surroundings : Surroundings) (element : Element) :
    (∀ handler, evaluator.registry.lookup element.tag.name = some handler →
      (handler.script surroundings element).IsStaged surroundings.scope element.children
        (Standard.deed? surroundings.scope element)) ∧
    (evaluator.registry.lookup element.tag.name = none → ∀ content,
      Standard.deed? surroundings.scope element content = none) := by
  constructor
  · intro handler hfound
    rcases h.lookup_cases element.tag.name with ⟨hname, hlookup⟩ | ⟨hname, hlookup⟩ |
      ⟨hname, hlookup⟩ | ⟨-, -, ⟨_, hlookup, hquiet⟩ | hlookup⟩
    all_goals cases hlookup.symm.trans hfound
    · exact Standard.isStaged_setPredicate hname surroundings
    · exact Standard.isStaged_gossip hname surroundings
    · exact Standard.isStaged_think hname surroundings
    · exact .quiet (hquiet surroundings element)
  · intro hnone content
    rcases h.lookup_cases element.tag.name with ⟨-, hlookup⟩ | ⟨-, hlookup⟩ | ⟨-, hlookup⟩ |
      ⟨hset, hgossip, -⟩
    · cases hlookup.symm.trans hnone
    · cases hlookup.symm.trans hnone
    · cases hlookup.symm.trans hnone
    · -- The name is none of the two that do something.
      rw [Standard.deed?, if_neg hset, if_neg hgossip]

theorem performDeeds_quiet (evaluator : Evaluator) (scope : Scope)
    (evaluate : List Node → World → Except EvalError String × World)
    (inner : List Node → World → List Deed) {script : Script} (h : script.IsQuiet)
    (world : World) : evaluator.performDeeds scope evaluate inner script world = [] := by
  induction h generalizing world with
  | finish text => rfl
  | fail error => rfl
  | load _ ih => exact ih _ _
  | report _ ih => exact ih _

/-- A closing script has done what it should if it succeeds, and nothing if it fails. -/
theorem performDeeds_closing (evaluator : Evaluator)
    (evaluate other : List Node → World → Except EvalError String × World)
    (inner : List Node → World → List Deed) {deed? : Option Deed} {script : Script}
    (h : script.IsClosing scope deed?) (world : World) :
    evaluator.performDeeds scope evaluate inner script world
      = match evaluator.perform scope other script world with
        | (.ok _, _) => deed?.toList
        | (.error _, _) => [] := by
  cases h with
  | finish text => rfl
  | save name value text =>
      -- The deed is done unless the store refuses it.
      simp only [Script.saveThen, performDeeds, perform]
      rcases evaluator.backend.save scope name value world with ⟨result, after⟩
      cases result <;> rfl
  | share content text =>
      simp only [Script.shareThen, performDeeds, perform]
      rcases evaluator.shareLog.record scope content world with ⟨result, after⟩
      cases result <;> rfl

/-- What an element does, in three stages: nothing if it is done on entering, and otherwise what its
    content does and then what it does itself with the text of its content. -/
theorem elementDeeds_succ (h : evaluator.IsStandard properties emptyDefault) (levels : Nat)
    (element : Element) (world : World) :
    evaluator.elementDeeds scope (levels + 1) element world
      = match evaluator.enter scope (evaluator.limit - levels) element world with
        | .done _ => []
        | .content between =>
          evaluator.deeds scope levels element.children between ++
            match evaluator.nodes scope levels element.children between with
            | (.ok text, after) =>
              match evaluator.leave scope (evaluator.limit - levels) element text after with
              | (.ok _, _) => (Standard.deed? scope element text).toList
              | (.error _, _) => []
            | (.error _, _) => [] := by
  rcases h.isStaged ⟨scope, evaluator.limit - levels, evaluator.registry.names⟩ element with
    ⟨hstaged, hnone⟩
  rw [elementDeeds, dispatchDeeds, enter]
  cases hlookup : evaluator.registry.lookup element.tag.name with
  | none =>
      simp only [leave, hlookup, hnone hlookup, Option.toList_none, deeds]
      -- An element that nobody knows has its content evaluated and does nothing itself.
      split <;> rw [List.append_nil]
  | some handler =>
      have hscript := hstaged handler hlookup
      simp only [leave, hlookup]
      cases handler.policy.check element with
      | error error => rfl
      | ok _ =>
          generalize handler.script ⟨scope, evaluator.limit - levels, evaluator.registry.names⟩
            element = script at hscript ⊢
          cases hscript with
          | quiet hquiet =>
              simp only [performDeeds_quiet _ _ _ _ hquiet]
              cases hquiet <;> rfl
          | content hclosing =>
              simp only [Script.evaluateThen, performDeeds, deeds]
              congr 1
              rcases evaluator.nodes scope levels element.children world with ⟨result, after⟩
              cases result with
              | error error => rfl
              | ok text => exact performDeeds_closing evaluator _ noContent _ (hclosing text) after

/-- Entering an element whose content is evaluated is no deed, and it changes nothing at all if the
    element has a handler. -/
theorem between_of_enter {depth : Nat} {element : Element} {world between : World}
    (henter : evaluator.enter scope depth element world = .content between) :
    (between = world ∧ ∃ handler, evaluator.registry.lookup element.tag.name = some handler) ∨
      (between = world.report (unknownEvent element.tag.name depth) ∧
        evaluator.registry.lookup element.tag.name = none) := by
  rw [enter] at henter
  cases hlookup : evaluator.registry.lookup element.tag.name with
  | none =>
      simp only [hlookup] at henter
      cases henter
      exact .inr ⟨rfl, rfl⟩
  | some handler =>
      simp only [hlookup] at henter
      split at henter
      · cases henter
      · -- Only a script that asks for its content first lets anyone in.
        split at henter
        · cases henter
          exact .inl ⟨rfl, handler, rfl⟩
        · cases henter

/-- Entering an element that does something that lasts changes nothing yet. -/
theorem between_of_deed? (h : evaluator.IsStandard properties emptyDefault) {depth : Nat}
    {element : Element} {world between : World} {content : String} {deed : Deed}
    (henter : evaluator.enter scope depth element world = .content between)
    (hdeed : Standard.deed? scope element content = some deed) : between = world := by
  rcases between_of_enter henter with ⟨hbetween, _⟩ | ⟨_, hlookup⟩
  · exact hbetween
  · rw [(h.isStaged ⟨scope, depth, []⟩ element).2 hlookup content] at hdeed
    cases hdeed

/-- An element that is done on entering without an error does nothing that lasts at all. -/
theorem deed?_of_enter_done (h : evaluator.IsStandard properties emptyDefault) {depth : Nat}
    {element : Element} {world after : World} {text : String}
    (henter : evaluator.enter scope depth element world = .done (.ok text, after))
    (content : String) : Standard.deed? scope element content = none := by
  rw [enter] at henter
  rcases h.lookup_cases element.tag.name with ⟨hname, hlookup⟩ | ⟨hname, hlookup⟩ |
    ⟨hname, hlookup⟩ | ⟨hset, hgossip, _⟩
  · -- A set without a name fails, and any other one has its content evaluated.
    simp only [hlookup, Standard.setPredicate, ContentPolicy.check] at henter
    by_cases hempty : (Standard.nameOf element).isEmpty = true
    · simp only [hempty, if_true, perform] at henter
      cases henter
    · simp only [hempty, if_false, Bool.false_eq_true, Script.evaluateThen] at henter
      cases henter
  · simp only [hlookup, Standard.gossip] at henter
    split at henter <;> cases henter
  · rw [Standard.deed?, if_neg (by rw [hname]; decide), if_neg (by rw [hname]; decide)]
  · rw [Standard.deed?, if_neg hset, if_neg hgossip]

end Evaluator

end Colloquy
