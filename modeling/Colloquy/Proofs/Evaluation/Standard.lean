import Colloquy.Evaluation.Evaluator
import Colloquy.Evaluation.Standard

/-!
# What the Standard Handlers Ask For

Every standard handler asks for its content at most once, as its first request, and makes an error
in it its own. An element without a handler does the same. So with the standard handlers an element
has three stages: it is entered, its content is evaluated unless it was done on entering, and it is
left with the text of its content. That is `dispatch_eq`, and evaluation is then an induction on the
tree: nothing about it needs a handler to be looked at again.

## Main definitions

* `Script.IsPlain`: A script that asks for no evaluation.
* `Evaluator.IsStandard`: The handlers are the standard ones.
* `Evaluator.enter`, `Evaluator.leave`: The stages of an element before and behind its content.

## Theorems

* `lookup_registerAll`: Which handler a registry has for a name.
* `dispatch_eq`: The three stages of an element.
-/

namespace Colloquy

namespace Registry

theorem lookup_register {registry more : Registry} {handler : Handler}
    (h : registry.register handler = .ok more) (name : String) :
    registry.lookup handler.name = none ∧
      more.lookup name = if name = handler.name then some handler else registry.lookup name := by
  unfold register at h
  split at h
  · cases h
  · split at h
    · cases h
    · rename_i hnew
      cases h
      refine ⟨Option.not_isSome_iff_eq_none.mp hnew, ?_⟩
      by_cases hname : name = handler.name
      · rw [if_pos hname, hname]
        exact Dictionary.get?_insert_self _ _ _
      · rw [if_neg hname]
        exact Dictionary.get?_insert_of_ne registry.handlers hname handler

/-- A registry has the handlers that it had before and those that were registered. No name is among
    both. -/
theorem lookup_registerAll {registry more : Registry} {handlers : List Handler}
    (h : registry.registerAll handlers = .ok more) (name : String) :
    more.lookup name
      = (registry.lookup name).or (handlers.find? fun handler => handler.name = name) := by
  induction handlers generalizing registry with
  | nil =>
      cases h
      rw [List.find?_nil, Option.or_none]
  | cons handler handlers ih =>
      unfold registerAll at h
      split at h
      · -- The first handler is in the registry between, and its name was free before.
        rename_i between hregister
        rcases lookup_register hregister name with ⟨hfree, hlookup⟩
        rw [ih h, hlookup]
        by_cases hname : name = handler.name
        · have hfirst : (handler :: handlers).find? (fun other => other.name = handler.name)
              = some handler := List.find?_cons_of_pos (decide_eq_true rfl)
          rw [if_pos hname, hname, hfree, hfirst]
          rfl
        · rw [if_neg hname, List.find?_cons_of_neg]
          exact fun heq => hname (of_decide_eq_true heq).symm
      · cases h

/-- Handlers are registered if each of them has a name that neither the registry knows nor another
    one of them has. -/
theorem exists_registerAll {registry : Registry} {handlers : List Handler}
    (hnames : (handlers.map (·.name)).Nodup)
    (hfree : ∀ handler ∈ handlers, handler.name ≠ "" ∧ registry.lookup handler.name = none) :
    ∃ more, registry.registerAll handlers = .ok more := by
  induction handlers generalizing registry with
  | nil => exact ⟨registry, rfl⟩
  | cons handler handlers ih =>
      rw [List.map_cons, List.nodup_cons] at hnames
      rw [List.forall_mem_cons] at hfree
      rcases hfree with ⟨⟨hname, hnew⟩, hfree⟩
      have hregister : registry.register handler
          = .ok ⟨registry.handlers.insert handler.name handler⟩ := by
        have hempty := String.isEmpty_eq_false_iff.mpr hname
        have hcontains : registry.handlers.contains handler.name = false := by
          rw [Dictionary.contains]
          exact Option.isSome_eq_false_iff.mpr (Option.isNone_iff_eq_none.mpr hnew)
        rw [register, hempty, hcontains]
        rfl
      rw [registerAll, hregister]
      -- Registering this handler takes no name from those that are left.
      refine ih hnames.2 fun other hother => ⟨(hfree other hother).1, ?_⟩
      have hne : other.name ≠ handler.name := fun heq =>
        hnames.1 (heq ▸ List.mem_map_of_mem hother)
      rw [(lookup_register hregister other.name).2, if_neg hne]
      exact (hfree other hother).2

end Registry

theorem Element.hasChildren_eq_false {element : Element} (h : element.children = []) :
    element.hasChildren = false := by
  rw [hasChildren, h]
  rfl

namespace ContentPolicy

theorem check_ne_depthExceeded {policy : ContentPolicy} {element : Element} {error : EvalError}
    (h : policy.check element = .error error) (tag : String) (limit : Nat) :
    error ≠ .depthExceeded tag limit := by
  rintro rfl
  unfold check at h
  split at h
  · split at h <;> cases h
  · split at h <;> cases h
  · cases h

theorem children_of_check_forbidden {element : Element} {u : Unit}
    (h : forbidden.check element = .ok u) : element.children = [] := by
  rw [check] at h
  split at h
  · cases h
  · rename_i hnone
    simpa only [Element.hasChildren, Bool.not_eq_true, Bool.not_eq_false', List.isEmpty_iff]
      using hnone

end ContentPolicy

namespace Script

/-- A script that asks for no evaluation, and whose errors are therefore its own. -/
inductive IsPlain : Script → Prop where
  | finish (text : String) : IsPlain (.finish text)
  | fail {error : EvalError} (h : ∀ tag limit, error ≠ .depthExceeded tag limit) :
      IsPlain (.fail error)
  | load {name : String} {next : Except StoreError (Option String) → Script}
      (h : ∀ result, (next result).IsPlain) : IsPlain (.load name next)
  | save {name value : String} {next : Except StoreError Unit → Script}
      (h : ∀ result, (next result).IsPlain) : IsPlain (.save name value next)
  | share {text : String} {next : Except ShareLogError Unit → Script}
      (h : ∀ result, (next result).IsPlain) : IsPlain (.share text next)
  | report {event : Event} {next : Script} (h : next.IsPlain) : IsPlain (.report event next)

/-- A script for an element with this content and this policy that evaluates the content first,
    makes an error in it its own and then evaluates nothing more. It passes over content only where
    there can be none, or where it fails. -/
inductive IsOrderly (policy : ContentPolicy) (content : List Node) : Script → Prop where
  | plain {script : Script} (hpolicy : policy = .forbidden) (hplain : script.IsPlain) :
      IsOrderly policy content script
  | refuse {error : EvalError} (h : ∀ tag limit, error ≠ .depthExceeded tag limit) :
      IsOrderly policy content (.fail error)
  | evaluate {next : Except EvalError String → Script}
      (hfail : ∀ error, next (.error error) = .fail error)
      (hplain : ∀ text, (next (.ok text)).IsPlain) :
      IsOrderly policy content (.evaluate content next)

theorem isPlain_loadThen {name : String} {next : Option String → Script}
    (h : ∀ value, (next value).IsPlain) : (loadThen name next).IsPlain := by
  refine .load fun result => ?_
  cases result with
  | ok value => exact h value
  | error error => exact .fail nofun

theorem isPlain_saveThen {name value : String} {next : Script} (h : next.IsPlain) :
    (saveThen name value next).IsPlain := by
  refine .save fun result => ?_
  cases result with
  | ok _ => exact h
  | error error => exact .fail nofun

theorem isPlain_shareThen {text : String} {next : Script} (h : next.IsPlain) :
    (shareThen text next).IsPlain := by
  refine .share fun result => ?_
  cases result with
  | ok _ => exact h
  | error error => exact .fail nofun

theorem isOrderly_evaluateThen {policy : ContentPolicy} {content : List Node}
    {next : String → Script} (h : ∀ text, (next text).IsPlain) :
    (evaluateThen content next).IsOrderly policy content :=
  .evaluate (fun _ => rfl) h

end Script

namespace Standard

open Script

/-- The scripts of the standard handlers are orderly. -/
theorem isOrderly_script {properties : Properties} {emptyDefault : String} {handler : Handler}
    (h : handler ∈ handlers properties emptyDefault) (surroundings : Surroundings)
    (element : Element) :
    (handler.script surroundings element).IsOrderly handler.policy element.children := by
  simp only [handlers, List.mem_cons, List.not_mem_nil, or_false] at h
  rcases h with rfl | rfl | rfl | rfl | rfl | rfl
  · -- A property forbids content, and a missing one is no more than reported.
    refine .plain rfl ?_
    dsimp only [property]
    split
    · exact .finish _
    · split
      · exact .finish _
      · exact .report (.finish _)
  · exact isOrderly_evaluateThen fun text => isPlain_shareThen (.finish "")
  · -- Reading a predicate forbids content as well.
    refine .plain rfl ?_
    dsimp only [getPredicate]
    split
    · exact .finish _
    · exact isPlain_loadThen fun value => .finish _
  · -- Saving without a name passes over the content, but then it fails.
    dsimp only [setPredicate]
    split
    · exact .refuse nofun
    · exact isOrderly_evaluateThen fun text => isPlain_saveThen (.finish text)
  · exact isOrderly_evaluateThen fun _ => .finish ""
  · exact .plain rfl (.finish _)

/-- The standard handlers can be registered together. -/
theorem exists_registry (properties : Properties) (emptyDefault : String) :
    ∃ standard, registry properties emptyDefault = .ok standard := by
  have hnames : (handlers properties emptyDefault).map (·.name)
      = ["bot", "gossip", "get", "set", "think", "id"] := rfl
  refine Registry.exists_registerAll (hnames ▸ by decide) fun handler hhandler => ⟨?_, rfl⟩
  have hmem := List.mem_map_of_mem (f := (·.name)) hhandler
  rw [hnames] at hmem
  rintro hempty
  rw [hempty] at hmem
  exact absurd hmem (by decide)

end Standard

namespace Evaluator

/-- The handlers of an evaluator are the standard ones. -/
def IsStandard (evaluator : Evaluator) (properties : Properties) (emptyDefault : String) : Prop :=
  Standard.registry properties emptyDefault = .ok evaluator.registry

variable {evaluator : Evaluator} {properties : Properties} {emptyDefault : String}

theorem IsStandard.lookup_eq (h : evaluator.IsStandard properties emptyDefault) (name : String) :
    evaluator.registry.lookup name
      = (Standard.handlers properties emptyDefault).find? fun handler => handler.name = name := by
  rw [Registry.lookup_registerAll h]
  rfl

theorem IsStandard.mem_handlers (h : evaluator.IsStandard properties emptyDefault) {name : String}
    {handler : Handler} (hlookup : evaluator.registry.lookup name = some handler) :
    handler ∈ Standard.handlers properties emptyDefault := by
  rw [h.lookup_eq] at hlookup
  exact List.mem_of_find?_eq_some hlookup

/-- A script that asks for no evaluation is carried out in one way, and it does not fail for want of
    levels. -/
theorem perform_plain (evaluator : Evaluator) (scope : Scope) {script : Script} (h : script.IsPlain)
    (evaluate other : List Node → World → Except EvalError String × World) (world : World) :
    evaluator.perform scope evaluate script world = evaluator.perform scope other script world := by
  induction h generalizing world with
  | finish text => rfl
  | fail _ => rfl
  | load _ ih => exact ih _ _
  | save _ ih => exact ih _ _
  | share _ ih => exact ih _ _
  | report _ ih => exact ih _

theorem perform_plain_ne (scope : Scope) {script : Script} (h : script.IsPlain)
    (evaluate : List Node → World → Except EvalError String × World) (world : World)
    (tag : String) (limit : Nat) :
    (evaluator.perform scope evaluate script world).1 ≠ .error (.depthExceeded tag limit) := by
  induction h generalizing world with
  | finish text => nofun
  | fail hne => exact fun heq => hne tag limit (Except.error.inj heq)
  | load _ ih => exact ih _ _
  | save _ ih => exact ih _ _
  | share _ ih => exact ih _ _
  | report _ ih => exact ih _

/-- How an element starts: it is done without its content, or its content is evaluated next. -/
inductive Entrance where
  | done (outcome : Except EvalError String × World)
  | content (world : World)

/-- What stands for evaluation where none is asked for. -/
def noContent (_ : List Node) (world : World) : Except EvalError String × World :=
  (.ok "", world)

/-- What an element does before its content is evaluated. -/
def enter (evaluator : Evaluator) (scope : Scope) (depth : Nat) (element : Element)
    (world : World) : Entrance :=
  match evaluator.registry.lookup element.tag.name with
  | none => .content (world.report (unknownEvent element.tag.name depth))
  | some handler =>
    match handler.policy.check element with
    | .error error => .done (.error error, world)
    | .ok () =>
      match handler.script ⟨scope, depth, evaluator.registry.names⟩ element with
      | .evaluate _ _ => .content world
      | script => .done (evaluator.perform scope noContent script world)

/-- What an element does with the text of its content. -/
def leave (evaluator : Evaluator) (scope : Scope) (depth : Nat) (element : Element)
    (text : String) (world : World) : Except EvalError String × World :=
  match evaluator.registry.lookup element.tag.name with
  | none => (.ok text, world)
  | some handler =>
    match handler.script ⟨scope, depth, evaluator.registry.names⟩ element with
    | .evaluate _ next => evaluator.perform scope noContent (next (.ok text)) world
    | _ => (.ok text, world)

/-- What is known of an element that has a handler: the handler is one of the standard ones, and so
    its script is orderly. -/
theorem IsStandard.isOrderly (h : evaluator.IsStandard properties emptyDefault) {name : String}
    {handler : Handler} (hlookup : evaluator.registry.lookup name = some handler)
    (surroundings : Surroundings) (element : Element) :
    (handler.script surroundings element).IsOrderly handler.policy element.children :=
  Standard.isOrderly_script (h.mem_handlers hlookup) surroundings element

/-- An element is entered, its content is evaluated unless the element is done by then, and it is
    left with the text of its content. -/
theorem dispatch_eq (h : evaluator.IsStandard properties emptyDefault) (scope : Scope)
    (depth : Nat) (evaluate : List Node → World → Except EvalError String × World)
    (element : Element) (world : World) :
    evaluator.dispatch scope depth evaluate element world
      = match evaluator.enter scope depth element world with
        | .done outcome => outcome
        | .content world =>
          match evaluate element.children world with
          | (.ok text, world) => evaluator.leave scope depth element text world
          | (.error error, world) => (.error error, world) := by
  cases hlookup : evaluator.registry.lookup element.tag.name with
  | none =>
      simp only [dispatch, enter, leave, hlookup]
      rcases evaluate element.children _ with ⟨result, after⟩
      cases result with
      | ok text => rfl
      | error error => rfl
  | some handler =>
      simp only [dispatch, enter, leave, hlookup]
      cases hcheck : handler.policy.check element with
      | error error => rfl
      | ok _ =>
          -- All that is known of the script from here on is that it is orderly.
          have horderly := h.isOrderly hlookup ⟨scope, depth, evaluator.registry.names⟩ element
          generalize handler.script ⟨scope, depth, evaluator.registry.names⟩ element = script
            at horderly ⊢
          cases horderly with
          | plain _ hplain =>
              -- It is done on entering, where nothing stands for the evaluation of content.
              have hperform := perform_plain evaluator scope hplain evaluate noContent world
              cases hplain with
              | finish text => rfl
              | fail _ => rfl
              | load _ => exact hperform
              | save _ => exact hperform
              | share _ => exact hperform
              | report _ => exact hperform
          | refuse _ => rfl
          | evaluate hfail hplain =>
              -- The rest of the script is plain, so it can do without the evaluation of content.
              rw [perform]
              dsimp only
              rcases evaluate element.children world with ⟨result, after⟩
              cases result with
              | ok text => exact perform_plain evaluator scope (hplain text) _ _ after
              | error error => rw [hfail, perform]

/-- An element that is done on entering has not failed for want of levels, and if it has not failed
    at all then it has no content. -/
theorem enter_done (h : evaluator.IsStandard properties emptyDefault) {scope : Scope} {depth : Nat}
    {element : Element} {world : World} {outcome : Except EvalError String × World}
    (henter : evaluator.enter scope depth element world = .done outcome) :
    (∀ tag limit, outcome.1 ≠ .error (.depthExceeded tag limit)) ∧
      ((∃ text, outcome.1 = .ok text) → element.children = []) := by
  unfold enter at henter
  split at henter
  · cases henter
  · rename_i handler hlookup
    split at henter
    · rename_i error hcheck
      cases henter
      refine ⟨fun tag limit heq => ?_, fun ⟨text, hok⟩ => nomatch hok⟩
      exact ContentPolicy.check_ne_depthExceeded hcheck tag limit (Except.error.inj heq)
    · rename_i hcheck
      have horderly := h.isOrderly hlookup ⟨scope, depth, evaluator.registry.names⟩ element
      generalize handler.script ⟨scope, depth, evaluator.registry.names⟩ element = script
        at horderly henter
      cases horderly with
      | plain hpolicy hplain =>
          -- The policy has been checked before, and it forbids content.
          rw [hpolicy] at hcheck
          have hperform : evaluator.perform scope noContent script world = outcome := by
            cases hplain <;> exact Entrance.done.inj henter
          rw [← hperform]
          exact ⟨perform_plain_ne scope hplain noContent world,
            fun _ => ContentPolicy.children_of_check_forbidden hcheck⟩
      | refuse hne =>
          cases henter
          exact ⟨fun tag limit heq => hne tag limit (Except.error.inj heq),
            fun ⟨_, hok⟩ => nomatch hok⟩
      | evaluate _ _ => cases henter

/-- An element that is left does not fail for want of levels. -/
theorem leave_ne (h : evaluator.IsStandard properties emptyDefault) (scope : Scope) (depth : Nat)
    (element : Element) (content : String) (world : World) (tag : String) (limit : Nat) :
    (evaluator.leave scope depth element content world).1 ≠ .error (.depthExceeded tag limit) := by
  unfold leave
  split
  · nofun
  · rename_i handler hlookup
    have horderly := h.isOrderly hlookup ⟨scope, depth, evaluator.registry.names⟩ element
    generalize handler.script ⟨scope, depth, evaluator.registry.names⟩ element = script
      at horderly ⊢
    cases horderly with
    | plain _ hplain => cases hplain <;> nofun
    | refuse _ => nofun
    | evaluate _ hplain => exact perform_plain_ne scope (hplain content) noContent world tag limit

end Evaluator

end Colloquy
