import Colloquy.Proofs.Evaluation.Standard
import Colloquy.Installation

/-!
# Two Evaluations Side by Side

Handlers reach a store and a share log only by their answers. So two evaluators with the same
handlers evaluate a template alike as long as their stores and share logs answer alike, whatever the
worlds look like behind the answers. What "alike" demands of two worlds is up to a relation, and all
that has to be shown of it is that single requests keep it.

Answers may be allowed to differ where one of the two failed for a reason that is nobody's concern,
such as a full disk. Such an error is excused: from then on nothing is claimed. This makes sense
because handlers are candid. An error that a request is answered with is the error of the whole
evaluation, so it can be seen from the outside whether there was one.

## Main definitions

* `Agrees`: Two outcomes that are alike, or of which one is excused.
* `Script.IsCandid`: A script that passes on every error.
* `Evaluator.Simulates`: Two evaluators whose stores and share logs answer alike.

## Theorems

* `isCandid_script`: The standard handlers are candid.
* `Simulates.perform`, `Simulates.element`, `Simulates.evaluate`: Two evaluations side by side.
* `respond_agrees`: Two answers to a template side by side.
-/

namespace Colloquy

variable {ε α : Type}

/-- Two outcomes that agree: the results are the same in related worlds, or one of them is an error
    that is excused. -/
inductive Agrees (excused : ε → Prop) (related : World → World → Prop) :
    Except ε α × World → Except ε α × World → Prop where
  | same (result : Except ε α) {world world' : World} (h : related world world') :
      Agrees excused related (result, world) (result, world')
  | left {error : ε} (h : excused error) (world : World) (outcome : Except ε α × World) :
      Agrees excused related (.error error, world) outcome
  | right {error : ε} (h : excused error) (outcome : Except ε α × World) (world : World) :
      Agrees excused related outcome (.error error, world)

namespace Agrees

variable {excused : ε → Prop} {related : World → World → Prop}
  {outcome outcome' : Except ε α × World}

/-- Where neither outcome is excused, they are the same in related worlds. -/
theorem same_of_not_excused (h : Agrees excused related outcome outcome')
    (hleft : ∀ error, outcome.1 = .error error → ¬ excused error)
    (hright : ∀ error, outcome'.1 = .error error → ¬ excused error) :
    outcome.1 = outcome'.1 ∧ related outcome.2 outcome'.2 := by
  cases h with
  | same result hrelated => exact ⟨rfl, hrelated⟩
  | left hexcused _ _ => exact absurd hexcused (hleft _ rfl)
  | right hexcused _ _ => exact absurd hexcused (hright _ rfl)

/-- Where every error is excused and success has nothing to say, it is enough that the worlds are
    related afterwards. -/
theorem of_related {done done' : Except ε Unit × World} (hexcused : ∀ error, excused error)
    (h : related done.2 done'.2) : Agrees excused related done done' := by
  rcases done with ⟨result, after⟩
  rcases done' with ⟨result', after'⟩
  cases result with
  | error error => exact .left (hexcused error) _ _
  | ok _ =>
      cases result' with
      | error error => exact .right (hexcused error) _ _
      | ok _ => exact .same _ h

end Agrees

namespace Script

/-- The rest of a script that passes on an error as its own. -/
def passOn (lift : ε → EvalError) (next : α → Script) : Except ε α → Script
  | .ok value => next value
  | .error error => .fail (lift error)

/-- A script that passes on every error that a request is answered with. -/
inductive IsCandid : Script → Prop where
  | finish (text : String) : IsCandid (.finish text)
  | fail (error : EvalError) : IsCandid (.fail error)
  | evaluate {nodes : List Node} {next : String → Script} (h : ∀ text, (next text).IsCandid) :
      IsCandid (.evaluate nodes (passOn id next))
  | load {name : String} {next : Option String → Script} (h : ∀ value, (next value).IsCandid) :
      IsCandid (.load name (passOn .store next))
  | save {name value : String} {next : Unit → Script} (h : ∀ u, (next u).IsCandid) :
      IsCandid (.save name value (passOn .store next))
  | share {text : String} {next : Unit → Script} (h : ∀ u, (next u).IsCandid) :
      IsCandid (.share text (passOn .shareLog next))
  | report {event : Event} {next : Script} (h : next.IsCandid) : IsCandid (.report event next)

theorem isCandid_evaluateThen {nodes : List Node} {next : String → Script}
    (h : ∀ text, (next text).IsCandid) : (evaluateThen nodes next).IsCandid := by
  have hnext : evaluateThen nodes next = .evaluate nodes (passOn id next) :=
    congrArg (evaluate nodes) (funext fun result => by cases result <;> rfl)
  exact hnext ▸ .evaluate h

theorem isCandid_loadThen {name : String} {next : Option String → Script}
    (h : ∀ value, (next value).IsCandid) : (loadThen name next).IsCandid := by
  have hnext : loadThen name next = .load name (passOn .store next) :=
    congrArg (load name) (funext fun result => by cases result <;> rfl)
  exact hnext ▸ .load h

theorem isCandid_saveThen {name value : String} {next : Script} (h : next.IsCandid) :
    (saveThen name value next).IsCandid := by
  have hnext : saveThen name value next = .save name value (passOn .store fun _ => next) :=
    congrArg (save name value) (funext fun result => by cases result <;> rfl)
  exact hnext ▸ .save fun _ => h

theorem isCandid_shareThen {text : String} {next : Script} (h : next.IsCandid) :
    (shareThen text next).IsCandid := by
  have hnext : shareThen text next = .share text (passOn .shareLog fun _ => next) :=
    congrArg (share text) (funext fun result => by cases result <;> rfl)
  exact hnext ▸ .share fun _ => h

end Script

namespace Standard

open Script

/-- The scripts of the standard handlers are candid. -/
theorem isCandid_script {properties : Properties} {emptyDefault : String} {handler : Handler}
    (h : handler ∈ handlers properties emptyDefault) (surroundings : Surroundings)
    (element : Element) : (handler.script surroundings element).IsCandid := by
  simp only [handlers, List.mem_cons, List.not_mem_nil, or_false] at h
  rcases h with rfl | rfl | rfl | rfl | rfl | rfl
  · dsimp only [property]
    -- Without a name there is nothing to look up, and a property that is not there is reported.
    split
    · exact .finish _
    · split
      · exact .finish _
      · exact .report (.finish _)
  · exact isCandid_evaluateThen fun _ => isCandid_shareThen (.finish _)
  · dsimp only [getPredicate]
    split
    · exact .finish _
    · exact isCandid_loadThen fun _ => .finish _
  · dsimp only [setPredicate]
    split
    · exact .fail _
    · exact isCandid_evaluateThen fun _ => isCandid_saveThen (.finish _)
  · exact isCandid_evaluateThen fun _ => .finish _
  · exact .finish _

end Standard

namespace Evaluator

variable {evaluator evaluator' : Evaluator} {properties : Properties} {emptyDefault : String}
  {scope : Scope} {excused : EvalError → Prop} {related : World → World → Prop}

theorem IsStandard.isCandid (h : evaluator.IsStandard properties emptyDefault) {name : String}
    {handler : Handler} (hlookup : evaluator.registry.lookup name = some handler)
    (surroundings : Surroundings) (element : Element) :
    (handler.script surroundings element).IsCandid :=
  Standard.isCandid_script (h.mem_handlers hlookup) surroundings element

/-- Two evaluators with the same handlers whose stores and share logs answer a conversation alike.
    Events do not matter. -/
structure Simulates (evaluator evaluator' : Evaluator) (scope : Scope) (excused : EvalError → Prop)
    (related : World → World → Prop) : Prop where
  registry : evaluator'.registry = evaluator.registry
  limit : evaluator'.limit = evaluator.limit
  events : ∀ {world world' : World}, related world world' → ∀ events events',
    related { world with events } { world' with events := events' }
  load : ∀ {world world' : World}, related world world' → ∀ name,
    Agrees (fun error => excused (.store error)) related
      (evaluator.backend.load scope name world) (evaluator'.backend.load scope name world')
  save : ∀ {world world' : World}, related world world' → ∀ name value,
    Agrees (fun error => excused (.store error)) related
      (evaluator.backend.save scope name value world)
      (evaluator'.backend.save scope name value world')
  share : ∀ {world world' : World}, related world world' → ∀ text,
    Agrees (fun error => excused (.shareLog error)) related
      (evaluator.shareLog.record scope text world) (evaluator'.shareLog.record scope text world')

namespace Simulates

variable (h : Simulates evaluator evaluator' scope excused related)
include h

theorem report {world world' : World} (hrelated : related world world') (event event' : Event) :
    related (world.report event) (world'.report event') :=
  h.events hrelated _ _

omit h in
/-- The rest of a candid script is carried out alike, if the answers to a request agree. -/
theorem perform_passOn {evaluate evaluate' : List Node → World → Except EvalError String × World}
    (lift : ε → EvalError) {next : α → Script}
    (hnext : ∀ value {world world' : World}, related world world' →
      Agrees excused related (evaluator.perform scope evaluate (next value) world)
        (evaluator'.perform scope evaluate' (next value) world'))
    {outcome outcome' : Except ε α × World}
    (hagrees : Agrees (fun error => excused (lift error)) related outcome outcome') :
    Agrees excused related
      (evaluator.perform scope evaluate (Script.passOn lift next outcome.1) outcome.2)
      (evaluator'.perform scope evaluate' (Script.passOn lift next outcome'.1) outcome'.2) := by
  cases hagrees with
  | same result hrelated =>
      -- A failure is passed on as it is, and the script is over.
      cases result with
      | ok value => exact hnext value hrelated
      | error error => exact .same _ hrelated
  | left hexcused _ _ => exact .left hexcused _ _
  | right hexcused _ _ => exact .right hexcused _ _

/-- Candid scripts are carried out alike, if the nodes that they evaluate are evaluated alike. -/
theorem perform {evaluate evaluate' : List Node → World → Except EvalError String × World}
    (hevaluate : ∀ {world world'}, related world world' → ∀ nodes,
      Agrees excused related (evaluate nodes world) (evaluate' nodes world'))
    {script : Script} (hscript : script.IsCandid) {world world' : World}
    (hrelated : related world world') :
    Agrees excused related (evaluator.perform scope evaluate script world)
      (evaluator'.perform scope evaluate' script world') := by
  induction hscript generalizing world world' with
  | finish text => exact .same _ hrelated
  | fail error => exact .same _ hrelated
  | evaluate _ ih => exact perform_passOn id (fun text _ _ => ih text) (hevaluate hrelated _)
  | load _ ih => exact perform_passOn .store (fun value _ _ => ih value) (h.load hrelated _)
  | save _ ih => exact perform_passOn .store (fun u _ _ => ih u) (h.save hrelated _ _)
  | share _ ih => exact perform_passOn .shareLog (fun u _ _ => ih u) (h.share hrelated _)
  | report _ ih => exact ih (h.report hrelated _ _)

omit h in
/-- Nodes are evaluated alike if elements are. -/
theorem concatenate {element element' : Element → World → Except EvalError String × World}
    (helement : ∀ {world world'}, related world world' → ∀ opened,
      Agrees excused related (element opened world) (element' opened world'))
    (nodes : List Node) {world world' : World} (hrelated : related world world') :
    Agrees excused related (Evaluator.concatenate element nodes world)
      (Evaluator.concatenate element' nodes world') := by
  induction nodes generalizing world world' with
  | nil => exact .same _ hrelated
  | cons first rest ih =>
      have hfirst : Agrees excused related (node element first world)
          (node element' first world') := by
        cases first with
        | text content => exact .same _ hrelated
        | leaf tag => exact helement hrelated _
        | container tag children => exact helement hrelated _
      rw [Evaluator.concatenate, Evaluator.concatenate]
      generalize node element first world = outcome, node element' first world' = outcome'
        at hfirst ⊢
      cases hfirst with
      | left hexcused _ _ => exact .left hexcused _ _
      | right hexcused _ _ => exact .right hexcused _ _
      | @same result between between' hbetween =>
          cases result with
          | error error => exact .same _ hbetween
          | ok text =>
              -- Both go on, in worlds that are still related.
              have hrest := ih hbetween
              simp only []
              generalize Evaluator.concatenate element rest between = outcome,
                Evaluator.concatenate element' rest between' = outcome' at hrest ⊢
              cases hrest with
              | same result hrelated => cases result <;> exact .same _ hrelated
              | left hexcused _ _ => exact .left hexcused _ _
              | right hexcused _ _ => exact .right hexcused _ _

/-- Elements are evaluated alike. -/
theorem element (hstandard : evaluator.IsStandard properties emptyDefault) (levels : Nat)
    {world world' : World} (hrelated : related world world') (opened : Element) :
    Agrees excused related (evaluator.element scope levels opened world)
      (evaluator'.element scope levels opened world') := by
  induction levels generalizing world world' opened with
  | zero =>
      rw [Evaluator.element, Evaluator.element, h.limit]
      exact .same _ hrelated
  | succ levels ih =>
      -- The content is evaluated with one level less, so it is evaluated alike.
      have hcontent := fun {world world'} (hrelated : related world world') nodes =>
        Simulates.concatenate (fun hrelated opened => ih hrelated opened) nodes hrelated
      rw [Evaluator.element, Evaluator.element, dispatch, dispatch, h.registry, h.limit]
      cases hlookup : evaluator.registry.lookup opened.tag.name with
      | none => exact hcontent (h.report hrelated _ _) opened.children
      | some handler =>
          simp only []
          cases handler.policy.check opened with
          | error error => exact .same _ hrelated
          | ok _ => exact h.perform hcontent (hstandard.isCandid hlookup _ opened) hrelated

/-- Templates are evaluated alike. -/
theorem evaluate (hstandard : evaluator.IsStandard properties emptyDefault) (template : List Node)
    {world world' : World} (hrelated : related world world') :
    Agrees excused related (evaluator.evaluate scope template world)
      (evaluator'.evaluate scope template world') := by
  have hnodes := Simulates.concatenate
    (fun hrelated opened => h.element hstandard evaluator.limit hrelated opened) template hrelated
  rw [Evaluator.evaluate, Evaluator.evaluate, nodes, nodes, h.limit]
  generalize Evaluator.concatenate (evaluator.element scope evaluator.limit) template world
      = outcome,
    Evaluator.concatenate (evaluator'.element scope evaluator.limit) template world' = outcome'
    at hnodes ⊢
  cases hnodes with
  | same result hrelated => exact .same _ (h.events hrelated _ _)
  | left hexcused _ _ => exact .left hexcused _ _
  | right hexcused _ _ => exact .right hexcused _ _

end Simulates

end Evaluator

namespace Installation

variable {installation installation' : Installation} {properties : Properties}
  {emptyDefault : String} {scope : Scope} {excused : Failure → Prop}
  {related : World → World → Prop}
  (h : Evaluator.Simulates installation.evaluator installation'.evaluator scope
    (fun error => excused (.evaluation error)) related)
  (hstandard : installation.evaluator.IsStandard properties emptyDefault)
  {world world' : World} (hrelated : related world world')
include h hstandard hrelated

/-- Templates that have been read are answered alike. -/
theorem evaluate_agrees (template : List Node) :
    Agrees excused related (installation.evaluate scope template world)
      (installation'.evaluate scope template world') := by
  have hagrees := h.evaluate hstandard template hrelated
  rw [evaluate, evaluate]
  generalize installation.evaluator.evaluate scope template world = outcome,
    installation'.evaluator.evaluate scope template world' = outcome' at hagrees ⊢
  cases hagrees with
  | same result hrelated => cases result <;> exact .same _ hrelated
  | left hexcused _ _ => exact .left hexcused _ _
  | right hexcused _ _ => exact .right hexcused _ _

/-- Templates are answered alike. One that cannot be read is refused without a look at the
    world. -/
theorem respond_agrees (source : String) :
    Agrees excused related (installation.respond scope source world)
      (installation'.respond scope source world') := by
  rw [respond, respond, h.limit]
  cases parseTemplate source installation.evaluator.limit with
  | error error => exact .same _ hrelated
  | ok template => exact evaluate_agrees h hstandard hrelated template

end Installation

end Colloquy
