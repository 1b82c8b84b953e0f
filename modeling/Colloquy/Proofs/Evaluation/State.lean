import Colloquy.Proofs.Evaluation.Simulation
import Colloquy.Proofs.Evaluation.Transparency

/-!
# What an Evaluation Depends On

An evaluation finds the disk, the predicates in memory and the time, and nothing else of the world
matters to it. In particular it does not look at what was reported before. So it may come after
another one as well as be a part of it: a list of nodes that is cut in two is evaluated as its two
parts are, one after the other.

Nor does it matter how deep an evaluation takes place, as long as there is a level for every
element. The standard handlers are told their depth and do not ask for it, so that two evaluations
of the same nodes with different numbers of levels left agree until one of them finds none. This is
a simulation in which such an end is excused. It compares an element inside others with the same
element on its own, and for `think` this says that it only holds back the text of its content.

## Main definitions

* `World.SameState`: Two worlds in which an evaluation finds the same.
* `inTurn`: Two answers one after the other.
* `Evaluator.IsCutOff`: The error of an evaluation that was cut off.

## Theorems

* `simulates_sameState`: Evaluations in worlds of the same state.
* `evaluate_append`: Nodes are evaluated in turn.
* `element_agrees`: Evaluations with different numbers of levels left.
* `evaluate_think`: The text of nodes is held back.
-/

namespace Colloquy

/-- Two worlds in which an evaluation finds the same: the disk, the predicates in memory, and the
    time. What was reported may differ. -/
structure World.SameState (world world' : World) : Prop where
  disk : world'.disk = world.disk
  memory : world'.memory = world.memory
  now : world'.now = world.now

/-- Two answers one after the other: both texts, or the first error. -/
def inTurn {ε : Type} (first second : World → Except ε String × World) (world : World) :
    Except ε String × World :=
  match first world with
  | (.error error, world) => (.error error, world)
  | (.ok text, world) =>
    match second world with
    | (.ok more, world) => (.ok (text ++ more), world)
    | (.error error, world) => (.error error, world)

namespace World.SameState

variable {world world' : World}

theorem refl (world : World) : SameState world world := ⟨rfl, rfl, rfl⟩

theorem during (h : SameState world world') (work work' : Work) (count count' : Nat) :
    SameState (world.during work count) (world'.during work' count') :=
  ⟨h.disk, h.memory, h.now⟩

theorem load_agrees (h : SameState world world') (backend : Backend) (scope : Scope)
    (excused : StoreError → Prop) (name : String) :
    Agrees excused SameState (backend.load scope name world) (backend.load scope name world') := by
  cases backend with
  | memory =>
      rw [Backend.load, Backend.load, h.memory]
      exact .same _ h
  | files store =>
      rw [Backend.load, Backend.load, h.disk]
      exact .same _ ⟨rfl, h.memory, h.now⟩

theorem save_agrees (h : SameState world world') (backend : Backend) (scope : Scope)
    (excused : StoreError → Prop) (name value : String) :
    Agrees excused SameState (backend.save scope name value world)
      (backend.save scope name value world') := by
  cases backend with
  | memory =>
      rw [Backend.save, Backend.save, h.memory]
      exact .same _ ⟨h.disk, rfl, h.now⟩
  | files store =>
      rw [Backend.save, Backend.save, h.disk, h.now]
      rcases store.save world.disk world.now.mailText scope name value with ⟨result, disk⟩
      cases result with
      | error error => exact .same _ ⟨rfl, h.memory, rfl⟩
      | ok path => exact .same _ ⟨rfl, h.memory, rfl⟩

theorem record_agrees (h : SameState world world') (log : ShareLog) (scope : Scope)
    (excused : ShareLogError → Prop) (text : String) :
    Agrees excused SameState (log.record scope text world) (log.record scope text world') := by
  rw [ShareLog.record, ShareLog.record, h.disk, h.now]
  rcases log.write world.disk world.now.logText scope text with ⟨result, disk⟩
  cases result with
  | error error => exact .same _ ⟨rfl, h.memory, rfl⟩
  | ok _ => exact .same _ ⟨rfl, h.memory, rfl⟩

end World.SameState

namespace Standard

/-- The standard handlers do not ask how deep they are. -/
theorem script_depth {properties : Properties} {emptyDefault : String} {handler : Handler}
    (h : handler ∈ handlers properties emptyDefault) (surroundings : Surroundings) (depth : Nat)
    (element : Element) :
    handler.script { surroundings with depth } element = handler.script surroundings element := by
  simp only [handlers, List.mem_cons, List.not_mem_nil, or_false] at h
  rcases h with rfl | rfl | rfl | rfl | rfl | rfl <;> rfl

end Standard

namespace Evaluator

open World (SameState)

variable {evaluator : Evaluator} {properties : Properties} {emptyDefault : String} {scope : Scope}
  {world world' : World}

/-- An evaluation depends on the state of the world only. -/
theorem simulates_sameState (evaluator : Evaluator) (scope : Scope) (excused : EvalError → Prop) :
    Simulates evaluator evaluator scope excused SameState where
  registry := rfl
  limit := rfl
  events := fun h _ _ => ⟨h.disk, h.memory, h.now⟩
  load := fun h => h.load_agrees _ _ _
  save := fun h => h.save_agrees _ _ _
  share := fun h => h.record_agrees _ _ _

/-- Nodes are evaluated in turn: first some of them, and then the others in the world that the first
    ones leave behind. -/
theorem evaluate_append (hstandard : evaluator.IsStandard properties emptyDefault) (scope : Scope)
    (nodes more : List Node) (world : World) :
    (evaluator.evaluate scope (nodes ++ more) world).1
        = (inTurn (evaluator.evaluate scope nodes) (evaluator.evaluate scope more) world).1 ∧
      SameState (evaluator.evaluate scope (nodes ++ more) world).2
        (inTurn (evaluator.evaluate scope nodes) (evaluator.evaluate scope more) world).2 := by
  have happend := concatenate_append (evaluator.element scope evaluator.limit) nodes more world
  rw [evaluate, Evaluator.nodes, happend, inTurn, evaluate, Evaluator.nodes]
  rcases concatenate (evaluator.element scope evaluator.limit) nodes world with ⟨result, between⟩
  cases result with
  | error error => exact ⟨rfl, .refl _⟩
  | ok text =>
      -- The second evaluation starts where events have been made part of the first one.
      have hbetween : SameState between (between.during (work scope) world.events.length) :=
        ⟨rfl, rfl, rfl⟩
      have hagrees := Simulates.concatenate (fun h opened =>
        (simulates_sameState evaluator scope fun _ => False).element hstandard evaluator.limit h
          opened) more hbetween
      rcases hagrees.same_of_not_excused (fun _ _ => id) (fun _ _ => id) with ⟨hresult, hafter⟩
      dsimp only
      rw [evaluate, Evaluator.nodes]
      generalize concatenate (evaluator.element scope evaluator.limit) more between = outcome,
        concatenate (evaluator.element scope evaluator.limit) more
          (between.during (work scope) world.events.length) = outcome' at hresult hafter ⊢
      rcases outcome with ⟨result, after⟩
      rcases outcome' with ⟨result', after'⟩
      cases hresult
      cases result with
      | error error => exact ⟨rfl, hafter.during _ _ _ _⟩
      | ok rest => exact ⟨rfl, hafter.during _ _ _ _⟩

/-- The error of an evaluation that was cut off for want of levels. -/
def IsCutOff (error : EvalError) : Prop := ∃ tag limit, error = .depthExceeded tag limit

/-- An element is evaluated alike with different numbers of levels left, unless it is cut off. -/
theorem element_agrees (hstandard : evaluator.IsStandard properties emptyDefault)
    (levels levels' : Nat) (hsame : SameState world world') (opened : Element) :
    Agrees IsCutOff SameState (evaluator.element scope levels opened world)
      (evaluator.element scope levels' opened world') := by
  have hsimulates := simulates_sameState evaluator scope IsCutOff
  -- Induction on the levels of one side. Those of the other side vary, since it may end first.
  induction levels generalizing levels' world world' opened with
  | zero => exact .left ⟨_, _, rfl⟩ _ _
  | succ levels ih =>
      cases levels' with
      | zero => exact .right ⟨_, _, rfl⟩ _ _
      | succ levels' =>
          have hcontent := fun {world world'} (hsame : SameState world world') nodes =>
            Simulates.concatenate (fun hsame opened => ih levels' hsame opened) nodes hsame
          rw [element, element, dispatch, dispatch]
          cases hlookup : evaluator.registry.lookup opened.tag.name with
          | none => exact hcontent (hsimulates.report hsame _ _) opened.children
          | some handler =>
              dsimp only
              cases handler.policy.check opened with
              | error error => exact .same _ hsame
              | ok _ =>
                  -- The depths differ, and the script is the same all the same.
                  have hscript := Standard.script_depth (hstandard.mem_handlers hlookup)
                    ⟨scope, evaluator.limit - levels, evaluator.registry.names⟩
                    (evaluator.limit - levels') opened
                  rw [← hscript]
                  exact hsimulates.perform hcontent (hstandard.isCandid hlookup _ opened) hsame

/-- A `think` evaluates its content one level further down. -/
theorem evaluate_container_think (hstandard : evaluator.IsStandard properties emptyDefault)
    {levels : Nat} (hlimit : evaluator.limit = levels + 1) (scope : Scope) (children : List Node)
    (world : World) :
    evaluator.evaluate scope [.container ⟨"think", ∅⟩ children] world
      = ((evaluator.nodes scope levels children world).1.map fun _ => "",
          (evaluator.nodes scope levels children world).2.during (work scope)
            world.events.length) := by
  have hlookup : evaluator.registry.lookup "think" = some Standard.think := by
    rw [hstandard.lookup_eq]
    rfl
  rw [evaluate, Evaluator.nodes, concatenate_singleton, node, hlimit, element, dispatch, hlookup]
  dsimp only [Standard.think, ContentPolicy.check, Element.children, Option.getD,
    Script.evaluateThen, perform]
  rw [Evaluator.nodes]
  -- The text of the content is dropped, and an error of it is kept.
  rcases concatenate (evaluator.element scope levels) children world with ⟨result, after⟩
  cases result with
  | error error => rfl
  | ok text => rfl

/-- Nodes that are put into a `think` have the same errors and leave the same state behind, but
    their text is held back. One level more is needed for each of them. -/
theorem evaluate_think (hstandard : evaluator.IsStandard properties emptyDefault)
    (hpositive : 0 < evaluator.limit) {nodes : List Node}
    (hroom : ∀ place ∈ outline 0 nodes, place.around + 1 < evaluator.limit) (scope : Scope)
    (world : World) :
    (evaluator.evaluate scope [.container ⟨"think", ∅⟩ nodes] world).1
        = (evaluator.evaluate scope nodes world).1.map (fun _ => "") ∧
      SameState (evaluator.evaluate scope [.container ⟨"think", ∅⟩ nodes] world).2
        (evaluator.evaluate scope nodes world).2 := by
  rcases Nat.exists_eq_add_one_of_ne_zero (Nat.pos_iff_ne_zero.mp hpositive) with ⟨levels, hlimit⟩
  have hagrees : Agrees IsCutOff SameState (evaluator.nodes scope levels nodes world)
      (evaluator.nodes scope evaluator.limit nodes world) :=
    Simulates.concatenate (fun hsame opened => element_agrees hstandard _ _ hsame opened) nodes
      (.refl world)
  -- Neither of them is cut off: the limit is high enough with the `think` around and without it.
  have houter : ∀ place ∈ outline 0 nodes, place.around < evaluator.limit :=
    fun place hplace => Nat.lt_of_succ_lt (hroom place hplace)
  have hinner : ∀ place ∈ outline 0 [.container ⟨"think", ∅⟩ nodes],
      place.around < evaluator.limit := by
    rw [outline, outline, List.append_nil, Node.outline, List.forall_mem_cons, outline_succ,
      List.forall_mem_map]
    exact ⟨hpositive, hroom⟩
  have hinside := @evaluate_ne_depthExceeded evaluator _ _ scope hstandard _ hinner world
  have houtside := @evaluate_ne_depthExceeded evaluator _ _ scope hstandard _ houter world
  rw [evaluate_container_think hstandard hlimit] at hinside ⊢
  rw [evaluate_fst] at houtside
  rcases hagrees.same_of_not_excused
    (by
      rintro error herror ⟨tag, limit, rfl⟩
      exact hinside tag limit (congrArg (Except.map fun _ => "") herror))
    (by
      rintro error herror ⟨tag, limit, rfl⟩
      exact houtside tag limit herror) with ⟨hresult, hafter⟩
  exact ⟨congrArg (Except.map fun _ => "") hresult, hafter.during _ _ _ _⟩

end Evaluator

end Colloquy
