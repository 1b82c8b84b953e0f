import Colloquy.Proofs.Evaluation.Depth
import Colloquy.Proofs.Evaluation.Stages
import Mathlib.Data.List.Forall2

/-!
# Deeds in the Order of Closing Tags

With the standard handlers, what an evaluation does is one deed for each `set` and each `gossip`,
in the order in which these elements close, up to the first error.

To say so, elements have to be told apart: a template may hold the same element twice. `boundaries`
lists the beginnings and the ends of all elements in document order, and an element is known by the
place of its beginning in that list. `Reaches` says in which world the evaluation gets to an
element. `Does` then pins a deed down completely: the element was reached, its content was evaluated
from there, and the deed is made of the text of that content.

The proof is one induction on the levels. An element that is done on entering does nothing that
lasts. Any other element does what its content does, and then, if it can be left, one deed of its
own at most. What is known of the content carries over to the element, because whatever the
evaluation of the content reaches, the evaluation around it reaches as well.

## Main definitions

* `Spot`, `Boundary`, `boundaries`: Elements by their beginning, and the beginnings and ends of
  all elements in document order.
* `lasting`: The elements that close among boundaries and do something that lasts.
* `Evaluator.Reaches`: The world in which the evaluation gets to an element.
* `Evaluator.Does`: An element does this in this evaluation.
* `InOrder`: Deeds follow the closing tags, up to some point or to the end.
* `lastSet`: The last of some elements that sets a predicate.

## Theorems

* `inOrder_nodes`: Deeds follow the closing tags.
* `get?_effects`: The last deed decides on the value of a predicate.
* `deeds_in_closing_order`: What an evaluation does, and what it leaves alone.
-/

namespace Colloquy

/-- An element of a tree, by the place of its beginning among the boundaries of the tree. -/
structure Spot where
  number : Nat
  element : Element

/-- Where an element begins or ends. -/
inductive Boundary where
  | opening (spot : Spot)
  | closing (spot : Spot)

/-- The element that ends at a boundary, if one does. -/
def Boundary.closed? : Boundary → Option Spot
  | .opening _ => none
  | .closing spot => some spot

mutual

/-- The boundaries of a node in document order, counted from a number on. -/
def Node.boundaries (number : Nat) : Node → List Boundary
  | .text _ => []
  | .leaf tag => [.opening ⟨number, tag, none⟩, .closing ⟨number, tag, none⟩]
  | .container tag children =>
    .opening ⟨number, tag, some children⟩ ::
      (boundaries (number + 1) children ++ [.closing ⟨number, tag, some children⟩])

/-- The boundaries of nodes in document order, counted from a number on. -/
def boundaries (number : Nat) : List Node → List Boundary
  | [] => []
  | first :: rest =>
    first.boundaries number ++ boundaries (number + (first.boundaries number).length) rest

end

/-- An element begins before everything in it and ends behind it. -/
theorem boundaries_of_element {first : Node} {element : Element}
    (h : first.element? = some element) (number : Nat) :
    first.boundaries number = .opening ⟨number, element⟩ ::
      (boundaries (number + 1) element.children ++ [.closing ⟨number, element⟩]) := by
  cases first with
  | text content => cases h
  | leaf tag =>
      cases h
      rfl
  | container tag children =>
      cases h
      rfl

/-- Whether an element does something that lasts. -/
def Element.isLasting (element : Element) : Bool :=
  element.tag.name = "set" || element.tag.name = "gossip"

/-- The elements that close among boundaries, in the order of their closing tags. -/
def closings (boundaries : List Boundary) : List Spot := boundaries.filterMap Boundary.closed?

/-- Those of them that do something that lasts. -/
def lasting (boundaries : List Boundary) : List Spot :=
  (closings boundaries).filter (·.element.isLasting)

theorem lasting_append (front back : List Boundary) :
    lasting (front ++ back) = lasting front ++ lasting back := by
  rw [lasting, closings, List.filterMap_append, List.filter_append]
  rfl

theorem mem_closings_of_mem_lasting {front back : List Boundary} {spot : Spot}
    (h : spot ∈ lasting front) : spot ∈ closings (front ++ back) := by
  rw [closings, List.filterMap_append]
  exact List.mem_append_left _ (List.mem_filter.mp h).1

theorem Standard.isSome_deed? (scope : Scope) (element : Element) (content : String) :
    (Standard.deed? scope element content).isSome = element.isLasting := by
  unfold Standard.deed? Element.isLasting
  split
  · simp [*]
  · split <;> simp [*]

namespace Evaluator

variable {evaluator : Evaluator} {properties : Properties} {emptyDefault : String} {scope : Scope}

/-- The evaluation of nodes from a world gets to an element in this world, with so many levels left.
    Everything before that element has been evaluated by then, and the elements around it have been
    entered. -/
inductive Reaches (evaluator : Evaluator) (scope : Scope) :
    (levels : Nat) → List Node → World → (number : Nat) → Spot → (left : Nat) → World → Prop where
  | here {levels number : Nat} {first : Node} {rest : List Node} {element : Element}
      {world : World} (hfirst : first.element? = some element) :
      Reaches evaluator scope levels (first :: rest) world number ⟨number, element⟩ levels world
  | inside {levels number left : Nat} {first : Node} {rest : List Node} {element : Element}
      {spot : Spot} {world between reached : World} (hfirst : first.element? = some element)
      (henter : evaluator.enter scope (evaluator.limit - levels) element world = .content between)
      (hinside : Reaches evaluator scope levels element.children between (number + 1) spot left
        reached) :
      Reaches evaluator scope (levels + 1) (first :: rest) world number spot left reached
  | behind {levels number left : Nat} {first : Node} {rest : List Node} {spot : Spot}
      {world after reached : World} {text : String}
      (hfirst : node (evaluator.element scope levels) first world = (.ok text, after))
      (hrest : Reaches evaluator scope levels rest after
        (number + (first.boundaries number).length) spot left reached) :
      Reaches evaluator scope levels (first :: rest) world number spot left reached

/-- An element does this in the evaluation of nodes: it is reached, its content is evaluated from
    there, and this is what it does with the text of its content. -/
def Does (evaluator : Evaluator) (scope : Scope) (levels : Nat) (nodes : List Node)
    (world : World) (number : Nat) (spot : Spot) (deed : Deed) : Prop :=
  ∃ left reached content after,
    evaluator.Reaches scope levels nodes world number spot (left + 1) reached ∧
    evaluator.nodes scope left spot.element.children reached = (.ok content, after) ∧
    Standard.deed? scope spot.element content = some deed

theorem Does.exists_deed? {levels : Nat} {nodes : List Node} {world : World} {number : Nat}
    {spot : Spot} {deed : Deed} (h : evaluator.Does scope levels nodes world number spot deed) :
    ∃ content, Standard.deed? scope spot.element content = some deed := by
  rcases h with ⟨_, _, content, _, _, _, hdeed⟩
  exact ⟨content, hdeed⟩

theorem Does.inside {levels number : Nat} {first : Node} (rest : List Node) {element : Element}
    {spot : Spot} {deed : Deed} {world between : World} (hfirst : first.element? = some element)
    (henter : evaluator.enter scope (evaluator.limit - levels) element world = .content between)
    (h : evaluator.Does scope levels element.children between (number + 1) spot deed) :
    evaluator.Does scope (levels + 1) (first :: rest) world number spot deed := by
  rcases h with ⟨left, reached, content, after, hreaches, hcontent, hdeed⟩
  exact ⟨left, reached, content, after, .inside hfirst henter hreaches, hcontent, hdeed⟩

theorem Does.behind {levels number : Nat} {first : Node} {rest : List Node} {spot : Spot}
    {deed : Deed} {world after : World} {text : String}
    (hfirst : node (evaluator.element scope levels) first world = (.ok text, after))
    (h : evaluator.Does scope levels rest after (number + (first.boundaries number).length) spot
      deed) :
    evaluator.Does scope levels (first :: rest) world number spot deed := by
  rcases h with ⟨left, reached, content, behind, hreaches, hcontent, hdeed⟩
  exact ⟨left, reached, content, behind, .behind hfirst hreaches, hcontent, hdeed⟩

end Evaluator

/-- Deeds that are done by the elements that close at the front of boundaries, one by each that does
    something that lasts, and by all of them if what does them succeeds. -/
def InOrder (does : Spot → Deed → Prop) (boundaries : List Boundary) (deeds : List Deed)
    (succeeds : Prop) : Prop :=
  ∃ front back, boundaries = front ++ back ∧ List.Forall₂ does (lasting front) deeds ∧
    (succeeds → back = [])

namespace InOrder

variable {does other : Spot → Deed → Prop} {front back : List Boundary} {deeds more : List Deed}
  {succeeds : Prop}

/-- Nothing has been done when nothing has closed. -/
theorem none (boundaries : List Boundary) (h : ¬ succeeds) :
    InOrder does boundaries [] succeeds :=
  ⟨[], boundaries, rfl, .nil, fun hsucceeds => absurd hsucceeds h⟩

theorem mono (h : InOrder does front deeds succeeds)
    (hmono : ∀ spot deed, does spot deed → other spot deed) {goesOn : Prop}
    (hsucceeds : goesOn → succeeds) : InOrder other front deeds goesOn := by
  rcases h with ⟨before, after, hsplit, hdoes, hall⟩
  exact ⟨before, after, hsplit, hdoes.imp hmono, fun h => hall (hsucceeds h)⟩

/-- Nothing is done where an element begins. -/
theorem opening (spot : Spot) (h : InOrder does front deeds succeeds) :
    InOrder does (.opening spot :: front) deeds succeeds := by
  rcases h with ⟨before, after, rfl, hdoes, hall⟩
  exact ⟨.opening spot :: before, after, rfl, hdoes, hall⟩

/-- What is done up to an error is all that is done, whatever would have come behind it. -/
theorem cut (h : InOrder does front deeds succeeds) {goesOn : Prop} (hfails : ¬ goesOn) :
    InOrder does (front ++ back) deeds goesOn := by
  rcases h with ⟨before, after, rfl, hdoes, _⟩
  exact ⟨before, after ++ back, List.append_assoc .., hdoes, fun h => absurd h hfails⟩

theorem forall₂ (h : InOrder does front deeds True) :
    List.Forall₂ does (lasting front) deeds := by
  rcases h with ⟨before, after, rfl, hdoes, hall⟩
  rw [hall trivial, List.append_nil]
  exact hdoes

/-- An element that closes does this, or nothing that lasts. -/
theorem closing {spot : Spot} (deed? : Option Deed) (h : deed?.isSome = spot.element.isLasting)
    (hdoes : ∀ deed ∈ deed?, does spot deed) (succeeds : Prop) :
    InOrder does [.closing spot] deed?.toList succeeds := by
  refine ⟨[.closing spot], [], rfl, ?_, fun _ => rfl⟩
  rw [show lasting [.closing spot] = [spot].filter (·.element.isLasting) from rfl,
    List.filter_singleton, ← h]
  cases deed? with
  | none => exact .nil
  | some deed => exact .cons (hdoes deed rfl) .nil

/-- What is done behind a success comes behind all that was done before. -/
theorem append (h : InOrder does front deeds True) (h' : InOrder does back more succeeds) :
    InOrder does (front ++ back) (deeds ++ more) succeeds := by
  rcases h' with ⟨before, after, rfl, hdoes, hall⟩
  refine ⟨front ++ before, after, (List.append_assoc ..).symm, ?_, hall⟩
  rw [lasting_append]
  exact List.rel_append h.forall₂ hdoes

end InOrder

namespace Evaluator

variable {evaluator : Evaluator} {properties : Properties} {emptyDefault : String} {scope : Scope}

/-- Nodes do what they should if this is so of an element wherever it is the first of them. -/
theorem inOrder_of_first {levels : Nat}
    (helement : ∀ {first : Node} {element : Element} (rest : List Node) (world : World)
      (number : Nat), first.element? = some element →
      InOrder (evaluator.Does scope levels (first :: rest) world number)
        (first.boundaries number) (evaluator.elementDeeds scope levels element world)
        (∃ text, (evaluator.element scope levels element world).1 = .ok text))
    (nodes : List Node) (world : World) (number : Nat) :
    InOrder (evaluator.Does scope levels nodes world number) (boundaries number nodes)
      (evaluator.deeds scope levels nodes world)
      (∃ text, (evaluator.nodes scope levels nodes world).1 = .ok text) := by
  induction nodes generalizing world number with
  | nil => exact ⟨[], [], rfl, .nil, fun _ => rfl⟩
  | cons first rest ih =>
      have hfirst : InOrder (evaluator.Does scope levels (first :: rest) world number)
          (first.boundaries number) (nodeDeeds (evaluator.elementDeeds scope levels) first world)
          (∃ text, (node (evaluator.element scope levels) first world).1 = .ok text) := by
        cases first with
        | text content => exact ⟨[], [], rfl, .nil, fun _ => rfl⟩
        | leaf tag => exact helement rest world number rfl
        | container tag children => exact helement rest world number rfl
      rw [deeds, concatenateDeeds, Evaluator.nodes, concatenate, boundaries]
      rcases hnode : node (evaluator.element scope levels) first world with ⟨result, between⟩
      rw [hnode] at hfirst
      cases result with
      | error error =>
          rw [List.append_nil]
          -- After a failure nothing behind it is done.
          exact hfirst.cut (by simp)
      | ok text =>
          -- What is done behind comes after all that is done in front.
          have hrest := ih between (number + (first.boundaries number).length)
          have hfirst := hfirst.mono (fun _ _ => id) fun _ : True => ⟨text, rfl⟩
          refine hfirst.append (hrest.mono (fun _ _ => Does.behind hnode) ?_)
          rw [Evaluator.nodes]
          simp only []
          rcases concatenate (evaluator.element scope levels) rest between with ⟨result, after⟩
          cases result with
          | ok more => exact fun _ => ⟨more, rfl⟩
          | error error =>
              rintro ⟨_, heq⟩
              cases heq

theorem inOrder_nodes (h : evaluator.IsStandard properties emptyDefault) (scope : Scope)
    (levels : Nat) (nodes : List Node) (world : World) (number : Nat) :
    InOrder (evaluator.Does scope levels nodes world number) (boundaries number nodes)
      (evaluator.deeds scope levels nodes world)
      (∃ text, (evaluator.nodes scope levels nodes world).1 = .ok text) := by
  -- Induction on the levels. Nodes side by side share theirs, which is why they have a lemma.
  induction levels generalizing nodes world number with
  | zero =>
      refine inOrder_of_first (fun _ _ _ _ => .none _ ?_) ..
      rintro ⟨_, heq⟩
      cases heq
  | succ levels ih =>
      refine inOrder_of_first (fun {first element} rest world number hfirst => ?_) nodes world
        number
      rw [elementDeeds_succ h, element_succ h, boundaries_of_element hfirst]
      cases henter : evaluator.enter scope (evaluator.limit - levels) element world with
      | done outcome =>
          rcases outcome with ⟨result, after⟩
          cases result with
          | error error =>
              refine .none _ ?_
              rintro ⟨_, heq⟩
              cases heq
          | ok text =>
              -- It has no content, and it does nothing that lasts.
              have hdeed := deed?_of_enter_done h henter text
              have hsilent := Standard.isSome_deed? scope element text
              rw [hdeed] at hsilent
              rw [(enter_done h henter).2 ⟨text, rfl⟩]
              exact .opening _ (.closing none hsilent nofun _)
      | content between =>
          have hinside := (ih element.children between (number + 1)).mono
            (fun _ _ => Does.inside rest hfirst henter) id
          refine .opening _ ?_
          simp only []
          rcases hcontent : evaluator.nodes scope levels element.children between with
            ⟨result, after⟩
          rw [hcontent] at hinside
          cases result with
          | error error =>
              rw [List.append_nil]
              refine hinside.cut ?_
              rintro ⟨_, heq⟩
              cases heq
          | ok content =>
              refine (hinside.mono (fun _ _ => id) fun _ : True => ⟨content, rfl⟩).append ?_
              simp only []
              rcases evaluator.leave scope (evaluator.limit - levels) element content after with
                ⟨result, behind⟩
              cases result with
              | error error =>
                  refine .none _ ?_
                  rintro ⟨_, heq⟩
                  cases heq
              | ok text =>
                  -- The last deed is the element's own, if it does anything that lasts.
                  refine .closing _ (Standard.isSome_deed? scope element content)
                    (fun deed hdeed => ?_) _
                  rw [between_of_deed? h henter hdeed] at hcontent
                  exact ⟨levels, world, content, after, .here hfirst, hcontent, hdeed⟩

end Evaluator

/-- Whether an element sets this predicate. -/
def Element.sets (name : String) (element : Element) : Bool :=
  element.tag.name = "set" && Standard.nameOf element = name

/-- The last of some elements that sets a predicate. -/
def lastSet (name : String) (spots : List Spot) : Option Spot :=
  (spots.filter (·.element.sets name)).getLast?

/-- Later elements count first. -/
theorem lastSet_cons (name : String) (spot : Spot) (spots : List Spot) :
    lastSet name (spot :: spots)
      = match lastSet name spots with
        | some last => some last
        | none => if spot.element.sets name then some spot else none := by
  rw [lastSet, lastSet, List.filter_cons]
  split
  · rw [List.getLast?_cons]
    cases (spots.filter (·.element.sets name)).getLast? <;> rfl
  · cases (spots.filter (·.element.sets name)).getLast? <;> rfl

/-- Among elements that close, only those that do something that lasts set predicates. -/
theorem lastSet_lasting (name : String) (front : List Boundary) :
    lastSet name (lasting front) = lastSet name (closings front) := by
  rw [lastSet, lastSet, lasting, List.filter_filter]
  congr 1
  refine List.filter_congr fun spot _ => ?_
  rw [Bool.and_eq_left_iff_imp]
  intro hsets
  simp only [Element.sets, Bool.and_eq_true] at hsets
  rw [Element.isLasting, hsets.1, Bool.true_or]

/-- What an element does that sets a predicate. -/
theorem deed?_of_sets {scope : Scope} {name content : String} {element : Element}
    (h : element.sets name = true) :
    Standard.deed? scope element content = some (.saved scope name content) := by
  simp only [Element.sets, Bool.and_eq_true, decide_eq_true_eq] at h
  rw [Standard.deed?, if_pos h.1, h.2]

/-- What an element does leaves every predicate alone that it does not set. -/
theorem effect_of_not_sets {scope : Scope} {name content : String} {element : Element} {deed : Deed}
    (hdeed : Standard.deed? scope element content = some deed) (h : element.sets name = false)
    (held : Scope → Predicates) :
    (deed.effect held scope).get? name = (held scope).get? name := by
  simp only [Element.sets, Bool.and_eq_false_iff, decide_eq_false_iff_not] at h
  unfold Standard.deed? at hdeed
  split at hdeed
  · rename_i hset
    cases hdeed
    -- The element sets a predicate, and one of another name.
    have hname := h.resolve_left (not_not_intro hset)
    rw [Deed.effect, Function.update_self, Dictionary.get?_insert_of_ne _ (Ne.symm hname)]
  · split at hdeed
    · cases hdeed
      rfl
    · cases hdeed

/-- What an element does leaves every other conversation alone. -/
theorem effect_elsewhere {scope other : Scope} {content : String} {element : Element} {deed : Deed}
    (hdeed : Standard.deed? scope element content = some deed) (hother : other ≠ scope)
    (held : Scope → Predicates) : deed.effect held other = held other := by
  unfold Standard.deed? at hdeed
  split at hdeed
  · cases hdeed
    exact Function.update_of_ne hother ..
  · split at hdeed
    · cases hdeed
      rfl
    · cases hdeed

section Effects

variable {does : Spot → Deed → Prop} {scope : Scope} {spots : List Spot} {deeds : List Deed}
  (hdoes : ∀ spot deed, does spot deed →
    ∃ content, Standard.deed? scope spot.element content = some deed)
include hdoes

/-- Deeds of elements leave other conversations alone. -/
theorem effects_elsewhere (h : List.Forall₂ does spots deeds) {other : Scope}
    (hother : other ≠ scope) (held : Scope → Predicates) :
    deeds.foldl Deed.effect held other = held other := by
  induction h generalizing held with
  | nil => rfl
  | cons hfirst _ ih =>
      rcases hdoes _ _ hfirst with ⟨content, hdeed⟩
      rw [List.foldl_cons, ih, effect_elsewhere hdeed hother]

/-- A predicate has the value that it was given last, by the last of the elements that set it. If
    none of them does, it is as it was. -/
theorem get?_effects (h : List.Forall₂ does spots deeds) (name : String)
    (held : Scope → Predicates) :
    match lastSet name spots with
    | some spot => ∃ value, does spot (.saved scope name value) ∧
      (deeds.foldl Deed.effect held scope).get? name = some value
    | none => (deeds.foldl Deed.effect held scope).get? name = (held scope).get? name := by
  induction h generalizing held with
  | nil => rfl
  | @cons spot deed spots deeds hfirst _ ih =>
      rcases hdoes spot deed hfirst with ⟨content, hdeed⟩
      have hrest := ih (deed.effect held)
      rw [List.foldl_cons, lastSet_cons]
      cases hlast : lastSet name spots with
      | some last =>
          rw [hlast] at hrest
          exact hrest
      | none =>
          rw [hlast] at hrest
          -- Nothing behind this element sets the predicate.
          by_cases hsets : spot.element.sets name = true
          · rw [deed?_of_sets hsets] at hdeed
            cases hdeed
            simp only [hsets, if_true]
            refine ⟨content, hfirst, hrest.trans ?_⟩
            rw [Deed.effect, Function.update_self, Dictionary.get?_insert_self]
          · simp only [hsets, if_false, Bool.false_eq_true]
            exact hrest.trans (effect_of_not_sets hdeed (Bool.eq_false_iff.mpr hsets) held)

end Effects

namespace Evaluator

variable {evaluator : Evaluator} {properties : Properties} {emptyDefault : String}

/-- Each `set` and each `gossip` does one thing, with the text of its content, in the order of the
    closing tags: all of them if the evaluation succeeds, and those before the first error if it
    fails. Each is done once, and nothing else is. What is held for a conversation afterwards
    follows from that, if the share log is not written where its unit is. So nothing changes for
    others, and no predicate changes that is not set in the template. -/
theorem deeds_in_closing_order (hstandard : evaluator.IsStandard properties emptyDefault)
    (hproper : evaluator.backend.IsProper) (scope : Scope) (template : List Node) (world : World) :
    InOrder (evaluator.Does scope evaluator.limit template world 0) (boundaries 0 template)
      (evaluator.deeds scope evaluator.limit template world)
      (∃ text, (evaluator.evaluate scope template world).1 = .ok text) ∧
    evaluator.Performs scope (evaluator.deeds scope evaluator.limit template world) world
      (evaluator.evaluate scope template world).2 ∧
    (∀ other, evaluator.shareLog.SparesUnit evaluator.backend world.disk other →
      evaluator.backend.stored (evaluator.evaluate scope template world).2 other
        = (evaluator.deeds scope evaluator.limit template world).foldl Deed.effect
          (evaluator.backend.stored world) other) ∧
    (∀ other, evaluator.shareLog.SparesUnit evaluator.backend world.disk other → other ≠ scope →
      evaluator.backend.stored (evaluator.evaluate scope template world).2 other
        = evaluator.backend.stored world other) ∧
    (evaluator.shareLog.SparesUnit evaluator.backend world.disk scope →
      ∀ name, (∀ spot ∈ closings (boundaries 0 template), spot.element.sets name = false) →
        (evaluator.backend.stored (evaluator.evaluate scope template world).2 scope).get? name
          = (evaluator.backend.stored world scope).get? name) := by
  have horder := inOrder_nodes hstandard scope evaluator.limit template world 0
  have hperforms := performs_evaluate evaluator scope template world
  refine ⟨horder, hperforms, fun other hspares => (hperforms.accounted hproper hspares).held, ?_⟩
  rcases horder with ⟨front, back, hsplit, hdoes, _⟩
  refine ⟨fun other hspares hother => ?_, fun hspares name hunset => ?_⟩
  · rw [(hperforms.accounted hproper hspares).held]
    exact effects_elsewhere (fun _ _ => Does.exists_deed?) hdoes hother _
  · -- A predicate that no element sets is set by none of those that did something.
    have hlast : lastSet name (lasting front) = none := by
      rw [lastSet, List.getLast?_eq_none_iff, List.filter_eq_nil_iff]
      intro spot hspot
      rw [hunset spot, Bool.false_eq_true]
      · exact not_false
      · rw [hsplit]
        exact mem_closings_of_mem_lasting hspot
    have heffects := get?_effects (fun _ _ => Does.exists_deed?) hdoes name
      (evaluator.backend.stored world)
    rw [hlast] at heffects
    rw [(hperforms.accounted hproper hspares).held]
    exact heffects

/-- Two sets within each other and gossip, over files, with the share log in its usual place. -/
theorem deeds_in_closing_order_nested :
    ∃ registry, Standard.registry (fun _ _ => none) "" = .ok registry ∧
      let evaluator : Evaluator := ⟨registry, .files ⟨"ffm", ".predicates"⟩, {}, 4⟩
      let template : List Node :=
        [.container ⟨"set", .ofList [("name", "mood")]⟩ [.text "fine",
          .container ⟨"set", .ofList [("name", "name")]⟩ [.text "Al"]],
          .container ⟨"gossip", ∅⟩ [.text "Al is fine"]]
      evaluator.backend.IsProper ∧
      (∀ other, evaluator.shareLog.SparesUnit evaluator.backend {} other) ∧
      evaluator.deeds ⟨"alice", "aria"⟩ 4 template {}
        = [.saved ⟨"alice", "aria"⟩ "name" "Al", .saved ⟨"alice", "aria"⟩ "mood" "fineAl",
          .recorded ⟨"alice", "aria"⟩ "Al is fine"] ∧
      ∀ other, other ≠ ⟨"alice", "aria"⟩ →
        evaluator.backend.stored (evaluator.evaluate ⟨"alice", "aria"⟩ template {}).2 other
          = evaluator.backend.stored {} other := by
  refine ⟨_, rfl, ?_⟩
  intro evaluator template
  have hstandard : evaluator.IsStandard (fun _ _ => none) "" := rfl
  have hproper : evaluator.backend.IsProper := show isComponent ".predicates" = true by decide
  -- The log is two names deep and units are three.
  have hspares : ∀ other, evaluator.shareLog.SparesUnit evaluator.backend {} other := by
    intro other _ hmem
    have hlength : ∀ place ∈ evaluator.shareLog.files {}, place.length = 2 := by decide
    cases hlength _ hmem
  refine ⟨hproper, hspares, by decide +kernel, fun other => ?_⟩
  exact (deeds_in_closing_order hstandard hproper ⟨"alice", "aria"⟩ template {}).2.2.2.1 other
    (hspares other)

/-- A share log that is written where the unit of another conversation is. What is gossiped there is
    read as a predicate, though nothing in the template sets one. -/
theorem gossip_into_a_unit :
    ∃ registry, Standard.registry (fun _ _ => none) "" = .ok registry ∧
      let evaluator : Evaluator := ⟨registry, .files ⟨"ffm", ".predicates"⟩,
        { documentEnabled := true, documentPath := "ffm/aria/bob.predicates" }, 4⟩
      let template : List Node := [.container ⟨"gossip", ∅⟩ [.text "x=y"]]
      (evaluator.evaluate ⟨"alice", "aria"⟩ template {}).1 = .ok "" ∧
      (evaluator.backend.stored {} ⟨"bob", "aria"⟩).get? "x" = none ∧
      (evaluator.backend.stored (evaluator.evaluate ⟨"alice", "aria"⟩ template {}).2
        ⟨"bob", "aria"⟩).get? "x" = some "y" :=
  ⟨_, rfl, by decide +kernel⟩

end Evaluator

end Colloquy
