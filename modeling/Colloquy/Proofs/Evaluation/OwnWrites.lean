import Colloquy.Proofs.Evaluation.ClosingOrder

/-!
# Templates That Read What They Write

What a `get` finds is a matter of the elements that closed before it in the document. The last `set`
of its name among them decides, and if there is none, what was held before the evaluation began. A
`set` around the `get` has not closed, so it does not count.

Everything that closes before an element that is reached was evaluated without an error, or the
element would not have been reached. So the deeds up to there are those of the closing tags in front
of the element, all of them, and what is held when the element is reached follows from them.

## Main definitions

* `Backend.Admits`: A scope that a store does not refuse.

## Theorems

* `Reaches.exists_deeds`: How the evaluation got to an element.
* `Reaches.nodes_error`: The error of an element that is reached ends the evaluation.
* `get_reads_own_writes`: What a predicate is read as.
-/

namespace Colloquy

/-- A store does not refuse a scope. -/
def Backend.Admits (backend : Backend) (scope : Scope) : Prop :=
  backend = .memory ∨ scope.IsValid

/-- Loading a predicate of a scope that is not refused gives what is held, or the disk failed. -/
theorem Backend.load_stored {backend : Backend} (hproper : backend.IsProper) {scope : Scope}
    (hadmits : backend.Admits scope) (world : World) (name : String) :
    (backend.load scope name world).1 = .ok ((backend.stored world scope).get? name) ∨
      backend ≠ .memory ∧
        ∃ path fault, (backend.load scope name world).1 = .error (.io path fault) := by
  have hattempted := load_attempted hproper scope world name
  generalize backend.load scope name world = outcome at hattempted ⊢
  cases hattempted with
  | refused hfiles hvalid => exact absurd (hadmits.resolve_left hfiles) hvalid
  | @failed path fault _ hfiles _ _ => exact .inr ⟨hfiles, path, fault, rfl⟩
  | done _ _ => exact .inl rfl

namespace Evaluator

variable {evaluator : Evaluator} {properties : Properties} {emptyDefault : String} {scope : Scope}

/-- What is done with the first of some nodes alone is done with all of them. -/
theorem Does.first {levels number : Nat} {first : Node} (rest : List Node) {spot : Spot}
    {deed : Deed} {world : World} (h : evaluator.Does scope levels [first] world number spot deed) :
    evaluator.Does scope levels (first :: rest) world number spot deed := by
  rcases h with ⟨left, reached, content, after, hreaches, hcontent, hdeed⟩
  refine ⟨left, reached, content, after, ?_, hcontent, hdeed⟩
  cases hreaches with
  | here hfirst => exact .here hfirst
  | inside hfirst henter hinside => exact .inside hfirst henter hinside
  | behind _ hrest => cases hrest

/-- An element is reached by what the elements did that closed before it begins. -/
theorem Reaches.exists_deeds (hstandard : evaluator.IsStandard properties emptyDefault)
    {levels number left : Nat} {nodes : List Node} {spot : Spot} {world reached : World}
    (h : evaluator.Reaches scope levels nodes world number spot left reached) :
    ∃ front back deeds, boundaries number nodes = front ++ .opening spot :: back ∧
      spot.number = number + front.length ∧
      List.Forall₂ (evaluator.Does scope levels nodes world number) (lasting front) deeds ∧
      evaluator.Performs scope deeds world reached := by
  induction h with
  | @here levels number first rest element world hfirst =>
      refine ⟨[], boundaries (number + 1) element.children ++ [.closing ⟨number, element⟩] ++
        boundaries (number + (first.boundaries number).length) rest, [], ?_, rfl, .nil,
        .refl _⟩
      rw [boundaries, boundaries_of_element hfirst]
      rfl
  | @inside levels number left first rest element spot world between reached hfirst henter _ ih =>
      have hentered : evaluator.Performs scope [] world between := by
        rcases between_of_enter henter with ⟨rfl, _⟩ | ⟨rfl, _⟩
        · exact .refl _
        · exact .events _ (.refl _)
      rcases ih with ⟨front, back, deeds, hsplit, hnumber, hdoes, hperforms⟩
      refine ⟨.opening ⟨number, element⟩ :: front, back ++ [.closing ⟨number, element⟩] ++
        boundaries (number + (first.boundaries number).length) rest, deeds, ?_, ?_,
        hdoes.imp fun _ _ => Does.inside rest hfirst henter, hentered.trans hperforms⟩
      · rw [boundaries, boundaries_of_element hfirst, hsplit]
        simp only [List.cons_append, List.append_assoc]
      · rw [hnumber, List.length_cons]
        omega
  | @behind levels number left first rest spot world after reached text hfirst _ ih =>
      -- The first node was evaluated to the end, so everything in it has closed.
      have hnodes : evaluator.nodes scope levels [first] world = (.ok (text ++ ""), after) := by
        rw [Evaluator.nodes, concatenate, hfirst]
        rfl
      have horder := inOrder_nodes hstandard scope levels [first] world number
      have hbefore := performs_nodes evaluator scope levels [first] world
      rw [hnodes] at horder hbefore
      have hfirst := (horder.mono (fun _ _ => Does.first rest)
        fun _ : True => ⟨text ++ "", rfl⟩).forall₂
      rw [boundaries, boundaries, List.append_nil] at hfirst
      rcases ih with ⟨front, back, deeds, hsplit, hnumber, hdoes, hperforms⟩
      refine ⟨first.boundaries number ++ front, back, _ ++ deeds, ?_, ?_, ?_,
        hbefore.trans hperforms⟩
      · rw [boundaries, hsplit, List.append_assoc]
      · rw [hnumber, List.length_append, Nat.add_assoc]
      · rw [lasting_append]
        exact List.rel_append hfirst (hdoes.imp fun _ _ => Does.behind ‹_›)

/-- The error of an element that is reached is the error of the evaluation. -/
theorem Reaches.nodes_error (hstandard : evaluator.IsStandard properties emptyDefault)
    {levels number left : Nat} {nodes : List Node} {spot : Spot} {world reached after : World}
    {error : EvalError}
    (h : evaluator.Reaches scope levels nodes world number spot left reached)
    (herror : evaluator.element scope left spot.element reached = (.error error, after)) :
    (evaluator.nodes scope levels nodes world).1 = .error error := by
  induction h with
  | here hfirst =>
      rw [Evaluator.nodes, concatenate, node_of_element hfirst, herror]
  | @inside levels number left first rest element spot world between reached hfirst henter _ ih =>
      have hcontent := ih herror
      rw [Evaluator.nodes, concatenate, node_of_element hfirst, element_succ hstandard, henter]
      simp only []
      generalize evaluator.nodes scope levels element.children between = outcome at hcontent ⊢
      rcases outcome with ⟨result, behind⟩
      cases hcontent
      rfl
  | @behind levels number left first rest spot world between reached text hfirst _ ih =>
      have hrest := ih herror
      rw [Evaluator.nodes] at hrest
      -- The first one has its text, which is lost when the rest fails.
      rw [Evaluator.nodes, concatenate, hfirst]
      simp only []
      generalize concatenate (evaluator.element scope levels) rest between = outcome at hrest ⊢
      rcases outcome with ⟨result, behind⟩
      cases hrest
      rfl

/-- A `get` with a name and without content is answered with the predicate that is held, or the
    default where there is none. -/
theorem element_get (hstandard : evaluator.IsStandard properties emptyDefault) (scope : Scope)
    {element : Element}
    (hget : element.tag.name = "get") (hname : Standard.nameOf element ≠ "")
    (hempty : element.children = []) (left : Nat) (world : World) :
    (evaluator.element scope (left + 1) element world).1
      = match (evaluator.backend.load scope (Standard.nameOf element) world).1 with
        | .ok value => .ok (value.getD emptyDefault)
        | .error error => .error (.store error) := by
  have hlookup : evaluator.registry.lookup element.tag.name
      = some (Standard.getPredicate emptyDefault) := by
    rw [hstandard.lookup_eq, hget]
    rfl
  have hcontent := Element.hasChildren_eq_false hempty
  have hisEmpty := String.isEmpty_eq_false_iff.mpr hname
  rw [Evaluator.element, dispatch, hlookup]
  simp only [Standard.getPredicate, ContentPolicy.check, hcontent, hisEmpty, if_false,
    Bool.false_eq_true, Script.loadThen, perform]
  rcases evaluator.backend.load scope (Standard.nameOf element) world with ⟨result, after⟩
  cases result <;> rfl

/-- A `get` that is reached is answered with the value that was saved by the last `set` of its name
    that closed before it in the document, or with the value that was held before the evaluation if
    there is no such `set`, or with the default if there is no such value. Over files the scope has
    to have a unit, the share log must not be written there, and the disk must not fail. -/
theorem get_reads_own_writes (hstandard : evaluator.IsStandard properties emptyDefault)
    (hproper : evaluator.backend.IsProper) (hadmits : evaluator.backend.Admits scope)
    {template : List Node} {world : World}
    (hspares : evaluator.shareLog.SparesUnit evaluator.backend world.disk scope)
    (hio : evaluator.backend ≠ .memory → ∀ path fault,
      (evaluator.evaluate scope template world).1 ≠ .error (.store (.io path fault)))
    {spot : Spot} {left : Nat} {reached : World}
    (hreached : evaluator.Reaches scope evaluator.limit template world 0 spot (left + 1) reached)
    (hget : spot.element.tag.name = "get") (hname : Standard.nameOf spot.element ≠ "")
    (hempty : spot.element.children = []) :
    match lastSet (Standard.nameOf spot.element)
      (closings ((boundaries 0 template).take spot.number)) with
    | some last => ∃ value,
      evaluator.Does scope evaluator.limit template world 0 last
        (.saved scope (Standard.nameOf spot.element) value) ∧
      (evaluator.element scope (left + 1) spot.element reached).1 = .ok value
    | none => (evaluator.element scope (left + 1) spot.element reached).1
      = .ok (((evaluator.backend.stored world scope).get?
        (Standard.nameOf spot.element)).getD emptyDefault) := by
  have hanswer := element_get hstandard scope hget hname hempty left reached
  have hload : (evaluator.backend.load scope (Standard.nameOf spot.element) reached).1
      = .ok ((evaluator.backend.stored reached scope).get? (Standard.nameOf spot.element)) := by
    rcases Backend.load_stored hproper hadmits reached (Standard.nameOf spot.element) with
      hload | ⟨hfiles, path, fault, hload⟩
    · exact hload
    · -- A failure here would be the failure of the whole evaluation.
      rw [hload] at hanswer
      have herror := hreached.nodes_error hstandard (Prod.ext hanswer rfl)
      exact absurd herror (hio hfiles path fault)
  rw [hload] at hanswer
  rcases hreached.exists_deeds hstandard with
    ⟨front, back, deeds, hsplit, hnumber, hdoes, hperforms⟩
  rw [Nat.zero_add] at hnumber
  -- What is held at the spot is what the deeds before it have left.
  have heffects := get?_effects (fun _ _ => Does.exists_deed?) hdoes
    (Standard.nameOf spot.element) (evaluator.backend.stored world)
  rw [← (hperforms.accounted hproper hspares).held, lastSet_lasting] at heffects
  rw [hsplit, hnumber, List.take_left]
  cases hlast : lastSet (Standard.nameOf spot.element) (closings front) with
  | none =>
      rw [hlast] at heffects
      rw [hanswer, heffects]
  | some last =>
      rw [hlast] at heffects
      rcases heffects with ⟨value, hlast, hvalue⟩
      refine ⟨value, hlast, ?_⟩
      rw [hanswer, hvalue]
      rfl

/-- A `get` inside of a `set` of its name and one behind it, over files. The first finds nothing and
    the second what was saved. -/
theorem get_reads_own_writes_nested :
    ∃ registry, Standard.registry (fun _ _ => none) "?" = .ok registry ∧
      let evaluator : Evaluator := ⟨registry, .files ⟨"ffm", ".predicates"⟩, {}, 4⟩
      let scope : Scope := ⟨"alice", "aria"⟩
      let get : Tag := ⟨"get", .ofList [("name", "n")]⟩
      let set : Element := ⟨⟨"set", .ofList [("name", "n")]⟩, some [.text "a", .leaf get]⟩
      let template : List Node := [set.toNode, .leaf get]
      evaluator.backend.IsProper ∧ evaluator.backend.Admits scope ∧
      evaluator.shareLog.SparesUnit evaluator.backend {} scope ∧
      (∀ path fault, (evaluator.evaluate scope template {}).1 ≠ .error (.store (.io path fault))) ∧
      (∃ reached, evaluator.Reaches scope 4 template {} 0 ⟨1, get, none⟩ 3 reached ∧
        (evaluator.element scope 3 ⟨get, none⟩ reached).1 = .ok "?") ∧
      ∃ reached value, evaluator.Reaches scope 4 template {} 0 ⟨4, get, none⟩ 4 reached ∧
        evaluator.Does scope 4 template {} 0 ⟨0, set⟩ (.saved scope "n" value) ∧
        (evaluator.element scope 4 ⟨get, none⟩ reached).1 = .ok value := by
  refine ⟨_, rfl, ?_⟩
  intro evaluator scope get set template
  have hstandard : evaluator.IsStandard (fun _ _ => none) "?" := rfl
  have hproper : evaluator.backend.IsProper := show isComponent ".predicates" = true by decide
  have hadmits : evaluator.backend.Admits scope := .inr (by decide)
  have hspares : evaluator.shareLog.SparesUnit evaluator.backend {} scope := fun _ => by decide
  have hio : ∀ path fault,
      (evaluator.evaluate scope template {}).1 ≠ .error (.store (.io path fault)) := by
    have hanswer : (evaluator.evaluate scope template {}).1 = .ok "a?a?" := by decide +kernel
    intro path fault
    rw [hanswer]
    nofun
  have hinside : evaluator.Reaches scope 4 template {} 0 ⟨1, get, none⟩ 3 {} :=
    .inside rfl rfl (.behind rfl (.here rfl))
  have hfirst : node (evaluator.element scope 4) set.toNode {}
      = (.ok "a?", (node (evaluator.element scope 4) set.toNode {}).2) :=
    Prod.ext (by decide +kernel) rfl
  have hbehind : evaluator.Reaches scope 4 template {} 0 ⟨4, get, none⟩ 4
      (node (evaluator.element scope 4) set.toNode {}).2 := .behind hfirst (.here rfl)
  refine ⟨hproper, hadmits, hspares, hio, ⟨_, hinside, ?_⟩, ?_⟩
  · -- The set around it has not closed.
    have hvalue : (evaluator.element scope 3 ⟨get, none⟩ {}).1
        = .ok (((evaluator.backend.stored {} scope).get? "n").getD "?") :=
      get_reads_own_writes hstandard hproper hadmits hspares (fun _ => hio) hinside rfl
        (by decide) rfl
    exact hvalue.trans (by decide +kernel)
  · rcases get_reads_own_writes hstandard hproper hadmits hspares (fun _ => hio) hbehind rfl
      (by decide) rfl with ⟨value, hdoes, hvalue⟩
    exact ⟨_, value, hbehind, hdoes, hvalue⟩

/-- A share log that is written where the unit of the conversation itself is. A predicate that was
    never set has a value once there was gossip. -/
theorem gossip_into_own_unit :
    ∃ registry, Standard.registry (fun _ _ => none) "" = .ok registry ∧
      let evaluator : Evaluator := ⟨registry, .files ⟨"ffm", ".predicates"⟩,
        { documentEnabled := true, documentPath := "ffm/aria/alice.predicates" }, 4⟩
      let template : List Node :=
        [.container ⟨"gossip", ∅⟩ [.text "x=5"], .leaf ⟨"get", .ofList [("name", "x")]⟩]
      Scope.IsValid ⟨"alice", "aria"⟩ ∧
      (evaluator.backend.stored {} ⟨"alice", "aria"⟩).get? "x" = none ∧
      lastSet "x" (closings (boundaries 0 template)) = none ∧
      (evaluator.evaluate ⟨"alice", "aria"⟩ template {}).1 = .ok "5" :=
  ⟨_, rfl, by decide, by decide +kernel, rfl, by decide +kernel⟩

end Evaluator

end Colloquy
