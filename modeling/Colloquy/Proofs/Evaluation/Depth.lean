import Colloquy.Proofs.Evaluation.Standard
import Colloquy.Proofs.Template.Grammar

/-!
# Where an Evaluation Fails

An evaluation with the standard handlers goes through the elements of a tree in the order in which
they open, and the first error ends it. `FailsAt` says which element an error comes from, as its
place in that order: the element that finds no level left, or that fails on entering, or that fails
on leaving with its content evaluated. Every evaluation that fails does so at one element.

Evaluation can only get past an element that has a level left, so all elements that open before the
one at which it fails have one, and all elements have one if it does not fail. Whether the element
itself has one decides which kind of error it is.

## Main definitions

* `Evaluator.FailsAt`: The element at which an evaluation fails, and the error.

## Theorems

* `exists_failsAt`: An evaluation that fails does so at an element.
* `FailsAt.nodes_eq`: An evaluation has the error of the element at which it fails.
* `around_lt_of_ok`: An evaluation that succeeds has levels for all elements.
* `FailsAt.exists_outline`: The element at which an evaluation fails, and those before it.
* `evaluate_ne_depthExceeded`: An evaluation with levels for all elements lacks none.
* `exists_failsAt_evaluate`: An evaluation without a level for an element fails there or before.
-/

namespace Colloquy

namespace Evaluator

variable {evaluator : Evaluator} {properties : Properties} {emptyDefault : String} {scope : Scope}

/-- The evaluation of nodes with `levels` left fails with an error of the element that opens as the
    one of this index, counted from none. -/
inductive FailsAt (evaluator : Evaluator) (scope : Scope) :
    (levels : Nat) → List Node → World → (index : Nat) → EvalError → Prop where
  | tooDeep {first : Node} {rest : List Node} {element : Element} {world : World}
      (hfirst : first.element? = some element) :
      FailsAt evaluator scope 0 (first :: rest) world 0
        (.depthExceeded element.tag.name evaluator.limit)
  | entering {levels : Nat} {first : Node} {rest : List Node} {element : Element}
      {world after : World} {error : EvalError} (hfirst : first.element? = some element)
      (henter : evaluator.enter scope (evaluator.limit - levels) element world
        = .done (.error error, after)) :
      FailsAt evaluator scope (levels + 1) (first :: rest) world 0 error
  | inside {levels index : Nat} {first : Node} {rest : List Node} {element : Element}
      {world between : World} {error : EvalError} (hfirst : first.element? = some element)
      (henter : evaluator.enter scope (evaluator.limit - levels) element world = .content between)
      (hinside : FailsAt evaluator scope levels element.children between index error) :
      FailsAt evaluator scope (levels + 1) (first :: rest) world (index + 1) error
  | leaving {levels : Nat} {first : Node} {rest : List Node} {element : Element}
      {world between after behind : World} {content : String} {error : EvalError}
      (hfirst : first.element? = some element)
      (henter : evaluator.enter scope (evaluator.limit - levels) element world = .content between)
      (hcontent : evaluator.nodes scope levels element.children between = (.ok content, after))
      (hleave : evaluator.leave scope (evaluator.limit - levels) element content after
        = (.error error, behind)) :
      FailsAt evaluator scope (levels + 1) (first :: rest) world 0 error
  | behind {levels index : Nat} {first : Node} {rest : List Node} {world after : World}
      {text : String} {error : EvalError}
      (hfirst : node (evaluator.element scope levels) first world = (.ok text, after))
      (hrest : FailsAt evaluator scope levels rest after index error) :
      FailsAt evaluator scope levels (first :: rest) world ((first.outline 0).length + index) error

theorem element_succ (h : evaluator.IsStandard properties emptyDefault) (levels : Nat)
    (element : Element) (world : World) :
    evaluator.element scope (levels + 1) element world
      = match evaluator.enter scope (evaluator.limit - levels) element world with
        | .done outcome => outcome
        | .content world =>
          match evaluator.nodes scope levels element.children world with
          | (.ok text, world) => evaluator.leave scope (evaluator.limit - levels) element text world
          | (.error error, world) => (.error error, world) :=
  dispatch_eq h scope _ _ element world

theorem node_of_element {element : Element → World → Except EvalError String × World}
    {first : Node} {opened : Element} (h : first.element? = some opened) (world : World) :
    node element first world = element opened world := by
  cases first with
  | text content => cases h
  | leaf tag =>
      cases h
      rfl
  | container tag children =>
      cases h
      rfl

/-- An evaluation of nodes that fails does so at an element, if this is so wherever an element is
    the first to fail. -/
theorem exists_failsAt_of_first {levels : Nat}
    (helement : ∀ {first : Node} {element : Element} {world after : World} {error : EvalError}
      (rest : List Node), first.element? = some element →
      evaluator.element scope levels element world = (.error error, after) →
      ∃ index, FailsAt evaluator scope levels (first :: rest) world index error)
    (nodes : List Node) (world : World) {error : EvalError} {after : World}
    (hfail : evaluator.nodes scope levels nodes world = (.error error, after)) :
    ∃ index, FailsAt evaluator scope levels nodes world index error := by
  induction nodes generalizing world with
  | nil => cases hfail
  | cons first rest ih =>
      rw [Evaluator.nodes, concatenate] at hfail
      rcases hfirst : node (evaluator.element scope levels) first world with ⟨result, between⟩
      rw [hfirst] at hfail
      cases result with
      | error other =>
          -- Text has no errors, so it is an element that comes first.
          cases hfail
          cases first with
          | text content => cases hfirst
          | leaf tag => exact helement rest rfl hfirst
          | container tag children => exact helement rest rfl hfirst
      | ok text =>
          rcases hrest : concatenate (evaluator.element scope levels) rest between with
            ⟨result, behind⟩
          simp only [hrest] at hfail
          cases result with
          | ok more => cases hfail
          | error other =>
              cases hfail
              rcases ih between hrest with ⟨index, hindex⟩
              exact ⟨_, .behind hfirst hindex⟩

/-- An evaluation that fails does so at an element. -/
theorem exists_failsAt (h : evaluator.IsStandard properties emptyDefault) (levels : Nat)
    (nodes : List Node) (world : World) {error : EvalError} {after : World}
    (hfail : evaluator.nodes scope levels nodes world = (.error error, after)) :
    ∃ index, FailsAt evaluator scope levels nodes world index error := by
  -- Induction on the levels. Nodes side by side share theirs, which is why they have a lemma.
  induction levels generalizing nodes world error after with
  | zero =>
      refine exists_failsAt_of_first (fun rest hopened helement => ?_) nodes world hfail
      cases helement
      exact ⟨0, .tooDeep hopened⟩
  | succ levels ih =>
      refine exists_failsAt_of_first (fun {_ element world _ _} rest hopened helement => ?_) nodes
        world hfail
      rw [element_succ h] at helement
      cases henter : evaluator.enter scope (evaluator.limit - levels) element world with
      | done outcome =>
          simp only [henter] at helement
          exact ⟨0, .entering hopened (helement ▸ henter)⟩
      | content between =>
          simp only [henter] at helement
          rcases hcontent : evaluator.nodes scope levels element.children between with
            ⟨result, inner⟩
          simp only [hcontent] at helement
          cases result with
          | ok text => exact ⟨0, .leaving hopened henter hcontent helement⟩
          | error other =>
              -- An error in the content is the error of the element, one level further down.
              cases helement
              rcases ih _ _ hcontent with ⟨index, hindex⟩
              exact ⟨index + 1, .inside hopened henter hindex⟩

/-- An evaluation has the error of the element at which it fails. -/
theorem FailsAt.nodes_eq (h : evaluator.IsStandard properties emptyDefault) {levels index : Nat}
    {nodes : List Node} {world : World} {error : EvalError}
    (hfails : FailsAt evaluator scope levels nodes world index error) :
    (evaluator.nodes scope levels nodes world).1 = .error error := by
  induction hfails with
  | tooDeep hfirst =>
      rw [Evaluator.nodes, concatenate, node_of_element hfirst]
      rfl
  | entering hfirst henter =>
      rw [Evaluator.nodes, concatenate, node_of_element hfirst, element_succ h, henter]
  | @inside levels _ _ _ element _ between _ hfirst henter _ ih =>
      rw [Evaluator.nodes, concatenate, node_of_element hfirst, element_succ h, henter]
      -- The content fails, so the element is never left.
      rcases hcontent : evaluator.nodes scope levels element.children between with ⟨result, inner⟩
      rw [hcontent] at ih
      cases ih
      simp only [hcontent]
  | leaving hfirst henter hcontent hleave =>
      rw [Evaluator.nodes, concatenate, node_of_element hfirst, element_succ h, henter]
      simp only [hcontent, hleave]
  | @behind levels _ _ rest _ after _ _ hfirst _ ih =>
      -- The first one has its text, which is lost when the rest fails.
      rcases hrest : evaluator.nodes scope levels rest after with ⟨result, final⟩
      rw [hrest] at ih
      cases ih
      rw [Evaluator.nodes] at hrest ⊢
      rw [concatenate, hfirst]
      simp only [hrest]

/-- An element opens before everything in it. -/
theorem outline_of_element {first : Node} {element : Element}
    (h : first.element? = some element) (around : Nat) :
    first.outline around = ⟨around, element.tag⟩ :: outline (around + 1) element.children := by
  cases first with
  | text content => cases h
  | leaf tag =>
      cases h
      rfl
  | container tag children =>
      cases h
      rfl

/-- An evaluation of nodes that succeeds has a level left for every element, if this is so of every
    element that succeeds and of what is in it. -/
theorem around_lt_of_first {levels around : Nat}
    (helement : ∀ {element : Element} {world after : World} {text : String},
      evaluator.element scope levels element world = (.ok text, after) →
      ∀ place ∈ ⟨around, element.tag⟩ :: outline (around + 1) element.children,
        place.around < around + levels)
    (nodes : List Node) (world : World) {text : String} {after : World}
    (hok : evaluator.nodes scope levels nodes world = (.ok text, after)) :
    ∀ place ∈ outline around nodes, place.around < around + levels := by
  induction nodes generalizing world text after with
  | nil => exact nofun
  | cons first rest ih =>
      rw [Evaluator.nodes, concatenate] at hok
      rcases hfirst : node (evaluator.element scope levels) first world with ⟨result, between⟩
      rw [hfirst] at hok
      cases result with
      | error other => cases hok
      | ok text =>
          rcases hrest : concatenate (evaluator.element scope levels) rest between with
            ⟨result, behind⟩
          simp only [hrest] at hok
          cases result with
          | error other => cases hok
          | ok more =>
              rw [outline, List.forall_mem_append]
              refine ⟨?_, ih between hrest⟩
              -- A text opens nothing, and of an element everything in it is known to have had room.
              cases hopened : first.element? with
              | none =>
                  cases first with
                  | text content => exact nofun
                  | leaf tag => cases hopened
                  | container tag children => cases hopened
              | some element =>
                  rw [node_of_element hopened] at hfirst
                  rw [outline_of_element hopened]
                  exact helement hfirst

/-- An evaluation that succeeds has a level left for every element. Content that is not evaluated is
    none at all. -/
theorem around_lt_of_ok (h : evaluator.IsStandard properties emptyDefault) (levels : Nat)
    (nodes : List Node) (world : World) {text : String} {after : World}
    (hok : evaluator.nodes scope levels nodes world = (.ok text, after)) (around : Nat) :
    ∀ place ∈ outline around nodes, place.around < around + levels := by
  induction levels generalizing nodes world text after around with
  | zero =>
      refine around_lt_of_first (fun helement => ?_) nodes world hok
      cases helement
  | succ levels ih =>
      refine around_lt_of_first (fun {element world _ _} helement => ?_) nodes world hok
      rw [List.forall_mem_cons]
      refine ⟨Nat.lt_add_of_pos_right (Nat.succ_pos levels), ?_⟩
      rw [element_succ h] at helement
      cases henter : evaluator.enter scope (evaluator.limit - levels) element world with
      | done outcome =>
          simp only [henter] at helement
          -- Content that was passed over without an error is none at all.
          rw [(enter_done h henter).2 ⟨_, congrArg Prod.fst helement⟩]
          exact nofun
      | content between =>
          simp only [henter] at helement
          rcases hcontent : evaluator.nodes scope levels element.children between with
            ⟨result, inner⟩
          simp only [hcontent] at helement
          cases result with
          | error other => cases helement
          | ok content =>
              have hinside := ih _ _ hcontent (around + 1)
              rwa [Nat.add_assoc, Nat.add_comm 1] at hinside

/-- The element at which an evaluation fails, and those before it: they have a level left. It has
    none itself if and only if that is the error. -/
theorem FailsAt.exists_outline (h : evaluator.IsStandard properties emptyDefault)
    {levels index : Nat} {nodes : List Node} {world : World} {error : EvalError}
    (hfails : FailsAt evaluator scope levels nodes world index error) (around : Nat) :
    ∃ before place after, outline around nodes = before ++ place :: after ∧
      before.length = index ∧ (∀ other ∈ before, other.around < around + levels) ∧
      ((place.around = around + levels ∧
          error = .depthExceeded place.tag.name evaluator.limit) ∨
        (place.around < around + levels ∧
          ∀ tag limit, error ≠ .depthExceeded tag limit)) := by
  -- Induction on where the evaluation fails. Only the elements passed by need a further argument.
  induction hfails generalizing around with
  | tooDeep hfirst =>
      rw [outline, outline_of_element hfirst]
      exact ⟨[], _, _, rfl, rfl, nofun, .inl ⟨rfl, rfl⟩⟩
  | entering hfirst henter =>
      rw [outline, outline_of_element hfirst]
      refine ⟨[], _, _, rfl, rfl, nofun, .inr ⟨Nat.lt_add_of_pos_right (Nat.succ_pos _), ?_⟩⟩
      exact fun tag limit heq => (enter_done h henter).1 tag limit (congrArg Except.error heq)
  | @inside levels _ _ rest element _ _ _ hfirst henter _ ih =>
      rcases ih (around + 1) with ⟨before, place, after, houtline, hlength, hbefore, hplace⟩
      refine ⟨⟨around, element.tag⟩ :: before, place, after ++ outline around rest, ?_, ?_, ?_, ?_⟩
      · rw [outline, outline_of_element hfirst, houtline]
        simp only [List.cons_append, List.append_assoc]
      · rw [List.length_cons, hlength]
      · rw [List.forall_mem_cons]
        exact ⟨Nat.lt_add_of_pos_right (Nat.succ_pos _), fun other hother => by
          have := hbefore other hother
          omega⟩
      · rwa [Nat.add_assoc, Nat.add_comm 1] at hplace
  | leaving hfirst henter hcontent hleave =>
      rw [outline, outline_of_element hfirst]
      refine ⟨[], _, _, rfl, rfl, nofun, .inr ⟨Nat.lt_add_of_pos_right (Nat.succ_pos _), ?_⟩⟩
      rintro tag limit rfl
      exact leave_ne h scope _ _ _ _ tag limit (congrArg Prod.fst hleave)
  | @behind levels _ first rest world between text error hfirst _ ih =>
      rcases ih around with ⟨before, place, after, houtline, hlength, hbefore, hplace⟩
      -- The first node is evaluated without an error, so it has levels for all of its elements.
      have hpassed : evaluator.nodes scope levels [first] world = (.ok (text ++ ""), between) := by
        rw [Evaluator.nodes, concatenate, hfirst]
        rfl
      have hbound := around_lt_of_ok h levels [first] world hpassed around
      rw [outline, outline, List.append_nil] at hbound
      refine ⟨first.outline around ++ before, place, after, ?_, ?_, ?_, hplace⟩
      · rw [outline, houtline, List.append_assoc]
      · rw [List.length_append, hlength, first.length_outline around 0]
      · exact List.forall_mem_append.mpr ⟨hbound, hbefore⟩

/-- A list starts with what satisfies a property only up to what does not. -/
theorem length_le_of_forall {α : Type} {p : α → Prop} {before after front back : List α} {x : α}
    (h : before ++ x :: after = front ++ back) (hfront : ∀ y ∈ front, p y) (hx : ¬ p x) :
    front.length ≤ before.length := by
  rcases List.append_eq_append_iff.mp h with ⟨more, hmore, hback⟩ | ⟨more, hmore, _⟩
  · -- The front would go on with the element that does not satisfy the property.
    cases more with
    | nil => exact Nat.le_of_eq (by rw [hmore, List.append_nil])
    | cons y more =>
        cases hback
        exact absurd (hfront x (hmore ▸ List.mem_append_right before List.mem_cons_self)) hx
  · rw [hmore, List.length_append]
    exact Nat.le_add_right _ _

theorem evaluate_fst (evaluator : Evaluator) (scope : Scope) (nodes : List Node) (world : World) :
    (evaluator.evaluate scope nodes world).1
      = (evaluator.nodes scope evaluator.limit nodes world).1 := rfl

/-- An evaluation that has a level for every element does not fail for want of one. -/
theorem evaluate_ne_depthExceeded (h : evaluator.IsStandard properties emptyDefault)
    {nodes : List Node} (hroom : ∀ place ∈ outline 0 nodes, place.around < evaluator.limit)
    (world : World) (tag : String) (limit : Nat) :
    (evaluator.evaluate scope nodes world).1 ≠ .error (.depthExceeded tag limit) := by
  rw [evaluate_fst]
  rcases hrun : evaluator.nodes scope evaluator.limit nodes world with ⟨result, after⟩
  rintro rfl
  rcases exists_failsAt h _ _ _ hrun with ⟨index, hfails⟩
  rcases hfails.exists_outline h 0 with ⟨before, place, behind, houtline, _, _, hplace⟩
  have hhere := hroom place (houtline ▸ List.mem_append_right before List.mem_cons_self)
  -- It would fail at an element without a level, or with an error of another kind.
  rcases hplace with ⟨haround, _⟩ | ⟨_, hne⟩
  · omega
  · exact hne tag limit rfl

/-- An evaluation that has no level for an element, but has one for each that opens before it, fails
    there or before. -/
theorem exists_failsAt_evaluate (h : evaluator.IsStandard properties emptyDefault)
    {nodes : List Node} {before after : List Occurrence} {place : Occurrence}
    (houtline : outline 0 nodes = before ++ place :: after)
    (hbefore : ∀ other ∈ before, other.around < evaluator.limit)
    (hplace : place.around = evaluator.limit) (world : World) :
    ∃ index error, (evaluator.evaluate scope nodes world).1 = .error error ∧
      FailsAt evaluator scope evaluator.limit nodes world index error ∧
      (index = before.length ∧ error = .depthExceeded place.tag.name evaluator.limit ∨
        index < before.length) := by
  have hbeyond : ¬ place.around < evaluator.limit := by omega
  rcases hrun : evaluator.nodes scope evaluator.limit nodes world with ⟨result, final⟩
  cases result with
  | ok text =>
      -- With a text for all of them every element has had a level.
      have hroom := around_lt_of_ok h _ _ _ hrun 0 place
        (houtline ▸ List.mem_append_right before List.mem_cons_self)
      omega
  | error error =>
      rcases exists_failsAt h _ _ _ hrun with ⟨index, hfails⟩
      refine ⟨index, error, by rw [evaluate_fst, hrun], hfails, ?_⟩
      rcases hfails.exists_outline h 0 with ⟨front, culprit, back, hsame, hindex, hfront, hculprit⟩
      rw [houtline] at hsame
      rw [Nat.zero_add] at hfront hculprit
      rcases hculprit with ⟨haround, rfl⟩ | ⟨haround, _⟩
      · -- Neither of the two elements has a level, and those before them have, so they are one.
        have hle := length_le_of_forall hsame hfront hbeyond
        have hge := length_le_of_forall hsame.symm hbefore (by omega)
        rcases List.append_inj hsame (Nat.le_antisymm hge hle) with ⟨rfl, hcons⟩
        cases hcons
        exact .inl ⟨hindex.symm, rfl⟩
      · -- The element at which it fails has a level, so it opens before the one that has none.
        have hupto : ∀ other ∈ front ++ [culprit], other.around < evaluator.limit :=
          List.forall_mem_append.mpr ⟨hfront, List.forall_mem_singleton.mpr haround⟩
        have hsplit : before ++ place :: after = front ++ [culprit] ++ back := by
          rw [hsame, List.append_assoc, List.singleton_append]
        have hle := length_le_of_forall hsplit hupto hbeyond
        rw [List.length_append, List.length_singleton] at hle
        exact .inr (by omega)

end Evaluator

end Colloquy
