import Colloquy.Proofs.Evaluation.Depth
import Mathlib.Control.Monad.Basic

/-!
# Elements Without a Handler

An element that has no handler is replaced by what is in it. `flatten` does so before anything is
evaluated, and evaluation comes to the same text or the same error either way, with the same files,
the same predicates and the same events but for the reports of unknown elements.

Two things would tell them apart, and both are excluded. An unknown element takes up a level, so the
tree as it was written must not nest too deep; the flattened tree then has levels to spare. And an
element is content even if there is nothing in it. A handler that wants content is satisfied by a
hollow element and one that wants none refuses it, though nothing is left of it in the flattened
tree; so unknown elements must not be hollow.

What remains is that the standard handlers look at an element in no other way. `Script.Parallel`
says of their scripts for two elements with one tag that they differ at most in the content that is
evaluated first. Evaluation is then an induction on the levels that are left. A step down in the
tree as it was written is a step down in the flattened tree if the element has a handler, and no
step at all if it has none, which is why the two counts of levels have to vary apart from each
other. Two trees are evaluated by one evaluator here, and events count, so the worlds on either side
are related by `World.SameButRemarks` and not by a simulation of one evaluator by another.

## Main definitions

* `flatten`: Nodes without the elements that have no handler.
* `Registry.Shows`, `Registry.IsSubstantial`: Something is left of a node, and of every element in
  it.
* `World.SameButRemarks`: Two worlds that differ only in reports of unknown elements.
* `Script.Parallel`: Two scripts that differ only in the content that is evaluated first.

## Theorems

* `flatten_ne_nil`: What is substantial leaves something behind.
* `parallel_script`: The standard handlers look at nothing but the tag and the content.
* `concatenate_append`: Nodes are evaluated one after the other.
* `nodes_flatten`: Nodes and flattened nodes evaluated side by side.
* `evaluate_flatten`: Elements without a handler are transparent.
-/

namespace Colloquy

mutual

/-- A node without the elements that have no handler. -/
def Node.flatten (registry : Registry) : Node → List Node
  | .text content => [.text content]
  | .leaf tag => if (registry.lookup tag.name).isSome then [.leaf tag] else []
  | .container tag children =>
    if (registry.lookup tag.name).isSome then [.container tag (flatten registry children)]
    else flatten registry children

/-- Nodes without the elements that have no handler. What is in such an element takes its place. -/
def flatten (registry : Registry) : List Node → List Node
  | [] => []
  | node :: rest => node.flatten registry ++ flatten registry rest

end

/-- An element with its content flattened. -/
def Element.flatten (registry : Registry) (element : Element) : Element :=
  { element with body := element.body.map (Colloquy.flatten registry) }

namespace Registry

/-- Something is left of a node that is flattened: it is a text or has a handler, or it has such a
    node in it at some depth below elements that have none. -/
inductive Shows (registry : Registry) : Node → Prop where
  | text (content : String) : Shows registry (.text content)
  | leaf {tag : Tag} (h : (registry.lookup tag.name).isSome) : Shows registry (.leaf tag)
  | container {tag : Tag} (children : List Node) (h : (registry.lookup tag.name).isSome) :
      Shows registry (.container tag children)
  | inside {tag : Tag} {children : List Node} {child : Node} (hmem : child ∈ children)
      (hchild : Shows registry child) : Shows registry (.container tag children)

/-- Every element without a handler has something in it that is left when it is flattened. -/
inductive IsSubstantial (registry : Registry) : Node → Prop where
  | text (content : String) : IsSubstantial registry (.text content)
  | leaf {tag : Tag} (h : (registry.lookup tag.name).isSome) : IsSubstantial registry (.leaf tag)
  | container {tag : Tag} {children : List Node}
      (hchildren : ∀ child ∈ children, IsSubstantial registry child)
      (hshows : registry.lookup tag.name = none → ∃ child ∈ children, registry.Shows child) :
      IsSubstantial registry (.container tag children)

end Registry

section Flatten

variable {registry : Registry}

theorem flatten_eq_flatMap (nodes : List Node) :
    flatten registry nodes = nodes.flatMap (Node.flatten registry) := by
  induction nodes with
  | nil => rfl
  | cons node rest ih => rw [flatten, List.flatMap_cons, ih]

/-- An element that has a handler stays, and what is in one that has none takes its place. -/
theorem flatten_of_element {node : Node} {element : Element} (h : node.element? = some element) :
    node.flatten registry = if (registry.lookup element.tag.name).isSome
      then [(element.flatten registry).toNode] else flatten registry element.children := by
  cases node with
  | text content => cases h
  | leaf tag =>
      cases h
      rw [Node.flatten]
      rfl
  | container tag children =>
      cases h
      rw [Node.flatten]
      rfl

theorem Registry.Shows.flatten_ne_nil {node : Node} (h : registry.Shows node) :
    node.flatten registry ≠ [] := by
  induction h with
  | text content =>
      rw [Node.flatten]
      exact List.cons_ne_nil _ _
  | leaf hlookup =>
      rw [Node.flatten, if_pos hlookup]
      exact List.cons_ne_nil _ _
  | container children hlookup =>
      rw [Node.flatten, if_pos hlookup]
      exact List.cons_ne_nil _ _
  | inside hmem _ ih =>
      rw [Node.flatten]
      split
      · exact List.cons_ne_nil _ _
      · -- The element is put away, but what shows in it stays.
        rw [flatten_eq_flatMap]
        intro hnil
        exact ih (List.flatMap_eq_nil_iff.mp hnil _ hmem)

theorem Registry.IsSubstantial.shows {node : Node} (h : registry.IsSubstantial node) :
    registry.Shows node := by
  cases h with
  | text content => exact .text content
  | leaf hlookup => exact .leaf hlookup
  | @container tag children _ hshows =>
      cases hlookup : registry.lookup tag.name with
      | none =>
          rcases hshows hlookup with ⟨child, hmem, hchild⟩
          exact .inside hmem hchild
      | some handler => exact .container children (by rw [hlookup]; rfl)

/-- What is substantial leaves something behind. -/
theorem flatten_ne_nil {nodes : List Node} (h : ∀ node ∈ nodes, registry.IsSubstantial node)
    (hne : nodes ≠ []) : flatten registry nodes ≠ [] := by
  cases nodes with
  | nil => exact absurd rfl hne
  | cons node rest =>
      have hnode := (h node List.mem_cons_self).shows.flatten_ne_nil
      rw [flatten]
      intro hnil
      exact hnode (List.append_eq_nil_iff.mp hnil).1

theorem Registry.IsSubstantial.children {node : Node} {element : Element}
    (h : registry.IsSubstantial node) (helement : node.element? = some element) :
    ∀ child ∈ element.children, registry.IsSubstantial child := by
  cases h with
  | text content => cases helement
  | leaf hlookup =>
      cases helement
      exact nofun
  | container hchildren _ =>
      cases helement
      exact hchildren

theorem Element.children_flatten (element : Element) :
    (element.flatten registry).children = Colloquy.flatten registry element.children := by
  cases element with
  | mk tag body =>
      cases body with
      | none => rw [Element.flatten, children, children, Option.map_none, Option.getD_none,
          Colloquy.flatten]
      | some children => rfl

/-- A content policy cannot tell an element from its flattened form. -/
theorem ContentPolicy.check_flatten (policy : ContentPolicy) {element : Element}
    (h : ∀ child ∈ element.children, registry.IsSubstantial child) :
    policy.check (element.flatten registry) = policy.check element := by
  have hchildren : (element.flatten registry).hasChildren = element.hasChildren := by
    rw [Element.hasChildren, Element.hasChildren, Element.children_flatten]
    -- Content that is there before is there afterwards, since nothing in it is hollow.
    by_cases hnil : element.children = []
    · rw [hnil, Colloquy.flatten]
    · rw [Bool.not_inj_iff, List.isEmpty_eq_false_iff.mpr hnil,
        List.isEmpty_eq_false_iff.mpr (flatten_ne_nil h hnil)]
  unfold ContentPolicy.check
  rw [hchildren]
  rfl

end Flatten

namespace Evaluator

/-- Whether an event is anything else than the report of an element without a handler. -/
def isNews (event : Event) : Bool := event.channel ≠ channel

end Evaluator

/-- Two worlds that differ in nothing but reports of elements without a handler, all of them behind
    the first `events`. -/
structure World.SameButRemarks (events : List Event) (world world' : World) : Prop where
  disk : world'.disk = world.disk
  memory : world'.memory = world.memory
  now : world'.now = world.now
  events : ∃ more more', world.events = events ++ more ∧ world'.events = events ++ more' ∧
    more'.filter Evaluator.isNews = more.filter Evaluator.isNews

namespace World.SameButRemarks

variable {events : List Event} {world world' : World}

theorem refl (world : World) : SameButRemarks world.events world world :=
  ⟨rfl, rfl, rfl, [], [], (List.append_nil _).symm, (List.append_nil _).symm, rfl⟩

/-- What is done to both worlds leaves them the same. -/
theorem withDisk (h : SameButRemarks events world world') (disk : Disk) :
    SameButRemarks events { world with disk } { world' with disk } :=
  ⟨rfl, h.memory, h.now, h.events⟩

theorem withMemory (h : SameButRemarks events world world') (memory : Memory) :
    SameButRemarks events { world with memory } { world' with memory } :=
  ⟨h.disk, rfl, h.now, h.events⟩

theorem report (h : SameButRemarks events world world') (event : Event) :
    SameButRemarks events (world.report event) (world'.report event) := by
  rcases h.events with ⟨more, more', hmore, hmore', hfilter⟩
  refine ⟨h.disk, h.memory, h.now, more ++ [event], more' ++ [event], ?_, ?_, ?_⟩
  · rw [World.report, hmore, List.append_assoc]
  · rw [World.report, hmore', List.append_assoc]
  · rw [List.filter_append, List.filter_append, hfilter]

/-- The report of an unknown element is the one thing that only one of the worlds may have. -/
theorem remark (h : SameButRemarks events world world') (tag : String) (depth : Nat) :
    SameButRemarks events (world.report (Evaluator.unknownEvent tag depth)) world' := by
  rcases h.events with ⟨more, more', hmore, hmore', hfilter⟩
  refine ⟨h.disk, h.memory, h.now, more ++ [Evaluator.unknownEvent tag depth], more', ?_, hmore',
    ?_⟩
  · rw [World.report, hmore, List.append_assoc]
  · have hremark : Evaluator.isNews (Evaluator.unknownEvent tag depth) = false := by
      simp [Evaluator.isNews, Evaluator.unknownEvent]
    rw [List.filter_append, hfilter, List.filter_cons_of_neg (by rw [hremark]; exact nofun),
      List.filter_nil, List.append_nil]

theorem filter_isNews (h : SameButRemarks events world world') :
    world'.events.filter Evaluator.isNews = world.events.filter Evaluator.isNews := by
  rcases h.events with ⟨more, more', hmore, hmore', hfilter⟩
  rw [hmore, hmore', List.filter_append, List.filter_append, hfilter]

/-- Events that are made part of some work stay what they are. -/
theorem during (h : SameButRemarks events world world') (work : Work) :
    SameButRemarks events (world.during work events.length) (world'.during work events.length) := by
  rcases h.events with ⟨more, more', hmore, hmore', hfilter⟩
  have hmark : Evaluator.isNews ∘ (fun event : Event => { event with work := some work })
      = Evaluator.isNews := rfl
  refine ⟨h.disk, h.memory, h.now, more.map fun event => { event with work := some work },
    more'.map fun event => { event with work := some work }, ?_, ?_, ?_⟩
  · rw [World.during, hmore, List.take_left, List.drop_left]
  · rw [World.during, hmore', List.take_left, List.drop_left]
  · rw [List.filter_map, List.filter_map, hmark, hfilter]

end World.SameButRemarks

/-- Two outcomes with one result, in worlds that differ only in reports of unknown elements. -/
structure SameOutcome {ε α : Type} (events : List Event) (outcome outcome' : Except ε α × World) :
    Prop where
  result : outcome'.1 = outcome.1
  world : World.SameButRemarks events outcome.2 outcome'.2

/-- The two outcomes with the result that they share. -/
theorem SameOutcome.exists_eq {ε α : Type} {events : List Event}
    {outcome outcome' : Except ε α × World} (h : SameOutcome events outcome outcome') :
    ∃ result world world', outcome = (result, world) ∧ outcome' = (result, world') ∧
      World.SameButRemarks events world world' :=
  ⟨outcome.1, outcome.2, outcome'.2, rfl, Prod.ext h.result rfl, h.world⟩

namespace Script

/-- Two scripts that differ only in the content that they evaluate first, and pass on an error in
    it. -/
inductive Parallel (content content' : List Node) : Script → Script → Prop where
  | same {script : Script} (h : script.IsPlain) : Parallel content content' script script
  | refuse (error : EvalError) : Parallel content content' (.fail error) (.fail error)
  | evaluate {next : String → Script} (h : ∀ text, (next text).IsPlain) :
      Parallel content content' (evaluateThen content next) (evaluateThen content' next)

end Script

namespace Standard

open Script

/-- The standard handlers look at nothing but the tag and the content of an element, and at the
    conversation. -/
theorem parallel_script {properties : Properties} {emptyDefault : String} {handler : Handler}
    (h : handler ∈ handlers properties emptyDefault) (surroundings : Surroundings) (depth : Nat)
    {element element' : Element} (htag : element'.tag = element.tag) :
    Parallel element.children element'.children (handler.script surroundings element)
      (handler.script { surroundings with depth } element') := by
  have hname : nameOf element' = nameOf element := by
    rw [nameOf, nameOf, htag]
  simp only [handlers, List.mem_cons, List.not_mem_nil, or_false] at h
  -- What an element is about is its tag, which stays; its content matters only where it is
  -- evaluated.
  rcases h with rfl | rfl | rfl | rfl | rfl | rfl
  · dsimp only [property]
    rw [hname]
    refine .same ?_
    split
    · exact .finish _
    · split
      · exact .finish _
      · exact .report (.finish _)
  · exact .evaluate fun _ => isPlain_shareThen (.finish _)
  · dsimp only [getPredicate]
    rw [hname]
    refine .same ?_
    split
    · exact .finish _
    · exact isPlain_loadThen fun _ => .finish _
  · dsimp only [setPredicate]
    rw [hname, htag]
    split
    · exact .refuse _
    · exact .evaluate fun text => isPlain_saveThen (.finish text)
  · exact .evaluate fun _ => .finish _
  · exact .same (.finish _)

end Standard

namespace Backend

variable {events : List Event} {world world' : World}

theorem load_same (backend : Backend) (scope : Scope) (name : String)
    (h : World.SameButRemarks events world world') :
    SameOutcome events (backend.load scope name world) (backend.load scope name world') := by
  cases backend with
  | memory =>
      rw [load, load, h.memory]
      exact ⟨rfl, h⟩
  | files store =>
      rw [load, load, h.disk]
      exact ⟨rfl, h.withDisk _⟩

theorem save_same (backend : Backend) (scope : Scope) (name value : String)
    (h : World.SameButRemarks events world world') :
    SameOutcome events (backend.save scope name value world)
      (backend.save scope name value world') := by
  cases backend with
  | memory =>
      rw [save, save, h.memory]
      exact ⟨rfl, h.withMemory _⟩
  | files store =>
      -- The disk and the time are the same on both sides, so the same is written.
      have hsave : store.save world'.disk world'.now.mailText scope name value
          = store.save world.disk world.now.mailText scope name value := by
        rw [h.disk, h.now]
      simp only [save, hsave]
      rcases store.save world.disk world.now.mailText scope name value with ⟨result, disk⟩
      cases result with
      | error error => exact ⟨rfl, h.withDisk disk⟩
      | ok path => exact ⟨rfl, (h.withDisk disk).report _⟩

end Backend

theorem ShareLog.record_same (log : ShareLog) (scope : Scope) (text : String) {events : List Event}
    {world world' : World} (h : World.SameButRemarks events world world') :
    SameOutcome events (log.record scope text world) (log.record scope text world') := by
  have hwrite : log.write world'.disk world'.now.logText scope text
      = log.write world.disk world.now.logText scope text := by
    rw [h.disk, h.now]
  rw [record, record, hwrite]
  rcases log.write world.disk world.now.logText scope text with ⟨result, disk⟩
  cases result with
  | error error => exact ⟨rfl, h.withDisk disk⟩
  | ok _ => exact ⟨rfl, (h.withDisk disk).report _⟩

namespace Evaluator

variable {evaluator : Evaluator} {properties : Properties} {emptyDefault : String} {scope : Scope}
  {events : List Event} {world world' : World}

/-- A script that evaluates nothing does the same in worlds that are the same to it. -/
theorem perform_plain_same {script : Script} (hscript : script.IsPlain)
    (evaluate evaluate' : List Node → World → Except EvalError String × World)
    (h : World.SameButRemarks events world world') :
    SameOutcome events (evaluator.perform scope evaluate script world)
      (evaluator.perform scope evaluate' script world') := by
  induction hscript generalizing world world' with
  | finish text => exact ⟨rfl, h⟩
  | fail _ => exact ⟨rfl, h⟩
  | @load name next _ ih =>
      have hload := evaluator.backend.load_same scope name h
      rcases hload.exists_eq with ⟨result, between, between', heq, heq', h⟩
      rw [perform, perform, heq, heq']
      exact ih result h
  | @save name value next _ ih =>
      have hsave := evaluator.backend.save_same scope name value h
      rcases hsave.exists_eq with ⟨result, between, between', heq, heq', h⟩
      rw [perform, perform, heq, heq']
      exact ih result h
  | @share text next _ ih =>
      have hrecord := evaluator.shareLog.record_same scope text h
      rcases hrecord.exists_eq with ⟨result, between, between', heq, heq', h⟩
      rw [perform, perform, heq, heq']
      exact ih result h
  | @report event next _ ih => exact ih (h.report event)

/-- Parallel scripts do the same if their contents do. -/
theorem perform_parallel {content content' : List Node} {script script' : Script}
    (hscript : Script.Parallel content content' script script')
    {evaluate evaluate' : List Node → World → Except EvalError String × World}
    (h : World.SameButRemarks events world world')
    (hcontent : SameOutcome events (evaluate content world) (evaluate' content' world')) :
    SameOutcome events (evaluator.perform scope evaluate script world)
      (evaluator.perform scope evaluate' script' world') := by
  cases hscript with
  | same hplain => exact perform_plain_same hplain evaluate evaluate' h
  | refuse error => exact ⟨rfl, h⟩
  | evaluate hplain =>
      rcases hcontent.exists_eq with ⟨result, between, between', heq, heq', h⟩
      rw [Script.evaluateThen, Script.evaluateThen, perform, perform, heq, heq']
      -- Only an answer to the content makes the script go on, and it is the same answer.
      cases result with
      | error error => exact ⟨rfl, h⟩
      | ok text => exact perform_plain_same (hplain text) evaluate evaluate' h

/-- Nodes are evaluated one after the other. -/
theorem concatenate_append (element : Element → World → Except EvalError String × World)
    (nodes more : List Node) (world : World) :
    concatenate element (nodes ++ more) world
      = match concatenate element nodes world with
        | (.error error, world) => (.error error, world)
        | (.ok text, world) =>
          match concatenate element more world with
          | (.ok rest, world) => (.ok (text ++ rest), world)
          | (.error error, world) => (.error error, world) := by
  induction nodes generalizing world with
  | nil =>
      rw [List.nil_append, concatenate]
      dsimp only
      rcases concatenate element more world with ⟨result, after⟩
      cases result with
      | error error => rfl
      | ok text =>
          dsimp only
          rw [String.empty_append]
  | cons first nodes ih =>
      rw [List.cons_append, concatenate, concatenate]
      -- Whatever fails first fails the same way in both, and otherwise the texts are joined the
      -- other way round.
      rcases node element first world with ⟨result, between⟩
      cases result with
      | error error => rfl
      | ok text =>
          dsimp only
          rw [ih]
          rcases concatenate element nodes between with ⟨result, after⟩
          cases result with
          | error error => rfl
          | ok middle =>
              dsimp only
              rcases concatenate element more after with ⟨result, final⟩
              cases result with
              | error error => rfl
              | ok rest =>
                  dsimp only
                  rw [String.append_assoc]

/-- A list of one node is evaluated as the node is. -/
theorem concatenate_singleton (element : Element → World → Except EvalError String × World)
    (first : Node) (world : World) :
    concatenate element [first] world = node element first world := by
  rw [concatenate]
  rcases node element first world with ⟨result, after⟩
  cases result with
  | error error => rfl
  | ok text =>
      dsimp only [concatenate]
      rw [String.append_empty]

theorem element?_toNode (element : Element) : element.toNode.element? = some element := by
  cases element with
  | mk tag body =>
      cases body with
      | none => rfl
      | some children => rfl

/-- A node evaluates as its flattened form does, if this is so of the element that it may be. -/
theorem node_flatten {element element' : Element → World → Except EvalError String × World}
    {registry : Registry} {first : Node}
    (helement : ∀ opened, first.element? = some opened →
      SameOutcome events (element opened world)
        (concatenate element' (first.flatten registry) world'))
    (h : World.SameButRemarks events world world') :
    SameOutcome events (node element first world)
      (concatenate element' (first.flatten registry) world') := by
  cases first with
  | text content =>
      rw [Node.flatten, concatenate_singleton]
      exact ⟨rfl, h⟩
  | leaf tag => exact helement _ rfl
  | container tag children => exact helement _ rfl

/-- Nodes evaluate as their flattened forms do if each of them does. -/
theorem concatenate_flatten {element element' : Element → World → Except EvalError String × World}
    {registry : Registry} {nodes : List Node}
    (hnode : ∀ first ∈ nodes, ∀ {world world' : World}, World.SameButRemarks events world world' →
      SameOutcome events (node element first world)
        (concatenate element' (first.flatten registry) world'))
    (h : World.SameButRemarks events world world') :
    SameOutcome events (concatenate element nodes world)
      (concatenate element' (flatten registry nodes) world') := by
  induction nodes generalizing world world' with
  | nil => exact ⟨rfl, h⟩
  | cons first rest ih =>
      rw [List.forall_mem_cons] at hnode
      rcases (hnode.1 h).exists_eq with ⟨result, between, between', heq, heq', h⟩
      -- One node has become a list of nodes, and the rest is put behind it.
      rw [flatten, concatenate_append, concatenate, heq, heq']
      cases result with
      | error error => exact ⟨rfl, h⟩
      | ok text =>
          rcases (ih hnode.2 h).exists_eq with ⟨result, after, after', heq, heq', h⟩
          dsimp only
          rw [heq, heq']
          cases result with
          | error error => exact ⟨rfl, h⟩
          | ok more => exact ⟨rfl, h⟩

theorem mem_outline_of_mem {first : Node} {nodes : List Node} (hfirst : first ∈ nodes)
    {around : Nat} {place : Occurrence} (hplace : place ∈ first.outline around) :
    place ∈ outline around nodes := by
  induction nodes with
  | nil => cases hfirst
  | cons other rest ih =>
      rw [outline, List.mem_append]
      rcases List.mem_cons.mp hfirst with rfl | hrest
      · exact .inl hplace
      · exact .inr (ih hrest)

/-- An element with a handler evaluates as its flattened form does, if its content does. -/
theorem dispatch_flatten (hstandard : evaluator.IsStandard properties emptyDefault)
    {element : Element} {handler : Handler}
    (hlookup : evaluator.registry.lookup element.tag.name = some handler)
    (hchildren : ∀ child ∈ element.children, evaluator.registry.IsSubstantial child)
    {evaluate evaluate' : List Node → World → Except EvalError String × World}
    (h : World.SameButRemarks events world world')
    (hcontent : SameOutcome events (evaluate element.children world)
      (evaluate' (flatten evaluator.registry element.children) world')) (depth depth' : Nat) :
    SameOutcome events (evaluator.dispatch scope depth evaluate element world)
      (evaluator.dispatch scope depth' evaluate' (element.flatten evaluator.registry) world') := by
  have hlookup' : evaluator.registry.lookup (element.flatten evaluator.registry).tag.name
      = some handler := hlookup
  simp only [dispatch, hlookup, hlookup', handler.policy.check_flatten hchildren]
  cases handler.policy.check element with
  | error error => exact ⟨rfl, h⟩
  | ok _ =>
      rw [← Element.children_flatten] at hcontent
      -- The policy has let both pass or neither, since one has content if the other has.
      have hscript : Script.Parallel element.children
          (element.flatten evaluator.registry).children
          (handler.script ⟨scope, depth, evaluator.registry.names⟩ element)
          (handler.script ⟨scope, depth', evaluator.registry.names⟩
            (element.flatten evaluator.registry)) :=
        Standard.parallel_script (hstandard.mem_handlers hlookup) _ depth' rfl
      exact perform_parallel hscript h hcontent

/-- Nodes and flattened nodes are evaluated to the same outcome, if the levels that are left suffice
    for the nodes and are no fewer for the flattened ones. -/
theorem nodes_flatten (hstandard : evaluator.IsStandard properties emptyDefault)
    {levels levels' : Nat} (hlevels : levels ≤ levels') {nodes : List Node} {around : Nat}
    (hroom : ∀ place ∈ outline around nodes, place.around < around + levels)
    (hnodes : ∀ node ∈ nodes, evaluator.registry.IsSubstantial node)
    (h : World.SameButRemarks events world world') :
    SameOutcome events (evaluator.nodes scope levels nodes world)
      (evaluator.nodes scope levels' (flatten evaluator.registry nodes) world') := by
  -- Induction on the levels for the nodes. Those for the flattened ones only fall where an element
  -- stays.
  induction levels generalizing levels' nodes around world world' with
  | zero =>
      refine concatenate_flatten (fun first hfirst world world' h =>
        node_flatten (fun element hopened => ?_) h) h
      -- There is no element, because one would lie too deep.
      have hplace := hroom ⟨around, element.tag⟩ (mem_outline_of_mem hfirst (by
        rw [outline_of_element hopened]
        exact List.mem_cons_self))
      exact absurd hplace (Nat.lt_irrefl around)
  | succ levels ih =>
      refine concatenate_flatten (fun first hfirst world world' h =>
        node_flatten (fun element hopened => ?_) h) h
      have hchildren := (hnodes first hfirst).children hopened
      have hinside : ∀ place ∈ outline (around + 1) element.children,
          place.around < around + 1 + levels := by
        intro place hplace
        have hlt := hroom place (mem_outline_of_mem hfirst (by
          rw [outline_of_element hopened]
          exact List.mem_cons_of_mem _ hplace))
        omega
      rw [flatten_of_element hopened, Evaluator.element]
      cases hlookup : evaluator.registry.lookup element.tag.name with
      | none =>
          -- A level is gone for the nodes and none for the flattened ones.
          simp only [dispatch, hlookup, Option.isSome_none, Bool.false_eq_true, if_false]
          exact ih (Nat.le_of_succ_le hlevels) hinside hchildren (h.remark _ _)
      | some handler =>
          -- The element stays, and a level is gone on both sides.
          cases levels' with
          | zero => exact absurd hlevels (Nat.not_succ_le_zero levels)
          | succ levels' =>
              rw [Option.isSome_some, if_pos rfl, concatenate_singleton,
                node_of_element (element?_toNode _), Evaluator.element]
              exact dispatch_flatten hstandard hlookup hchildren h
                (ih (Nat.le_of_succ_le_succ hlevels) hinside hchildren h) _ _

/-- Elements without a handler are transparent. Nodes that do not nest deeper than the limit, and in
    which no such element is hollow, are evaluated to the same text or the same error as their
    flattened forms. The disk, with what was shared on it, and the predicates are then the same, and
    so are the events but for the reports of elements without a handler. -/
theorem evaluate_flatten (hstandard : evaluator.IsStandard properties emptyDefault)
    {nodes : List Node} (hroom : ∀ place ∈ outline 0 nodes, place.around < evaluator.limit)
    (hnodes : ∀ node ∈ nodes, evaluator.registry.IsSubstantial node) (scope : Scope)
    (world : World) :
    ∃ result after after',
      evaluator.evaluate scope nodes world = (result, after) ∧
      evaluator.evaluate scope (flatten evaluator.registry nodes) world = (result, after') ∧
      after'.disk = after.disk ∧ after'.memory = after.memory ∧
      after'.events.filter isNews = after.events.filter isNews := by
  have hsame : SameOutcome world.events (evaluator.nodes scope evaluator.limit nodes world)
      (evaluator.nodes scope evaluator.limit (flatten evaluator.registry nodes) world) :=
    nodes_flatten hstandard (Nat.le_refl _) (by rwa [Nat.zero_add]) hnodes (.refl world)
  rcases hsame.exists_eq with ⟨result, after, after', heq, heq', h⟩
  -- Being part of an evaluation is the same for both, for they started at the same events.
  have hduring := h.during (work scope)
  refine ⟨result, after.during (work scope) world.events.length,
    after'.during (work scope) world.events.length, ?_, ?_, hduring.disk, hduring.memory,
    hduring.filter_isNews⟩
  · rw [evaluate, heq]
  · rw [evaluate, heq']

/-- An unknown element around a text and a `set`, whose value is an unknown element again, with no
    more levels than there are elements within each other. -/
theorem evaluate_flatten_nested :
    ∃ registry, Standard.registry (fun _ _ => none) "" = .ok registry ∧
      let evaluator : Evaluator := ⟨registry, .files ⟨"ffm", ".predicates"⟩, {}, 3⟩
      let scope : Scope := ⟨"alice", "aria"⟩
      let set : Tag := ⟨"set", .ofList [("name", "mood")]⟩
      let template : List Node :=
        [.container ⟨"b", ∅⟩ [.text "I am ", .container set [.container ⟨"i", ∅⟩ [.text "fine"]]]]
      let flattened : List Node := [.text "I am ", .container set [.text "fine"]]
      (∀ place ∈ outline 0 template, place.around < evaluator.limit) ∧
      (∀ node ∈ template, registry.IsSubstantial node) ∧
      ∃ after after',
        evaluator.evaluate scope template {} = (.ok "I am fine", after) ∧
        evaluator.evaluate scope flattened {} = (.ok "I am fine", after') ∧
        after'.disk = after.disk ∧ after'.memory = after.memory ∧
        after'.events.filter isNews = after.events.filter isNews := by
  refine ⟨_, rfl, ?_⟩
  intro evaluator scope set template flattened
  have hstandard : evaluator.IsStandard (fun _ _ => none) "" := rfl
  have hroom : ∀ place ∈ outline 0 template, place.around < evaluator.limit := by decide +kernel
  -- Every element has a text in it somewhere, and the outer ones are unknown or have content.
  have hvalue : ∀ node ∈ [Node.container ⟨"i", ∅⟩ [.text "fine"]],
      evaluator.registry.IsSubstantial node :=
    List.forall_mem_singleton.mpr (.container (List.forall_mem_singleton.mpr (.text _))
      fun _ => ⟨_, List.mem_cons_self, .text _⟩)
  have hcontent : ∀ node ∈ [Node.text "I am ", .container set [.container ⟨"i", ∅⟩ [.text "fine"]]],
      evaluator.registry.IsSubstantial node :=
    List.forall_mem_cons.mpr ⟨.text _, List.forall_mem_singleton.mpr (.container hvalue nofun)⟩
  have hnodes : ∀ node ∈ template, evaluator.registry.IsSubstantial node :=
    List.forall_mem_singleton.mpr (.container hcontent
      fun _ => ⟨_, List.mem_cons_self, .text _⟩)
  rcases evaluate_flatten hstandard hroom hnodes scope {} with
    ⟨result, after, after', heq, heq', hsame⟩
  have hanswer : (evaluator.evaluate scope template {}).1 = .ok "I am fine" := by decide +kernel
  rw [heq] at hanswer
  cases hanswer
  exact ⟨hroom, hnodes, after, after', heq, heq', hsame⟩

/-- A hollow element is content all the same, so what is left without it differs. -/
example :
    ∃ registry, Standard.registry (fun _ _ => none) "" = .ok registry ∧
      let evaluator : Evaluator := ⟨registry, .memory, {}, 2⟩
      let template : List Node := [.container ⟨"gossip", ∅⟩ [.leaf ⟨"br", ∅⟩]]
      (evaluator.evaluate ⟨"alice", "aria"⟩ template {}).1 = .ok "" ∧
      (evaluator.evaluate ⟨"alice", "aria"⟩ (flatten registry template) {}).1
        = .error (.invalidContent "gossip" .missingContent) :=
  ⟨_, rfl, by decide +kernel⟩

end Evaluator

end Colloquy
