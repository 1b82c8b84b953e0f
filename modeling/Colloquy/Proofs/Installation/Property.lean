import Colloquy.Proofs.Installation.Depth
import Colloquy.Command.Program
import Colloquy.Proofs.Settings.Override

/-!
# Configured Properties

A property that a settings file gives to an agent can be asked for in a template, whatever its name
and the id of the agent are: dots, blanks and characters of any script do no harm on the way from
the file to the answer. Only the case of letters is lost, for the names in settings are compared in
lower case and kept that way, and an element is answered with the property of exactly the name that
it gives. So a template has to name a property in lower case, and for an agent whose id is in lower
case. Of two names that differ in case only, the file has one property.

## Main definitions

* `Layer.SaysOnly`: A source says one thing about a place and nothing else that bears on it.

## Theorems

* `property_mem_statements`: The statement of a property in a file.
* `get?_of_loadFile`: The property of an agent in settings from a file.
* `evaluate_bot`: An element that asks for a property is answered with it.
* `property_reachable`: A property in a settings file can be asked for.
* `upper_case_unreachable`: By the name as it is written it may be missing.
-/

namespace Colloquy

section Lowercase

theorem Lowercase.ofChar_ne_nil (c : Char) : Lowercase.ofChar c ≠ [] := by
  unfold Lowercase.ofChar
  split
  · exact List.cons_ne_nil _ _
  · split
    · exact List.cons_ne_nil _ _
    · split <;> exact List.cons_ne_nil _ _

/-- A text with characters has some in lower case too. -/
theorem lowercase_ne_empty {text : String} (h : text ≠ "") : lowercase text ≠ "" := by
  rw [lowercase]
  intro hempty
  have hnil : Lowercase.following [] text.toList = [] := by
    rw [← @String.toList_ofList (Lowercase.following [] text.toList), hempty]
    rfl
  cases htext : text.toList with
  | nil => exact h (String.toList_eq_nil_iff.mp htext)
  | cons c rest =>
      -- The first character alone leaves something, whatever comes after it.
      rw [htext, Lowercase.following] at hnil
      have hfirst := (List.append_eq_nil_iff.mp hnil).1
      split at hfirst
      · cases hfirst
      · exact Lowercase.ofChar_ne_nil c hfirst

end Lowercase

section Statements

variable {entries inner : List (String × Value)} {name : String} {value : Value}
  {statement : Statement}

theorem mem_tableStatements (hmem : (name, value) ∈ entries)
    (h : statement ∈ entryStatements name value) : statement ∈ tableStatements entries := by
  induction entries with
  | nil => cases hmem
  | cons entry rest ih =>
      rcases entry with ⟨first, found⟩
      rw [tableStatements, List.mem_append]
      -- The statements of a table are those of its entries, one entry after the other.
      rcases List.mem_cons.mp hmem with heq | hmem
      · cases heq
        exact .inl h
      · exact .inr (ih hmem)

/-- What is said about an entry of a table is said about the place below the table. -/
theorem below_mem_entryStatements {key : String} (hmem : (key, value) ∈ inner)
    (h : statement ∈ entryStatements key value) :
    statement.below (lowercase name) ∈ entryStatements name (.table inner) := by
  have hinner : inner.isEmpty = false := by
    cases inner with
    | nil => cases hmem
    | cons entry rest => rfl
  rw [entryStatements, hinner, if_neg Bool.false_ne_true]
  exact List.mem_map_of_mem (mem_tableStatements hmem h)

theorem ofText_agents : KeyPath.ofText "agents" = [.name "agents"] := by decide +kernel

theorem lowercase_agents : lowercase "agents" = "agents" := by decide +kernel

theorem lowercase_properties : lowercase "properties" = "properties" := by decide +kernel

/-- The statement of a property in a file. -/
theorem property_mem_statements {agents agent properties : List (String × Value)} {id : String}
    {text : String} (hagents : ("agents", .table agents) ∈ entries)
    (hagent : (id, .table agent) ∈ agents)
    (hproperties : ("properties", .table properties) ∈ agent)
    (hproperty : (name, .text text) ∈ properties) :
    ⟨["agents", lowercase id, "properties", lowercase name], .plain (.text text) rfl⟩
      ∈ statements entries := by
  have htext : (⟨[lowercase name], .plain (.text text) rfl⟩ : Statement)
      ∈ entryStatements name (.text text) := List.mem_singleton.mpr rfl
  refine List.mem_flatMap.mpr ⟨_, hagents, ?_⟩
  rw [ofText_agents, KeyPath.statements]
  -- From the text outwards, one table after the other.
  have hdeep := @below_mem_entryStatements agents "agents" _ _ _ hagent
    (@below_mem_entryStatements agent id _ _ _ hproperties
      (@below_mem_entryStatements properties "properties" _ _ _ hproperty htext))
  rw [lowercase_agents, lowercase_properties] at hdeep
  exact hdeep

end Statements

/-- A source says something about a place, and nothing else in it has a say there. -/
def Layer.SaysOnly (layer : Layer) (path : List String) (value : Value) : Prop :=
  ∀ statement ∈ statements layer, statement.Bears path →
    statement.path = path ∧ statement.saying.alone = value

/-- Sources of which one alone has a say about a place, and that in one way, leave it alone. -/
theorem Layer.SaysOnly.undisturbed {layer : Layer} {path : List String} {value : Value}
    (hsole : layer.SaysOnly path value) : Layer.Undisturbed [layer, []] path := by
  intro giver _ other hother _ statement hmem hbears
  rcases List.mem_pair.mp hother with rfl | rfl
  · exact (hsole statement hmem hbears).1
  · cases hmem

/-- What is given to the place is what the source says. -/
theorem Layer.SaysOnly.eq_of_mem_topmost {layer : Layer} {path : List String} {value other : Value}
    (hsole : layer.SaysOnly path value) (h : other ∈ Layer.topmost [layer, []] path) :
    other = value := by
  rcases Layer.exists_of_mem_topmost h with ⟨giver, hgiver, hgiven⟩
  rcases Layer.mem_valuesAt.mp hgiven with ⟨statement, hmem, ⟨hplace, hvalue⟩, rfl⟩
  rcases List.mem_pair.mp hgiver with rfl | rfl
  · exact (hsole statement hmem (.inl ⟨hplace ▸ List.prefix_rfl, hvalue⟩)).2
  · cases hmem

namespace Settings

variable {disk : Disk} {environment : Environment} {settings : Settings} {path : String}

/-- A property that the file alone speaks of is one of the agent. -/
theorem get?_of_loadFile {entries : Layer} {agent name text : String} {statement : Statement}
    (hload : loadFile disk environment path = .ok settings)
    (hread : readFile disk path = .ok (some entries))
    (hvariables : variableEntries environment = []) (hmem : statement ∈ statements entries)
    (hbears : statement.Bears ["agents", agent, "properties", name])
    (hsole : entries.SaysOnly ["agents", agent, "properties", name] (.text text)) :
    (settings.agents.get? agent).bind (·.get? name) = some text := by
  -- The variables are a layer too, but one that says nothing.
  have hload' : loadFrom disk environment (some path) = .ok settings := hload
  rcases layersFrom_of_loadFrom hload' with ⟨layers, hlayers, hmade⟩
  rw [layersFrom, hread, hvariables] at hlayers
  cases hlayers
  replace hmade : ofSources [entries, []] = .ok settings := hmade
  have hlist : Layer.NoList [entries, []] ["agents", agent] := by
    intro layer hlayer other hother hplace
    rcases List.mem_pair.mp hlayer with rfl | rfl
    · by_contra hlist
      rw [Bool.not_eq_false] at hlist
      -- A list in place of the agent would have a say about the property.
      have hsay := hsole other hother (.inl ⟨by rw [hplace]; exact ⟨["properties", name], rfl⟩,
        Value.isTable_of_isList hlist⟩)
      rw [hplace] at hsay
      cases hsay.1
    · cases hother
  have hdecides := decidesAmong_topmost hmade (.property agent name) hlist hsole.undisturbed
  -- The file gives the property, so its default, which is none, does not count.
  have hgiven : Layer.topmost [entries, []] ["agents", agent, "properties", name] ≠ [] := by
    rw [ne_eq, Layer.topmost_eq_nil_iff]
    intro hnone
    rcases hsole statement hmem hbears with ⟨hplace, hvalue⟩
    exact hnone entries List.mem_cons_self ⟨statement, hmem, hplace, by rw [hvalue]; rfl⟩
  refine hdecides.eq hgiven fun value hvalue => ?_
  rw [hsole.eq_of_mem_topmost hvalue]
  rfl

end Settings

namespace Evaluator

variable {evaluator : Evaluator} {properties : Properties} {emptyDefault : String}

/-- An element that asks for a property which the agent has is answered with it, wherever it
    stands. -/
theorem element_bot (hstandard : evaluator.IsStandard properties emptyDefault) (scope : Scope)
    {element : Element} (hbot : element.tag.name = "bot") (hname : Standard.nameOf element ≠ "")
    (hempty : element.children = []) {value : String}
    (hvalue : properties scope.agent (Standard.nameOf element) = some value) (left : Nat)
    (world : World) : evaluator.element scope (left + 1) element world = (.ok value, world) := by
  have hlookup : evaluator.registry.lookup element.tag.name
      = some (Standard.property properties) := by
    rw [hstandard.lookup_eq, hbot]
    rfl
  have hcontent := Element.hasChildren_eq_false hempty
  have hisEmpty := String.isEmpty_eq_false_iff.mpr hname
  -- It is within the limit, its policy lets it pass, and its script finishes at once.
  rw [Evaluator.element, dispatch, hlookup]
  simp only [Standard.property, ContentPolicy.check, hcontent, hisEmpty, if_false,
    Bool.false_eq_true, hvalue, perform]

end Evaluator

namespace Installation

variable {installation : Installation}

/-- An installation has the agents of its settings. -/
theorem agents_of_ofSettings {settings : Settings} {backend : Backend}
    (h : ofSettings settings backend = .ok installation) :
    installation.agents = settings.agents := by
  rcases ofSettings_eq_ok_iff.mp h with ⟨_, agents, _, _, hagents, _, rfl⟩
  unfold agentsOf at hagents
  split at hagents
  · cases hagents
  · cases hagents
    rfl

/-- A template that only asks for a property of the agent is answered with it. -/
theorem evaluate_bot {settings : Settings} {backend : Backend}
    (hassembled : ofSettings settings backend = .ok installation) (scope : Scope)
    {element : Element} (hbot : element.tag.name = "bot") (hname : Standard.nameOf element ≠ "")
    (hempty : element.children = []) {value : String}
    (hvalue : property? settings.agents scope.agent (Standard.nameOf element) = some value)
    (world : World) :
    installation.evaluate scope [element.toNode] world = (.ok value, world) := by
  have hstandard := (isStandard_of_ofSettings hassembled).1
  have hlimit := (isStandard_of_ofSettings hassembled).2.1
  rw [agents_of_ofSettings hassembled] at hstandard
  -- The limit leaves room for one element, and there is only one.
  rcases Nat.exists_eq_succ_of_ne_zero (Nat.pos_iff_ne_zero.mp hlimit) with ⟨left, hleft⟩
  have helement := Evaluator.element_bot hstandard scope hbot hname hempty hvalue left world
  have hnode : Evaluator.node (installation.evaluator.element scope (left + 1)) element.toNode world
      = (.ok value, world) := by
    rw [← helement]
    rcases element with ⟨tag, _ | body⟩ <;> rfl
  have hnodes : installation.evaluator.nodes scope installation.evaluator.limit
      [element.toNode] world = (.ok value, world) := by
    rw [Evaluator.nodes, hleft]
    simp only [Evaluator.concatenate, hnode, String.append_empty]
  rw [evaluate, Evaluator.evaluate, hnodes]
  -- Nothing was reported that could be made part of the evaluation.
  have hworld : world.during (Evaluator.work scope) world.events.length = world := by
    rw [World.during, List.take_length, List.drop_length, List.map_nil, List.append_nil]
  simp only [hworld]

/-- A property of an agent in a settings file can be asked for, with its name and the id of the
    agent in lower case, if nothing else in the file has a say about it. It is answered exactly, for
    any user, over any store and in any world, which stays as it was. -/
theorem property_reachable {disk : Disk} {environment : Environment} {path : String}
    {settings : Settings} {entries agents agent properties : List (String × Value)}
    {id name value : String} {backend : Backend}
    (hload : Settings.loadFile disk environment path = .ok settings)
    (hvariables : Settings.variableEntries environment = [])
    (hread : Settings.readFile disk path = .ok (some entries))
    (hagents : ("agents", .table agents) ∈ entries) (hagent : (id, .table agent) ∈ agents)
    (hproperties : ("properties", .table properties) ∈ agent)
    (hproperty : (name, .text value) ∈ properties) (hname : name ≠ "")
    (hsole : Layer.SaysOnly entries ["agents", lowercase id, "properties", lowercase name]
      (.text value))
    (hassembled : ofSettings settings backend = .ok installation) (user : String)
    {element : Element} (hbot : element.tag.name = "bot") (hempty : element.children = [])
    (hasked : element.tag.attribute? "name" = some (lowercase name)) (world : World) :
    installation.evaluate ⟨user, lowercase id⟩ [element.toNode] world = (.ok value, world) := by
  have hmem := property_mem_statements hagents hagent hproperties hproperty
  have hget := Settings.get?_of_loadFile hload hread hvariables hmem
    (.inl ⟨List.prefix_refl _, rfl⟩) hsole
  have hnameOf : Standard.nameOf element = lowercase name := by
    rw [Standard.nameOf, hasked, Option.getD_some]
  -- The template asks by the name in lower case, which is not empty either.
  refine evaluate_bot hassembled ⟨user, lowercase id⟩ hbot ?_ hempty ?_ world
  · rw [hnameOf]
    exact lowercase_ne_empty hname
  · rw [hnameOf]
    exact hget

/-- The one property of the one agent of a file that gives nothing else. -/
def soleProperty? : List (String × Value) → Option (List String × String)
  | [(agents, .table [(id, .table [(properties, .table [(name, .text value)])])])] =>
    some ([agents, id, properties, name], value)
  | _ => none

theorem eq_of_soleProperty?_eq_some {entries : List (String × Value)}
    {agents id properties name value : String}
    (h : soleProperty? entries = some ([agents, id, properties, name], value)) :
    entries = [(agents, .table [(id, .table [(properties, .table [(name, .text value)])])])] := by
  unfold soleProperty? at h
  split at h
  · cases h
    rfl
  · cases h

/-- A property whose name looks like a path, of an agent whose id has a blank and an umlaut. -/
theorem property_reachable_dotted :
    ∃ installation : Installation, ∀ user world,
      installation.evaluate ⟨user, "ärger 1.0"⟩
        [.leaf { name := "bot", attributes := Dictionary.empty.insert "name" "full.name" }] world
        = (.ok "X. Y", world) := by
  let disk : Disk :=
    { entries := [(["p.toml"],
        .file "[agents.\"Ärger 1.0\".properties]\n\"Full.Name\" = \"X. Y\"\n".toUTF8)] }
  have hload : (Settings.loadFile disk [] "p.toml").toOption.any (fun settings =>
      (ofSettings settings .memory).toOption.any fun _ => true) = true := by
    decide +kernel
  rcases Settings.exists_of_any hload with ⟨settings, hload, hassembled⟩
  rcases Settings.exists_of_any hassembled with ⟨installation, hassembled, -⟩
  have hread : (Settings.readFile disk "p.toml").toOption.any (fun file =>
      file.bind soleProperty? = some (["agents", "Ärger 1.0", "properties", "Full.Name"], "X. Y"))
        = true := by
    decide +kernel
  rcases Settings.exists_of_any hread with ⟨file, hread, hfile⟩
  rcases Option.bind_eq_some_iff.mp (of_decide_eq_true hfile) with ⟨entries, rfl, hentries⟩
  obtain rfl := eq_of_soleProperty?_eq_some hentries
  have hid : lowercase "Ärger 1.0" = "ärger 1.0" := by decide +kernel
  have hname : lowercase "Full.Name" = "full.name" := by decide +kernel
  -- There is one statement in the file, so nothing else can have a say.
  have hsole : Layer.SaysOnly
      [("agents", .table [("Ärger 1.0",
        .table [("properties", .table [("Full.Name", .text "X. Y")])])])]
      ["agents", lowercase "Ärger 1.0", "properties", lowercase "Full.Name"]
      (.text "X. Y") := by
    intro statement hmem _
    simp only [statements, List.flatMap_singleton, ofText_agents, KeyPath.statements,
      entryStatements, tableStatements, List.isEmpty_cons, Bool.false_eq_true, if_false,
      List.append_nil, List.map_singleton, Statement.below, lowercase_agents,
      lowercase_properties, List.mem_singleton] at hmem
    subst hmem
    exact ⟨rfl, rfl⟩
  refine ⟨installation, fun user world => ?_⟩
  have hanswer := property_reachable hload rfl hread List.mem_cons_self List.mem_cons_self
    List.mem_cons_self List.mem_cons_self (by decide) hsole hassembled user
    (rfl : (⟨⟨"bot", Dictionary.empty.insert "name" "full.name"⟩, none⟩ : Element).tag.name = "bot")
    rfl (by rw [hname, Tag.attribute?, Dictionary.get?_insert_self]) world
  rw [hid] at hanswer
  exact hanswer

/-- A property cannot be asked for by the name and for the id that its file gives, if there are
    capital letters in them, but it can be in lower case. -/
theorem upper_case_unreachable :
    let world : World := { disk := { entries := [(["p.toml"],
      .file "[agents.Aria.properties]\nName = \"x\"\n".toUTF8)] } }
    let answer (agent source : String) := (run []
      ["--config", "p.toml", "eval", "--user", "u", "--agent", agent, source] world).1
    ((answer "Aria" "<bot name=\"Name\"/>").exitCode = 0 ∧
        (answer "Aria" "<bot name=\"Name\"/>").output = "\n") ∧
      (answer "aria" "<bot name=\"name\"/>").exitCode = 0 ∧
        (answer "aria" "<bot name=\"name\"/>").output = "x\n" := by
  decide +kernel

end Installation

end Colloquy
