import Colloquy.Proofs.Dictionary
import Colloquy.Proofs.Settings.Place
import Colloquy.Settings.Decode

/-!
# Single Settings

Settings are read from a table section by section, and every single one of them depends on one place
of the table alone. If no value stands there it has its default, and otherwise it is what the value
is read as. Names of agents, of their properties and of the channels of the log are free, so there
is a setting for every such name, and its default is not to be there.

A section may also be a list of its settings in order, and then its settings have no places of their
own. So may an agent, which is a section with one setting.

## Main definitions

* `Leaf`: A single setting.
* `Leaf.path`, `Leaf.read`, `Leaf.get`: Its place, what a value there is read as, and what it is.
* `Leaf.group`: The place of its section or its agent.
* `Decides`, `DecidesAmong`: What is found at a place decides about a setting, or one of the values
  that are given to it.

## Theorems

* `decides_dictionary`: An entry of a dictionary depends on its own place.
* `decides_of_ofValue?`: Every setting depends on its own place.
-/

namespace Colloquy

/-- A single setting. -/
inductive Leaf where
  | baseDir
  | suffix
  | maxDepth
  | emptyDefault
  | documentEnabled
  | documentPath
  | root
  | plainPath
  | enabled
  | level
  | format
  | output
  | file
  | color
  | channel (name : String)
  | property (agent name : String)
  deriving DecidableEq, Repr

namespace Leaf

/-- What a setting is. Settings that may be missing are options. -/
def Content : Leaf → Type
  | .baseDir | .suffix | .emptyDefault | .documentPath | .root | .plainPath => String
  | .level | .format | .output => String
  | .maxDepth => Nat
  | .documentEnabled | .enabled | .color => Bool
  | .file | .channel _ | .property _ _ => Option String

/-- The place of a setting. -/
def path : Leaf → List String
  | .baseDir => ["store", "base_dir"]
  | .suffix => ["store", "suffix"]
  | .maxDepth => ["evaluator", "max_depth"]
  | .emptyDefault => ["predicates", "empty_default"]
  | .documentEnabled => ["gossip", "xml_enabled"]
  | .documentPath => ["gossip", "xml_path"]
  | .root => ["gossip", "xml_root"]
  | .plainPath => ["gossip", "plain_path"]
  | .enabled => ["logging", "enabled"]
  | .level => ["logging", "level"]
  | .format => ["logging", "format"]
  | .output => ["logging", "output"]
  | .file => ["logging", "file"]
  | .color => ["logging", "color"]
  | .channel name => ["logging", "modules", name]
  | .property agent name => ["agents", agent, "properties", name]

/-- The place of the section or the agent that a setting belongs to. -/
def group : Leaf → List String
  | .baseDir | .suffix => ["store"]
  | .maxDepth => ["evaluator"]
  | .emptyDefault => ["predicates"]
  | .documentEnabled | .documentPath | .root | .plainPath => ["gossip"]
  | .enabled | .level | .format | .output | .file | .color | .channel _ => ["logging"]
  | .property agent _ => ["agents", agent]

/-- What a value is read as. -/
def read : (leaf : Leaf) → Value → Option leaf.Content
  | .baseDir | .suffix | .emptyDefault | .documentPath | .root | .plainPath =>
    Reading.lenient.text?
  | .level | .format | .output => Reading.lenient.text?
  | .maxDepth => Reading.lenient.natural?
  | .documentEnabled | .enabled | .color => Reading.lenient.boolean?
  | .file => Reading.lenient.optionalText?
  | .channel _ | .property _ _ => fun value => (Reading.lenient.text? value).map some

/-- What a setting is among all settings. -/
def get (settings : Settings) : (leaf : Leaf) → leaf.Content
  | .baseDir => settings.baseDir
  | .suffix => settings.suffix
  | .maxDepth => settings.maxDepth
  | .emptyDefault => settings.emptyDefault
  | .documentEnabled => settings.shareLog.documentEnabled
  | .documentPath => settings.shareLog.documentPath
  | .root => settings.shareLog.root
  | .plainPath => settings.shareLog.plainPath
  | .enabled => settings.logging.enabled
  | .level => settings.logging.level
  | .format => settings.logging.format
  | .output => settings.logging.output
  | .file => settings.logging.file
  | .color => settings.logging.color
  | .channel name => settings.logging.modules.get? name
  | .property agent name => (settings.agents.get? agent).bind (·.get? name)

end Leaf

/-- What is found decides: it is read as something, or else that is the default. -/
def Decides {α : Type} (read : Value → Option α) (default : α) (found : Option Value) (result : α) :
    Prop :=
  match found with
  | some value => read value = some result
  | none => result = default

section Decides

variable {α : Type} {read : Value → Option α} {default result : α} {found : Option Value}

/-- What cannot be read may as well be missing. -/
theorem Decides.filter (h : Decides read default found result)
    (htable : ∀ value, value.isTable = true → read value = none) :
    Decides read default (found.filter (!·.isTable)) result := by
  cases found with
  | none => exact h
  | some value =>
      cases hvalue : value.isTable with
      | true =>
          rw [Decides, htable value hvalue] at h
          cases h
      | false =>
          have hkept : (some value).filter (!·.isTable) = some value :=
            Option.filter_eq_some_iff.mpr ⟨rfl, by rw [hvalue]; rfl⟩
          rwa [hkept]

/-- One of several values decides, or the default if there are none. -/
def DecidesAmong (read : Value → Option α) (default : α) (given : List Value) (result : α) : Prop :=
  if given = [] then result = default else ∃ value ∈ given, read value = some result

/-- Values that are all read as the same leave nothing open. -/
theorem DecidesAmong.eq {given : List Value} (h : DecidesAmong read default given result)
    (hne : given ≠ []) {expected : α} (hread : ∀ value ∈ given, read value = some expected) :
    result = expected := by
  rw [DecidesAmong, if_neg hne] at h
  rcases h with ⟨value, hvalue, hresult⟩
  exact Option.some.inj (hresult.symm.trans (hread value hvalue))

/-- A single value leaves nothing open. -/
theorem DecidesAmong.eq_of_map {given : List Value} (h : DecidesAmong read default given result)
    {expected : α} (hread : given.map read = [some expected]) : result = expected := by
  rcases List.map_eq_singleton_iff.mp hread with ⟨value, rfl, hvalue⟩
  refine h.eq (List.cons_ne_nil _ _) fun other hother => ?_
  rw [List.mem_singleton.mp hother, hvalue]

end Decides

namespace Reading

variable {α : Type} {value : Value} {entries : List (String × Value)} {name : String}

/-- A reader of single values reads no tables and no lists. -/
def IsPlain (read : Value → Option α) : Prop :=
  ∀ value, value.isTable = true ∨ value.isList = true → read value = none

theorem isPlain_text? : IsPlain lenient.text? := by
  rintro (_ | _ | _ | _ | _ | _ | _) h <;> first | rfl | simp [Value.isTable, Value.isList] at h

theorem isPlain_natural? : IsPlain lenient.natural? := by
  rintro (_ | _ | _ | _ | _ | _ | _) h <;> first | rfl | simp [Value.isTable, Value.isList] at h

theorem isPlain_boolean? : IsPlain lenient.boolean? := by
  rintro (_ | _ | _ | _ | _ | _ | _) h <;> first | rfl | simp [Value.isTable, Value.isList] at h

theorem isPlain_optionalText? : IsPlain lenient.optionalText? := by
  rintro (_ | _ | _ | _ | _ | _ | _) h <;> first | rfl | simp [Value.isTable, Value.isList] at h

theorem IsPlain.map {β : Type} {read : Value → Option α} (h : IsPlain read) (f : α → β) :
    IsPlain fun value => (read value).map f :=
  fun value hvalue => by simp only [h value hvalue, Option.map_none]

/-- A reader of groups reads tables, and an empty table as a default. It may also read lists. -/
structure IsGrouped (read : Value → Option α) (default : α) : Prop where
  empty : read (.table []) = some default
  isTable : ∀ value result, read value = some result → value.isList = false → value.isTable = true

theorem isGrouped_of_section {read : Value → Option α} {default : α} {names : List String}
    {rest : (String → Option Value) → Option α}
    (hread : ∀ value, read value = (lenient.section? names value).bind rest)
    (hempty : read (.table []) = some default) : IsGrouped read default where
  empty := hempty
  isTable value result h hlist := by
    rw [hread] at h
    -- What is neither a table nor a list has no values of a section, and so nothing is read.
    cases value <;> first | rfl | cases h | cases hlist

theorem isList_of_dictionary? {read : Value → Option α} {dictionary : Dictionary α}
    (h : dictionary? read value = some dictionary) : value.isList = false := by
  cases value <;> first | rfl | cases h

theorem isGrouped_dictionary? (read : Value → Option α) : IsGrouped (dictionary? read) ∅ where
  empty := rfl
  isTable value result h _ := by cases value <;> first | rfl | cases h

/-- A setting of one value depends on what stands under its name. -/
theorem decides_setting {read : Value → Option α} (hread : IsPlain read) {default result : α}
    {present : Option Value}
    (h : setting? (entryAt? (Value.entriesOf present)) name default read = some result) :
    Decides read default (Value.valueAt? [name] present) result := by
  -- A table under the name is never read, so only what is no table has to be looked at.
  refine Decides.filter ?_ fun value htable => hread value (.inl htable)
  show Decides read default (entryAt? (Value.entriesOf present) name) result
  unfold setting? at h
  split at h <;> rename_i hfound
  · rw [hfound]
    exact h
  · rw [hfound]
    exact (Option.some.inj h).symm

/-- A group that is no list is read from its table, which is empty if it is missing. -/
theorem read_group {read : Value → Option α} {default result : α} (hread : IsGrouped read default)
    {present : Option Value}
    (h : setting? (entryAt? (Value.entriesOf present)) name default read = some result)
    (hlist : ∀ value ∈ Value.at? [name] present, read value = some result → value.isList = false) :
    read (.table (Value.entriesOf (Value.at? [name] present))) = some result := by
  show read (.table (Value.entriesOf (entryAt? (Value.entriesOf present) name))) = some result
  unfold setting? at h
  split at h <;> rename_i hfound <;> rw [hfound]
  · rename_i value
    -- Of what can be read lists are excluded, and so a table is left.
    have htable := hread.isTable value result h (hlist value hfound h)
    cases value <;> first | exact h | cases htable
  · cases h
    -- Where the group is missing its default is what an empty table is read as.
    exact hread.empty

/-- Entries read one by one keep their names, and each depends on what stands under its name. -/
theorem decides_mapM {read : Value → Option α} {pairs : List (String × α)}
    (h : entries.mapM (fun entry => (read entry.2).map fun value => (entry.1, value))
      = some pairs) :
    pairs.map (·.1) = entries.map (·.1) ∧
      ∀ name, Decides (fun value => (read value).map some) none (entryAt? entries name)
        (pairs.lookup name) := by
  induction entries generalizing pairs with
  | nil =>
      cases h
      exact ⟨rfl, fun _ => rfl⟩
  | cons entry rest ih =>
      -- Reading has come to an end, so it has read the first entry and all others.
      rw [List.mapM_cons, Option.bind_eq_bind, Option.bind_eq_some_iff] at h
      rcases h with ⟨pair, hpair, h⟩
      rw [Option.bind_eq_bind, Option.bind_eq_some_iff] at h
      rcases h with ⟨others, hothers, h⟩
      cases h
      rcases Option.map_eq_some_iff.mp hpair with ⟨value, hvalue, rfl⟩
      rcases ih hothers with ⟨hnames, hdecides⟩
      refine ⟨by rw [List.map_cons, List.map_cons, hnames], fun name => ?_⟩
      rw [entryAt?, List.lookup_cons, List.lookup_cons]
      -- Both lists are searched side by side, for they have the same names.
      cases name == entry.1 with
      | true => simp only [Decides, hvalue, Option.map_some]
      | false => exact hdecides name

/-- Where names are distinct the first entry of a name is the last one. -/
theorem lookup_reverse {pairs : List (String × α)} (h : (pairs.map (·.1)).Nodup) (name : String) :
    pairs.reverse.lookup name = pairs.lookup name := by
  induction pairs with
  | nil => rfl
  | cons pair rest ih =>
      rw [List.map_cons, List.nodup_cons] at h
      rw [List.reverse_cons, List.lookup_append, ih h.2, List.lookup_cons, List.lookup_cons]
      by_cases hname : name = pair.1
      -- There is no other entry of this name that could be found before.
      · have hnone : rest.lookup name = none := by
          refine List.lookup_eq_none_iff.mpr fun other hmem => ?_
          have hne : name ≠ other.1 := fun he =>
            h.1 (List.mem_map.mpr ⟨other, hmem, by rw [← he, hname]⟩)
          simpa using hne
        rw [hnone, hname, beq_self_eq_true]
        rfl
      · rw [beq_false_of_ne hname]
        cases rest.lookup name <;> rfl

/-- An entry of a dictionary depends on what stands under its name. -/
theorem decides_dictionary {read : Value → Option α} {dictionary : Dictionary α}
    (h : dictionary? read (.table entries) = some dictionary)
    (hnames : (entries.map (·.1)).Nodup) (name : String) :
    Decides (fun value => (read value).map some) none (entryAt? entries name)
      (dictionary.get? name) := by
  rcases Option.map_eq_some_iff.mp h with ⟨pairs, hpairs, rfl⟩
  rcases decides_mapM hpairs with ⟨hkeys, hdecides⟩
  -- A dictionary keeps the last of several entries, and a table has one of them only.
  rw [Dictionary.get?_ofList, lookup_reverse (hkeys ▸ hnames)]
  exact hdecides name

/-- The settings of a store. -/
theorem store?_eq_some {result : String × String}
    (h : lenient.store? (.table entries) = some result) :
    let initial : Settings := {}
    setting? (entryAt? entries) "base_dir" initial.baseDir lenient.text? = some result.1 ∧
      setting? (entryAt? entries) "suffix" initial.suffix lenient.text? = some result.2 := by
  simp only [store?, section?, Option.bind_eq_bind, Option.bind_some,
    Option.bind_eq_some_iff] at h
  rcases h with ⟨baseDir, hbaseDir, suffix, hsuffix, h⟩
  cases h
  exact ⟨hbaseDir, hsuffix⟩

/-- The settings of a share log. -/
theorem shareLog?_eq_some {log : ShareLog} (h : lenient.shareLog? (.table entries) = some log) :
    let initial : ShareLog := {}
    setting? (entryAt? entries) "xml_enabled" initial.documentEnabled lenient.boolean?
        = some log.documentEnabled ∧
      setting? (entryAt? entries) "xml_path" initial.documentPath lenient.text?
        = some log.documentPath ∧
      setting? (entryAt? entries) "xml_root" initial.root lenient.text? = some log.root ∧
      setting? (entryAt? entries) "plain_path" initial.plainPath lenient.text?
        = some log.plainPath := by
  simp only [shareLog?, section?, Option.bind_eq_bind, Option.bind_some,
    Option.bind_eq_some_iff] at h
  rcases h with ⟨documentEnabled, henabled, documentPath, hpath, root, hroot, plainPath, hplain, h⟩
  cases h
  exact ⟨henabled, hpath, hroot, hplain⟩

/-- The settings of the log. -/
theorem logging?_eq_some {log : LogSettings} (h : lenient.logging? (.table entries) = some log) :
    let initial : LogSettings := {}
    setting? (entryAt? entries) "enabled" initial.enabled lenient.boolean? = some log.enabled ∧
      setting? (entryAt? entries) "level" initial.level lenient.text? = some log.level ∧
      setting? (entryAt? entries) "format" initial.format lenient.text? = some log.format ∧
      setting? (entryAt? entries) "output" initial.output lenient.text? = some log.output ∧
      setting? (entryAt? entries) "file" initial.file lenient.optionalText? = some log.file ∧
      setting? (entryAt? entries) "color" initial.color lenient.boolean? = some log.color ∧
      setting? (entryAt? entries) "modules" initial.modules (dictionary? lenient.text?)
        = some log.modules := by
  -- Every step of the reading has succeeded, and each one has read a setting of its own.
  simp only [logging?, section?, Option.bind_eq_bind, Option.bind_some,
    Option.bind_eq_some_iff] at h
  rcases h with ⟨enabled, henabled, level, hlevel, format, hformat, output, houtput, file, hfile,
    color, hcolor, modules, hmodules, h⟩
  cases h
  exact ⟨henabled, hlevel, hformat, houtput, hfile, hcolor, hmodules⟩

theorem isGrouped_store? :
    IsGrouped lenient.store? (({} : Settings).baseDir, ({} : Settings).suffix) :=
  isGrouped_of_section (fun _ => rfl) rfl

theorem isGrouped_shareLog? : IsGrouped lenient.shareLog? {} :=
  isGrouped_of_section (fun _ => rfl) rfl

theorem isGrouped_logging? : IsGrouped lenient.logging? {} :=
  isGrouped_of_section (fun _ => rfl) rfl

theorem isGrouped_single? (name : String) (default : α) (read : Value → Option α) :
    IsGrouped (lenient.single? name default read) default :=
  isGrouped_of_section (fun _ => rfl) rfl

end Reading

open Reading

/-- Settings are read from a table section by section. -/
theorem ofValue?_eq_some {entries : List (String × Value)} {settings : Settings}
    (h : Settings.ofValue? .lenient (.table entries) = some settings) :
    let initial : Settings := {}
    setting? (entryAt? entries) "store" (initial.baseDir, initial.suffix) lenient.store?
        = some (settings.baseDir, settings.suffix) ∧
      setting? (entryAt? entries) "evaluator" initial.maxDepth
        (lenient.single? "max_depth" initial.maxDepth lenient.natural?) = some settings.maxDepth ∧
      setting? (entryAt? entries) "predicates" initial.emptyDefault
        (lenient.single? "empty_default" initial.emptyDefault lenient.text?)
        = some settings.emptyDefault ∧
      setting? (entryAt? entries) "gossip" initial.shareLog lenient.shareLog?
        = some settings.shareLog ∧
      setting? (entryAt? entries) "logging" initial.logging lenient.logging?
        = some settings.logging ∧
      setting? (entryAt? entries) "agents" initial.agents (dictionary? lenient.agent?)
        = some settings.agents := by
  -- The names of all sections are those of a table, so every section is looked up by its name.
  simp only [Settings.ofValue?, section?, Option.bind_eq_bind, Option.bind_some,
    Option.bind_eq_some_iff] at h
  rcases h with ⟨⟨baseDir, suffix⟩, hstore, maxDepth, hdepth, emptyDefault, hempty, shareLog, hlog,
    logging, hlogging, agents, hagents, h⟩
  cases h
  exact ⟨hstore, hdepth, hempty, hlog, hlogging, hagents⟩

section Settings

variable {value : Value} {settings : Settings}

/-- A section with one setting depends on what stands under its name. -/
theorem decides_single {α : Type} {read : Value → Option α} (hread : IsPlain read)
    {name : String} {default result : α} {present : Option Value}
    (h : lenient.single? name default read (.table (Value.entriesOf present)) = some result) :
    Decides read default (Value.valueAt? [name] present) result :=
  decides_setting hread h

/-- A text of a dictionary in a group depends on what stands under its name there. -/
theorem decides_texts {present : Option Value} (htidy : ∀ value ∈ present, value.Tidy)
    {name : String} {dictionary : Dictionary String}
    (h : setting? (entryAt? (Value.entriesOf present)) name ∅ (dictionary? lenient.text?)
      = some dictionary) (key : String) :
    Decides (fun value => (lenient.text? value).map some) none
      (Value.valueAt? [name, key] present) (dictionary.get? key) := by
  have hread := read_group (isGrouped_dictionary? lenient.text?) h
    fun _ _ => isList_of_dictionary?
  -- A name must not come twice, or the dictionary and the table would differ about it.
  have hnames := Value.nodup_entriesOf (Value.tidy_at? htidy [name])
  refine (decides_dictionary hread hnames key).filter fun value htable => ?_
  rw [isPlain_text? value (.inl htable), Option.map_none]

/-- A property depends on what stands in its place. -/
theorem decides_property {present : Option Value} (htidy : ∀ value ∈ present, value.Tidy)
    {agents : Dictionary (Dictionary String)}
    (h : setting? (entryAt? (Value.entriesOf present)) "agents" ∅ (dictionary? lenient.agent?)
      = some agents)
    {agent : String} (hlist : ∀ value ∈ Value.at? ["agents", agent] present, value.isList = false)
    (name : String) :
    Decides (fun value => (lenient.text? value).map some) none
      (Value.valueAt? ["agents", agent, "properties", name] present)
      ((agents.get? agent).bind (·.get? name)) := by
  -- The agents are a dictionary of groups, so its entries are decided first, and then the one that
  -- belongs to the agent is looked into.
  have hread := read_group (isGrouped_dictionary? lenient.agent?) h
    fun _ _ => isList_of_dictionary?
  have hnames := Value.nodup_entriesOf (Value.tidy_at? htidy ["agents"])
  have hagent := decides_dictionary hread hnames agent
  have hplace : Value.at? ["agents", agent] present =
      entryAt? (Value.entriesOf (Value.at? ["agents"] present)) agent := rfl
  rw [← hplace] at hagent
  show Decides _ none (Value.valueAt? ["properties", name]
    (Value.at? ["agents", agent] present)) _
  cases hfound : Value.at? ["agents", agent] present with
  -- Without the agent there is neither a property nor a place for it.
  | none =>
      rw [hfound] at hagent
      rw [show agents.get? agent = none from hagent, Value.valueAt?, Value.at?_none]
      rfl
  | some value =>
      rw [hfound] at hagent
      rcases Option.map_eq_some_iff.mp hagent with ⟨properties, hproperties, hget⟩
      -- An agent that has been read and is no list is a table.
      have htable := (isGrouped_single? "properties" ∅ (dictionary? lenient.text?)).isTable value
        properties hproperties (hlist value hfound)
      rw [← hget]
      have hvalue : ∀ other ∈ some value, other.Tidy := by
        rw [← hfound]
        exact Value.tidy_at? htidy ["agents", agent]
      refine decides_texts hvalue ?_ name
      cases value <;> first | exact hproperties | cases htable

/-- Every setting depends on what stands in its own place, unless its group is a list. -/
theorem decides_of_ofValue? (h : Settings.ofValue? .lenient value = some settings)
    (htable : value.isTable = true) (htidy : value.Tidy) (leaf : Leaf)
    (hlist : ∀ found ∈ Value.at? leaf.group (some value), found.isList = false) :
    Decides leaf.read (leaf.get {}) (Value.valueAt? leaf.path (some value))
      (leaf.get settings) := by
  rcases value with _ | _ | _ | _ | _ | _ | entries <;> try cases htable
  rcases ofValue?_eq_some h with ⟨hstore, hdepth, hempty, hlog, hlogging, hagents⟩
  have hpresent : ∀ found ∈ some (Value.table entries), found.Tidy := by
    rintro found ⟨⟩
    exact htidy
  -- A section is read from its table even if it is missing, for then it is as if it were empty.
  have hgroup {name : String} {α : Type} {read : Value → Option α} {default result : α}
      (hname : leaf.group = [name]) (hread : IsGrouped read default)
      (h : setting? (entryAt? entries) name default read = some result) :
      read (.table (Value.entriesOf (Value.at? [name] (some (.table entries))))) = some result :=
    @read_group _ _ _ _ _ hread (some (.table entries)) h
      fun found hfound _ => hlist found (by rwa [hname])
  -- What each section says about its own settings, as soon as it is known to be the group.
  have hstored (hname : leaf.group = ["store"]) :=
    store?_eq_some (hgroup hname isGrouped_store? hstore)
  have hshared (hname : leaf.group = ["gossip"]) :=
    shareLog?_eq_some (hgroup hname isGrouped_shareLog? hlog)
  have hlogged (hname : leaf.group = ["logging"]) :=
    logging?_eq_some (hgroup hname isGrouped_logging? hlogging)
  -- It is left to find every setting among those of its section.
  cases leaf with
  | baseDir => exact decides_setting isPlain_text? (hstored rfl).1
  | suffix => exact decides_setting isPlain_text? (hstored rfl).2
  | maxDepth =>
      exact decides_single isPlain_natural? (hgroup rfl (isGrouped_single? _ _ _) hdepth)
  | emptyDefault =>
      exact decides_single isPlain_text? (hgroup rfl (isGrouped_single? _ _ _) hempty)
  | documentEnabled => exact decides_setting isPlain_boolean? (hshared rfl).1
  | documentPath => exact decides_setting isPlain_text? (hshared rfl).2.1
  | root => exact decides_setting isPlain_text? (hshared rfl).2.2.1
  | plainPath => exact decides_setting isPlain_text? (hshared rfl).2.2.2
  | enabled => exact decides_setting isPlain_boolean? (hlogged rfl).1
  | level => exact decides_setting isPlain_text? (hlogged rfl).2.1
  | format => exact decides_setting isPlain_text? (hlogged rfl).2.2.1
  | output => exact decides_setting isPlain_text? (hlogged rfl).2.2.2.1
  | file => exact decides_setting isPlain_optionalText? (hlogged rfl).2.2.2.2.1
  | color => exact decides_setting isPlain_boolean? (hlogged rfl).2.2.2.2.2.1
  | channel name =>
      exact decides_texts (Value.tidy_at? hpresent ["logging"]) (hlogged rfl).2.2.2.2.2.2 name
  | property agent name => exact decides_property hpresent hagents hlist name

end Settings

end Colloquy
