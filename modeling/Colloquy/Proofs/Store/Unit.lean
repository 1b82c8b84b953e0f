import Colloquy.Proofs.Disk
import Colloquy.Proofs.Moment.OneLine
import Colloquy.Proofs.Path
import Colloquy.Proofs.UnitText.RoundTrip
import Colloquy.Store.FlatFile
import Mathlib.Logic.Function.Basic

/-!
# One Unit on the Disk

What reading and saving the unit of one scope does to the disk, and when it succeeds.

The predicates that a store holds are a matter of what stands at the places of its units, so `held`
reads them off the disk without making anything. An access makes the directories on the way, then
the unit, and then reads it or writes it whole; `Accessed` says in one statement what it leaves
behind. From it follow the two facts that a map needs: the scope that was accessed holds what it
should, and every other scope holds what it held.

A path may go down and up again before it gets to the base directory, and making the way makes those
directories too. If one of them stands where a unit belongs, that unit can never be a file. Nothing
else about paths can get in the way, because below the base directory the directories are one name
deep and the units two. `IsApart` is that one condition.

## Main definitions

* `FlatFile.unitPlace`: Where the unit of a scope stands.
* `FlatFile.held`: The predicates that a store holds.
* `FlatFile.IsClear`: Nothing on the disk keeps a scope from being accessed.
* `FlatFile.IsApart`: The way to the base directory leaves the unit of a scope alone.
* `FlatFile.Accessed`: What an access leaves behind.

## Theorems

* `readUnit_accessed`: A unit is made and read.
* `predicates_accessed`, `load_accessed`, `save_accessed`: The operations of a store.
* `Accessed.held_eq`: What every scope holds after an access.
-/

namespace Colloquy

/-- Whether both identifiers of a scope can be names of files. -/
def Scope.IsValid (scope : Scope) : Prop :=
  isComponent scope.agent = true ∧ isComponent scope.user = true

instance (scope : Scope) : Decidable scope.IsValid := by
  unfold Scope.IsValid
  infer_instance

/-- A name with a suffix is a name: it is not empty, and it is longer than a dot. -/
theorem isComponent_append {name suffix : String} (hname : isComponent name = true)
    (hsuffix : isComponent suffix = true) : isComponent (name ++ suffix) = true := by
  rcases (isComponent_iff name).mp hname with ⟨hne, hdot, _, hchars⟩
  rcases (isComponent_iff suffix).mp hsuffix with ⟨hne', _, _, hchars'⟩
  have hlength := List.length_pos_iff.mpr hne
  have hlength' := List.length_pos_iff.mpr hne'
  rw [isComponent_iff, String.toList_append]
  refine ⟨fun h => hne (List.append_eq_nil_iff.mp h).1, fun h => ?_, fun h => ?_, fun c hc => ?_⟩
  · -- A dot is too short for a name and a suffix.
    have hone := congrArg List.length h
    rw [List.length_append, List.length_singleton] at hone
    omega
  · -- Two dots can only be a dot with a dot behind it, and a dot is no name.
    have htwo := congrArg List.length h
    rw [List.length_append, List.length_cons, List.length_singleton] at htwo
    have hfirst := congrArg (List.take 1) h
    rw [List.take_left' (by omega)] at hfirst
    exact hdot hfirst
  · rcases List.mem_append.mp hc with hc | hc
    · exact hchars c hc
    · exact hchars' c hc

namespace FlatFile

/-- The path of the unit of a scope. -/
def unitPath (store : FlatFile) (scope : Scope) : String :=
  Path.join (store.agentPath scope.agent) (scope.user ++ store.suffix)

/-- The place of the base directory. -/
def root (store : FlatFile) (disk : Disk) : Place :=
  Disk.reach (disk.start store.base) (Path.steps store.base)

/-- The places that the path of the base directory enters, that of the base directory included. -/
def approach (store : FlatFile) (disk : Disk) : List Place :=
  Disk.way (disk.start store.base) (Path.steps store.base)

/-- The place of the directory of an agent. -/
def agentPlace (store : FlatFile) (disk : Disk) (agent : String) : Place :=
  store.root disk ++ [agent]

/-- The place of the unit of a scope. -/
def unitPlace (store : FlatFile) (disk : Disk) (scope : Scope) : Place :=
  store.agentPlace disk scope.agent ++ [scope.user ++ store.suffix]

/-- The directories that the unit of a scope needs. -/
def directories (store : FlatFile) (disk : Disk) (scope : Scope) : List Place :=
  store.approach disk ++ [store.agentPlace disk scope.agent]

/-- The predicates that the content of a unit spells. Nothing is spelled by what is not text. -/
def spelled (content : ByteArray) : Predicates :=
  ((String.fromUTF8? content).map UnitText.decode).getD ∅

/-- The predicates that a store holds for a scope: those of its unit, and none if it has no unit. -/
def held (store : FlatFile) (disk : Disk) (scope : Scope) : Predicates :=
  match disk.entry? (store.unitPlace disk scope) with
  | some (.file content) => spelled content
  | _ => ∅

/-- Only what stands on the disk can make an operation fail: the disk sets no limits, and the path
    of the base directory can be put to an operating system. -/
structure IsUsable (store : FlatFile) (disk : Disk) : Prop where
  suffix : isComponent store.suffix = true
  unlimited : disk.IsUnlimited
  base : '\x00' ∉ store.base.toList

/-- Nothing on the disk keeps a scope from being accessed: no file stands where a directory is
    needed, no directory stands at the place of the unit, and the unit is text if it is there. -/
structure IsClear (store : FlatFile) (disk : Disk) (scope : Scope) : Prop where
  directories : ∀ place ∈ store.directories disk scope, ∀ content,
    disk.entry? place ≠ some (.file content)
  unit : disk.entry? (store.unitPlace disk scope) ≠ some .directory
  text : ∀ content, disk.entry? (store.unitPlace disk scope) = some (.file content) →
    (String.fromUTF8? content).isSome = true

/-- The path of the base directory does not lead through the place of the unit of a scope. -/
def IsApart (store : FlatFile) (disk : Disk) (scope : Scope) : Prop :=
  store.unitPlace disk scope ∉ store.approach disk

instance (store : FlatFile) (disk : Disk) (scope : Scope) :
    Decidable (store.IsApart disk scope) := by
  unfold IsApart
  infer_instance

/-- What an access to a scope leaves behind, after which its unit spells `predicates`: the
    directories that the unit needs, the unit, and everything else as it was. -/
structure Accessed (store : FlatFile) (scope : Scope) (predicates : Predicates)
    (disk disk' : Disk) : Prop where
  here : disk'.here = disk.here
  limits : disk.IsUnlimited → disk'.IsUnlimited
  made : ∀ place ∈ store.directories disk scope, disk'.entry? place = some .directory
  unit : ∃ content, disk'.entry? (store.unitPlace disk scope) = some (.file content) ∧
    (String.fromUTF8? content).isSome = true ∧ spelled content = predicates
  kept : ∀ place, place ∉ store.directories disk scope → place ≠ store.unitPlace disk scope →
    disk'.entry? place = disk.entry? place

/-- An agent that is no component is refused, whoever the user is. -/
theorem pathFor_agent (store : FlatFile) {scope : Scope} (h : isComponent scope.agent = false) :
    store.pathFor scope = .error (.invalidIdentifier .agent scope.agent) := by
  rw [pathFor, checkComponent, h]
  rfl

/-- A user that is no component is refused if the agent is not. -/
theorem pathFor_user (store : FlatFile) {scope : Scope} (hagent : isComponent scope.agent = true)
    (huser : isComponent scope.user = false) :
    store.pathFor scope = .error (.invalidIdentifier .user scope.user) := by
  rw [pathFor, checkComponent, checkComponent, hagent, huser]
  rfl

section Agents

variable {store : FlatFile} {disk : Disk} {agent : String} (hagent : isComponent agent = true)
include hagent

theorem start_agentPath : disk.start (store.agentPath agent) = disk.start store.base :=
  Disk.start_join disk (Path.isName hagent) store.base

theorem steps_agentPath :
    Path.steps (store.agentPath agent) = Path.steps store.base ++ [.down agent] :=
  Path.steps_join (Path.isName hagent) store.base

/-- The path of the directory of an agent leads to its place. -/
theorem reach_agentPath : Disk.reach (disk.start (store.agentPath agent))
    (Path.steps (store.agentPath agent)) = store.agentPlace disk agent :=
  Disk.reach_join disk (Path.isName hagent) store.base

theorem nul_not_mem_agentPath (husable : store.IsUsable disk) :
    '\x00' ∉ (store.agentPath agent).toList := by
  have hchars := ((isComponent_iff agent).mp hagent).2.2.2
  exact Path.not_mem_join (Path.isName hagent) husable.base (fun h => (hchars _ h).2.2 rfl)
    (by decide)

end Agents

section Paths

variable {store : FlatFile} {disk : Disk} {scope : Scope} (hvalid : scope.IsValid)
include hvalid

theorem pathFor_eq : store.pathFor scope = .ok (store.unitPath scope) := by
  rw [pathFor, checkComponent, checkComponent, hvalid.1, hvalid.2]
  rfl

/-- Making the directory of an agent enters the directories that its units need. -/
theorem way_agentPath : Disk.way (disk.start (store.agentPath scope.agent))
    (Path.steps (store.agentPath scope.agent)) = store.directories disk scope := by
  rw [start_agentPath hvalid.1, steps_agentPath hvalid.1, Disk.way_append]
  rfl

section Suffix

variable (hsuffix : isComponent store.suffix = true)
include hsuffix

theorem isComponent_unitName : isComponent (scope.user ++ store.suffix) = true :=
  isComponent_append hvalid.2 hsuffix

theorem isName_unitName : Path.IsName (scope.user ++ store.suffix) :=
  Path.isName (isComponent_unitName hvalid hsuffix)

theorem parent_unitPath :
    (Path.parent? (store.unitPath scope)).getD "" = store.agentPath scope.agent := by
  rw [unitPath, agentPath, Path.parent?_join_join (isName_unitName hvalid hsuffix)
    (Path.isName hvalid.1)]
  rfl

end Suffix

variable (husable : store.IsUsable disk)
include husable

theorem nul_not_mem_unitPath : '\x00' ∉ (store.unitPath scope).toList := by
  have hname := isComponent_unitName hvalid husable.suffix
  have hchars := ((isComponent_iff _).mp hname).2.2.2
  exact Path.not_mem_join (Path.isName hname) (nul_not_mem_agentPath hvalid.1 husable)
    (fun h => (hchars _ h).2.2 rfl) (by decide)

/-- Making the directory of an agent succeeds if no file is in the way. -/
theorem makeDirectories_agentPath (h : ∀ place ∈ store.directories disk scope, ∀ content,
    disk.entry? place ≠ some (.file content)) :
    ∃ disk', disk.makeDirectories (store.agentPath scope.agent) = (.ok (), disk') ∧
      Disk.Carved (store.directories disk scope) disk disk' := by
  have hcontains : (store.agentPath scope.agent).toList.contains '\x00' = false := by
    rw [List.contains_eq_mem, decide_eq_false (nul_not_mem_agentPath hvalid.1 husable)]
  rw [← way_agentPath hvalid] at h ⊢
  rcases Disk.carve_carved _ disk _ husable.unlimited h with ⟨disk', hok, hcarved⟩
  refine ⟨disk', ?_, hcarved⟩
  rw [Disk.makeDirectories, hcontains, husable.unlimited.isOverlong_eq]
  exact hok

/-- The path of a unit leads to its place, once the directories that it needs are there. -/
theorem locate_unitPath {disk' : Disk} (hhere : disk'.here = disk.here)
    (hunlimited : disk'.IsUnlimited)
    (h : ∀ place ∈ store.directories disk scope, disk'.entry? place = some .directory) :
    disk'.locate (store.unitPath scope) = .ok (store.unitPlace disk scope) := by
  have hname := isName_unitName hvalid husable.suffix
  have hstart : disk'.start (store.unitPath scope) = disk.start (store.agentPath scope.agent) := by
    rw [unitPath, Disk.start_join disk' hname, Disk.start, Disk.start, hhere]
  rw [← way_agentPath hvalid, ← hstart] at h
  -- The steps before the name of the unit are those that make the directory of the agent.
  have hlocate := Disk.locate_eq_reach hunlimited (Path.join_ne_empty hname _)
    (nul_not_mem_unitPath hvalid husable) (Path.steps_join hname _) h
  change disk'.locate (store.unitPath scope)
    = .ok (Disk.reach (disk'.start (store.unitPath scope)) _ ++ _) at hlocate
  rw [hlocate, hstart, reach_agentPath hvalid.1]
  rfl

end Paths

theorem unitPlace_ne_nil (store : FlatFile) (disk : Disk) (scope : Scope) :
    store.unitPlace disk scope ≠ [] :=
  List.concat_ne_nil _ _

/-- What is in the directory of an agent is one name further from the base directory than the
    directory of any agent. -/
theorem inside_ne_agentPlace (store : FlatFile) (disk : Disk) (agent name other : String) :
    store.agentPlace disk agent ++ [name] ≠ store.agentPlace disk other := by
  intro h
  have hlength := congrArg List.length h
  simp only [agentPlace, List.length_append, List.length_singleton] at hlength
  omega

theorem unitPlace_ne_agentPlace (store : FlatFile) (disk : Disk) (scope : Scope)
    (agent : String) : store.unitPlace disk scope ≠ store.agentPlace disk agent :=
  inside_ne_agentPlace store disk scope.agent _ agent

/-- Different scopes have different places. -/
theorem unitPlace_injective (store : FlatFile) (disk : Disk) {scope other : Scope}
    (h : store.unitPlace disk scope = store.unitPlace disk other) : scope = other := by
  -- The last name of the place is that of the unit, and the one before it that of the agent.
  rcases List.append_inj' h rfl with ⟨hagent, huser⟩
  rcases List.append_inj' hagent rfl with ⟨_, hagent⟩
  have huser := (String.append_left_inj store.suffix).mp (List.singleton_inj.mp huser)
  cases scope
  cases other
  exact congr (congrArg Scope.mk huser) (List.singleton_inj.mp hagent)

/-- So it is no directory that a scope needs, unless the way to the base directory leads there. -/
theorem mem_approach_of_inside {store : FlatFile} {disk : Disk} {agent name : String}
    {scope : Scope} (h : store.agentPlace disk agent ++ [name] ∈ store.directories disk scope) :
    store.agentPlace disk agent ++ [name] ∈ store.approach disk := by
  rw [directories, List.mem_append, List.mem_singleton] at h
  exact h.resolve_right (inside_ne_agentPlace store disk agent name scope.agent)

theorem unitPlace_not_mem_directories {store : FlatFile} {disk : Disk} {other : Scope}
    (h : store.IsApart disk other) (scope : Scope) :
    store.unitPlace disk other ∉ store.directories disk scope :=
  fun hmem => h (mem_approach_of_inside hmem)

theorem fromUTF8?_toUTF8 (text : String) : String.fromUTF8? text.toUTF8 = some text := by
  rw [String.toUTF8_eq_toByteArray, String.fromUTF8?, dif_pos text.isValidUTF8]
  rfl

theorem spelled_toUTF8 (text : String) : spelled text.toUTF8 = UnitText.decode text := by
  rw [spelled, fromUTF8?_toUTF8]
  rfl

/-- An empty file, as it is made on first access, spells nothing. -/
theorem spelled_empty : spelled .empty = ∅ := spelled_toUTF8 ""

/-- A unit spells the predicates that it was written with. -/
theorem spelled_encode (moment : Moment) (predicates : Predicates) :
    spelled (UnitText.encode moment.mailText predicates).toUTF8 = predicates := by
  rw [spelled_toUTF8, UnitText.decode,
    UnitText.map_predicate_logical_encode _ _ moment.isOneLine_mailText,
    Dictionary.ofList_entries]

theorem held_of_file {store : FlatFile} {disk : Disk} {scope : Scope} {content : ByteArray}
    (h : disk.entry? (store.unitPlace disk scope) = some (.file content)) :
    store.held disk scope = spelled content := by
  rw [held, h]

theorem held_of_missing {store : FlatFile} {disk : Disk} {scope : Scope}
    (h : ∀ content, disk.entry? (store.unitPlace disk scope) ≠ some (.file content)) :
    store.held disk scope = ∅ := by
  rw [held]
  split
  · rename_i content hentry
    exact absurd hentry (h content)
  · rfl

/-- What writing a unit leaves behind, on a disk that has the directories for it. -/
theorem accessed_put {store : FlatFile} {disk between : Disk} {scope : Scope}
    (hapart : store.IsApart disk scope) {content : ByteArray}
    (htext : (String.fromUTF8? content).isSome = true) (hhere : between.here = disk.here)
    (hlimits : disk.IsUnlimited → between.IsUnlimited)
    (hmade : ∀ place ∈ store.directories disk scope, between.entry? place = some .directory)
    (hkept : ∀ place, place ∉ store.directories disk scope → place ≠ store.unitPlace disk scope →
      between.entry? place = disk.entry? place) :
    store.Accessed scope (spelled content) disk
      (between.put (store.unitPlace disk scope) (.file content)) := by
  have hput := Disk.entry?_put between (unitPlace_ne_nil store disk scope) (.file content)
  refine ⟨hhere, fun h => ⟨(hlimits h).names, (hlimits h).paths⟩, fun place hmem => ?_,
    ⟨content, ?_, htext, rfl⟩, fun place hmem hne => ?_⟩
  · -- The unit is none of the directories, so they are what they were before it was written.
    have hne : place ≠ store.unitPlace disk scope := fun he => by
      rw [he] at hmem
      exact unitPlace_not_mem_directories hapart scope hmem
    rw [hput, if_neg hne]
    exact hmade place hmem
  · rw [hput, if_pos rfl]
  · rw [hput, if_neg hne]
    exact hkept place hmem hne

/-- A directory in place of the unit ends an access. There is one as soon as the unit is asked for
    if the way to the base directory leads through its place. -/
theorem readUnit_directory {store : FlatFile} {disk : Disk} {scope : Scope}
    (hvalid : scope.IsValid) (husable : store.IsUsable disk)
    (hdirectories : ∀ place ∈ store.directories disk scope, ∀ content,
      disk.entry? place ≠ some (.file content))
    (h : store.unitPlace disk scope ∈ store.approach disk ∨
      disk.entry? (store.unitPlace disk scope) = some .directory) :
    readUnit disk (store.unitPath scope)
      = (.error (.io (store.unitPath scope) .isDirectory),
        (disk.makeDirectories (store.agentPath scope.agent)).2) := by
  rcases makeDirectories_agentPath hvalid husable hdirectories with ⟨between, hok, hcarved⟩
  have hlocate := locate_unitPath hvalid husable hcarved.here
    (hcarved.isUnlimited husable.unlimited) hcarved.made
  -- Either the place is on the way and a directory was made there, or it was one before.
  have hmade : between.entry? (store.unitPlace disk scope) = some .directory := by
    by_cases hmem : store.unitPlace disk scope ∈ store.directories disk scope
    · exact hcarved.made _ hmem
    · rw [hcarved.kept _ hmem]
      exact h.resolve_left fun happroach => hmem (List.mem_append_left _ happroach)
  rw [readUnit, ensureUnit, parent_unitPath hvalid husable.suffix, hok]
  simp only [Disk.touch_directory hlocate hmade]

section Accesses

variable {store : FlatFile} {disk : Disk} {scope : Scope} (hvalid : scope.IsValid)
  (husable : store.IsUsable disk) (hclear : store.IsClear disk scope)
  (hapart : store.IsApart disk scope)
include hvalid husable hclear hapart

/-- A unit is there after it was made, with what it spelled before. -/
theorem ensureUnit_accessed :
    ∃ disk', ensureUnit disk (store.unitPath scope) = (.ok (), disk') ∧
      store.Accessed scope (store.held disk scope) disk disk' := by
  rcases makeDirectories_agentPath hvalid husable hclear.directories with ⟨between, hok, hcarved⟩
  have hunlimited := hcarved.isUnlimited husable.unlimited
  have hlocate := locate_unitPath hvalid husable hcarved.here hunlimited hcarved.made
  have hfile : Path.namesDirectory (store.unitPath scope) = false :=
    Path.namesDirectory_join (isName_unitName hvalid husable.suffix) _
  have hkept := hcarved.kept _ (unitPlace_not_mem_directories hapart scope)
  rw [ensureUnit, parent_unitPath hvalid husable.suffix, hok]
  rcases hentry : disk.entry? (store.unitPlace disk scope) with _ | entry
  · -- The unit is new, so nothing was held before and it is empty now.
    rw [hentry] at hkept
    have hheld : store.held disk scope = ∅ :=
      held_of_missing fun content => by rw [hentry]; exact fun h => by cases h
    refine ⟨between.put (store.unitPlace disk scope) (.file .empty), ?_, ?_⟩
    · simp only [Disk.touch_missing hlocate hfile hkept]
    · rw [hheld, ← spelled_empty]
      exact accessed_put hapart (by decide) hcarved.here (fun _ => hunlimited) hcarved.made
        fun place hmem _ => hcarved.kept place hmem
  · cases entry with
    | directory => exact absurd hentry hclear.unit
    | file content =>
        -- The unit is there already, and making it changes nothing.
        rw [hentry] at hkept
        refine ⟨between, ?_, hcarved.here, fun _ => hunlimited, hcarved.made,
          ⟨content, hkept, hclear.text content hentry, (held_of_file hentry).symm⟩,
          fun place hmem _ => hcarved.kept place hmem⟩
        simp only [Disk.touch_file hlocate hfile hkept]

/-- A unit is made and read. -/
theorem readUnit_accessed :
    ∃ disk', readUnit disk (store.unitPath scope) = (.ok (store.held disk scope), disk') ∧
      store.Accessed scope (store.held disk scope) disk disk' := by
  rcases ensureUnit_accessed hvalid husable hclear hapart with ⟨disk', hok, haccessed⟩
  refine ⟨disk', ?_, haccessed⟩
  rcases haccessed.unit with ⟨content, hentry, htext, hspelled⟩
  rcases Option.isSome_iff_exists.mp htext with ⟨text, htext⟩
  have hlocate := locate_unitPath hvalid husable haccessed.here
    (haccessed.limits husable.unlimited) haccessed.made
  have hfile : Path.namesDirectory (store.unitPath scope) = false :=
    Path.namesDirectory_join (isName_unitName hvalid husable.suffix) _
  -- What stands in the file is spelled the way the unit held it.
  have hdecode : UnitText.decode text = store.held disk scope := by
    rw [← hspelled, spelled, htext]
    rfl
  rw [readUnit, hok]
  simp only [Disk.readText_file hlocate hfile hentry htext, hdecode]

/-- Reading all predicates gives what is held. -/
theorem predicates_accessed :
    ∃ disk', store.predicates disk scope = (.ok (store.held disk scope), disk') ∧
      store.Accessed scope (store.held disk scope) disk disk' := by
  rcases readUnit_accessed hvalid husable hclear hapart with ⟨disk', hok, haccessed⟩
  refine ⟨disk', ?_, haccessed⟩
  rw [predicates, pathFor_eq hvalid]
  exact hok

/-- Reading one predicate gives its value among what is held. -/
theorem load_accessed (name : String) :
    ∃ disk', store.load disk scope name = (.ok ((store.held disk scope).get? name), disk') ∧
      store.Accessed scope (store.held disk scope) disk disk' := by
  rcases predicates_accessed hvalid husable hclear hapart with ⟨disk', hok, haccessed⟩
  refine ⟨disk', ?_, haccessed⟩
  rw [load, hok]

/-- Saving sets one predicate among what is held. -/
theorem save_accessed (moment : Moment) (name value : String) :
    ∃ disk', store.save disk moment.mailText scope name value
        = (.ok (store.unitPath scope), disk') ∧
      store.Accessed scope ((store.held disk scope).insert name value) disk disk' := by
  -- The unit is read first, so it is there when it is written.
  rcases readUnit_accessed hvalid husable hclear hapart with ⟨between, hok, haccessed⟩
  rcases haccessed.unit with ⟨content, hentry, _⟩
  have hunlimited := haccessed.limits husable.unlimited
  have hlocate := locate_unitPath hvalid husable haccessed.here hunlimited haccessed.made
  have hfile : Path.namesDirectory (store.unitPath scope) = false :=
    Path.namesDirectory_join (isName_unitName hvalid husable.suffix) _
  have htext := Option.isSome_iff_exists.mpr ⟨_, fromUTF8?_toUTF8
    (UnitText.encode moment.mailText ((store.held disk scope).insert name value))⟩
  have hput := accessed_put hapart htext haccessed.here haccessed.limits haccessed.made
    haccessed.kept
  rw [spelled_encode] at hput
  refine ⟨_, ?_, hput⟩
  rw [save, pathFor_eq hvalid]
  simp only [hok, writeUnit, hunlimited.isOverlong_eq, Bool.false_eq_true, if_false,
    Disk.write_file hlocate hfile hentry]

end Accesses

namespace Accessed

variable {store : FlatFile} {disk disk' : Disk} {scope : Scope} {predicates : Predicates}
  (haccessed : store.Accessed scope predicates disk disk')
include haccessed

/-- Places depend on the directory where relative paths start, which an access does not change. -/
theorem places_eq : store.root disk' = store.root disk ∧
    store.approach disk' = store.approach disk := by
  rw [root, root, approach, approach, Disk.start, Disk.start, haccessed.here]
  exact ⟨rfl, rfl⟩

theorem unitPlace_eq (other : Scope) :
    store.unitPlace disk' other = store.unitPlace disk other := by
  rw [unitPlace, agentPlace, haccessed.places_eq.1]
  rfl

theorem isApart (other : Scope) (h : store.IsApart disk other) : store.IsApart disk' other := by
  rw [IsApart, haccessed.unitPlace_eq, haccessed.places_eq.2]
  exact h

theorem isUsable (h : store.IsUsable disk) : store.IsUsable disk' :=
  ⟨h.suffix, haccessed.limits h.unlimited, h.base⟩

/-- The scope that was accessed holds what its unit spells, and every other scope holds what it
    held. -/
theorem held_eq (hclear : store.IsClear disk scope) :
    store.held disk' = Function.update (store.held disk) scope predicates := by
  funext other
  by_cases hother : other = scope
  · -- The scope itself has what was written.
    rcases haccessed.unit with ⟨content, hentry, _, hspelled⟩
    rw [hother, Function.update_self, ← hspelled]
    exact held_of_file (by rw [haccessed.unitPlace_eq, hentry])
  · rw [Function.update_of_ne hother]
    by_cases hmem : store.unitPlace disk other ∈ store.directories disk scope
    · -- A directory was made where the unit of another scope would be, so it had no unit.
      rw [held_of_missing (hclear.directories _ hmem), held_of_missing fun content => ?_]
      rw [haccessed.unitPlace_eq, haccessed.made _ hmem]
      exact fun h => by cases h
    · have hne : store.unitPlace disk other ≠ store.unitPlace disk scope :=
        fun h => hother (unitPlace_injective store disk h)
      rw [held, held, haccessed.unitPlace_eq, haccessed.kept _ hmem hne]

/-- The unit of another scope is as it was. -/
theorem entry?_unitPlace {other : Scope} (h : store.IsApart disk other) (hne : other ≠ scope) :
    Disk.entry? disk' (store.unitPlace disk other)
      = Disk.entry? disk (store.unitPlace disk other) :=
  haccessed.kept _ (unitPlace_not_mem_directories h scope)
    fun he => hne (unitPlace_injective store disk he)

/-- No scope loses its way to its unit by an access to another. -/
theorem isClear {other : Scope} (hscope : store.IsApart disk scope)
    (hother : store.IsApart disk other) (h : store.IsClear disk other) :
    store.IsClear disk' other := by
  have hdirectories : store.directories disk' other = store.directories disk other := by
    rw [directories, agentPlace, haccessed.places_eq.1, haccessed.places_eq.2]
    rfl
  refine ⟨fun place hmem content => ?_, ?_, fun content hentry => ?_⟩
  · rw [hdirectories] at hmem
    by_cases hmade : place ∈ store.directories disk scope
    · rw [haccessed.made place hmade]
      exact fun h => by cases h
    · -- The one new file is the unit, which is no directory that another scope needs.
      have hne : place ≠ store.unitPlace disk scope := fun he => by
        rw [he] at hmem
        exact unitPlace_not_mem_directories hscope other hmem
      rw [haccessed.kept place hmade hne]
      exact h.directories place hmem content
  · rw [haccessed.unitPlace_eq]
    by_cases hsame : other = scope
    · rcases haccessed.unit with ⟨content, hentry, _⟩
      rw [hsame, hentry]
      exact fun h => by cases h
    · rw [haccessed.entry?_unitPlace hother hsame]
      exact h.unit
  · rw [haccessed.unitPlace_eq] at hentry
    by_cases hsame : other = scope
    · -- The unit that was written is text.
      rcases haccessed.unit with ⟨written, hwritten, htext, _⟩
      rw [hsame, hwritten] at hentry
      cases hentry
      exact htext
    · rw [haccessed.entry?_unitPlace hother hsame] at hentry
      exact h.text content hentry

end Accessed

end FlatFile

end Colloquy
