import Colloquy.Proofs.Disk.Listing
import Colloquy.Proofs.Store.Footprint
import Colloquy.Proofs.Store.Runs
import Colloquy.Proofs.Store.Stored
import Mathlib.Data.Set.Card

/-!
# The Units of a Store

Which scopes a store keeps a unit for, and that the users of an agent are counted by their units.

For memory the scopes with a unit are the keys of its list, and a save puts a key where it has taken
out the one that was there. For files it takes more to say. `FlatFile.HasUnits` says that below the
base directory there are the units of these scopes and no other files, and that no name is listed
twice. Directories may stand there that belong to no agent, because the path of the base directory
may lead down into it and up again; they are not counted, whatever their names.

## Main definitions

* `FlatFile.HasUnits`, `Memory.HasUnits`: These scopes have a unit, and no others.
* `FlatFile.IsVacant`: Nothing stands below the base directory.

## Theorems

* `countP_eq_ncard`: Counting a list without repetition.
* `FlatFile.HasUnits.accessed`: An access makes one unit.
* `Memory.HasUnits.save`: A save makes one unit.
* `FlatFile.HasUnits.userCount_eq`, `Memory.HasUnits.userCount_eq`: Users are counted by their
  units.
-/

namespace Colloquy

/-- What is counted in a list without repetition, if it is the image of a set without collision. -/
theorem countP_eq_ncard {α β : Type} {elements : List β} (helements : elements.Nodup)
    {test : β → Bool} {name : α → β} (hname : Function.Injective name) {members : Set α}
    (h : ∀ element, element ∈ elements ∧ test element = true ↔ element ∈ name '' members) :
    elements.countP test = members.ncard := by
  classical
  have hcounted : ((elements.filter test).toFinset : Set β) = name '' members := by
    ext element
    rw [List.coe_toFinset, Set.mem_ofPred_eq, List.mem_filter]
    exact h element
  rw [List.countP_eq_length_filter, ← List.toFinset_card_of_nodup (helements.filter _),
    ← Set.ncard_coe_finset, hcounted, Set.ncard_image_of_injective _ hname]

namespace FlatFile

/-- The unit of a scope is there, and can be accessed. -/
structure HasUnit (store : FlatFile) (disk : Disk) (scope : Scope) : Prop where
  valid : scope.IsValid
  apart : store.IsApart disk scope
  made : ∀ place ∈ store.directories disk scope, disk.entry? place = some .directory
  file : ∃ content, disk.entry? (store.unitPlace disk scope) = some (.file content)

/-- Below the base directory there are the units of these scopes and no other files, and in the
    directories of agents nothing is listed twice. Whatever else is in such a directory stands on
    the way to the base directory. -/
structure HasUnits (store : FlatFile) (disk : Disk) (units : Set Scope) : Prop where
  unit : ∀ scope ∈ units, store.HasUnit disk scope
  approach : ∀ place ∈ store.approach disk, ∀ content, disk.entry? place ≠ some (.file content)
  agents : ∀ agent content, disk.entry? (store.agentPlace disk agent) ≠ some (.file content)
  names : ∀ agent name, disk.entry? (store.agentPlace disk agent ++ [name]) ≠ none →
    store.agentPlace disk agent ++ [name] ∈ store.approach disk ∨
      ∃ scope ∈ units, store.unitPlace disk scope = store.agentPlace disk agent ++ [name]
  once : ∀ agent name, disk.IsOnce (store.agentPlace disk agent ++ [name])

/-- Nothing stands below the base directory, and no file on the way to it. -/
structure IsVacant (store : FlatFile) (disk : Disk) : Prop where
  approach : ∀ place ∈ store.approach disk, ∀ content, disk.entry? place ≠ some (.file content)
  below : ∀ names, names ≠ [] → disk.entry? (store.root disk ++ names) = none

namespace IsVacant

variable {store : FlatFile} {disk : Disk} (h : store.IsVacant disk)
include h

theorem agentPlace (agent : String) : disk.entry? (store.agentPlace disk agent) = none :=
  h.below [agent] (List.cons_ne_nil _ _)

theorem inside (agent name : String) :
    disk.entry? (store.agentPlace disk agent ++ [name]) = none := by
  rw [FlatFile.agentPlace, List.append_assoc]
  exact h.below ([agent] ++ [name]) (List.concat_ne_nil _ _)

theorem held (scope : Scope) : store.held disk scope = ∅ :=
  held_of_missing fun content => by
    rw [unitPlace, h.inside]
    exact (Option.some_ne_none _).symm

theorem isReady {scope : Scope} (hvalid : scope.IsValid) (hapart : store.IsApart disk scope) :
    store.IsReady disk scope := by
  refine ⟨hvalid, ⟨fun place hplace content => ?_, ?_, fun content => ?_⟩, hapart⟩
  · rw [directories, List.mem_append, List.mem_singleton] at hplace
    rcases hplace with hplace | rfl
    · -- Nothing is in the way, and nothing is below the directory of the agent.
      exact h.approach place hplace content
    · rw [h.agentPlace]
      exact (Option.some_ne_none _).symm
  · rw [unitPlace, h.inside]
    exact (Option.some_ne_none _).symm
  · rw [unitPlace, h.inside]
    exact fun hentry => absurd hentry.symm (Option.some_ne_none _)

theorem hasUnits : store.HasUnits disk ∅ := by
  refine ⟨fun _ hmem => absurd hmem (Set.notMem_empty _), h.approach, fun agent content => ?_,
    fun agent name hentry => absurd (h.inside agent name) hentry,
    fun agent name => Disk.isOnce_of_missing (h.inside agent name)⟩
  rw [h.agentPlace]
  exact (Option.some_ne_none _).symm

end IsVacant

/-- Nothing stands anywhere on a disk without entries. -/
theorem isVacant_empty (store : FlatFile) : store.IsVacant {} := by
  refine ⟨fun place _ content => ?_, fun names hnames => ?_⟩
  · by_cases hplace : place = []
    · rw [hplace]
      exact fun hentry => by cases hentry
    · rw [Disk.entry?_bare hplace]
      exact (Option.some_ne_none _).symm
  · exact Disk.entry?_bare (List.append_ne_nil_of_right_ne_nil _ hnames)

/-- The name of a unit is longer than the suffix and ends in it. -/
theorem isUnitName_append (store : FlatFile) {user : String} (h : isComponent user = true) :
    store.isUnitName (user ++ store.suffix) = true := by
  have hne : user.utf8ByteSize ≠ 0 := fun hsize => by
    rw [String.utf8ByteSize_eq_zero_iff.mp hsize] at h
    cases h
  rw [isUnitName, String.utf8ByteSize_append, String.toList_append, Bool.and_eq_true,
    decide_eq_true_eq, List.isSuffixOf_iff_suffix]
  exact ⟨by omega, List.suffix_append _ _⟩

/-- Making a unit lists nothing twice. -/
theorem ensureUnit_isOnce {disk : Disk} {place : Place} (h : disk.IsOnce place) (path : String) :
    (ensureUnit disk path).2.IsOnce place := by
  have hmade := h.makeDirectories ((Path.parent? path).getD "")
  rw [ensureUnit]
  generalize disk.makeDirectories ((Path.parent? path).getD "") = outcome at hmade ⊢
  rcases outcome with ⟨result, between⟩
  cases result with
  | error fault => exact hmade
  | ok _ =>
      dsimp only
      split
      · exact hmade
      · -- What was made on the way and the unit itself are new entries or none.
        rename_i htouch
        exact hmade.touch htouch

namespace HasUnit

variable {store : FlatFile} {disk disk' : Disk} {scope : Scope} {predicates : Predicates}

/-- A scope has a unit after it was accessed. -/
theorem of_accessed (hready : store.IsReady disk scope)
    (haccessed : store.Accessed scope predicates disk disk') : store.HasUnit disk' scope := by
  rcases haccessed.unit with ⟨content, hentry, _⟩
  refine ⟨hready.valid, haccessed.isApart scope hready.apart, ?_, content, ?_⟩
  · rw [directories_eq_of_here store haccessed.here]
    exact haccessed.made
  · rw [haccessed.unitPlace_eq, hentry]

/-- A unit survives an access to another scope. -/
theorem accessed {other : Scope} (h : store.HasUnit disk other) (hne : other ≠ scope)
    (hapart : store.IsApart disk scope)
    (haccessed : store.Accessed scope predicates disk disk') : store.HasUnit disk' other := by
  rcases h.file with ⟨content, hentry⟩
  refine ⟨h.valid, haccessed.isApart other h.apart, fun place hplace => ?_, content, ?_⟩
  · rw [directories_eq_of_here store haccessed.here] at hplace
    by_cases hmade : place ∈ store.directories disk scope
    · exact haccessed.made place hmade
    · -- The one new file is the unit, which is no directory that another scope needs.
      have hunit : place ≠ store.unitPlace disk scope := fun heq =>
        unitPlace_not_mem_directories hapart other (heq ▸ hplace)
      rw [haccessed.kept place hmade hunit]
      exact h.made place hplace
  · rw [haccessed.unitPlace_eq, haccessed.entry?_unitPlace h.apart hne, hentry]

theorem locate_eq (h : store.HasUnit disk scope) (husable : store.IsUsable disk) :
    disk.locate (store.unitPath scope) = .ok (store.unitPlace disk scope) :=
  locate_unitPath h.valid husable rfl husable.unlimited h.made

end HasUnit

namespace HasUnits

variable {store : FlatFile} {disk : Disk} {units : Set Scope}

/-- An access makes one unit. -/
theorem accessed {disk' : Disk} {scope : Scope} {predicates : Predicates}
    (h : store.HasUnits disk units) (hready : store.IsReady disk scope)
    (haccessed : store.Accessed scope predicates disk disk')
    (honce : ∀ place, disk.IsOnce place → disk'.IsOnce place) :
    store.HasUnits disk' (insert scope units) := by
  have hhere := haccessed.here
  refine ⟨fun other hother => ?_, fun place hplace content => ?_, fun agent content => ?_,
    fun agent name hentry => ?_, fun agent name => ?_⟩
  · by_cases hsame : other = scope
    · rw [hsame]
      exact .of_accessed hready haccessed
    · exact (h.unit other (Set.mem_of_mem_insert_of_ne hother hsame)).accessed hsame hready.apart
        haccessed
  · rw [approach_eq_of_here store hhere] at hplace
    rw [haccessed.made place (List.mem_append_left _ hplace)]
    nofun
  · rw [agentPlace_eq_of_here store hhere]
    by_cases hmade : store.agentPlace disk agent ∈ store.directories disk scope
    · rw [haccessed.made _ hmade]
      nofun
    · rw [haccessed.kept _ hmade (unitPlace_ne_agentPlace store disk scope agent).symm]
      exact h.agents agent content
  · rw [agentPlace_eq_of_here store hhere] at hentry ⊢
    rw [approach_eq_of_here store hhere]
    simp only [haccessed.unitPlace_eq]
    by_cases hmade : store.agentPlace disk agent ++ [name] ∈ store.directories disk scope
    · exact .inl (mem_approach_of_inside hmade)
    by_cases hunit : store.agentPlace disk agent ++ [name] = store.unitPlace disk scope
    · exact .inr ⟨scope, Set.mem_insert _ _, hunit.symm⟩
    -- What is neither was there before.
    rw [haccessed.kept _ hmade hunit] at hentry
    rcases h.names agent name hentry with happroach | ⟨other, hother, hplace⟩
    · exact .inl happroach
    · exact .inr ⟨other, Set.mem_insert_of_mem _ hother, hplace⟩
  · rw [agentPlace_eq_of_here store hhere]
    exact honce _ (h.once agent name)

section Counting

variable (h : store.HasUnits disk units) (husable : store.IsUsable disk) {agent : String}
  (hagent : isComponent agent = true)
include h husable hagent

/-- A name in the directory of an agent is counted if it is that of a unit. -/
theorem counted_iff (name : String) :
    name ∈ disk.children (store.agentPlace disk agent) ∧
        (store.isUnitName name && disk.isFile (Path.join (store.agentPath agent) name)) = true
      ↔ name ∈ (· ++ store.suffix) '' {user | ⟨user, agent⟩ ∈ units} := by
  rw [Disk.mem_children_iff, Bool.and_eq_true]
  constructor
  · rintro ⟨hentry, _, hfile⟩
    rcases h.names agent name hentry with happroach | ⟨scope, hscope, hplace⟩
    · -- Only directories stand on the way to the base directory.
      have hname := Disk.isName_of_mem_way (fun _ => Path.isName_of_down_mem_steps) happroach
      rcases Disk.file_of_isFile hfile with ⟨content, hcontent⟩
      rw [Disk.destination, Disk.reach_join disk hname, reach_agentPath hagent] at hcontent
      exact absurd hcontent (h.approach _ happroach content)
    · rcases List.append_inj' hplace rfl with ⟨hagents, hnames⟩
      rcases List.append_inj' hagents rfl with ⟨_, hsame⟩
      rcases scope with ⟨user, other⟩
      cases List.singleton_inj.mp hsame
      exact ⟨user, hscope, List.singleton_inj.mp hnames⟩
  · rintro ⟨user, hscope, rfl⟩
    -- The unit is there, under a name with the suffix, and it is a file.
    have hunit := h.unit _ hscope
    rcases hunit.file with ⟨content, hentry⟩
    refine ⟨fun hnone => ?_, ?_, ?_⟩
    · rw [show store.agentPlace disk agent ++ [user ++ store.suffix]
        = store.unitPlace disk ⟨user, agent⟩ from rfl, hentry] at hnone
      cases hnone
    · exact isUnitName_append store hunit.valid.2
    · exact Disk.isFile_of_file (hunit.locate_eq husable)
        (Path.namesDirectory_join (isName_unitName hunit.valid husable.suffix) _) hentry

/-- Users are counted by their units. -/
theorem userCount_eq :
    store.userCount disk agent = .ok {user | ⟨user, agent⟩ ∈ units}.ncard := by
  have hnul := nul_not_mem_agentPath hagent husable
  have hempty : (store.agentPath agent).isEmpty = false :=
    Path.join_ne_empty (Path.isName hagent) _
  have hway : Disk.way (disk.start (store.agentPath agent)) (Path.steps (store.agentPath agent))
      = store.approach disk ++ [store.agentPlace disk agent] := by
    rw [start_agentPath hagent, steps_agentPath hagent, Disk.way_append]
    rfl
  rw [userCount, checkComponent, hagent]
  by_cases hmade : ∀ place ∈ store.approach disk ++ [store.agentPlace disk agent],
      disk.entry? place = some .directory
  · have hcount := countP_eq_ncard (Disk.nodup_children (h.once agent))
      (fun _ _ => (String.append_left_inj store.suffix).mp) (h.counted_iff husable hagent)
    rw [← hway] at hmade
    simp only [if_true, Disk.list_directory husable.unlimited hempty hnul (steps_agentPath hagent)
      hmade]
    rw [Disk.destination, reach_agentPath hagent, hcount]
  · -- Without its directory an agent has no units.
    have hnone : {user | (⟨user, agent⟩ : Scope) ∈ units} = ∅ :=
      Set.eq_empty_of_forall_notMem fun user hmem => hmade (h.unit _ hmem).made
    have hfree : ∀ place ∈ store.approach disk ++ [store.agentPlace disk agent], ∀ content,
        disk.entry? place ≠ some (.file content) :=
      List.forall_mem_append.mpr ⟨h.approach, List.forall_mem_singleton.mpr (h.agents agent)⟩
    rw [← hway] at hmade hfree
    simp only [if_true, Disk.list_missing husable.unlimited hempty hnul (steps_agentPath hagent)
      hfree hmade]
    rw [hnone, Set.ncard_empty]

end Counting

section Operations

variable (h : store.HasUnits disk units) (husable : store.IsUsable disk) {scope : Scope}
  (hready : store.IsReady disk scope)
include h husable hready

theorem predicates : store.HasUnits (store.predicates disk scope).2 (insert scope units) := by
  rcases predicates_accessed hready.valid husable hready.clear hready.apart with
    ⟨disk', hok, haccessed⟩
  have hpath : store.pathFor scope = .ok (store.unitPath scope) := pathFor_eq hready.valid
  have hensured : disk' = (ensureUnit disk (store.unitPath scope)).2 := by
    rw [← predicates_snd hpath, hok]
  have honce (place : Place) (hplace : disk.IsOnce place) : disk'.IsOnce place := by
    rw [hensured]
    exact ensureUnit_isOnce hplace _
  rw [hok]
  exact h.accessed hready haccessed honce

theorem save (moment : Moment) (name value : String) :
    store.HasUnits (store.save disk moment.mailText scope name value).2 (insert scope units) := by
  rcases save_accessed hready.valid husable hready.clear hready.apart moment name value with
    ⟨disk', hok, haccessed⟩
  rw [hok]
  refine h.accessed hready haccessed fun place hplace => ?_
  rcases save_cases (pathFor_eq hready.valid) disk moment.mailText name value with
    ⟨error, hsave⟩ | ⟨content, written, hwrite, hsave⟩
  · rw [hok] at hsave
    cases hsave
  · rw [hok] at hsave
    cases hsave
    exact (ensureUnit_isOnce hplace _).write hwrite

end Operations

end HasUnits

end FlatFile

namespace Memory

/-- Memory lists these scopes, and each of them once. -/
structure HasUnits (memory : Memory) (units : Set Scope) : Prop where
  unit : ∀ scope, scope ∈ memory.units.map (·.1) ↔ scope ∈ units
  once : (memory.units.map (·.1)).Nodup

namespace HasUnits

variable {memory : Memory} {units : Set Scope} (h : memory.HasUnits units)
include h

/-- A save makes one unit. -/
theorem save (scope : Scope) (name value : String) :
    (memory.save scope name value).HasUnits (insert scope units) := by
  have hothers (other : Scope) : other ∈ (memory.units.filter (·.1 ≠ scope)).map (·.1)
      ↔ other ∈ units ∧ other ≠ scope := by
    rw [← h.unit, List.mem_map, List.mem_map]
    constructor
    · rintro ⟨entry, hentry, rfl⟩
      rw [List.mem_filter, decide_eq_true_eq] at hentry
      exact ⟨⟨entry, hentry.1, rfl⟩, hentry.2⟩
    · rintro ⟨⟨entry, hentry, rfl⟩, hne⟩
      exact ⟨entry, List.mem_filter.mpr ⟨hentry, decide_eq_true hne⟩, rfl⟩
  constructor
  · intro other
    rw [Memory.save, List.map_cons, List.mem_cons, hothers, Set.mem_insert_iff]
    by_cases hother : other = scope
    · exact iff_of_true (.inl hother) (.inl hother)
    · exact or_congr_right (and_iff_left hother)
  · rw [Memory.save, List.map_cons, List.nodup_cons, hothers]
    exact ⟨fun hmem => hmem.2 rfl, (List.filter_sublist.map _).nodup h.once⟩

/-- Users are counted by their units. -/
theorem userCount_eq (agent : String) :
    memory.userCount agent = {user | ⟨user, agent⟩ ∈ units}.ncard := by
  have hcount : (memory.units.map (·.1)).countP (fun scope => decide (scope.agent = agent))
      = {user | ⟨user, agent⟩ ∈ units}.ncard := by
    have hinjective : Function.Injective fun user => Scope.mk user agent :=
      fun _ _ => congrArg Scope.user
    refine countP_eq_ncard h.once hinjective fun scope => ?_
    rw [h.unit, decide_eq_true_eq]
    constructor
    · rintro ⟨hscope, rfl⟩
      exact ⟨scope.user, hscope, rfl⟩
    · rintro ⟨user, huser, rfl⟩
      exact ⟨huser, rfl⟩
  rw [← hcount, List.countP_map]
  rfl

end HasUnits

end Memory

end Colloquy
