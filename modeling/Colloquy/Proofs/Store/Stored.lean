import Colloquy.Proofs.ShareLog
import Colloquy.Proofs.Store.Unit
import Colloquy.Store.Backend

/-!
# What a Store Holds, Whatever Happens

The effect of the operations of a store on what it holds, without any condition on the disk. An
operation may fail for what stands in the way or for a name that is too long; then nothing that is
held changes. If it succeeds, it answers what is held and changes what it should.

`FlatFile.held` reads the disk at the places of units, so it is enough to know which files an access
may write. That is `FlatFile.units`: the unit of the scope, unless its place is a directory by the
time it would be written, because the way to the base directory leads through it.

`Backend.stored` is the same for either kind of store. A scope that files refuse has no predicates
there.

## Main definitions

* `FlatFile.units`: The places of files that an access to a scope may write.
* `Backend.stored`: The predicates that a store holds for a scope.
* `Backend.IsProper`: A store that can be opened.
* `ShareLog.SparesUnit`: No file of a share log is the unit of a scope.

## Theorems

* `readUnit_attempted`: An attempt to read one unit.
* `predicates_attempted`, `load_attempted`, `save_attempted`: The operations of either kind of
  store.
* `stored_record`: Gossip changes no predicates.
-/

namespace Colloquy

namespace FlatFile

/-- The places of the files that an access to a scope may write. -/
def units (store : FlatFile) (disk : Disk) (scope : Scope) : List Place :=
  if store.unitPlace disk scope ∈ store.approach disk then [] else [store.unitPlace disk scope]

theorem units_subset (store : FlatFile) (disk : Disk) (scope : Scope) :
    store.units disk scope ⊆ [store.unitPlace disk scope] := by
  unfold units
  split
  · exact List.nil_subset _
  · exact List.Subset.refl _

section Here

variable (store : FlatFile) {disk disk' : Disk} (h : disk'.here = disk.here)
include h

theorem root_eq_of_here : store.root disk' = store.root disk := by
  rw [root, root, Disk.start, Disk.start, h]

theorem approach_eq_of_here : store.approach disk' = store.approach disk := by
  rw [approach, approach, Disk.start, Disk.start, h]

theorem agentPlace_eq_of_here (agent : String) :
    store.agentPlace disk' agent = store.agentPlace disk agent := by
  rw [agentPlace, agentPlace, root_eq_of_here store h]

theorem unitPlace_eq_of_here (scope : Scope) :
    store.unitPlace disk' scope = store.unitPlace disk scope := by
  rw [unitPlace, unitPlace, agentPlace_eq_of_here store h]

theorem directories_eq_of_here (scope : Scope) :
    store.directories disk' scope = store.directories disk scope := by
  rw [directories, directories, approach_eq_of_here store h, agentPlace_eq_of_here store h]

end Here

/-- What is held for a scope changes only if its unit is written. -/
theorem held_eq_of_altered {store : FlatFile} {disk disk' : Disk} {directories files : List Place}
    (h : Disk.Altered directories files disk disk') {scope : Scope}
    (hscope : store.unitPlace disk scope ∉ files) :
    store.held disk' scope = store.held disk scope := by
  rw [held, held, unitPlace_eq_of_here store h.here]
  cases h.fate (store.unitPlace disk scope) with
  | kept hkept => rw [hkept]
  | made _ hbefore hafter _ => rw [hbefore, hafter]
  | written hmem _ _ => exact absurd hmem hscope

theorem destination_unitPath {store : FlatFile} {scope : Scope} (hvalid : scope.IsValid)
    (hsuffix : isComponent store.suffix = true) (disk : Disk) :
    disk.destination (store.unitPath scope) = store.unitPlace disk scope := by
  rw [Disk.destination, unitPath, Disk.reach_join disk (isName_unitName hvalid hsuffix),
    reach_agentPath hvalid.1]
  rfl

/-- What becomes of an attempt to make the unit of a scope: it fails, or the unit is there, as it
    was or empty where there was none. -/
inductive Ensured (store : FlatFile) (disk : Disk) (scope : Scope) :
    Except StoreError Unit × Disk → Prop where
  | failed {path : String} {fault : Disk.Fault} {disk' : Disk}
      (haltered : Disk.Altered (store.directories disk scope) [] disk disk') :
      Ensured store disk scope (.error (.io path fault), disk')
  | done {content : ByteArray} {disk' : Disk} (hapart : store.IsApart disk scope)
      (haltered : Disk.Altered (store.directories disk scope) [store.unitPlace disk scope] disk
        disk')
      (hlocate : disk'.locate (store.unitPath scope) = .ok (store.unitPlace disk scope))
      (hentry : disk'.entry? (store.unitPlace disk scope) = some (.file content))
      (hbefore : disk.entry? (store.unitPlace disk scope) = some (.file content) ∨
        disk.entry? (store.unitPlace disk scope) = none ∧ content = .empty) :
      Ensured store disk scope (.ok (), disk')

/-- What becomes of an access that should be answered with `answer` and leave `held` behind: the
    scope is refused, or the access fails without a change to what is held, or it succeeds. -/
inductive Attempted {α : Type} (store : FlatFile) (disk : Disk) (scope : Scope) (answer : α)
    (held : Scope → Predicates) : Except StoreError α × Disk → Prop where
  | refused {role : Scope.Role} {value : String} (hvalid : ¬ scope.IsValid) :
      Attempted store disk scope answer held (.error (.invalidIdentifier role value), disk)
  | failed {path : String} {fault : Disk.Fault} {disk' : Disk} (hvalid : scope.IsValid)
      (haltered : Disk.Altered (store.directories disk scope) (store.units disk scope) disk disk')
      (hheld : store.held disk' = store.held disk) :
      Attempted store disk scope answer held (.error (.io path fault), disk')
  | done {disk' : Disk} (hvalid : scope.IsValid) (hapart : store.IsApart disk scope)
      (haltered : Disk.Altered (store.directories disk scope) (store.units disk scope) disk disk')
      (hheld : store.held disk' = held) :
      Attempted store disk scope answer held (.ok answer, disk')

theorem units_of_isApart {store : FlatFile} {disk : Disk} {scope : Scope}
    (h : store.IsApart disk scope) : store.units disk scope = [store.unitPlace disk scope] :=
  if_neg h

/-- Writing the unit of a scope changes what is held for that scope only. -/
theorem held_put {store : FlatFile} {disk : Disk} {scope : Scope} {content : ByteArray} :
    store.held (disk.put (store.unitPlace disk scope) (.file content))
      = Function.update (store.held disk) scope (spelled content) := by
  have hput := Disk.entry?_put disk (unitPlace_ne_nil store disk scope) (.file content)
  funext other
  by_cases hother : other = scope
  · subst hother
    rw [Function.update_self, held_of_file]
    exact (hput _).trans (if_pos rfl)
  · -- Units of other scopes have places of their own.
    have hne : store.unitPlace disk other ≠ store.unitPlace disk scope :=
      fun h => hother (unitPlace_injective store disk h)
    have hplace : store.unitPlace (disk.put (store.unitPlace disk scope) (.file content)) other
        = store.unitPlace disk other := unitPlace_eq_of_here store rfl other
    rw [Function.update_of_ne hother, held, held, hplace, hput, if_neg hne]

section Units

variable {store : FlatFile} {scope : Scope} (hsuffix : isComponent store.suffix = true)
  (hvalid : scope.IsValid) (disk : Disk)
include hsuffix hvalid

theorem ensureUnit_ensured :
    store.Ensured disk scope (ensureUnit disk (store.unitPath scope)) := by
  have hmake := Disk.makeDirectories_altered disk (store.agentPath scope.agent)
  rw [way_agentPath hvalid] at hmake
  rw [ensureUnit, parent_unitPath hvalid hsuffix]
  rcases hmade : disk.makeDirectories (store.agentPath scope.agent) with ⟨result, between⟩
  rw [hmade] at hmake
  cases result with
  | error fault => exact .failed hmake
  | ok _ =>
      simp only []
      cases htouch : between.touch (store.unitPath scope) with
      | error fault => exact .failed hmake
      | ok touched =>
          have hplace : between.destination (store.unitPath scope)
              = store.unitPlace disk scope := by
            rw [destination_unitPath hvalid hsuffix, unitPlace_eq_of_here store hmake.here]
          have htouched := Disk.touch_altered htouch
          rcases Disk.touch_eq_ok htouch with ⟨content, hlocate, _, hentry, hbefore⟩
          rw [hplace] at htouched hlocate hentry hbefore
          have hdirectories := Disk.makeDirectories_made hmade
          rw [way_agentPath hvalid] at hdirectories
          refine .done (fun happroach => ?_) ((hmake.mono (List.Subset.refl _)
            (List.nil_subset _)).trans (htouched.mono (List.nil_subset _) (List.Subset.refl _)))
            hlocate hentry ?_
          · -- Where the way to the base directory leads there is a directory by now.
            have hdirectory := hdirectories _ (List.mem_append_left _ happroach)
            rcases hbefore with hbefore | ⟨hbefore, _⟩ <;>
              (rw [hdirectory] at hbefore; cases hbefore)
          · rcases hbefore with hbefore | ⟨hbefore, hempty⟩
            · exact .inl ((hmake.file_of_not_mem List.not_mem_nil content).mp hbefore)
            · refine .inr ⟨?_, hempty⟩
              cases hmake.fate (store.unitPlace disk scope) with
              | kept hkept => rw [← hkept, hbefore]
              | made _ _ hafter _ => rw [hbefore] at hafter; cases hafter
              | written hmem _ _ => exact absurd hmem List.not_mem_nil

/-- Reading a unit gives what is held, if it succeeds, and changes nothing that is held. -/
theorem readUnit_attempted : store.Attempted disk scope (store.held disk scope) (store.held disk)
    (readUnit disk (store.unitPath scope)) := by
  have hensured := ensureUnit_ensured hsuffix hvalid disk
  unfold readUnit
  generalize ensureUnit disk (store.unitPath scope) = outcome at hensured ⊢
  cases hensured with
  | failed haltered =>
      refine .failed hvalid (haltered.mono (List.Subset.refl _) (List.nil_subset _)) ?_
      funext other
      exact held_eq_of_altered haltered List.not_mem_nil
  | @done content disk' hapart haltered hlocate hentry hbefore =>
      have hunits := units_of_isApart hapart
      -- What was there is held as it was, and a new unit is as empty as a missing one.
      have hcontent : store.held disk scope = spelled content := by
        rcases hbefore with hbefore | ⟨hbefore, rfl⟩
        · exact held_of_file hbefore
        · rw [spelled_empty, held_of_missing (by rw [hbefore]; nofun)]
      -- Nothing that anybody holds has changed by making the unit.
      have hheld : store.held disk' = store.held disk := by
        funext other
        by_cases hother : other = scope
        · subst hother
          rw [hcontent, held_of_file]
          rw [unitPlace_eq_of_here store haltered.here, hentry]
        · refine held_eq_of_altered haltered fun hmem => hother ?_
          exact unitPlace_injective store disk (List.mem_singleton.mp hmem)
      rw [← hunits] at haltered
      have hname : Path.namesDirectory (store.unitPath scope) = false :=
        Path.namesDirectory_join (isName_unitName hvalid hsuffix) _
      have hread : disk'.read (store.unitPath scope) = .ok content := by
        rw [Disk.read, hlocate]
        simp only [hentry, hname, Bool.false_eq_true, if_false]
      simp only [Disk.readText, hread]
      -- A unit that is no text is there and cannot be read.
      cases htext : String.fromUTF8? content with
      | none => exact .failed hvalid haltered hheld
      | some text =>
          have hdecode : store.held disk scope = UnitText.decode text := by
            rw [hcontent, spelled, htext]
            rfl
          rw [hdecode]
          exact .done hvalid hapart haltered hheld

end Units

theorem pathFor_invalid (store : FlatFile) {scope : Scope} (h : ¬ scope.IsValid) :
    ∃ role value, store.pathFor scope = .error (.invalidIdentifier role value) := by
  by_cases hagent : isComponent scope.agent = true
  · have huser : ¬ isComponent scope.user = true := fun huser => h ⟨hagent, huser⟩
    exact ⟨.user, scope.user, pathFor_user store hagent (Bool.eq_false_iff.mpr huser)⟩
  · exact ⟨.agent, scope.agent, pathFor_agent store (Bool.eq_false_iff.mpr hagent)⟩

section Operations

variable {store : FlatFile} (hsuffix : isComponent store.suffix = true) (disk : Disk)
  (scope : Scope)
include hsuffix

theorem predicates_attempted :
    store.Attempted disk scope (store.held disk scope) (store.held disk)
      (store.predicates disk scope) := by
  by_cases hvalid : scope.IsValid
  · rw [predicates, pathFor_eq hvalid]
    exact readUnit_attempted hsuffix hvalid disk
  · rcases pathFor_invalid store hvalid with ⟨role, value, hpath⟩
    rw [predicates, hpath]
    exact .refused hvalid

theorem load_attempted (name : String) :
    store.Attempted disk scope ((store.held disk scope).get? name) (store.held disk)
      (store.load disk scope name) := by
  have hattempted := predicates_attempted hsuffix disk scope
  unfold load
  generalize store.predicates disk scope = outcome at hattempted ⊢
  cases hattempted with
  | refused hvalid => exact .refused hvalid
  | failed hvalid haltered hheld => exact .failed hvalid haltered hheld
  | done hvalid hapart haltered hheld => exact .done hvalid hapart haltered hheld

theorem save_attempted (moment : Moment) (name value : String) :
    store.Attempted disk scope (store.unitPath scope)
      (Function.update (store.held disk) scope ((store.held disk scope).insert name value))
      (store.save disk moment.mailText scope name value) := by
  by_cases hvalid : scope.IsValid
  · have hattempted := readUnit_attempted hsuffix hvalid disk
    rw [save, pathFor_eq hvalid]
    simp only []
    generalize readUnit disk (store.unitPath scope) = outcome at hattempted ⊢
    cases hattempted with
    | refused hinvalid => exact absurd hvalid hinvalid
    | failed _ haltered hheld => exact .failed hvalid haltered hheld
    | done _ hapart haltered hheld =>
        simp only [writeUnit]
        split
        · rename_i hwrite
          split at hwrite
          · cases hwrite
            exact .failed hvalid haltered hheld
          · split at hwrite
            · cases hwrite
              exact .failed hvalid haltered hheld
            · cases hwrite
        · rename_i disk' hwrite
          split at hwrite
          · cases hwrite
          · split at hwrite
            · cases hwrite
            · rename_i hwritten
              cases hwrite
              have hunit := Disk.write_altered hwritten
              rw [destination_unitPath hvalid hsuffix, unitPlace_eq_of_here store haltered.here,
                ← units_of_isApart hapart] at hunit
              refine .done hvalid hapart (haltered.trans (hunit.mono (List.nil_subset _)
                (List.Subset.refl _))) ?_
              -- The unit is written whole, with what it held and the one predicate.
              rw [(Disk.write_eq_ok hwritten).2, destination_unitPath hvalid hsuffix, held_put,
                spelled_encode, hheld]
  · rcases pathFor_invalid store hvalid with ⟨role, value', hpath⟩
    rw [save, hpath]
    exact .refused hvalid

end Operations

end FlatFile

namespace Memory

/-- Saving sets one predicate of one scope. -/
theorem predicates_save (memory : Memory) (scope : Scope) (name value : String) :
    (memory.save scope name value).predicates
      = Function.update memory.predicates scope ((memory.predicates scope).insert name value) := by
  funext other
  by_cases hother : other = scope
  · rw [hother, Function.update_self, predicates, unit?, save, List.lookup_cons_self]
    rfl
  · rw [Function.update_of_ne hother, predicates, unit?, save, List.lookup_cons,
      beq_false_of_ne hother, Disk.lookup_filter_ne _ hother]
    rfl

end Memory

/-- No file of a share log is the unit of a scope. -/
def ShareLog.SparesUnit (log : ShareLog) (backend : Backend) (disk : Disk) (scope : Scope) : Prop :=
  match backend with
  | .memory => True
  | .files store => scope.IsValid → store.unitPlace disk scope ∉ log.files disk

theorem ShareLog.SparesUnit.of_here {log : ShareLog} {backend : Backend} {disk disk' : Disk}
    {scope : Scope} (h : log.SparesUnit backend disk scope) (hhere : disk'.here = disk.here) :
    log.SparesUnit backend disk' scope := by
  cases backend with
  | memory => trivial
  | files store =>
      intro hvalid
      rw [log.files_eq_of_here hhere, store.unitPlace_eq_of_here hhere]
      exact h hvalid

namespace Backend

/-- A store that can be opened. -/
def IsProper : Backend → Prop
  | .memory => True
  | .files store => isComponent store.suffix = true

/-- The predicates that a store holds for a scope. A scope that files refuse has none there. -/
def stored (backend : Backend) (world : World) (scope : Scope) : Predicates :=
  match backend with
  | .memory => world.memory.predicates scope
  | .files store => if scope.IsValid then store.held world.disk scope else ∅

/-- The places of the directories that an access to a scope may make. -/
def directories (backend : Backend) (disk : Disk) (scope : Scope) : List Place :=
  match backend with
  | .memory => []
  | .files store => store.directories disk scope

/-- The places of the files that an access to a scope may write. -/
def units (backend : Backend) (disk : Disk) (scope : Scope) : List Place :=
  match backend with
  | .memory => []
  | .files store => store.units disk scope

/-- What becomes of an access that should be answered with `answer` and leave `held` behind. Only
    files refuse a scope or fail, and then nothing that is held changes. -/
inductive Attempted {α : Type} (backend : Backend) (world : World) (scope : Scope) (answer : α)
    (held : Scope → Predicates) : Except StoreError α × World → Prop where
  | refused {role : Scope.Role} {value : String} (hfiles : backend ≠ .memory)
      (hvalid : ¬ scope.IsValid) :
      Attempted backend world scope answer held (.error (.invalidIdentifier role value), world)
  | failed {path : String} {fault : Disk.Fault} {world' : World} (hfiles : backend ≠ .memory)
      (haltered : Disk.Altered (backend.directories world.disk scope)
        (backend.units world.disk scope) world.disk world'.disk)
      (hheld : backend.stored world' = backend.stored world) :
      Attempted backend world scope answer held (.error (.io path fault), world')
  | done {world' : World}
      (haltered : Disk.Altered (backend.directories world.disk scope)
        (backend.units world.disk scope) world.disk world'.disk)
      (hheld : backend.stored world' = held) :
      Attempted backend world scope answer held (.ok answer, world')

variable {backend : Backend} (hproper : backend.IsProper) (scope : Scope) (world : World)

theorem stored_files {store : FlatFile} {world world' : World}
    (h : store.held world'.disk = store.held world.disk) :
    (files store).stored world' = (files store).stored world := by
  funext other
  rw [stored, stored, h]

theorem stored_of_isValid {store : FlatFile} {scope : Scope} (hvalid : scope.IsValid)
    (world : World) : (files store).stored world scope = store.held world.disk scope :=
  if_pos hvalid

section
include hproper

theorem predicates_attempted : backend.Attempted world scope (backend.stored world scope)
    (backend.stored world) (backend.predicates scope world) := by
  cases backend with
  | memory => exact .done (.refl _ _ _) rfl
  | files store =>
      have hattempted := FlatFile.predicates_attempted hproper world.disk scope
      unfold predicates
      simp only []
      generalize store.predicates world.disk scope = outcome at hattempted ⊢
      cases hattempted with
      | refused hvalid => exact .refused nofun hvalid
      | failed _ haltered hheld => exact .failed nofun haltered (stored_files hheld)
      | done hvalid _ haltered hheld =>
          simp only [← stored_of_isValid hvalid world]
          exact .done haltered (stored_files hheld)

theorem load_attempted (name : String) :
    backend.Attempted world scope ((backend.stored world scope).get? name) (backend.stored world)
      (backend.load scope name world) := by
  cases backend with
  | memory => exact .done (.refl _ _ _) rfl
  | files store =>
      have hattempted := FlatFile.load_attempted hproper world.disk scope name
      unfold load
      simp only []
      generalize store.load world.disk scope name = outcome at hattempted ⊢
      cases hattempted with
      | refused hvalid => exact .refused nofun hvalid
      | failed _ haltered hheld => exact .failed nofun haltered (stored_files hheld)
      | done hvalid _ haltered hheld =>
          simp only [← stored_of_isValid hvalid world]
          exact .done haltered (stored_files hheld)

theorem save_attempted (name value : String) :
    backend.Attempted world scope ()
      (Function.update (backend.stored world) scope
        ((backend.stored world scope).insert name value))
      (backend.save scope name value world) := by
  cases backend with
  | memory => exact .done (.refl _ _ _) (Memory.predicates_save _ _ _ _)
  | files store =>
      have hattempted := FlatFile.save_attempted hproper world.disk scope world.now name value
      unfold save
      simp only []
      generalize store.save world.disk world.now.mailText scope name value = outcome
        at hattempted ⊢
      cases hattempted with
      | refused hvalid => exact .refused nofun hvalid
      | failed _ haltered hheld => exact .failed nofun haltered (stored_files hheld)
      | done hvalid _ haltered hheld =>
          refine .done haltered ?_
          funext other
          by_cases hother : other = scope
          · subst hother
            rw [stored_of_isValid hvalid, stored_of_isValid hvalid, Function.update_self]
            exact (congrFun hheld other).trans (Function.update_self ..)
          · rw [Function.update_of_ne hother, stored, stored]
            have hsame := (congrFun hheld other).trans (Function.update_of_ne hother ..)
            exact congrArg (fun held => if other.IsValid then held else ∅) hsame

end

/-- Gossip changes no predicates, if it is not written where their unit is. -/
theorem stored_record {backend : Backend} {log : ShareLog} {world : World} {other : Scope}
    (h : log.SparesUnit backend world.disk other) (scope : Scope) (text : String) :
    backend.stored (log.record scope text world).2 other = backend.stored world other := by
  rcases log.record_altered scope text world with ⟨haltered, hmemory⟩
  cases backend with
  | memory => rw [stored, hmemory]; rfl
  | files store =>
      -- For names that are not valid nothing is ever stored.
      rw [stored, stored]
      split
      · rename_i hvalid
        exact FlatFile.held_eq_of_altered haltered (h hvalid)
      · rfl

end Backend

end Colloquy
