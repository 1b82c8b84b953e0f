import Colloquy.Proofs.Store.Census
import Colloquy.Proofs.Store.Outlook

/-!
# Counting Users

What a store counts as a user of an agent: one that it keeps a unit for. Both kinds of store count
units, and where they differ is when a unit comes into being. Memory has one from the first save on.
Files make one on first access, by reading too, and count it although nothing is in it;
`reading_makes_a_user` is a run in which a user who was only asked about is counted. So the count of
files is the number of users with predicates just as long as everybody who was asked about has been
saved as well.

Between two calls it is enough to know which scopes have a unit and which have predicates. Every
call adds at most one scope to either set, and `Backend.Keeps` is handed over from call to call.

## Main definitions

* `Backend.Call`, `Backend.Answer`, `Backend.run`: Runs of calls to a store.
* `Backend.HasPredicates`: A scope has some predicate.
* `Backend.unit?`: The scope that a call makes a unit for.
* `Backend.IsFresh`: A store that nothing is kept in.
* `Backend.Keeps`: Which scopes have a unit, and which have predicates.

## Theorems

* `serve_served`, `run_served`: One call, and a run of calls.
* `userCount_counts_units`: Users and predicates after a run.
* `reading_makes_a_user`: A user without predicates is counted.
-/

namespace Colloquy

namespace Backend

/-- A scope has some predicate. -/
def HasPredicates (backend : Backend) (world : World) (scope : Scope) : Prop :=
  ∃ predicates, (backend.predicates scope world).1 = .ok predicates ∧ predicates ≠ ∅

/-- What is asked of a store: a predicate or all of them, a predicate set, or the number of users of
    an agent. -/
inductive Call where
  | load (scope : Scope) (name : String)
  | save (scope : Scope) (name value : String)
  | predicates (scope : Scope)
  | userCount (agent : String)

/-- What a store answers when it succeeds. -/
inductive Answer where
  | value (value : Option String)
  | saved
  | all (predicates : Predicates)
  | count (count : Nat)
  deriving DecidableEq

namespace Call

/-- Identifiers can be names of files. -/
def IsValid : Call → Prop
  | .load scope _ => scope.IsValid
  | .save scope _ _ => scope.IsValid
  | .predicates scope => scope.IsValid
  | .userCount agent => isComponent agent = true

instance (call : Call) : Decidable call.IsValid :=
  match call with
  | .load scope _ => inferInstanceAs (Decidable scope.IsValid)
  | .save scope _ _ => inferInstanceAs (Decidable scope.IsValid)
  | .predicates scope => inferInstanceAs (Decidable scope.IsValid)
  | .userCount agent => inferInstanceAs (Decidable (isComponent agent = true))

/-- The scope that a call is about, if it is about one. -/
def scope? : Call → Option Scope
  | .load scope _ => some scope
  | .save scope _ _ => some scope
  | .predicates scope => some scope
  | .userCount _ => none

/-- The scope that a call sets a predicate of, if it sets one. -/
def saved? : Call → Option Scope
  | .save scope _ _ => some scope
  | _ => none

theorem isValid_scope? {call : Call} (h : call.IsValid) {scope : Scope}
    (hscope : scope ∈ call.scope?) : scope.IsValid := by
  cases call with
  | load other name =>
      cases hscope
      exact h
  | save other name value =>
      cases hscope
      exact h
  | predicates other =>
      cases hscope
      exact h
  | userCount agent => cases hscope

end Call

/-- The scope that a call makes a unit for, if it has none. Files make one on any access. -/
def unit? (backend : Backend) (call : Call) : Option Scope :=
  match backend with
  | .memory => call.saved?
  | .files _ => call.scope?

/-- The answer of a store to a call, and the world afterwards. -/
def serve (backend : Backend) : Call → World → Except StoreError Answer × World
  | .load scope name, world =>
    let (result, world) := backend.load scope name world
    (result.map .value, world)
  | .save scope name value, world =>
    let (result, world) := backend.save scope name value world
    (result.map fun _ => .saved, world)
  | .predicates scope, world =>
    let (result, world) := backend.predicates scope world
    (result.map .all, world)
  | .userCount agent, world => ((backend.userCount agent world).map .count, world)

/-- The answers of a store to calls, each made at its moment, and the world afterwards. -/
def run (backend : Backend) :
    List (Call × Moment) → World → List (Except StoreError Answer) × World
  | [], world => ([], world)
  | (call, now) :: calls, world =>
    let (answer, world) := backend.serve call { world with now }
    let (answers, world) := run backend calls world
    (answer :: answers, world)

/-- The scopes that the calls of a run name in some way. -/
def scopesOf (scope? : Call → Option Scope) (calls : List (Call × Moment)) : Set Scope :=
  {scope | ∃ call ∈ calls, scope? call.1 = some scope}

/-- A store that nothing is kept in and that only what stands on the disk can make fail. -/
def IsFresh (backend : Backend) (world : World) : Prop :=
  match backend with
  | .memory => world.memory.units = []
  | .files store => store.IsUsable world.disk ∧ store.IsVacant world.disk

/-- The way to the files of a store does not lead through the unit of a scope. -/
def IsApart (backend : Backend) (disk : Disk) (scope : Scope) : Prop :=
  match backend with
  | .memory => True
  | .files store => store.IsApart disk scope

instance (backend : Backend) (disk : Disk) (scope : Scope) :
    Decidable (backend.IsApart disk scope) :=
  match backend with
  | .memory => isTrue trivial
  | .files store => inferInstanceAs (Decidable (store.IsApart disk scope))

/-- These scopes have a unit, and no others. -/
def HasUnits (backend : Backend) (world : World) (units : Set Scope) : Prop :=
  match backend with
  | .memory => world.memory.HasUnits units
  | .files store => store.HasUnits world.disk units

/-- What is known between two calls: which scopes have a unit, and which have predicates. -/
structure Keeps (backend : Backend) (world : World) (units saved : Set Scope) : Prop where
  usable : backend.IsUsable world.disk
  units : backend.HasUnits world units
  predicates : ∀ scope, backend.HasPredicates world scope ↔ scope ∈ saved

/-- A scope can be accessed. -/
def IsOpen (backend : Backend) (world : World) (scope : Scope) : Prop :=
  ∃ predicates, backend.outlook world scope = .ok predicates

theorem scopesOf_cons (scope? : Call → Option Scope) (call : Call × Moment)
    (calls : List (Call × Moment)) :
    scopesOf scope? (call :: calls)
      = {scope | scope? call.1 = some scope} ∪ scopesOf scope? calls := by
  ext scope
  exact List.exists_mem_cons_iff ..

theorem union_none (scopes : Set Scope) :
    scopes ∪ {scope | (none : Option Scope) = some scope} = scopes := by
  ext scope
  exact or_iff_left nofun

theorem union_some (scopes : Set Scope) (scope : Scope) :
    scopes ∪ {other | some scope = some other} = insert scope scopes := by
  ext other
  rw [Set.mem_union, Set.mem_insert_iff, Set.mem_ofPred_eq, Option.some.injEq, eq_comm, or_comm]

theorem finite_scopesOf (scope? : Call → Option Scope) (calls : List (Call × Moment)) :
    (scopesOf scope? calls).Finite := by
  induction calls with
  | nil => exact Set.finite_empty.subset fun scope ⟨_, hmem, _⟩ => absurd hmem List.not_mem_nil
  | cons call calls ih =>
      rw [scopesOf_cons]
      refine Set.Finite.union ?_ ih
      cases scope? call.1 with
      | none => exact Set.finite_empty.subset nofun
      | some scope =>
          exact (Set.finite_singleton scope).subset fun _ hsame => (Option.some.inj hsame).symm

section Calls

variable {backend : Backend} {world : World}

/-- Users are counted by their units. -/
theorem HasUnits.userCount_eq {units : Set Scope} (h : backend.HasUnits world units)
    (husable : backend.IsUsable world.disk) {agent : String} (hagent : isComponent agent = true) :
    backend.userCount agent world = .ok {user | ⟨user, agent⟩ ∈ units}.ncard := by
  cases backend with
  | memory => exact congrArg Except.ok (Memory.HasUnits.userCount_eq h agent)
  | files store => exact FlatFile.HasUnits.userCount_eq h husable hagent

theorem hasPredicates_iff (husable : backend.IsUsable world.disk) (scope : Scope) :
    backend.HasPredicates world scope
      ↔ ∃ predicates, backend.outlook world scope = .ok predicates ∧ predicates ≠ ∅ := by
  rw [HasPredicates, (predicates_foreseen husable scope).answer]

/-- An access that succeeds decides whether its scope has predicates, and nothing else. -/
theorem Foreseen.hasPredicates {α : Type} {scope : Scope} {answer : Except StoreError α}
    {next : Predicates} {outcome : Except StoreError α × World}
    (h : backend.Foreseen world scope answer (.ok next) outcome)
    (husable : backend.IsUsable world.disk) (other : Scope) :
    backend.HasPredicates outcome.2 other
      ↔ if other = scope then next ≠ ∅ else backend.HasPredicates world other := by
  rw [hasPredicates_iff h.usable, hasPredicates_iff husable, h.outlook]
  -- The scope itself has what was foreseen for it, and the others have what they had.
  by_cases hother : other = scope
  · rw [if_pos hother, hother, Function.update_self]
    constructor
    · rintro ⟨predicates, hsame, hne⟩
      cases hsame
      exact hne
    · exact fun hne => ⟨next, rfl, hne⟩
  · rw [if_neg hother, Function.update_of_ne hother]

theorem Foreseen.isOpen {α : Type} {scope : Scope} {answer : Except StoreError α}
    {next : Predicates} {outcome : Except StoreError α × World}
    (h : backend.Foreseen world scope answer (.ok next) outcome) {other : Scope}
    (hother : backend.IsOpen world other) : backend.IsOpen outcome.2 other := by
  rw [IsOpen, h.outlook]
  by_cases hsame : other = scope
  · rw [hsame, Function.update_self]
    exact ⟨next, rfl⟩
  · rw [Function.update_of_ne hsame]
    exact hother

/-- What a call is answered, and what is known after it. -/
structure Served (backend : Backend) (world : World) (units saved : Set Scope) (call : Call)
    (outcome : Except StoreError Answer × World) : Prop where
  answer : ∃ answer, outcome.1 = .ok answer
  keeps : backend.Keeps outcome.2 (units ∪ {scope | backend.unit? call = some scope})
    (saved ∪ {scope | call.saved? = some scope})
  isOpen : ∀ scope, backend.IsOpen world scope → backend.IsOpen outcome.2 scope

/-- Reading one predicate does what reading all of them does. -/
theorem load_snd (backend : Backend) (scope : Scope) (name : String) (world : World) :
    (backend.load scope name world).2 = (backend.predicates scope world).2 := by
  cases backend with
  | memory => rfl
  | files store =>
      exact congrArg (fun disk => { world with disk })
        (FlatFile.load_snd store world.disk scope name)

section Accesses

variable {units saved : Set Scope} {scope : Scope} {predicates : Predicates}
  (hkeeps : backend.Keeps world units saved)
  (houtlook : backend.outlook world scope = .ok predicates)
include hkeeps houtlook

theorem mem_saved_iff : scope ∈ saved ↔ predicates ≠ ∅ := by
  rw [← hkeeps.predicates, hasPredicates_iff hkeeps.usable, houtlook]
  constructor
  · rintro ⟨other, hsame, hne⟩
    cases hsame
    exact hne
  · exact fun hne => ⟨predicates, rfl, hne⟩

/-- Files make a unit when they are read. -/
theorem hasUnits_predicates : backend.HasUnits (backend.predicates scope world).2
    (units ∪ {other | backend.unit? (.predicates scope) = some other}) := by
  cases backend with
  | memory =>
      rw [show memory.unit? (.predicates scope) = none from rfl, union_none]
      exact hkeeps.units
  | files store =>
      rw [show (files store).unit? (.predicates scope) = some scope from rfl, union_some]
      exact hkeeps.units.predicates hkeeps.usable (FlatFile.isReady_of_outlook houtlook)

theorem hasUnits_save (name value : String) :
    backend.HasUnits (backend.save scope name value world).2
      (units ∪ {other | backend.unit? (.save scope name value) = some other}) := by
  cases backend with
  | memory =>
      rw [show memory.unit? (.save scope name value) = some scope from rfl, union_some]
      exact hkeeps.units.save scope name value
  | files store =>
      have hunits := hkeeps.units.save hkeeps.usable (FlatFile.isReady_of_outlook houtlook)
        world.now name value
      rw [show (files store).unit? (.save scope name value) = some scope from rfl, union_some, save]
      generalize store.save world.disk world.now.mailText scope name value = outcome at hunits ⊢
      rcases outcome with ⟨result, disk'⟩
      cases result <;> exact hunits

omit houtlook in
/-- An access that was foreseen to succeed. -/
theorem served_of_foreseen {α : Type} {call : Call} {answer : α} (reply : α → Answer)
    {outcome : Except StoreError α × World}
    (h : backend.Foreseen world scope (.ok answer) (.ok predicates) outcome)
    (hunits : backend.HasUnits outcome.2 (units ∪ {other | backend.unit? call = some other}))
    (hsaved : ∀ other, other ∈ saved ∪ {other | call.saved? = some other}
      ↔ if other = scope then predicates ≠ ∅ else other ∈ saved) :
    backend.Served world units saved call (outcome.1.map reply, outcome.2) := by
  refine ⟨⟨reply answer, by rw [h.answer]; rfl⟩, ⟨h.usable, hunits, fun other => ?_⟩,
    fun other => h.isOpen⟩
  rw [h.hasPredicates hkeeps.usable, hsaved, hkeeps.predicates]

end Accesses

/-- Every call is answered, makes at most one unit, and gives predicates to at most one scope. -/
theorem serve_served {units saved : Set Scope} (hkeeps : backend.Keeps world units saved)
    {call : Call} (hvalid : call.IsValid)
    (hopen : ∀ scope ∈ call.scope?, backend.IsOpen world scope) :
    backend.Served world units saved call (backend.serve call world) := by
  -- Reading leaves every scope with the predicates that it had.
  have hread {scope : Scope} {predicates : Predicates}
      (houtlook : backend.outlook world scope = .ok predicates) (other : Scope) :
      other ∈ saved ∪ {other | (none : Option Scope) = some other}
        ↔ if other = scope then predicates ≠ ∅ else other ∈ saved := by
    rw [union_none, ← mem_saved_iff hkeeps houtlook]
    split
    · rename_i hother
      rw [hother]
    · rfl
  cases call with
  | load scope name =>
      rcases hopen scope rfl with ⟨predicates, houtlook⟩
      have hforeseen := load_foreseen hkeeps.usable scope name
      have hunits := hasUnits_predicates hkeeps houtlook
      rw [houtlook] at hforeseen
      rw [← load_snd backend scope name] at hunits
      exact served_of_foreseen hkeeps .value hforeseen hunits (hread houtlook)
  | save scope name value =>
      rcases hopen scope rfl with ⟨predicates, houtlook⟩
      have hforeseen := save_foreseen hkeeps.usable scope name value
      rw [houtlook] at hforeseen
      refine served_of_foreseen hkeeps (fun _ => .saved) hforeseen
        (hasUnits_save hkeeps houtlook name value) fun other => ?_
      rw [show Call.saved? (.save scope name value) = some scope from rfl, union_some,
        Set.mem_insert_iff]
      split
      · rename_i hother
        exact iff_of_true (.inl hother) (predicates.insert_ne_empty name value)
      · rename_i hother
        exact or_iff_right hother
  | predicates scope =>
      rcases hopen scope rfl with ⟨predicates, houtlook⟩
      have hforeseen := predicates_foreseen hkeeps.usable scope
      rw [houtlook] at hforeseen
      exact served_of_foreseen hkeeps .all hforeseen (hasUnits_predicates hkeeps houtlook)
        (hread houtlook)
  | userCount agent =>
      have hcount := hkeeps.units.userCount_eq hkeeps.usable hvalid
      refine ⟨⟨.count _, congrArg (Except.map Answer.count) hcount⟩, ?_, fun _ => id⟩
      have hunit : backend.unit? (.userCount agent) = none := by cases backend <;> rfl
      rw [hunit, show Call.saved? (.userCount agent) = none from rfl, union_none, union_none]
      exact hkeeps

/-- What is known does not depend on the time. -/
theorem Keeps.at_moment {units saved : Set Scope} (h : backend.Keeps world units saved)
    (now : Moment) : backend.Keeps { world with now } units saved := by
  cases backend <;> exact ⟨h.usable, h.units, h.predicates⟩

theorem run_cons (call : Call) (now : Moment) (calls : List (Call × Moment)) (world : World) :
    backend.run ((call, now) :: calls) world
      = ((backend.serve call { world with now }).1 ::
          (backend.run calls (backend.serve call { world with now }).2).1,
        (backend.run calls (backend.serve call { world with now }).2).2) := rfl

/-- A run makes the units of its calls, and gives predicates to the scopes that it saves. -/
theorem run_served {units saved : Set Scope} (hkeeps : backend.Keeps world units saved)
    (calls : List (Call × Moment))
    (hcalls : ∀ call ∈ calls, call.1.IsValid ∧
      ∀ scope ∈ call.1.scope?, backend.IsOpen world scope) :
    ∃ (answers : List Answer) (after : World),
      backend.run calls world = (answers.map .ok, after) ∧
      backend.Keeps after (units ∪ scopesOf backend.unit? calls)
        (saved ∪ scopesOf Call.saved? calls) := by
  -- Induction on the calls; what is known, and who can be accessed, is handed over to the next.
  induction calls generalizing world units saved with
  | nil =>
      have hnone (scope? : Call → Option Scope) : scopesOf scope? [] = ∅ :=
        Set.eq_empty_of_forall_notMem fun _ ⟨_, hmem, _⟩ => absurd hmem List.not_mem_nil
      refine ⟨[], world, rfl, ?_⟩
      rw [hnone, hnone, Set.union_empty, Set.union_empty]
      exact hkeeps
  | cons call calls ih =>
      rcases call with ⟨call, now⟩
      rcases List.forall_mem_cons.mp hcalls with ⟨⟨hvalid, hopen⟩, hrest⟩
      rw [scopesOf_cons, scopesOf_cons, ← Set.union_assoc, ← Set.union_assoc]
      have hserved := serve_served (hkeeps.at_moment now) hvalid fun scope hscope => by
        rw [IsOpen, outlook_now]
        exact hopen scope hscope
      rcases hserved.answer with ⟨answer, hanswer⟩
      rcases ih hserved.keeps fun other hother => ⟨(hrest other hother).1, fun scope hscope =>
        hserved.isOpen scope (by
          rw [IsOpen, outlook_now]
          exact (hrest other hother).2 scope hscope)⟩ with ⟨answers, after, hrun, hafter⟩
      refine ⟨answer :: answers, after, ?_, hafter⟩
      rw [run_cons, hanswer, hrun]
      rfl

/-- Nothing is kept in a fresh store, and whoever does not stand in its way can use it. -/
theorem IsFresh.keeps (h : backend.IsFresh world) : backend.Keeps world ∅ ∅ := by
  cases backend with
  | memory =>
      have hunits : world.memory.units = [] := h
      refine ⟨trivial, ⟨fun scope => ?_, ?_⟩, fun scope => iff_of_false ?_ (Set.notMem_empty _)⟩
      · rw [hunits]
        exact iff_of_false List.not_mem_nil (Set.notMem_empty _)
      · rw [hunits]
        exact List.nodup_nil
      · rintro ⟨predicates, hsame, hne⟩
        rw [Backend.predicates, Memory.predicates, Memory.unit?, hunits] at hsame
        cases hsame
        exact hne rfl
  | files store =>
      have husable : (files store).IsUsable world.disk := h.1
      have hvacant := h.2
      refine ⟨husable, hvacant.hasUnits, fun scope => iff_of_false ?_ (Set.notMem_empty _)⟩
      rw [hasPredicates_iff husable]
      rintro ⟨predicates, houtlook, hne⟩
      -- What is foreseen is what is held, and nothing is.
      have hready := FlatFile.isReady_of_outlook houtlook
      rw [outlook, FlatFile.outlook_of_isReady hready, hvacant.held] at houtlook
      cases houtlook
      exact hne rfl

theorem IsFresh.isOpen (h : backend.IsFresh world) {scope : Scope} (hvalid : scope.IsValid)
    (hapart : backend.IsApart world.disk scope) : backend.IsOpen world scope := by
  cases backend with
  | memory => exact ⟨_, rfl⟩
  | files store => exact ⟨_, FlatFile.outlook_of_isReady (h.2.isReady hvalid hapart)⟩

/-- A run on a fresh store makes the units of its calls and nothing else. -/
theorem IsFresh.run_keeps (h : backend.IsFresh world) (calls : List (Call × Moment))
    (hcalls : ∀ call ∈ calls, call.1.IsValid ∧
      ∀ scope ∈ call.1.scope?, backend.IsApart world.disk scope) :
    ∃ (answers : List Answer) (after : World),
      backend.run calls world = (answers.map .ok, after) ∧
      backend.Keeps after (scopesOf backend.unit? calls) (scopesOf Call.saved? calls) := by
  -- Where nothing has been stored yet, valid names and a place apart are all that is needed.
  have hopen : ∀ call ∈ calls, call.1.IsValid ∧
      ∀ scope ∈ call.1.scope?, backend.IsOpen world scope := by
    intro call hcall
    rcases hcalls call hcall with ⟨hvalid, hapart⟩
    exact ⟨hvalid, fun scope hscope =>
      h.isOpen (call.1.isValid_scope? hvalid hscope) (hapart scope hscope)⟩
  rcases run_served h.keeps calls hopen with ⟨answers, after, hrun, hkeeps⟩
  rw [Set.empty_union, Set.empty_union] at hkeeps
  exact ⟨answers, after, hrun, hkeeps⟩

end Calls

/-- A scope whose predicates are set has a unit in either kind of store. -/
theorem scopesOf_saved_subset (backend : Backend) (calls : List (Call × Moment)) :
    scopesOf Call.saved? calls ⊆ scopesOf backend.unit? calls := by
  rintro scope ⟨call, hcall, hsaved⟩
  refine ⟨call, hcall, ?_⟩
  cases backend with
  | memory => exact hsaved
  | files store =>
      -- Of the calls that make a unit only a save stores something in it.
      rcases call with ⟨call, now⟩
      cases call with
      | save other name value => exact hsaved
      | load other name => cases hsaved
      | predicates other => cases hsaved
      | userCount agent => cases hsaved

/-- After any calls to a fresh store, the users of an agent with predicates are those that were
    saved, and the number of its users is that of the users with a unit. The two agree if and only
    if every user with a unit was saved. In memory nobody else has a unit, and so they always do;
    in files everybody has one who was ever asked about. -/
theorem userCount_counts_units (backend : Backend) (world : World) (calls : List (Call × Moment))
    (hfresh : backend.IsFresh world)
    (hcalls : ∀ call ∈ calls, call.1.IsValid ∧
      ∀ scope ∈ call.1.scope?, backend.IsApart world.disk scope) :
    ∃ (answers : List Answer) (after : World),
      backend.run calls world = (answers.map .ok, after) ∧
      ∀ agent, isComponent agent = true →
        let holders := {user | backend.HasPredicates after ⟨user, agent⟩}
        let owners := {user | ⟨user, agent⟩ ∈ scopesOf backend.unit? calls}
        holders = {user | ⟨user, agent⟩ ∈ scopesOf Call.saved? calls} ∧
        backend.userCount agent after = .ok owners.ncard ∧
        (backend.userCount agent after = .ok holders.ncard ↔ owners ⊆ holders) := by
  rcases hfresh.run_keeps calls hcalls with ⟨answers, after, hrun, hkeeps⟩
  refine ⟨answers, after, hrun, fun agent hagent => ?_⟩
  intro holders owners
  -- Who has predicates is known from the calls, and so is who has a unit.
  have hholders : holders = {user | ⟨user, agent⟩ ∈ scopesOf Call.saved? calls} :=
    Set.ext fun user => hkeeps.predicates ⟨user, agent⟩
  have hsubset : holders ⊆ owners := by
    rw [hholders]
    exact fun user huser => scopesOf_saved_subset backend calls huser
  -- There are no more owners than calls.
  have hfinite : owners.Finite :=
    (finite_scopesOf backend.unit? calls).preimage
      fun _ _ _ _ hsame => congrArg Scope.user hsame
  have hcount : backend.userCount agent after = .ok owners.ncard :=
    hkeeps.units.userCount_eq hkeeps.usable hagent
  refine ⟨hholders, hcount, ?_⟩
  rw [hcount, Except.ok.injEq]
  constructor
  · -- Of two finite sets, one in the other, equal numbers leave no room for a difference.
    intro hcard
    exact (Set.eq_of_subset_of_ncard_le hsubset hcard.le hfinite).superset
  · intro howners
    rw [howners.antisymm hsubset]

/-- One user is saved and another one asked about. Files count both. -/
theorem userCount_counts_units_beside_reader :
    let backend : Backend := .files ⟨"ffm", ".predicates"⟩
    let calls : List (Call × Moment) := [(.save ⟨"alice", "aria"⟩ "mood" "fine", ⟨0, 0⟩),
      (.load ⟨"bob", "aria"⟩ "mood", ⟨1, 0⟩), (.userCount "aria", ⟨2, 0⟩)]
    backend.IsFresh {} ∧
      (∀ call ∈ calls, call.1.IsValid ∧ ∀ scope ∈ call.1.scope?, backend.IsApart {} scope) ∧
      {user | backend.HasPredicates (backend.run calls {}).2 ⟨user, "aria"⟩} = {"alice"} ∧
      backend.userCount "aria" (backend.run calls {}).2 = .ok 2 := by
  intro backend calls
  have hfresh : backend.IsFresh {} :=
    ⟨⟨by decide, ⟨rfl, rfl⟩, by decide⟩, FlatFile.isVacant_empty _⟩
  have hcalls : ∀ call ∈ calls, call.1.IsValid ∧
      ∀ scope ∈ call.1.scope?, backend.IsApart {} scope := by decide
  have hsaved : {user | ⟨user, "aria"⟩ ∈ scopesOf Call.saved? calls} = {"alice"} := by
    ext user
    simp [scopesOf, calls, Call.saved?, eq_comm]
  -- Bob has only asked, and this has made a unit for him.
  have howners : {user | ⟨user, "aria"⟩ ∈ scopesOf backend.unit? calls} = {"alice", "bob"} := by
    ext user
    simp [scopesOf, calls, backend, unit?, Call.scope?, eq_comm]
  rcases userCount_counts_units backend {} calls hfresh hcalls with ⟨answers, after, hrun, hafter⟩
  rcases hafter "aria" (by decide) with ⟨hholders, hcount, _⟩
  refine ⟨hfresh, hcalls, ?_, ?_⟩
  · rw [hrun, hholders, hsaved]
  · rw [hrun, hcount, howners, Set.ncard_pair (by decide)]

/-- A user who was only asked about is counted, and has no predicates. -/
theorem reading_makes_a_user :
    let backend : Backend := .files ⟨"ffm", ".predicates"⟩
    let calls : List (Call × Moment) :=
      [(.userCount "aria", ⟨0, 0⟩), (.load ⟨"alice", "aria"⟩ "mood", ⟨1, 0⟩)]
    backend.IsFresh {} ∧ (∀ call ∈ calls, call.1.IsValid) ∧
      (backend.run calls {}).1 = [.ok (.count 0), .ok (.value none)] ∧
      {user | backend.HasPredicates (backend.run calls {}).2 ⟨user, "aria"⟩} = ∅ ∧
      backend.userCount "aria" (backend.run calls {}).2 = .ok 1 := by
  intro backend calls
  have hfresh : backend.IsFresh {} :=
    ⟨⟨by decide, ⟨rfl, rfl⟩, by decide⟩, FlatFile.isVacant_empty _⟩
  rcases hfresh.run_keeps calls (by decide) with ⟨answers, after, hrun, hkeeps⟩
  refine ⟨hfresh, by decide, by decide +kernel, ?_, by decide +kernel⟩
  rw [hrun]
  refine Set.eq_empty_of_forall_notMem fun user huser => ?_
  -- Nobody has saved anything, so nobody has predicates.
  have hsaved := (hkeeps.predicates ⟨user, "aria"⟩).mp huser
  simp [scopesOf, calls, Call.saved?] at hsaved

end Backend

end Colloquy
