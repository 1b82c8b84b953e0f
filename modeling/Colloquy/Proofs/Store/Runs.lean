import Colloquy.Proofs.Store.Unit

/-!
# A Store of Files Is a Map

Runs of calls to a store of files, restarts included, answered as a map from scopes to predicates
would answer them.

The map is `FlatFile.held`, read off the disk before the run; on the map, saving sets one predicate
of one scope, and nothing else has an effect. One call does to what is held what it does to the map,
and it leaves every scope as accessible as it was, which is all that the next call needs. The run is
then an induction. A restart opens a store over the same base directory and suffix again; the store
remembers nothing, so it makes no difference.

The condition on where units stand is needed. `unit_in_the_way` runs a store whose base directory is
reached through the place of one of its own units: nothing stands on the disk, and yet the unit can
not be read, because making the way to it makes a directory in its place.

## Main definitions

* `StoreCall`, `StoreAnswer`: What is asked of a store, and what it answers.
* `FlatFile.serve`, `FlatFile.serveAll`: One call and a run of calls on a disk.
* `StoreCall.answer`, `StoreCall.effect`: One call on a map.
* `StoreCall.answers`, `StoreCall.effects`: A run of calls on a map.

## Theorems

* `serve_refines`: One call.
* `serveAll_refines`: A run of calls.
* `unit_in_the_way`: A base directory that is reached through the place of a unit.
-/

namespace Colloquy

/-- What is asked of a store: a predicate or all of them, a predicate set at some moment, or that a
    fresh store takes its place. -/
inductive StoreCall where
  | load (scope : Scope) (name : String)
  | save (scope : Scope) (name value : String) (moment : Moment)
  | predicates (scope : Scope)
  | reopen

/-- What a store answers when it succeeds. -/
inductive StoreAnswer where
  | value (value : Option String)
  | saved
  | all (predicates : Predicates)
  | opened
  deriving DecidableEq

namespace StoreCall

/-- The scope that a call is about, if it is about one. -/
def scope? : StoreCall → Option Scope
  | .load scope _ => some scope
  | .save scope _ _ _ => some scope
  | .predicates scope => some scope
  | .reopen => none

/-- What a map answers to a call. -/
def answer (held : Scope → Predicates) : StoreCall → StoreAnswer
  | .load scope name => .value ((held scope).get? name)
  | .save _ _ _ _ => .saved
  | .predicates scope => .all (held scope)
  | .reopen => .opened

/-- The map after a call: a predicate saved is set, and nothing else changes. -/
def effect (held : Scope → Predicates) : StoreCall → Scope → Predicates
  | .save scope name value _ => Function.update held scope ((held scope).insert name value)
  | _ => held

/-- What a map answers to a run of calls. -/
def answers (held : Scope → Predicates) : List StoreCall → List StoreAnswer
  | [] => []
  | call :: calls => call.answer held :: answers (call.effect held) calls

/-- The map after a run of calls. -/
def effects (held : Scope → Predicates) (calls : List StoreCall) : Scope → Predicates :=
  calls.foldl effect held

end StoreCall

namespace FlatFile

/-- The answer of a store to a call, the store that is there afterwards, and the disk. -/
def serve (store : FlatFile) (disk : Disk) :
    StoreCall → Except StoreError StoreAnswer × FlatFile × Disk
  | .load scope name =>
    let (result, disk) := store.load disk scope name
    (result.map .value, store, disk)
  | .save scope name value moment =>
    let (result, disk) := store.save disk moment.mailText scope name value
    (result.map fun _ => .saved, store, disk)
  | .predicates scope =>
    let (result, disk) := store.predicates disk scope
    (result.map .all, store, disk)
  | .reopen =>
    match open? store.base store.suffix with
    | .ok fresh => (.ok .opened, fresh, disk)
    | .error error => (.error error, store, disk)

/-- The answers of a store to a run of calls, the store that is there afterwards, and the disk. -/
def serveAll (store : FlatFile) (disk : Disk) :
    List StoreCall → List (Except StoreError StoreAnswer) × FlatFile × Disk
  | [] => ([], store, disk)
  | call :: calls =>
    let (answer, store, disk) := serve store disk call
    let (answers, store, disk) := serveAll store disk calls
    (answer :: answers, store, disk)

/-- A scope can be accessed: its identifiers are names, nothing on the disk is in the way, and
    neither is the way itself. -/
structure IsReady (store : FlatFile) (disk : Disk) (scope : Scope) : Prop where
  valid : scope.IsValid
  clear : store.IsClear disk scope
  apart : store.IsApart disk scope

/-- What an access to one scope leaves ready. -/
theorem Accessed.isReady {store : FlatFile} {disk disk' : Disk} {scope other : Scope}
    {predicates : Predicates} (haccessed : store.Accessed scope predicates disk disk')
    (hscope : store.IsApart disk scope) (h : store.IsReady disk other) :
    store.IsReady disk' other :=
  ⟨h.valid, haccessed.isClear hscope h.apart h.clear, haccessed.isApart other h.apart⟩

/-- What holds after one call: the answer is that of the map, the map is what is held, and the store
    is as usable and every scope as ready as before. -/
structure Served (store : FlatFile) (disk : Disk) (call : StoreCall) (disk' : Disk) : Prop where
  eq : store.serve disk call = (.ok (call.answer (store.held disk)), store, disk')
  held : store.held disk' = call.effect (store.held disk)
  usable : store.IsUsable disk'
  ready : ∀ other, store.IsReady disk other → store.IsReady disk' other

theorem open?_eq {store : FlatFile} (h : isComponent store.suffix = true) :
    open? store.base store.suffix = .ok store := by
  rw [open?, checkComponent, h]
  rfl

/-- One call does to what is held what it does to the map. -/
theorem serve_refines {store : FlatFile} {disk : Disk} (husable : store.IsUsable disk)
    (call : StoreCall) (h : ∀ scope ∈ call.scope?, store.IsReady disk scope) :
    ∃ disk', store.Served disk call disk' := by
  cases call with
  | load scope name =>
      rcases h scope rfl with ⟨hvalid, hclear, hapart⟩
      rcases load_accessed hvalid husable hclear hapart name with ⟨disk', hok, haccessed⟩
      refine ⟨disk', by rw [serve, hok]; rfl, ?_, haccessed.isUsable husable,
        fun other => haccessed.isReady hapart⟩
      -- The unit spells what was held before, so nothing changes on the map.
      rw [haccessed.held_eq hclear, Function.update_eq_self]
      rfl
  | save scope name value moment =>
      rcases h scope rfl with ⟨hvalid, hclear, hapart⟩
      rcases save_accessed hvalid husable hclear hapart moment name value with
        ⟨disk', hok, haccessed⟩
      exact ⟨disk', by rw [serve, hok]; rfl, haccessed.held_eq hclear,
        haccessed.isUsable husable, fun other => haccessed.isReady hapart⟩
  | predicates scope =>
      rcases h scope rfl with ⟨hvalid, hclear, hapart⟩
      rcases predicates_accessed hvalid husable hclear hapart with ⟨disk', hok, haccessed⟩
      refine ⟨disk', by rw [serve, hok]; rfl, ?_, haccessed.isUsable husable,
        fun other => haccessed.isReady hapart⟩
      rw [haccessed.held_eq hclear, Function.update_eq_self]
      rfl
  | reopen =>
      -- Opening a store asks the disk nothing, and a store remembers nothing.
      exact ⟨disk, by rw [serve, open?_eq husable.suffix]; rfl, rfl, husable, fun _ => id⟩

/-- Nothing is in the way on a disk where nothing stands. -/
theorem isClear_empty (store : FlatFile) (scope : Scope) : store.IsClear {} scope := by
  refine ⟨fun place _ content => ?_, ?_, fun content h => ?_⟩
  · by_cases hplace : place = []
    · rw [hplace]
      exact fun h => by cases h
    · rw [Disk.entry?_bare hplace]
      exact fun h => by cases h
  · rw [Disk.entry?_bare (unitPlace_ne_nil store {} scope)]
    exact fun h => by cases h
  · rw [Disk.entry?_bare (unitPlace_ne_nil store {} scope)] at h
    cases h

/-- Nothing is held on a disk where nothing stands. -/
theorem held_empty (store : FlatFile) : store.held {} = fun _ => ∅ := by
  funext scope
  refine held_of_missing fun content => ?_
  rw [Disk.entry?_bare (unitPlace_ne_nil store {} scope)]
  exact fun h => by cases h

/-- A run of calls, restarts included, is answered as a map would answer it, and what is held
    afterwards is the map after the run. -/
theorem serveAll_refines {store : FlatFile} {disk : Disk} (husable : store.IsUsable disk)
    (calls : List StoreCall)
    (h : ∀ call ∈ calls, ∀ scope ∈ call.scope?, store.IsReady disk scope) :
    ∃ disk', store.serveAll disk calls
        = ((StoreCall.answers (store.held disk) calls).map .ok, store, disk') ∧
      store.held disk' = StoreCall.effects (store.held disk) calls := by
  -- Induction on the calls; usable and ready is what one call hands over to the next.
  induction calls generalizing disk with
  | nil => exact ⟨disk, rfl, rfl⟩
  | cons call calls ih =>
      rcases serve_refines husable call (h call List.mem_cons_self) with ⟨between, hserved⟩
      -- The scopes of the other calls are as ready as they were.
      rcases ih hserved.usable (fun other hother scope hscope =>
        hserved.ready scope (h other (List.mem_cons_of_mem _ hother) scope hscope)) with
        ⟨disk', hrest, hheld⟩
      refine ⟨disk', ?_, ?_⟩
      · rw [serveAll, hserved.eq]
        simp only [hrest, StoreCall.answers, List.map_cons, hserved.held]
      · rw [hheld, hserved.held]
        rfl

/-- A base directory that is reached down and up again, a value that ends in a backslash, a restart,
    and a user whose name begins another's. -/
theorem serveAll_refines_after_restart :
    let store : FlatFile := ⟨"x/../ffm", ".predicates"⟩
    let calls : List StoreCall := [.save ⟨"alice", "aria"⟩ "a b" " =\\" ⟨0, 0⟩, .reopen,
      .load ⟨"alice", "aria"⟩ "a b", .predicates ⟨"al", "aria"⟩]
    store.IsUsable {} ∧ (∀ call ∈ calls, ∀ scope ∈ call.scope?, store.IsReady {} scope) ∧
      (store.serveAll {} calls).1
        = [.ok .saved, .ok .opened, .ok (.value (some " =\\")), .ok (.all ∅)] := by
  intro store calls
  have husable : store.IsUsable {} := ⟨by decide, ⟨rfl, rfl⟩, by decide⟩
  -- Names and places can be checked, and an empty disk has nothing in the way.
  have hready : ∀ call ∈ calls, ∀ scope ∈ call.scope?, store.IsReady {} scope := by
    have hnames : ∀ call ∈ calls, ∀ scope ∈ call.scope?,
        scope.IsValid ∧ store.IsApart {} scope := by decide
    exact fun call hcall scope hscope => ⟨(hnames call hcall scope hscope).1,
      isClear_empty store scope, (hnames call hcall scope hscope).2⟩
  refine ⟨husable, hready, ?_⟩
  rcases serveAll_refines husable calls hready with ⟨disk', hrun, _⟩
  rw [hrun, held_empty]
  rfl

/-- Where the way to the base directory leads through the place of a unit, every call about that
    unit fails. -/
theorem serve_of_not_isApart {store : FlatFile} {disk : Disk} {scope : Scope}
    (hvalid : scope.IsValid) (husable : store.IsUsable disk) (hclear : store.IsClear disk scope)
    (h : ¬ store.IsApart disk scope) (call : StoreCall) (hcall : call.scope? = some scope) :
    (store.serve disk call).1 = .error (.io (store.unitPath scope) .isDirectory) := by
  have hread := readUnit_directory hvalid husable hclear.directories
    (.inl (Decidable.not_not.mp h))
  have hpath : store.pathFor scope = .ok (store.unitPath scope) := pathFor_eq hvalid
  -- Every call about the scope reads its unit first.
  cases call with
  | load other name =>
      cases hcall
      rw [serve, load, predicates, hpath]
      simp only [hread]
      rfl
  | save other name value moment =>
      cases hcall
      rw [serve, save, hpath]
      simp only [hread]
      rfl
  | predicates other =>
      cases hcall
      rw [serve, predicates, hpath]
      simp only [hread]
      rfl
  | reopen => cases hcall

/-- A base directory that is reached through the place of a unit. Nothing stands on the disk, but
    the unit can be neither read nor written. -/
theorem unit_in_the_way :
    let store : FlatFile := ⟨"a/b/c.predicates/../..", ".predicates"⟩
    store.IsUsable {} ∧ Scope.IsValid ⟨"c", "b"⟩ ∧ (∀ scope, store.IsClear {} scope) ∧
      (store.serve {} (.save ⟨"c", "b"⟩ "n" "v" ⟨0, 0⟩)).1
        = .error (.io (store.unitPath ⟨"c", "b"⟩) .isDirectory) := by
  intro store
  have husable : store.IsUsable {} := ⟨by decide, ⟨rfl, rfl⟩, by decide⟩
  have hvalid : Scope.IsValid ⟨"c", "b"⟩ := by decide
  exact ⟨husable, hvalid, isClear_empty store,
    serve_of_not_isApart hvalid husable (isClear_empty store _) (by decide) _ rfl⟩

end FlatFile

end Colloquy
