import Colloquy.Locks
import Mathlib.Data.Finset.Card

/-!
# Locks Are Shared by Scope

Whole runs of a lock table: locks asked for and let go of in any order, by any number of holders.

The table does not say who holds what, so a run keeps beside it what has been handed out. Every
handle names the scope that it was asked for, which the table forgets as soon as nobody holds its
lock any more. `Custody.IsSound` ties the two together. What carries it over a step is that the
entry of a lock in somebody's hands is never dropped: only entries of locks that are gone are, and a
lock is gone only when the last handle of it is.

Everything about a reachable state follows from that one invariant. No two entries have a scope in
common or a lock in common, so handles agree in their lock exactly if they agree in their scope; and
the entries that count as tracked are those of the scopes in somebody's hands.

## Main definitions

* `Handle`: A lock in somebody's hands.
* `Custody`: A lock table and what it has handed out.
* `Custody.step`, `Custody.run`: One step of some holder, and any number of them.
* `Custody.IsSound`: What a table knows about what it has handed out.

## Theorems

* `IsSound.step`, `isSound_run`: Every reachable state is sound.
* `IsSound.lock_eq_iff`: Handles have one lock exactly if they have one scope.
* `IsSound.acquire_eq`: Asking for a scope in use gives the lock in use.
* `IsSound.tracked_eq`: The scopes that are tracked are those in use.
* `locks_by_scope`: Locks over whole runs.
-/

namespace Colloquy

/-- A lock in somebody's hands, and the scope that it was asked for. -/
structure Handle where
  scope : Scope
  lock : Nat
  deriving DecidableEq, Repr

/-- What holders do: somebody asks for the lock of a scope, or lets go of the handle at a position
    among those that are out. -/
inductive LockStep where
  | acquire (scope : Scope)
  | release (position : Nat)

/-- A lock table and the handles that are out, latest first. -/
structure Custody where
  table : LockTable := {}
  handles : List Handle := []

namespace LockTable

/-- The lock of a scope is the one that its entry names, if there is a holder. -/
theorem current?_eq_some_iff {table : LockTable} {scope : Scope} {lock : Nat} :
    table.current? scope = some lock ↔
      table.entries.lookup scope = some lock ∧ lock ∈ table.held := by
  simp only [current?, Option.filter_eq_some_iff, isLive, List.contains_iff_mem]

/-- The current lock of a scope is in an entry of the scope. -/
theorem mem_entries_of_current? {table : LockTable} {scope : Scope} {lock : Nat}
    (h : table.current? scope = some lock) : (scope, lock) ∈ table.entries := by
  rcases current?_eq_some_iff.mp h with ⟨hlookup, _⟩
  rcases List.lookup_eq_some_iff.mp hlookup with ⟨before, after, hentries, _⟩
  rw [hentries]
  exact List.mem_append_right before List.mem_cons_self

end LockTable

namespace Custody

/-- One step of some holder. Nothing happens where there is no handle to let go of. -/
def step (custody : Custody) : LockStep → Custody
  | .acquire scope =>
    let (lock, table) := custody.table.acquire scope
    ⟨table, ⟨scope, lock⟩ :: custody.handles⟩
  | .release position =>
    match custody.handles[position]? with
    | some handle => ⟨custody.table.release handle.lock, custody.handles.eraseIdx position⟩
    | none => custody

/-- Steps taken one after the other, from a table that has handed out nothing. -/
def run (steps : List LockStep) : Custody := steps.foldl step {}

/-- What a table knows about what it has handed out: which locks are in somebody's hands, and the
    entry of each of them. Entries differ in their scopes and in their locks, and numbers not given
    out yet are in none. -/
structure IsSound (custody : Custody) : Prop where
  held : (custody.handles.map Handle.lock).Perm custody.table.held
  known : ∀ handle ∈ custody.handles, (handle.scope, handle.lock) ∈ custody.table.entries
  scopes : (custody.table.entries.map Prod.fst).Nodup
  locks : (custody.table.entries.map Prod.snd).Nodup
  fresh : ∀ entry ∈ custody.table.entries, entry.2 < custody.table.next

namespace IsSound

variable {custody : Custody} (h : custody.IsSound)
include h

theorem lock_mem_held {handle : Handle} (hhandle : handle ∈ custody.handles) :
    handle.lock ∈ custody.table.held :=
  h.held.subset (List.mem_map_of_mem hhandle)

theorem exists_handle {lock : Nat} (hlock : lock ∈ custody.table.held) :
    ∃ handle ∈ custody.handles, handle.lock = lock :=
  List.mem_map.mp (h.held.symm.subset hlock)

/-- A scope has one entry, so looking it up finds that entry. -/
theorem lookup_eq_some {scope : Scope} {lock : Nat}
    (hentry : (scope, lock) ∈ custody.table.entries) :
    custody.table.entries.lookup scope = some lock := by
  have hscopes := h.scopes
  rw [List.Nodup, List.pairwise_map] at hscopes
  rcases List.append_of_mem hentry with ⟨before, after, hsplit⟩
  rw [hsplit, List.pairwise_append] at hscopes
  -- The scope comes once in the table, so no entry in front has it.
  rw [hsplit, List.lookup_eq_some_iff]
  exact ⟨before, after, rfl, fun entry hbefore =>
    bne_iff_ne.mpr (hscopes.2.2 entry hbefore _ List.mem_cons_self).symm⟩

/-- Entries that name one lock are one entry. -/
theorem scope_eq {scope other : Scope} {lock : Nat}
    (hscope : (scope, lock) ∈ custody.table.entries)
    (hother : (other, lock) ∈ custody.table.entries) : scope = other := by
  have hinjective := List.inj_on_of_nodup_map h.locks hscope hother rfl
  exact congrArg Prod.fst hinjective

/-- Handles have one lock exactly if they have one scope. -/
theorem lock_eq_iff {first second : Handle} (hfirst : first ∈ custody.handles)
    (hsecond : second ∈ custody.handles) :
    first.lock = second.lock ↔ first.scope = second.scope := by
  have hknown := h.known second hsecond
  constructor
  · intro hlock
    rw [← hlock] at hknown
    exact h.scope_eq (h.known first hfirst) hknown
  · -- The table has one lock for a scope, and both handles have it from there.
    intro hscope
    have hlookup := h.lookup_eq_some (h.known first hfirst)
    rw [hscope, h.lookup_eq_some hknown] at hlookup
    exact (Option.some.inj hlookup).symm

theorem current?_eq {handle : Handle} (hhandle : handle ∈ custody.handles) :
    custody.table.current? handle.scope = some handle.lock :=
  LockTable.current?_eq_some_iff.mpr
    ⟨h.lookup_eq_some (h.known handle hhandle), h.lock_mem_held hhandle⟩

/-- Whoever asks for a scope in use gets the lock in use. -/
theorem acquire_eq {handle : Handle} (hhandle : handle ∈ custody.handles) :
    (custody.table.acquire handle.scope).1 = handle.lock := by
  rw [LockTable.acquire, h.current?_eq hhandle]

/-- The scopes that are tracked are those in somebody's hands. -/
theorem tracked_eq :
    custody.table.tracked = (custody.handles.map Handle.scope).toFinset.card := by
  have hnodup : ((custody.table.entries.filter fun entry =>
      custody.table.isLive entry.2).map Prod.fst).Nodup :=
    h.scopes.sublist (List.filter_sublist.map Prod.fst)
  -- An entry is live exactly if its scope is in somebody's hands.
  have hscopes : ((custody.table.entries.filter fun entry =>
      custody.table.isLive entry.2).map Prod.fst).toFinset
        = (custody.handles.map Handle.scope).toFinset := by
    ext scope
    simp only [List.mem_toFinset, List.mem_map, List.mem_filter, LockTable.isLive,
      List.contains_iff_mem]
    constructor
    · rintro ⟨⟨_, lock⟩, ⟨hentry, hlive⟩, rfl⟩
      rcases h.exists_handle hlive with ⟨handle, hhandle, rfl⟩
      exact ⟨handle, hhandle, h.scope_eq (h.known handle hhandle) hentry⟩
    · rintro ⟨handle, hhandle, rfl⟩
      exact ⟨(handle.scope, handle.lock), ⟨h.known handle hhandle, h.lock_mem_held hhandle⟩, rfl⟩
  rw [← hscopes, List.toFinset_card_of_nodup hnodup, List.length_map, LockTable.tracked,
    List.countP_eq_length_filter]

/-- Asking for a scope that nobody uses drops entries, but none that a handle needs. -/
theorem acquire_new {scope : Scope} (hcurrent : custody.table.current? scope = none) :
    (custody.step (.acquire scope)).IsSound := by
  -- An entry of the scope that is still live would be its current lock.
  have hscope : ∀ lock, (scope, lock) ∈ custody.table.entries →
      custody.table.isLive lock = true → False := by
    intro lock hentry hlive
    have hsome := LockTable.current?_eq_some_iff.mpr
      ⟨h.lookup_eq_some hentry, List.contains_iff_mem.mp hlive⟩
    rw [hcurrent] at hsome
    cases hsome
  have hsublist := List.filter_sublist (l := custody.table.entries)
    (p := fun entry => custody.table.isLive entry.2)
  simp only [step, LockTable.acquire, hcurrent]
  refine ⟨h.held.cons _, ?_, ?_, ?_, ?_⟩
  · intro handle hhandle
    rcases List.mem_cons.mp hhandle with rfl | hhandle
    · exact List.mem_cons_self
    · refine List.mem_cons_of_mem _ (List.mem_filter.mpr ⟨h.known handle hhandle, ?_⟩)
      exact List.contains_iff_mem.mpr (h.lock_mem_held hhandle)
  · rw [List.map_cons, List.nodup_cons]
    refine ⟨fun hmem => ?_, h.scopes.sublist (hsublist.map Prod.fst)⟩
    rcases List.mem_map.mp hmem with ⟨⟨_, lock⟩, hentry, rfl⟩
    rcases List.mem_filter.mp hentry with ⟨hentry, hlive⟩
    exact hscope lock hentry hlive
  · rw [List.map_cons, List.nodup_cons]
    refine ⟨fun hmem => ?_, h.locks.sublist (hsublist.map Prod.snd)⟩
    rcases List.mem_map.mp hmem with ⟨entry, hentry, hnext⟩
    -- The new number is greater than all that were given out.
    have hlt := h.fresh entry (hsublist.subset hentry)
    rw [hnext] at hlt
    exact absurd hlt (Nat.lt_irrefl _)
  · intro entry hentry
    rcases List.mem_cons.mp hentry with rfl | hentry
    · exact Nat.lt_succ_self _
    · exact Nat.lt_succ_of_lt (h.fresh entry (hsublist.subset hentry))

/-- A scope in use gets one more handle of its lock. -/
theorem acquire_shared {scope : Scope} {lock : Nat}
    (hcurrent : custody.table.current? scope = some lock) :
    (custody.step (.acquire scope)).IsSound := by
  have hentry := LockTable.mem_entries_of_current? hcurrent
  simp only [step, LockTable.acquire, hcurrent]
  refine ⟨h.held.cons _, ?_, h.scopes, h.locks, h.fresh⟩
  intro handle hhandle
  rcases List.mem_cons.mp hhandle with rfl | hhandle
  · exact hentry
  · exact h.known handle hhandle

/-- Letting go of a handle leaves the table with the others. -/
theorem release {position : Nat} {handle : Handle}
    (hhandle : custody.handles[position]? = some handle) :
    (custody.step (.release position)).IsSound := by
  rcases List.getElem?_eq_some_iff.mp hhandle with ⟨hposition, hget⟩
  simp only [step, hhandle]
  refine ⟨?_, fun other hother => ?_, h.scopes, h.locks, h.fresh⟩
  · -- One occurrence of the lock goes on either side.
    have hperm := (List.getElem_cons_eraseIdx_perm hposition).map Handle.lock
    rw [hget, List.map_cons] at hperm
    have herase := (hperm.trans h.held).erase handle.lock
    rw [List.erase_cons_head] at herase
    exact herase
  · exact h.known other (List.mem_of_mem_eraseIdx hother)

/-- Every step leaves a sound table sound. -/
theorem step (next : LockStep) : (custody.step next).IsSound := by
  cases next with
  | acquire scope =>
      cases hcurrent : custody.table.current? scope with
      | none => exact h.acquire_new hcurrent
      | some lock => exact h.acquire_shared hcurrent
  | release position =>
      cases hhandle : custody.handles[position]? with
      | none =>
          rw [Custody.step, hhandle]
          exact h
      | some handle => exact h.release hhandle

end IsSound

theorem isSound_empty : IsSound {} := by
  refine ⟨.nil, nofun, .nil, .nil, nofun⟩

/-- Every reachable state is sound. -/
theorem isSound_run (steps : List LockStep) : (run steps).IsSound := by
  suffices hfold : ∀ custody : Custody, custody.IsSound → (steps.foldl step custody).IsSound from
    hfold {} isSound_empty
  induction steps with
  | nil => exact fun _ h => h
  | cons next steps ih => exact fun custody h => ih _ (h.step next)

/-- A lock that is held exclusively admits nothing else, and one that is shared admits sharing. -/
theorem admits_singleton (use want : Hold) (lock other : Nat) :
    admits [(lock, use)] other want = false ↔
      lock = other ∧ (use = .exclusive ∨ want = .exclusive) := by
  cases use <;> cases want <;> simp [admits]

/-- Over whole runs a lock is the lock of its scope. Handles that are out at the same time have one
    lock exactly if they were asked for with one scope; so an exclusive use of the one keeps the
    other from any use exactly if the scopes are equal, and a shared use only from an exclusive one.
    Whoever asks for a scope in use gets the lock in use, whatever was forgotten before. The number
    of tracked scopes is that of the scopes in somebody's hands. -/
theorem locks_by_scope (steps : List LockStep) :
    (∀ first ∈ (run steps).handles, ∀ second ∈ (run steps).handles,
      (first.lock = second.lock ↔ first.scope = second.scope) ∧
      (∀ want, admits [(first.lock, .exclusive)] second.lock want = false ↔
        first.scope = second.scope) ∧
      admits [(first.lock, .shared)] second.lock .shared = true ∧
      (admits [(first.lock, .shared)] second.lock .exclusive = false ↔
        first.scope = second.scope)) ∧
    (∀ handle ∈ (run steps).handles,
      ((run steps).table.acquire handle.scope).1 = handle.lock) ∧
    (run steps).table.tracked = ((run steps).handles.map Handle.scope).toFinset.card := by
  have hsound := isSound_run steps
  refine ⟨fun first hfirst second hsecond => ?_, fun handle => hsound.acquire_eq,
    hsound.tracked_eq⟩
  have hlock := hsound.lock_eq_iff hfirst hsecond
  refine ⟨hlock, fun want => ?_, ?_, ?_⟩
  · rw [admits_singleton, hlock]
    exact and_iff_left (.inl rfl)
  · rw [← Bool.not_eq_false, admits_singleton]
    rintro ⟨_, hexclusive | hexclusive⟩
    · -- Sharers exclude nobody who wants to share.
      cases hexclusive
    · cases hexclusive
  · rw [admits_singleton, hlock]
    exact and_iff_left (.inr rfl)

/-- Another scope comes and goes while a lock is held, and its entry is dropped when a third one
    comes; the first is asked for again. -/
example : let aria (user : String) : Scope := ⟨user, "aria"⟩
    (run [.acquire (aria "alice"), .acquire (aria "bob"), .release 0, .acquire (aria "carol"),
      .acquire (aria "alice"), .acquire (aria "bob")]).handles.map Handle.lock = [3, 0, 2, 0] := by
  decide

end Custody

end Colloquy
