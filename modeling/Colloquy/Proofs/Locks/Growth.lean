import Colloquy.Proofs.Locks
import Mathlib.Data.List.Infix

/-!
# The Lock Table Does Not Outgrow Its Use

How many entries a lock table has over a whole run, entries of locks that are gone included.

Nobody tells the table that the last holder of a lock let go of it, so entries stay behind, and they
stay until somebody asks for a scope that nobody uses. No bound by the scopes in use at the moment
can hold: everybody may let go at once, and every entry is left behind. The bound looks back over
the run instead.

Only one kind of step touches the entries, and it leaves none behind: whoever makes a new lock drops
what is gone first. So the entries of a reachable table are, to the letter, those of a table met
earlier in the run that had no entry left behind. Such a table has one entry for each scope in use,
and that many scopes were in use at the same time then. Carrying the earlier moment through the
induction, rather than a number, is what makes letting go and sharing harmless: they leave the
entries alone, and the moment with them.

## Main definitions

* `LockTable.IsPruned`: No entry is left behind.
* `LockTable.creates`: Asking for a scope makes a new lock.
* `Custody.inUse`: The scopes whose locks are in somebody's hands.
* `Custody.peak`: The largest number of scopes in use at one time of a run.

## Theorems

* `isPruned_acquire`: Making a new lock leaves no entry behind.
* `step_entries`: A step leaves the entries alone or leaves none behind.
* `exists_isPruned`: The entries of a reachable table are those of a table met so far with none
  left behind.
* `IsSound.creates_iff`: New locks are made exactly for scopes that are not in use.
* `entries_bounded`: Entries over whole runs.
-/

namespace Colloquy

namespace LockTable

variable {table : LockTable} {scope : Scope}

/-- No entry is that of a lock that is gone. -/
def IsPruned (table : LockTable) : Prop :=
  ∀ entry ∈ table.entries, table.isLive entry.2 = true

instance (table : LockTable) : Decidable table.IsPruned :=
  inferInstanceAs (Decidable (∀ entry ∈ table.entries, table.isLive entry.2 = true))

/-- Whether asking for a scope makes a new lock, one that was in nobody's hands. -/
def creates (table : LockTable) (scope : Scope) : Bool := !table.isLive (table.acquire scope).1

/-- A table with no entry left behind tracks all its entries. -/
theorem IsPruned.length_entries (h : table.IsPruned) : table.entries.length = table.tracked :=
  (List.countP_eq_length.mpr h).symm

/-- Making a new lock leaves no entry behind. -/
theorem isPruned_acquire (h : table.current? scope = none) :
    (table.acquire scope).2.IsPruned := by
  rw [acquire, h]
  intro entry hentry
  rw [isLive, List.contains_iff_mem]
  rcases List.mem_cons.mp hentry with rfl | hentry
  · exact List.mem_cons_self
  · -- Whoever held a lock before still holds it.
    have hlive := (List.mem_filter.mp hentry).2
    exact List.mem_cons_of_mem _ (List.contains_iff_mem.mp hlive)

/-- Sharing a lock leaves the entries alone. -/
theorem entries_acquire {lock : Nat} (h : table.current? scope = some lock) :
    (table.acquire scope).2.entries = table.entries := by
  rw [acquire, h]

end LockTable

namespace Custody

/-- The scopes whose locks are in somebody's hands. -/
def inUse (custody : Custody) : Finset Scope := (custody.handles.map Handle.scope).toFinset

/-- The largest number of scopes in use at one time of a run, which is looked at before its first
    step and after each of them. -/
def peak (steps : List LockStep) : Nat :=
  (steps.inits.map fun earlier => (run earlier).inUse.card).max?.getD 0

/-- Every time of a run counts towards its peak. -/
theorem card_inUse_le_peak {earlier steps : List LockStep} (h : earlier <+: steps) :
    (run earlier).inUse.card ≤ peak steps := by
  have htime : earlier ∈ steps.inits := (List.mem_inits earlier steps).mpr h
  exact List.le_max?_getD_of_mem (List.mem_map_of_mem htime)

theorem run_concat (steps : List LockStep) (next : LockStep) :
    run (steps ++ [next]) = (run steps).step next := by
  rw [run, List.foldl_concat, ← run]

/-- A step leaves the entries alone or leaves none behind. -/
theorem step_entries (custody : Custody) (next : LockStep) :
    (custody.step next).table.entries = custody.table.entries ∨
      (custody.step next).table.IsPruned := by
  cases next with
  | acquire scope =>
      cases hcurrent : custody.table.current? scope with
      | none => exact .inr (LockTable.isPruned_acquire hcurrent)
      | some lock => exact .inl (LockTable.entries_acquire hcurrent)
  | release position =>
      -- Entries do not know who lets go, not even of the last handle of a lock.
      left
      rw [step]
      cases custody.handles[position]? with
      | none => rfl
      | some handle => rfl

/-- The entries of a reachable table are those of a table that the run has met, now or earlier, with
    none left behind. -/
theorem exists_isPruned (steps : List LockStep) :
    ∃ earlier, earlier <+: steps ∧ (run earlier).table.IsPruned ∧
      (run steps).table.entries = (run earlier).table.entries := by
  -- The last step either leaves the earlier moment where it was or is that moment itself.
  induction steps using List.reverseRecOn with
  | nil => exact ⟨[], List.prefix_rfl, nofun, rfl⟩
  | append_singleton steps next ih =>
      rcases step_entries (run steps) next with hentries | hpruned
      · rcases ih with ⟨earlier, hprefix, hpruned, hearlier⟩
        refine ⟨earlier, hprefix.trans (List.prefix_append steps [next]), hpruned, ?_⟩
        rw [run_concat, hentries, hearlier]
      · rw [← run_concat] at hpruned
        exact ⟨steps ++ [next], List.prefix_rfl, hpruned, rfl⟩

namespace IsSound

variable {custody : Custody} (h : custody.IsSound) {scope : Scope}
include h

/-- A table with no entry left behind has one for each scope in use. -/
theorem length_entries (hpruned : custody.table.IsPruned) :
    custody.table.entries.length = custody.inUse.card :=
  hpruned.length_entries.trans h.tracked_eq

/-- A scope has no current lock exactly if it is not in use. -/
theorem current?_eq_none_iff : custody.table.current? scope = none ↔ scope ∉ custody.inUse := by
  rw [inUse, List.mem_toFinset, List.mem_map]
  constructor
  · rintro hcurrent ⟨handle, hhandle, rfl⟩
    rw [h.current?_eq hhandle] at hcurrent
    cases hcurrent
  · intro hunused
    refine Option.eq_none_iff_forall_ne_some.mpr fun lock hcurrent => ?_
    -- The lock is in somebody's hands, and it was asked for with the scope of its entry.
    rcases h.exists_handle (LockTable.current?_eq_some_iff.mp hcurrent).2 with
      ⟨handle, hhandle, rfl⟩
    have hentry := LockTable.mem_entries_of_current? hcurrent
    exact hunused ⟨handle, hhandle, h.scope_eq (h.known handle hhandle) hentry⟩

/-- A number that was not given out yet is in nobody's hands. -/
theorem next_not_mem_held : custody.table.next ∉ custody.table.held := by
  intro hheld
  rcases h.exists_handle hheld with ⟨handle, hhandle, hlock⟩
  have hfresh := h.fresh _ (h.known handle hhandle)
  rw [hlock] at hfresh
  exact Nat.lt_irrefl _ hfresh

/-- New locks are made exactly for scopes that are not in use. -/
theorem creates_iff : custody.table.creates scope = true ↔ scope ∉ custody.inUse := by
  rw [← h.current?_eq_none_iff, LockTable.creates, LockTable.acquire, Bool.not_eq_true',
    ← Bool.not_eq_true, LockTable.isLive, List.contains_iff_mem]
  cases hcurrent : custody.table.current? scope with
  | none => exact iff_of_true h.next_not_mem_held rfl
  | some lock =>
      have hheld := (LockTable.current?_eq_some_iff.mp hcurrent).2
      exact iff_of_false (fun hgone => hgone hheld) (Option.some_ne_none lock)

end IsSound

/-- Over whole runs a lock table never has more entries, those of locks that are gone included, than
    scopes have been in use at one time so far. A new lock is made exactly for a scope that is not
    in use, and right afterwards no entry is left behind: there is one for each scope in use. -/
theorem entries_bounded (steps : List LockStep) :
    (run steps).table.entries.length ≤ peak steps ∧
    ∀ scope, ((run steps).table.creates scope = true ↔ scope ∉ (run steps).inUse) ∧
      ((run steps).table.creates scope = true →
        (run (steps ++ [.acquire scope])).table.IsPruned ∧
        (run (steps ++ [.acquire scope])).table.entries.length =
          (run (steps ++ [.acquire scope])).inUse.card) := by
  constructor
  · rcases exists_isPruned steps with ⟨earlier, hprefix, hpruned, hentries⟩
    calc
      (run steps).table.entries.length = (run earlier).table.entries.length := by rw [hentries]
      _ = (run earlier).inUse.card := (isSound_run earlier).length_entries hpruned
      _ ≤ peak steps := card_inUse_le_peak hprefix
  · -- A lock is made where none is held, and making it takes out all that nobody holds.
    intro scope
    have hsound := isSound_run steps
    refine ⟨hsound.creates_iff, fun hcreates => ?_⟩
    have hcurrent := hsound.current?_eq_none_iff.mpr (hsound.creates_iff.mp hcreates)
    have hpruned : (run (steps ++ [.acquire scope])).table.IsPruned := by
      rw [run_concat]
      exact LockTable.isPruned_acquire hcurrent
    exact ⟨hpruned, (isSound_run _).length_entries hpruned⟩

/-- Two visitors come while alice stays, and both leave: their entries stay behind, three for one
    scope in use, until the next visitor comes. -/
theorem entries_bounded_after_visits :
    let aria (user : String) : Scope := ⟨user, "aria"⟩
    let steps : List LockStep := [.acquire (aria "alice"), .acquire (aria "bob"),
      .acquire (aria "carol"), .release 0, .release 0]
    (¬ (run steps).table.IsPruned ∧ (run steps).inUse = {aria "alice"} ∧
      (run steps).table.entries.length = 3 ∧ peak steps = 3) ∧
      (run steps).table.creates (aria "dave") = true ∧
      (run (steps ++ [.acquire (aria "dave")])).table.IsPruned ∧
      (run (steps ++ [.acquire (aria "dave")])).table.entries.length = 2 := by
  intro aria steps
  have hcreates : (run steps).table.creates (aria "dave") = true := by decide
  have hnew := ((entries_bounded steps).2 (aria "dave")).2 hcreates
  exact ⟨by decide, hcreates, hnew.1, hnew.2.trans (by decide)⟩

end Custody

end Colloquy
