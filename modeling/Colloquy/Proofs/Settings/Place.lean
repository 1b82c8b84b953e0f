import Colloquy.Proofs.Dictionary
import Colloquy.Settings.Value
import Mathlib.Data.List.Nodup

/-!
# Places in Tables

Tables in tables are a tree, and a path of names leads to a place in it. Changing what stands at a
place changes nothing beside it, and leaves tables on the way to it, whatever was there before.

Names are distinct within every table of such a tree if it was made by changes alone. Looking a name
up finds the first entry with it, and reading a whole table keeps the last one, so it is this
that makes both the same.

## Main definitions

* `Value.at?`, `Value.valueAt?`: What stands at a place, and if it is no table.
* `Value.change`: The change of what stands at a place.
* `Value.Tidy`: Names are distinct in every table.

## Theorems

* `at?_change_append`, `at?_change_above`, `at?_change_beside`: What a change does to all places.
* `tidy_change`: Names stay distinct.
-/

namespace Colloquy

section Entries

variable {entries : List (String × Value)} {name other : String} {value : Value}

theorem entryAt?_putEntry_self (entries : List (String × Value)) (name : String) (value : Value) :
    entryAt? (putEntry entries name value) name = some value := by
  induction entries with
  | nil => exact List.lookup_cons_self
  | cons entry rest ih =>
      rw [putEntry]
      by_cases h : entry.1 = name
      · rw [if_pos h]
        exact List.lookup_cons_self
      · rw [if_neg h, entryAt?, List.lookup_cons, beq_false_of_ne (Ne.symm h)]
        exact ih

theorem entryAt?_putEntry_of_ne (entries : List (String × Value)) (value : Value)
    (h : other ≠ name) : entryAt? (putEntry entries name value) other = entryAt? entries other := by
  induction entries with
  | nil =>
      rw [putEntry, entryAt?, List.lookup_cons, beq_false_of_ne h]
      rfl
  | cons entry rest ih =>
      rw [putEntry]
      by_cases hname : entry.1 = name
      · rw [if_pos hname, entryAt?, entryAt?, List.lookup_cons, List.lookup_cons,
          beq_false_of_ne h, beq_false_of_ne (hname ▸ h)]
      · rw [if_neg hname, entryAt?, entryAt?, List.lookup_cons, List.lookup_cons]
        cases other == entry.1 with
        | true => rfl
        | false => exact ih

theorem putEntry_putEntry (entries : List (String × Value)) (name : String) (first second : Value) :
    putEntry (putEntry entries name first) name second = putEntry entries name second := by
  induction entries with
  | nil => simp [putEntry]
  | cons entry rest ih => by_cases h : entry.1 = name <;> simp [putEntry, h, ih]

/-- Putting what is there changes nothing. -/
theorem putEntry_of_entryAt? (h : entryAt? entries name = some value) :
    putEntry entries name value = entries := by
  induction entries with
  | nil => cases h
  | cons entry rest ih =>
      rw [entryAt?, List.lookup_cons] at h
      rw [putEntry]
      -- The entry is there already, with the same value.
      by_cases hname : entry.1 = name
      · rw [hname, beq_self_eq_true] at h
        cases h
        rw [if_pos hname, ← hname]
      · rw [beq_false_of_ne (Ne.symm hname)] at h
        rw [if_neg hname, ih h]

theorem mem_of_mem_putEntry {entry : String × Value} (h : entry ∈ putEntry entries name value) :
    entry = (name, value) ∨ entry ∈ entries := by
  induction entries with
  | nil => exact .inl (List.mem_singleton.mp h)
  | cons first rest ih =>
      rw [putEntry] at h
      split at h
      · exact (List.mem_cons.mp h).imp id (List.mem_cons_of_mem first)
      · rcases List.mem_cons.mp h with rfl | h
        · exact .inr List.mem_cons_self
        · exact (ih h).imp id (List.mem_cons_of_mem first)

theorem nodup_putEntry (h : (entries.map (·.1)).Nodup) (name : String) (value : Value) :
    ((putEntry entries name value).map (·.1)).Nodup := by
  induction entries with
  | nil => simp [putEntry]
  | cons entry rest ih =>
      rw [List.map_cons, List.nodup_cons] at h
      rw [putEntry]
      split
      · rename_i hname
        rw [List.map_cons, List.nodup_cons, ← hname]
        exact h
      · rename_i hname
        rw [List.map_cons, List.nodup_cons]
        refine ⟨fun hmem => ?_, ih h.2⟩
        rcases List.mem_map.mp hmem with ⟨found, hfound, heq⟩
        -- The name in front is neither the new one nor one that was behind it.
        rcases mem_of_mem_putEntry hfound with rfl | hfound
        · exact hname heq.symm
        · exact h.1 (List.mem_map.mpr ⟨found, hfound, heq⟩)

end Entries

namespace Value

/-- Whether a value is a table. -/
def isTable : Value → Bool
  | .table _ => true
  | _ => false

/-- Whether a value is a list. -/
def isList : Value → Bool
  | .list _ => true
  | _ => false

/-- The entries of what may be there. -/
def entriesOf (present : Option Value) : List (String × Value) := present.elim [] entries

/-- What stands at a path. -/
def at? : List String → Option Value → Option Value
  | [], present => present
  | name :: rest, present => at? rest (entryAt? (entriesOf present) name)

/-- What stands at a path, if it is no table. -/
def valueAt? (path : List String) (present : Option Value) : Option Value :=
  (at? path present).filter (!·.isTable)

/-- What is there, with what stands at a path changed. Whatever lies across the path gives way. -/
def change : List String → (Option Value → Value) → Option Value → Value
  | [], f, present => f present
  | name :: rest, f, present =>
    .table (putEntry (entriesOf present) name (change rest f (entryAt? (entriesOf present) name)))

variable {value : Value} {name : String} {path : List String}

theorem isTable_of_isList (h : value.isList = true) : value.isTable = false := by
  cases value <;> first | rfl | cases h

theorem entries_of_not_isTable (h : value.isTable = false) : value.entries = [] := by
  cases value <;> first | rfl | cases h

theorem entries_getD (present : Option Value) :
    (present.getD .nothing).entries = entriesOf present := by
  cases present <;> rfl

theorem at?_none (path : List String) : at? path none = none := by
  induction path with
  | nil => rfl
  | cons name rest ih => exact ih

theorem at?_append (path rest : List String) (present : Option Value) :
    at? (path ++ rest) present = at? rest (at? path present) := by
  induction path generalizing present with
  | nil => rfl
  | cons name path ih => exact ih _

/-- Nothing stands below a value that is no table. -/
theorem at?_below_value (h : value.isTable = false) (name : String) (rest : List String) :
    at? (name :: rest) (some value) = none := by
  rw [at?, entriesOf, Option.elim_some, entries_of_not_isTable h]
  exact at?_none rest

/-- At the path and below it a change puts what it makes of what was there. -/
theorem at?_change_append (f : Option Value → Value) (path rest : List String)
    (present : Option Value) :
    at? (path ++ rest) (some (change path f present)) = at? rest (some (f (at? path present))) := by
  induction path generalizing present with
  | nil => rfl
  | cons name path ih =>
      rw [List.cons_append, at?, change]
      show at? _ (entryAt? (putEntry _ _ _) _) = _
      rw [entryAt?_putEntry_self, ih, at?]

/-- On the way to the path a change leaves tables. -/
theorem at?_change_above (f : Option Value → Value) (path : List String) (next : String)
    (rest : List String) (present : Option Value) :
    ∃ entries, at? path (some (change (path ++ next :: rest) f present))
      = some (.table entries) := by
  induction path generalizing present with
  | nil => exact ⟨_, rfl⟩
  | cons name path ih =>
      rw [List.cons_append, at?, change]
      -- Below the name there is what was changed, and it leads further down.
      show ∃ entries, at? _ (entryAt? (putEntry _ _ _) _) = _
      rw [entryAt?_putEntry_self]
      exact ih _

/-- Beside the path a change leaves everything as it was. -/
theorem at?_change_beside (f : Option Value → Value) {path other : List String}
    (hbelow : ¬ path <+: other) (habove : ¬ other <+: path) (present : Option Value) :
    at? other (some (change path f present)) = at? other present := by
  induction path generalizing other present with
  | nil => exact absurd List.nil_prefix hbelow
  | cons name path ih =>
      cases other with
      | nil => exact absurd List.nil_prefix habove
      | cons first other =>
          rw [at?, at?, change]
          show at? _ (entryAt? (putEntry _ _ _) _) = _
          -- The two paths part at this name, or they share it and part later.
          by_cases h : first = name
          · subst h
            rw [List.prefix_cons_inj] at hbelow habove
            rw [entryAt?_putEntry_self, ih hbelow habove]
          · rw [entryAt?_putEntry_of_ne _ _ h]

/-- No two entries have one name, in the table that a value may be and in the tables in it. -/
inductive Tidy : Value → Prop where
  | plain {value : Value} (h : value.isTable = false) : Tidy value
  | table {entries : List (String × Value)} (hnames : (entries.map (·.1)).Nodup)
      (hinner : ∀ entry ∈ entries, Tidy entry.2) : Tidy (.table entries)

theorem Tidy.nodup (h : Tidy value) : (value.entries.map (·.1)).Nodup := by
  cases h with
  | plain hvalue => rw [entries_of_not_isTable hvalue]; exact .nil
  | table hnames _ => exact hnames

theorem Tidy.entry (h : Tidy value) {entry : String × Value} (hmem : entry ∈ value.entries) :
    Tidy entry.2 := by
  cases h with
  | plain hvalue => rw [entries_of_not_isTable hvalue] at hmem; cases hmem
  | table _ hinner => exact hinner entry hmem

/-- What stands in something tidy is tidy. -/
theorem tidy_at? {present : Option Value} (h : ∀ value ∈ present, Tidy value) (path : List String) :
    ∀ value ∈ at? path present, Tidy value := by
  induction path generalizing present with
  | nil => exact h
  | cons name rest ih =>
      refine ih fun inner hinner => ?_
      cases present with
      | none => cases hinner
      | some value => exact (h value rfl).entry (Dictionary.mem_of_lookup_eq_some hinner)

theorem nodup_entriesOf {present : Option Value} (h : ∀ value ∈ present, Tidy value) :
    ((entriesOf present).map (·.1)).Nodup := by
  cases present with
  | none => exact .nil
  | some value => exact (h value rfl).nodup

/-- Names stay distinct if they do at the place that is changed. -/
theorem tidy_change {f : Option Value → Value}
    (hf : ∀ present : Option Value, (∀ value ∈ present, Tidy value) → Tidy (f present))
    {present : Option Value} (h : ∀ value ∈ present, Tidy value) :
    Tidy (change path f present) := by
  induction path generalizing present with
  | nil => exact hf present h
  | cons name rest ih =>
      refine .table (nodup_putEntry (nodup_entriesOf h) name _) fun entry hmem => ?_
      -- One entry is new, and the rest of the change has made it.
      rcases mem_of_mem_putEntry hmem with rfl | hmem
      · exact ih (tidy_at? h [name])
      · cases present with
        | none => cases hmem
        | some value => exact (h value rfl).entry hmem

end Value

end Colloquy
