/-!
# Dictionaries

Finite maps from texts to values, kept as a list of entries in ascending order of key. The order is
part of the type rather than a habit of its operations: a predicate unit is written in order of key,
attributes are shown in order of name, and two dictionaries with the same entries are the same
value, so equality of maps needs no equivalence beside `=`.

Keys are compared by code point, which is also the order of their UTF-8 bytes.

## Main definitions

* `Dictionary`: Entries with ascending keys.
* `Dictionary.get?`: The value of a key.
* `Dictionary.insert`: A dictionary with one key set.
* `Dictionary.ofList`: A dictionary from entries of which a later one wins.

## Theorems

* `Dictionary.get?_insert_self`: An inserted value is found.
* `Dictionary.get?_insert_of_ne`: Other keys are untouched by an insertion.
* `Dictionary.ext_get?`: A dictionary is determined by its values.
-/

namespace Colloquy

/-- A finite map from texts to values, as entries with strictly ascending keys. -/
structure Dictionary (α : Type) where
  entries : List (String × α)
  ascending : entries.Pairwise fun a b => a.1 < b.1

namespace Dictionary

variable {α : Type}

/-- The dictionary without entries. -/
def empty : Dictionary α := ⟨[], .nil⟩

instance : EmptyCollection (Dictionary α) := ⟨empty⟩

instance : Inhabited (Dictionary α) := ⟨empty⟩

instance [BEq α] : BEq (Dictionary α) := ⟨fun d e => d.entries == e.entries⟩

instance [Repr α] : Repr (Dictionary α) := ⟨fun d n => reprPrec d.entries n⟩

@[ext] theorem ext {d e : Dictionary α} (h : d.entries = e.entries) : d = e := by
  cases d; cases e; cases h; rfl

instance [DecidableEq α] : DecidableEq (Dictionary α) := fun d e =>
  if h : d.entries = e.entries then isTrue (ext h) else isFalse fun he => h (he ▸ rfl)

/-- Entries with one key set, in order if they were in order. -/
def insertEntry (key : String) (value : α) : List (String × α) → List (String × α)
  | [] => [(key, value)]
  | entry :: rest =>
    if key < entry.1 then (key, value) :: entry :: rest
    else if key = entry.1 then (key, value) :: rest
    else entry :: insertEntry key value rest

theorem mem_insertEntry {key : String} {value : α} {entry : String × α} :
    ∀ {entries : List (String × α)},
      entry ∈ insertEntry key value entries → entry = (key, value) ∨ entry ∈ entries
  | [], h => by simpa [insertEntry] using h
  | first :: rest, h => by
    unfold insertEntry at h
    split at h
    · simpa using h
    · split at h
      · rcases List.mem_cons.1 h with h | h
        · exact .inl h
        · exact .inr (List.mem_cons_of_mem _ h)
      · rcases List.mem_cons.1 h with h | h
        · exact .inr (h ▸ List.mem_cons_self)
        · rcases mem_insertEntry h with h | h
          · exact .inl h
          · exact .inr (List.mem_cons_of_mem _ h)

/-- Of two different texts, the one that is not smaller is greater. -/
theorem lt_of_not_lt_of_ne {a b : String} (h : ¬ a < b) (hne : a ≠ b) : b < a := by
  rcases Decidable.em (b < a) with hba | hba
  · exact hba
  · exact absurd (String.le_antisymm (String.not_lt.1 hba) (String.not_lt.1 h)) hne

theorem ascending_insertEntry (key : String) (value : α) :
    ∀ {entries : List (String × α)}, entries.Pairwise (fun a b => a.1 < b.1) →
      (insertEntry key value entries).Pairwise fun a b => a.1 < b.1
  | [], _ => by simp [insertEntry]
  | first :: rest, h => by
    rw [List.pairwise_cons] at h
    unfold insertEntry
    split
    · -- The new entry comes before all others.
      rename_i hlt
      refine List.pairwise_cons.2 ⟨fun entry hmem => ?_, List.pairwise_cons.2 h⟩
      rcases List.mem_cons.1 hmem with rfl | hmem
      · exact hlt
      · exact String.lt_trans hlt (h.1 entry hmem)
    · rename_i hge
      split
      · -- The new entry takes the place of one with its key.
        rename_i heq
        exact List.pairwise_cons.2 ⟨fun entry hmem => heq ▸ h.1 entry hmem, h.2⟩
      · -- The new entry goes further down, and its key is greater than the first.
        rename_i hne
        refine List.pairwise_cons.2 ⟨fun entry hmem => ?_, ascending_insertEntry key value h.2⟩
        rcases mem_insertEntry hmem with rfl | hmem
        · exact lt_of_not_lt_of_ne hge hne
        · exact h.1 entry hmem

/-- The dictionary with one key set to a value. -/
def insert (d : Dictionary α) (key : String) (value : α) : Dictionary α :=
  ⟨insertEntry key value d.entries, ascending_insertEntry key value d.ascending⟩

/-- The value of a key. -/
def get? (d : Dictionary α) (key : String) : Option α :=
  (d.entries.find? fun entry => entry.1 = key).map (·.2)

/-- Whether a key has a value. -/
def contains (d : Dictionary α) (key : String) : Bool := (d.get? key).isSome

/-- The keys in ascending order. -/
def keys (d : Dictionary α) : List String := d.entries.map (·.1)

/-- The number of entries. -/
def size (d : Dictionary α) : Nat := d.entries.length

/-- The entries inserted one after the other, so that a later one wins. -/
def ofList (entries : List (String × α)) : Dictionary α :=
  entries.foldl (fun d entry => d.insert entry.1 entry.2) empty

/-- The dictionary with every value changed by one function. -/
def map {β : Type} (f : α → β) (d : Dictionary α) : Dictionary β :=
  ⟨d.entries.map fun entry => (entry.1, f entry.2), by
    rw [List.pairwise_map]; exact d.ascending⟩

theorem find?_insertEntry_self (key : String) (value : α) (entries : List (String × α)) :
    (insertEntry key value entries).find? (fun entry => entry.1 = key) = some (key, value) := by
  induction entries with
  | nil => simp [insertEntry]
  | cons first rest ih =>
    unfold insertEntry
    split
    · simp
    · split
      · simp
      · rename_i hne
        rw [List.find?_cons_of_neg (by simpa using fun h => hne h.symm), ih]

theorem find?_insertEntry_of_ne {key other : String} (h : other ≠ key) (value : α)
    (entries : List (String × α)) :
    (insertEntry key value entries).find? (fun entry => entry.1 = other) =
      entries.find? fun entry => entry.1 = other := by
  induction entries with
  | nil => simp [insertEntry, h.symm]
  | cons first rest ih =>
    unfold insertEntry
    split
    · rw [List.find?_cons_of_neg (by simpa using h.symm)]
    · split
      · rename_i heq
        rw [List.find?_cons_of_neg (by simpa using h.symm),
          List.find?_cons_of_neg (by simpa using heq ▸ h.symm)]
      · rw [List.find?_cons, List.find?_cons, ih]

@[simp] theorem get?_insert_self (d : Dictionary α) (key : String) (value : α) :
    (d.insert key value).get? key = some value := by
  simp [get?, insert, find?_insertEntry_self]

@[simp] theorem get?_insert_of_ne (d : Dictionary α) {key other : String} (h : other ≠ key)
    (value : α) : (d.insert key value).get? other = d.get? other := by
  simp [get?, insert, find?_insertEntry_of_ne h]

/-- A key is found with the value of its entry, and only so. -/
theorem find?_eq_some_of_mem {entries : List (String × α)}
    (asc : entries.Pairwise fun a b => a.1 < b.1) {entry : String × α} (h : entry ∈ entries) :
    entries.find? (fun e => e.1 = entry.1) = some entry := by
  induction entries with
  | nil => simp at h
  | cons first rest ih =>
    rw [List.pairwise_cons] at asc
    rcases List.mem_cons.1 h with rfl | h
    · simp
    · have hlt := asc.1 entry h
      have hne : first.1 ≠ entry.1 := fun he => String.lt_irrefl _ (he ▸ hlt)
      rw [List.find?_cons_of_neg (by simpa using hne), ih asc.2 h]

theorem mem_entries_iff {d : Dictionary α} {key : String} {value : α} :
    (key, value) ∈ d.entries ↔ d.get? key = some value := by
  constructor
  · intro h
    simp [get?, find?_eq_some_of_mem d.ascending h]
  · intro h
    obtain ⟨entry, hfind, rfl⟩ := Option.map_eq_some_iff.1 h
    have hkey := List.find?_some hfind
    simp only [decide_eq_true_eq] at hkey
    exact hkey ▸ List.mem_of_find?_eq_some hfind

/-- Entries with ascending keys are determined by which entries there are. -/
theorem eq_of_mem_iff {l m : List (String × α)} (hl : l.Pairwise fun a b => a.1 < b.1)
    (hm : m.Pairwise fun a b => a.1 < b.1) (h : ∀ entry, entry ∈ l ↔ entry ∈ m) : l = m := by
  induction l generalizing m with
  | nil =>
    cases m with
    | nil => rfl
    | cons b m => exact absurd ((h b).2 List.mem_cons_self) List.not_mem_nil
  | cons a l ih =>
    cases m with
    | nil => exact absurd ((h a).1 List.mem_cons_self) List.not_mem_nil
    | cons b m =>
      rw [List.pairwise_cons] at hl hm
      -- Both lists start with the least key, so they start with the same entry.
      have hab : a = b := by
        rcases List.mem_cons.1 ((h a).1 List.mem_cons_self) with rfl | hbm
        · rfl
        · rcases List.mem_cons.1 ((h b).2 List.mem_cons_self) with hba | hal
          · exact hba.symm
          · exact absurd (String.lt_trans (hl.1 b hal) (hm.1 a hbm)) (String.lt_irrefl _)
      subst hab
      -- The common first entry does not occur again, so the rests have the same entries too.
      congr 1
      refine ih hl.2 hm.2 fun entry => ⟨fun he => ?_, fun he => ?_⟩
      · rcases List.mem_cons.1 ((h entry).1 (List.mem_cons_of_mem _ he)) with rfl | hmem
        · exact absurd (hl.1 _ he) (String.lt_irrefl _)
        · exact hmem
      · rcases List.mem_cons.1 ((h entry).2 (List.mem_cons_of_mem _ he)) with rfl | hmem
        · exact absurd (hm.1 _ he) (String.lt_irrefl _)
        · exact hmem

theorem ext_get? {d e : Dictionary α} (h : ∀ key, d.get? key = e.get? key) : d = e := by
  refine ext (eq_of_mem_iff d.ascending e.ascending fun entry => ?_)
  rw [show entry = (entry.1, entry.2) from rfl, mem_entries_iff, mem_entries_iff, h]

end Dictionary

end Colloquy
