import Colloquy.Dictionary

/-!
# Dictionaries From Lists of Entries

Inserting entries one after the other keeps the last value of every key, and so taking a
dictionary apart into its entries and putting them together again gives the same dictionary.

## Theorems

* `get?_ofList_concat`: One more entry sets its key.
* `get?_ofList`: The value of a key is that of its last entry.
* `get?_ofList_append`: Later entries override earlier ones.
* `get?_ofList_eq_some_iff`: Which entry gives a key its value.
* `insert_ne_empty`: There is something in a dictionary with a key set.
* `ofList_entries`: A dictionary is made of its entries.
-/

namespace Colloquy

namespace Dictionary

variable {α : Type}

/-- There is something in a dictionary with a key set. -/
theorem insert_ne_empty (d : Dictionary α) (key : String) (value : α) : d.insert key value ≠ ∅ := by
  intro hempty
  have hvalue := d.get?_insert_self key value
  rw [hempty] at hvalue
  cases hvalue

/-- One more entry sets its key and leaves the others as they are. -/
theorem get?_ofList_concat (entries : List (String × α)) (entry : String × α) (key : String) :
    (ofList (entries ++ [entry])).get? key
      = if key = entry.1 then some entry.2 else (ofList entries).get? key := by
  -- A list is made into a dictionary from its front, so the last entry comes on top.
  have hinsert : ofList (entries ++ [entry]) = (ofList entries).insert entry.1 entry.2 := by
    rw [ofList, List.foldl_append]
    rfl
  rw [hinsert]
  by_cases h : key = entry.1
  · rw [if_pos h, h, get?_insert_self]
  · rw [if_neg h, get?_insert_of_ne _ h]

theorem get?_ofList_reverse (entries : List (String × α)) (key : String) :
    (ofList entries.reverse).get? key = entries.lookup key := by
  induction entries with
  | nil => rfl
  | cons entry entries ih =>
      rw [List.reverse_cons, get?_ofList_concat, ih]
      by_cases h : key = entry.1
      · rw [if_pos h, h, List.lookup_cons_self]
      · rw [if_neg h, List.lookup_cons, beq_false_of_ne h]

/-- The value of a key is that of its last entry. -/
theorem get?_ofList (entries : List (String × α)) (key : String) :
    (ofList entries).get? key = entries.reverse.lookup key := by
  rw [← get?_ofList_reverse, List.reverse_reverse]

theorem mem_of_lookup_eq_some {entries : List (String × α)} {key : String} {value : α}
    (h : entries.lookup key = some value) : (key, value) ∈ entries := by
  rcases List.lookup_eq_some_iff.mp h with ⟨before, after, rfl, _⟩
  exact List.mem_append_right before List.mem_cons_self

/-- Later entries override earlier ones, and leave the keys alone that they do not have. -/
theorem get?_ofList_append (entries others : List (String × α)) (key : String) :
    (ofList (entries ++ others)).get? key
      = ((ofList others).get? key).or ((ofList entries).get? key) := by
  rw [get?_ofList, get?_ofList, get?_ofList, List.reverse_append, List.lookup_append]

/-- A key has the value of an entry behind which its key does not occur again. -/
theorem get?_ofList_eq_some_iff {entries : List (String × α)} {key : String} {value : α} :
    (ofList entries).get? key = some value ↔
      ∃ before after, entries = before ++ (key, value) :: after ∧
        ∀ entry ∈ after, entry.1 ≠ key := by
  rw [get?_ofList, List.lookup_eq_some_iff]
  constructor
  · -- A lookup goes from the front, and the dictionary is looked up from the back of the list.
    rintro ⟨later, earlier, hentries, hlater⟩
    refine ⟨earlier.reverse, later.reverse, ?_, fun entry hmem => ?_⟩
    · rw [← List.reverse_reverse entries, hentries, List.reverse_append, List.reverse_cons,
        List.append_assoc, List.singleton_append]
    · have hne := hlater entry (List.mem_reverse.mp hmem)
      exact fun h => bne_iff_ne.mp hne h.symm
  · rintro ⟨before, after, rfl, hafter⟩
    refine ⟨after.reverse, before.reverse, ?_, fun entry hmem => ?_⟩
    · rw [List.reverse_append, List.reverse_cons, List.append_assoc, List.singleton_append]
    · have hne := hafter entry (List.mem_reverse.mp hmem)
      exact bne_iff_ne.mpr fun h => hne h.symm

/-- A dictionary is made of its entries. No two of them have one key, so it does not matter that
    the last one would win. -/
theorem ofList_entries (d : Dictionary α) : ofList d.entries = d := by
  refine ext_get? (fun key => ?_)
  rw [get?_ofList]
  cases hlast : d.entries.reverse.lookup key with
  | some value =>
      have hmem := List.mem_reverse.mp (mem_of_lookup_eq_some hlast)
      exact (mem_entries_iff.mp hmem).symm
  | none =>
      -- A value of the key would be among the entries.
      cases hget : d.get? key with
      | none => rfl
      | some value =>
          have hmem := List.mem_reverse.mpr (mem_entries_iff.mpr hget)
          have hne := List.lookup_eq_none_iff.mp hlast _ hmem
          exact absurd hne (by simp only [bne_self_eq_false, Bool.false_eq_true, not_false_eq_true])

end Dictionary

end Colloquy
