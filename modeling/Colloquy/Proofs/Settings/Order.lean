import Colloquy.Proofs.Settings.Layers
import Mathlib.Data.List.Forall2

/-!
# The Entries of a Source Have No Order

A source of settings is a table, and the entries of a table come in no order. Laying a source over
settings goes through them one after the other all the same, in whatever order it finds them, and in
another one the next time. Where two entries have a say about one place, the order decides between
them. So what is true of one order is not enough: it has to be true of all of them.

Reordering a source keeps what it says, place by place. The only exception is the inside of lists,
where entries of a table that is put at a position are merged before they get there; but no setting
is read from a list, so lists are taken for equal. With that everything said about layers is said
about all their orders.

## Main definitions

* `Value.Reordered`: The same value, with the entries of its tables in another order.
* `Statement.SaidIn`: What some statements say is said by others.
* `Layer.Covers`: Values that are given are among others, or lists for lists.

## Theorems

* `saysAlike_of_reordered`: Reordering keeps what is said.
* `Undisturbed.reordered`: What no source takes away in one order is taken away in none.
* `topmost_reordered`: In every order the topmost source gives the same values.
-/

namespace Colloquy

namespace Saying.Alike

variable {value other third : Value}

theorem symm (h : Alike value other) : Alike other value :=
  h.imp Eq.symm And.symm

theorem trans (h : Alike value other) (h' : Alike other third) : Alike value third := by
  rcases h with rfl | ⟨hvalue, hother⟩
  · exact h'
  · rcases h' with rfl | ⟨-, hthird⟩
    · exact .inr ⟨hvalue, hother⟩
    · exact .inr ⟨hvalue, hthird⟩

theorem isList_eq (h : Alike value other) : value.isList = other.isList := by
  rcases h with rfl | ⟨hvalue, hother⟩
  · rfl
  · rw [hvalue, hother]

theorem isTable_eq (h : Alike value other) : value.isTable = other.isTable := by
  rcases h with rfl | ⟨hvalue, hother⟩
  · rfl
  · rw [Value.isTable_of_isList hvalue, Value.isTable_of_isList hother]

end Saying.Alike

namespace Statement

/-- Two statements say the same about one place, or both put a list there. -/
def Alike (statement other : Statement) : Prop :=
  statement.path = other.path ∧ Saying.Alike statement.saying.alone other.saying.alone

/-- What some statements say is said by others. -/
def SaidIn (statements others : List Statement) : Prop :=
  ∀ statement ∈ statements, ∃ other ∈ others, statement.Alike other

variable {statements others third more moreOthers : List Statement}

theorem SaidIn.of_subset (h : statements ⊆ others) : SaidIn statements others :=
  fun statement hmem => ⟨statement, h hmem, rfl, .inl rfl⟩

theorem SaidIn.refl (statements : List Statement) : SaidIn statements statements :=
  .of_subset (List.Subset.refl _)

/-- One statement says what another one says. -/
theorem SaidIn.single {statement other : Statement} (hpath : statement.path = other.path)
    (halike : Saying.Alike statement.saying.alone other.saying.alone) :
    SaidIn [statement] [other] := by
  intro found hfound
  rw [List.mem_singleton.mp hfound]
  exact ⟨other, List.mem_singleton_self _, hpath, halike⟩

theorem SaidIn.trans (h : SaidIn statements others) (h' : SaidIn others third) :
    SaidIn statements third := by
  intro statement hmem
  rcases h statement hmem with ⟨other, hother, hplace, halike⟩
  rcases h' other hother with ⟨last, hlast, hplace', halike'⟩
  exact ⟨last, hlast, hplace.trans hplace', halike.trans halike'⟩

theorem SaidIn.append (h : SaidIn statements others) (h' : SaidIn more moreOthers) :
    SaidIn (statements ++ more) (others ++ moreOthers) := by
  intro statement hmem
  rcases List.mem_append.mp hmem with hmem | hmem
  · rcases h statement hmem with ⟨other, hother, halike⟩
    exact ⟨other, List.mem_append_left _ hother, halike⟩
  · rcases h' statement hmem with ⟨other, hother, halike⟩
    exact ⟨other, List.mem_append_right _ hother, halike⟩

theorem SaidIn.below (h : SaidIn statements others) (name : String) :
    SaidIn (statements.map (Statement.below name)) (others.map (Statement.below name)) := by
  intro statement hmem
  rcases List.mem_map.mp hmem with ⟨inner, hinner, rfl⟩
  rcases h inner hinner with ⟨other, hother, hplace, halike⟩
  exact ⟨_, List.mem_map_of_mem hother, congrArg (name :: ·) hplace, halike⟩

end Statement

open Statement

/-- A table that says what another one says does so under a name too. -/
theorem saidIn_entryStatements {entries others : List (String × Value)}
    (hempty : entries.isEmpty = others.isEmpty)
    (h : SaidIn (tableStatements entries) (tableStatements others)) (name : String) :
    SaidIn (entryStatements name (.table entries)) (entryStatements name (.table others)) := by
  rw [entryStatements, entryStatements, hempty]
  split
  · exact .refl _
  · exact h.below _

namespace Value

/-- The same value, with the entries of the tables in it in another order. -/
inductive Reordered : Value → Value → Prop where
  | refl (value : Value) : Reordered value value
  | trans {first second third : Value} (h : Reordered first second) (h' : Reordered second third) :
      Reordered first third
  | swap (first second : String × Value) (rest : List (String × Value)) :
      Reordered (.table (first :: second :: rest)) (.table (second :: first :: rest))
  | entry (name : String) {value other : Value} (h : Reordered value other)
      (rest : List (String × Value)) :
      Reordered (.table ((name, value) :: rest)) (.table ((name, other) :: rest))
  | laterEntries (entry : String × Value) {rest other : List (String × Value)}
      (h : Reordered (.table rest) (.table other)) :
      Reordered (.table (entry :: rest)) (.table (entry :: other))
  | item {value other : Value} (h : Reordered value other) (rest : List Value) :
      Reordered (.list (value :: rest)) (.list (other :: rest))
  | laterItems (value : Value) {rest other : List Value}
      (h : Reordered (.list rest) (.list other)) :
      Reordered (.list (value :: rest)) (.list (value :: other))

variable {value other third : Value}

theorem Reordered.symm (h : Reordered value other) : Reordered other value := by
  induction h with
  | refl value => exact .refl value
  | trans _ _ ih ih' => exact .trans ih' ih
  | swap first second rest => exact .swap second first rest
  | entry name _ rest ih => exact .entry name ih rest
  | laterEntries entry _ ih => exact .laterEntries entry ih
  | item _ rest ih => exact .item ih rest
  | laterItems value _ ih => exact .laterItems value ih

/-- A value says what another one says: as a table or a source of settings, under a name, and at a
    path. -/
structure SaysAlike (value other : Value) : Prop where
  isEmpty : value.entries.isEmpty = other.entries.isEmpty
  table : SaidIn (tableStatements value.entries) (tableStatements other.entries)
  source : SaidIn (statements value.entries) (statements other.entries)
  entry : ∀ name, SaidIn (entryStatements name value) (entryStatements name other)
  path : ∀ place : KeyPath, SaidIn (place.statements value) (place.statements other)

theorem SaysAlike.refl (value : Value) : SaysAlike value value where
  isEmpty := rfl
  table := .refl _
  source := .refl _
  entry _ := .refl _
  path _ := .refl _

theorem SaysAlike.trans (h : SaysAlike value other) (h' : SaysAlike other third) :
    SaysAlike value third where
  isEmpty := h.isEmpty.trans h'.isEmpty
  table := h.table.trans h'.table
  source := h.source.trans h'.source
  entry name := (h.entry name).trans (h'.entry name)
  path place := (h.path place).trans (h'.path place)

/-- What is said by giving a value to a path rests on what is said by giving it to a name. -/
theorem saidIn_pathStatements
    (hwhole : Saying.Alike (Saying.ofValue value).alone (Saying.ofValue other).alone)
    (hentry : ∀ name, SaidIn (entryStatements name value) (entryStatements name other))
    (place : KeyPath) : SaidIn (place.statements value) (place.statements other) := by
  induction place with
  | nil => exact .single rfl hwhole
  | cons step rest ih =>
      cases step with
      | position position =>
          -- A position makes a list of whatever is put there.
          exact .single rfl (.inr ⟨Saying.isList_item .., Saying.isList_item ..⟩)
      | name name =>
          cases rest with
          | nil => exact hentry name
          | cons next rest => exact ih.below _

/-- Tables say alike if their entries do. -/
theorem SaysAlike.of_entries {entries others : List (String × Value)}
    (hempty : entries.isEmpty = others.isEmpty)
    (htable : SaidIn (tableStatements entries) (tableStatements others))
    (hsource : SaidIn (statements entries) (statements others)) :
    SaysAlike (.table entries) (.table others) where
  isEmpty := hempty
  table := htable
  source := hsource
  entry := saidIn_entryStatements hempty htable
  path := saidIn_pathStatements (.inl rfl) (saidIn_entryStatements hempty htable)

/-- Lists are taken for equal. -/
theorem SaysAlike.of_lists (items others : List Value) :
    SaysAlike (.list items) (.list others) :=
  have hentry (name : String) :
      SaidIn (entryStatements name (.list items)) (entryStatements name (.list others)) :=
    .single rfl (.inr ⟨rfl, rfl⟩)
  { isEmpty := rfl
    table := .refl _
    source := .refl _
    entry := hentry
    path := saidIn_pathStatements (.inr ⟨rfl, rfl⟩) hentry }

/-- Reordering keeps what is said. By induction on the steps of reordering: a swap exchanges the
    statements of two entries, and any other step goes into one entry. -/
theorem saysAlike_of_reordered (h : Reordered value other) : SaysAlike value other := by
  induction h with
  | refl value => exact .refl value
  | trans _ _ ih ih' => exact ih.trans ih'
  | swap first second rest =>
      -- What is said stays, though it is said in another order.
      refine .of_entries rfl ?_ ?_
      · simp only [tableStatements, ← List.append_assoc]
        exact .of_subset (List.perm_append_comm.append_right _).subset
      · simp only [statements, List.flatMap_cons, ← List.append_assoc]
        exact .of_subset (List.perm_append_comm.append_right _).subset
  | entry name _ rest ih =>
      refine .of_entries rfl ?_ ?_
      · -- In a table the name is one name, and in a source it may be a path.
        exact (ih.entry name).append (.refl _)
      · exact (ih.path _).append (.refl _)
  | laterEntries entry _ ih =>
      refine .of_entries rfl ?_ ?_
      · exact (SaidIn.refl (entryStatements entry.1 entry.2)).append ih.table
      · exact (SaidIn.refl ((KeyPath.ofText entry.1).statements entry.2)).append ih.source
  | item => exact .of_lists _ _
  | laterItems => exact .of_lists _ _

end Value

namespace Layer

/-- The same source, with its entries and those of the tables in it in another order. -/
abbrev Reordered (layer other : Layer) : Prop := Value.Reordered (.table layer) (.table other)

variable {layer other : Layer} {layers ordered : List Layer} {path : List String} {value : Value}

/-- What is said in one order is said in another one. -/
theorem saidIn_of_reordered (h : Reordered layer other) :
    SaidIn (statements layer) (statements other) :=
  (Value.saysAlike_of_reordered h).source

theorem HasTable.reordered (h : Reordered layer other) (htable : layer.HasTable path) :
    other.HasTable path := by
  rcases htable with ⟨statement, hmem, hbelow⟩
  rcases saidIn_of_reordered h statement hmem with ⟨found, hfound, hplace, -⟩
  exact ⟨found, hfound, hplace ▸ hbelow⟩

theorem PutsValue.reordered (h : Reordered layer other) (hvalue : layer.PutsValue path) :
    other.PutsValue path := by
  rcases hvalue with ⟨statement, hmem, hplace, hvalue⟩
  rcases saidIn_of_reordered h statement hmem with ⟨found, hfound, hplace', halike⟩
  exact ⟨found, hfound, hplace'.symm.trans hplace, halike.isTable_eq ▸ hvalue⟩

/-- A value that is given in one order is given in another one. -/
theorem exists_mem_valuesAt (h : Reordered layer other) (hvalue : value ∈ layer.valuesAt path) :
    ∃ given ∈ other.valuesAt path, Saying.Alike value given := by
  rcases mem_valuesAt.mp hvalue with ⟨statement, hmem, ⟨hplace, htable⟩, rfl⟩
  rcases saidIn_of_reordered h statement hmem with ⟨found, hfound, hplace', halike⟩
  have hplace : found.path = path := hplace'.symm.trans hplace
  exact ⟨_, mem_valuesAt.mpr ⟨found, hfound, ⟨hplace, halike.isTable_eq ▸ htable⟩, rfl⟩, halike⟩

theorem valuesAt_eq_nil_iff_of_reordered (h : Reordered layer other) :
    layer.valuesAt path = [] ↔ other.valuesAt path = [] := by
  rw [valuesAt_eq_nil_iff, valuesAt_eq_nil_iff, not_iff_not]
  exact ⟨.reordered h, .reordered h.symm⟩

/-- Every source is one of the given ones in another order. -/
theorem exists_reordered (h : List.Forall₂ Reordered layers ordered) :
    ∀ other ∈ ordered, ∃ layer ∈ layers, Reordered other layer := by
  induction h with
  | nil => exact nofun
  | @cons layer _ _ _ h _ ih =>
      intro found hfound
      rcases List.mem_cons.mp hfound with rfl | hfound
      · exact ⟨layer, List.mem_cons_self, h.symm⟩
      · rcases ih found hfound with ⟨layer, hlayer, hsame⟩
        exact ⟨layer, List.mem_cons_of_mem _ hlayer, hsame⟩

/-- Whether a value is taken away does not depend on the order of entries. -/
theorem Undisturbed.reordered (h : Undisturbed layers path)
    (hordered : List.Forall₂ Reordered layers ordered) : Undisturbed ordered path := by
  intro giver hgiver layer hlayer hgiven statement hmem hbears
  rcases exists_reordered hordered giver hgiver with ⟨given, hgivenMem, hsame⟩
  rcases exists_reordered hordered layer hlayer with ⟨other, hother, hsame'⟩
  rcases saidIn_of_reordered hsame' statement hmem with ⟨found, hfound, hplace, halike⟩
  rw [hplace]
  refine h given hgivenMem other hother (hgiven.reordered hsame) found hfound ?_
  rwa [Statement.Bears, ← hplace, ← halike.isTable_eq]

/-- Values that are given are among others, or lists for lists, and there are none only if there are
    no others. -/
def Covers (others given : List Value) : Prop :=
  (others = [] ↔ given = []) ∧ ∀ value ∈ given, ∃ other ∈ others, Saying.Alike value other

/-- A source in another order over the same values gives the same values. -/
theorem covers_valuesOver {others given : List Value} (hbelow : Covers others given)
    (h : Reordered layer other) :
    Covers (valuesOver path others layer) (valuesOver path given other) := by
  have hsilent : layer.valuesAt path = [] ↔ other.valuesAt path = [] :=
    valuesAt_eq_nil_iff_of_reordered h
  by_cases hnone : layer.valuesAt path = []
  · -- A source is silent in every order or in none.
    rw [valuesOver, valuesOver, if_pos hnone, if_pos (hsilent.mp hnone)]
    exact hbelow
  · rw [valuesOver, valuesOver, if_neg hnone, if_neg (mt hsilent.mpr hnone)]
    exact ⟨hsilent, fun value => exists_mem_valuesAt h.symm⟩

/-- In every order the topmost source gives the same values. -/
theorem topmost_reordered (h : List.Forall₂ Reordered layers ordered) (path : List String) :
    Covers (topmost layers path) (topmost ordered path) :=
  List.rel_foldl (P := Covers) (R := Reordered)
    (fun _ _ hbelow _ _ h => covers_valuesOver hbelow h) ⟨Iff.rfl, List.forall_mem_nil _⟩ h

end Layer

end Colloquy
