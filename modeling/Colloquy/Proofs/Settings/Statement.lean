import Colloquy.Proofs.Settings.Place
import Colloquy.Settings.KeyPath
import Mathlib.Data.List.Induction

/-!
# Settings as Statements About Places

A source of settings is a table in tables, and it is laid over what is there in a recursion over
tables. What it does to one setting is easier to see from another side. A source is a list of
statements, each about one place, and the statements are carried out one after the other: at its
place a statement puts a value, or a table if nothing is there, and whatever lies across the way to
the place gives way. Both views come to the same, and in the second one a place can be followed
alone: the last statement with a say in it decides, and that is one about the place itself, or one
that puts a value above it, or one about something below it.

A statement whose path goes into a list is one about the list. What it makes of the list depends on
what the list was, but that it makes a list does not.

## Main definitions

* `Saying`, `Statement`: What is said, and about which place.
* `statements`: The statements of a source.
* `Statement.Bears`: A statement has a say in what value stands at a place.
* `Statement.lastBearing?`: The last of several statements with such a say.

## Theorems

* `carryOut_statements`: A source is laid over settings by carrying out its statements.
* `valueAt?_apply_self`, `valueAt?_apply_clear`, `valueAt?_apply_of_not_bears`: What a statement
  does to the value at a place.
* `valueAt?_carryOut_of_some`: The last statement with a say decides.
-/

namespace Colloquy

/-- What is said about a place: that there is a table, that there is a value which is no table, or
    that a list there has something at a position. -/
inductive Saying where
  | emptyTable
  | plain (value : Value) (h : value.isTable = false)
  | item (position : Int) (rest : KeyPath) (value : Value)

namespace Saying

/-- What a value says that is not looked into. -/
def ofValue (value : Value) : Saying :=
  if h : value.isTable = false then .plain value h else .emptyTable

/-- What comes of something that may be there. A table that is empty changes nothing. -/
def effect : Saying → Option Value → Value
  | .emptyTable, present => present.getD (.table [])
  | .plain value _, _ => value
  | .item position rest value, present =>
    Value.assign (.position position :: rest) value (present.getD .nothing)

/-- What is said, by itself. -/
def alone (saying : Saying) : Value := saying.effect none

/-- Two values are the same, or both are lists. -/
def Alike (value other : Value) : Prop :=
  value = other ∨ value.isList = true ∧ other.isList = true

theorem isList_item (position : Int) (rest : KeyPath) (value : Value) (present : Option Value) :
    ((item position rest value).effect present).isList = true := by
  simp only [effect, Value.assign]
  rfl

/-- What comes of a place is what was said about it, but for the items of a list. -/
theorem alike_effect {saying : Saying} (h : saying.alone.isTable = false)
    (present : Option Value) :
    Alike saying.alone (saying.effect present) ∧ (saying.effect present).isTable = false := by
  cases saying with
  | emptyTable => exact absurd h (by decide)
  | plain value hvalue => exact ⟨.inl rfl, hvalue⟩
  | item position rest value =>
      have hlist := isList_item position rest value present
      exact ⟨.inr ⟨isList_item position rest value none, hlist⟩, Value.isTable_of_isList hlist⟩

theorem tidy_effect (saying : Saying) {present : Option Value}
    (h : ∀ value ∈ present, Value.Tidy value) : Value.Tidy (saying.effect present) := by
  cases saying with
  | emptyTable =>
      cases present with
      | none => exact .table .nil nofun
      | some value => exact h value rfl
  | plain value hvalue => exact .plain hvalue
  | item position rest value =>
      exact .plain (Value.isTable_of_isList (isList_item position rest value present))

theorem eq_emptyTable {saying : Saying} (h : saying.alone.isTable = true) :
    saying = .emptyTable := by
  cases saying with
  | emptyTable => rfl
  | plain value hvalue => exact absurd h (by rw [alone, effect, hvalue]; decide)
  | item position rest value =>
      have hvalue := Value.isTable_of_isList (isList_item position rest value none)
      exact absurd h (by rw [alone, hvalue]; decide)

end Saying

/-- What is said about one place. -/
structure Statement where
  path : List String
  saying : Saying

namespace Statement

/-- A statement about what a table holds under a name. -/
def below (name : String) (statement : Statement) : Statement :=
  ⟨name :: statement.path, statement.saying⟩

/-- What comes of something that may be there. -/
def apply (statement : Statement) (present : Option Value) : Value :=
  Value.change statement.path statement.saying.effect present

/-- Statements carried out one after the other. -/
def carryOut (statements : List Statement) (present : Option Value) : Option Value :=
  statements.foldl (fun present statement => some (statement.apply present)) present

theorem carryOut_append (first second : List Statement) (present : Option Value) :
    carryOut (first ++ second) present = carryOut second (carryOut first present) :=
  List.foldl_append

theorem carryOut_concat (statements : List Statement) (last : Statement) (present : Option Value) :
    carryOut (statements ++ [last]) present = some (last.apply (carryOut statements present)) :=
  carryOut_append statements [last] present

/-- Names stay distinct. -/
theorem tidy_carryOut (statements : List Statement) {present : Option Value}
    (h : ∀ value ∈ present, Value.Tidy value) :
    ∀ value ∈ carryOut statements present, Value.Tidy value := by
  induction statements generalizing present with
  | nil => exact h
  | cons statement rest ih =>
      refine ih fun value hvalue => ?_
      cases hvalue
      exact Value.tidy_change (fun _ => Saying.tidy_effect statement.saying) h

/-- Statements about what stands under one name change the entry of that name. -/
theorem carryOut_below (name : String) {statements : List Statement} (hne : statements ≠ [])
    (present : Option Value) :
    carryOut (statements.map (below name)) present =
      (carryOut statements (entryAt? (Value.entriesOf present) name)).map
        fun value => .table (putEntry (Value.entriesOf present) name value) := by
  induction statements using List.reverseRecOn with
  | nil => exact absurd rfl hne
  | append_singleton statements last ih =>
      rw [List.map_append, List.map_singleton, carryOut_concat, carryOut_concat]
      by_cases hempty : statements = []
      · subst hempty
        rfl
      · rw [ih hempty]
        rcases hdone : carryOut statements (entryAt? (Value.entriesOf present) name) with _ | value
        · -- Something has come of the statements, since there are some.
          rcases List.eq_nil_or_concat statements with hnil | ⟨front, final, rfl⟩
          · exact absurd hnil hempty
          · rw [List.concat_eq_append, carryOut_concat] at hdone
            cases hdone
        · -- The last statement finds what the others have left under the name.
          show some (Value.table (putEntry (putEntry _ _ _) _
            (last.apply (entryAt? (putEntry _ _ _) _)))) = _
          rw [entryAt?_putEntry_self, putEntry_putEntry]
          rfl

end Statement

open Statement

mutual

/-- The statements of one entry of a table. -/
def entryStatements (name : String) (value : Value) : List Statement :=
  match value with
  | .table inner =>
    -- A table with nothing in it still says that there is one.
    if inner.isEmpty then [⟨[lowercase name], .emptyTable⟩]
    else (tableStatements inner).map (below (lowercase name))
  | value => [⟨[lowercase name], .ofValue value⟩]

/-- The statements of the entries of a table. -/
def tableStatements (entries : List (String × Value)) : List Statement :=
  match entries with
  | [] => []
  | (name, value) :: rest => entryStatements name value ++ tableStatements rest

end

/-- The statements that are made by giving a value to a path. -/
def KeyPath.statements : KeyPath → Value → List Statement
  | [], value => [⟨[], .ofValue value⟩]
  | [.name name], value => entryStatements name value
  | .name name :: rest, value => (statements rest value).map (below (lowercase name))
  -- What comes after a position is a matter of the list.
  | .position position :: rest, value => [⟨[], .item position rest value⟩]

/-- The statements of a source. -/
def statements (source : List (String × Value)) : List Statement :=
  source.flatMap fun entry => (KeyPath.ofText entry.1).statements entry.2

theorem entryStatements_ne_nil : ∀ (name : String) (value : Value), entryStatements name value ≠ []
  | _, .table [] => by simp [entryStatements]
  | name, .table ((first, value) :: rest) => by
      simp [entryStatements, tableStatements, entryStatements_ne_nil first value]
  | _, .nothing => by simp [entryStatements]
  | _, .boolean _ => by simp [entryStatements]
  | _, .integer _ => by simp [entryStatements]
  | _, .fraction _ => by simp [entryStatements]
  | _, .text _ => by simp [entryStatements]
  | _, .list _ => by simp [entryStatements]

mutual

/-- Laying an entry over a table is carrying out its statements. -/
theorem carryOut_entryStatements (name : String) (value : Value) (present : Option Value) :
    carryOut (entryStatements name value) present =
      some (.table (mergeEntry name value (Value.entriesOf present))) := by
  match value with
  | .nothing | .boolean _ | .integer _ | .fraction _ | .text _ | .list _ => rfl
  | .table [] =>
      show some (Value.table (putEntry _ _ ((entryAt? _ _).getD (.table [])))) = _
      rw [mergeEntry]
      -- An empty table is put where nothing is, and otherwise what is there is put back.
      cases hthere : entryAt? (Value.entriesOf present) (lowercase name) with
      | none => simp [mergeEntries]
      | some there => simp [putEntry_of_entryAt? hthere]
  | .table (first :: rest) =>
      have hinner := carryOut_tableStatements (first :: rest) (List.cons_ne_nil first rest)
        (entryAt? (Value.entriesOf present) (lowercase name))
      have hsome : tableStatements (first :: rest) ≠ [] := fun hnil =>
        entryStatements_ne_nil _ _ (List.append_eq_nil_iff.mp hnil).1
      rw [entryStatements, if_neg (by simp), carryOut_below _ hsome, hinner, mergeEntry]
      cases entryAt? (Value.entriesOf present) (lowercase name) <;> rfl

/-- Laying entries over a table is carrying out their statements. -/
theorem carryOut_tableStatements (entries : List (String × Value)) (hne : entries ≠ [])
    (present : Option Value) :
    carryOut (tableStatements entries) present =
      some (.table (mergeEntries entries (Value.entriesOf present))) := by
  match entries with
  | [] => exact absurd rfl hne
  | (name, value) :: rest =>
      rw [tableStatements, carryOut_append, carryOut_entryStatements name value, mergeEntries]
      -- After the first entry there is a table, so the others find one whatever was there.
      match rest with
      | [] => rw [mergeEntries]; rfl
      | second :: rest => exact carryOut_tableStatements (second :: rest) (by simp) _

end

/-- Giving a value to a path is carrying out the statements of that. -/
theorem carryOut_pathStatements {path : KeyPath} (hne : path ≠ []) (value : Value)
    (present : Option Value) :
    carryOut (path.statements value) present =
      some (Value.assign path value (present.getD .nothing)) := by
  induction path generalizing present with
  | nil => exact absurd rfl hne
  | cons step rest ih =>
      cases step with
      | position position => rw [KeyPath.statements]; rfl
      | name name =>
          cases rest with
          | nil =>
              rw [KeyPath.statements, carryOut_entryStatements, Value.assign,
                Value.entries_getD]
          | cons next rest =>
              -- What is said below the name is more than nothing, for something comes of it.
              have hsome : KeyPath.statements (next :: rest) value ≠ [] := by
                intro hnil
                have hdone := ih (List.cons_ne_nil next rest) none
                rw [hnil] at hdone
                cases hdone
              rw [KeyPath.statements, carryOut_below _ hsome, ih (List.cons_ne_nil next rest),
                Value.assign, Value.entries_getD]
              · rfl
              all_goals nofun

/-- A path starts with a name. -/
theorem KeyPath.ofText_eq_cons (name : String) :
    ∃ first rest, KeyPath.ofText name = .name first :: rest := by
  unfold KeyPath.ofText
  simp only []
  split <;> exact ⟨_, _, rfl⟩

/-- A source is laid over settings by carrying out its statements. -/
theorem carryOut_statements (source : List (String × Value)) (settings : Value) :
    carryOut (statements source) (some settings) = some (settings.overlay source) := by
  induction source generalizing settings with
  | nil => rfl
  | cons entry rest ih =>
      -- A name that is no path stands for itself, so there is always a first step.
      have hne : KeyPath.ofText entry.1 ≠ [] := by
        rcases KeyPath.ofText_eq_cons entry.1 with ⟨first, steps, hpath⟩
        rw [hpath]
        exact List.cons_ne_nil _ _
      rw [statements, List.flatMap_cons, carryOut_append, carryOut_pathStatements hne]
      exact ih _

/-- So are several sources, one after the other. -/
theorem carryOut_flatMap (sources : List (List (String × Value))) (settings : Value) :
    carryOut (sources.flatMap statements) (some settings) =
      some (sources.foldl Value.overlay settings) := by
  induction sources generalizing settings with
  | nil => rfl
  | cons source rest ih =>
      rw [List.flatMap_cons, carryOut_append, carryOut_statements]
      exact ih _

namespace Statement

variable {statement : Statement} {path : List String}

/-- A statement has a say in what value stands at a place: it puts a value there or above, or it is
    about something below. -/
def Bears (path : List String) (statement : Statement) : Prop :=
  statement.path <+: path ∧ statement.saying.alone.isTable = false ∨
    path <+: statement.path ∧ path ≠ statement.path

instance (path : List String) : DecidablePred (Bears path) :=
  fun _ => inferInstanceAs (Decidable (_ ∨ _))

/-- A value that is put somewhere stands there. -/
theorem valueAt?_apply_self (h : statement.saying.alone.isTable = false)
    (present : Option Value) :
    ∃ value, Value.valueAt? statement.path (some (statement.apply present)) = some value ∧
      Saying.Alike statement.saying.alone value := by
  have hplace := Value.at?_change_append statement.saying.effect statement.path [] present
  rw [List.append_nil] at hplace
  have heffect := Saying.alike_effect h (Value.at? statement.path present)
  refine ⟨_, ?_, heffect.1⟩
  rw [Value.valueAt?, apply, hplace]
  exact Option.filter_eq_some_iff.mpr ⟨rfl, by rw [heffect.2]; rfl⟩

/-- Where something else was said about a place above or below, no value is left. -/
theorem valueAt?_apply_clear (h : statement.Bears path) (hne : statement.path ≠ path)
    (present : Option Value) : Value.valueAt? path (some (statement.apply present)) = none := by
  rw [Value.valueAt?, apply]
  rcases h with ⟨⟨rest, rfl⟩, hvalue⟩ | ⟨⟨rest, hrest⟩, -⟩
  · cases rest with
    | nil => exact absurd (List.append_nil _).symm hne
    | cons name rest =>
        -- The value is above the place, and below a value there is nothing.
        have heffect := Saying.alike_effect hvalue (Value.at? statement.path present)
        rw [Value.at?_change_append, Value.at?_below_value heffect.2]
        rfl
  · cases rest with
    | nil => exact absurd (by rw [← hrest, List.append_nil]) hne
    | cons next rest =>
        -- Something is put below the place, so there is a table in the place itself.
        rcases Value.at?_change_above statement.saying.effect path next rest present
          with ⟨entries, htable⟩
        rw [← hrest, htable]
        rfl

/-- A statement that has no say leaves the value at a place as it was. -/
theorem valueAt?_apply_of_not_bears (h : ¬ statement.Bears path) (present : Option Value) :
    Value.valueAt? path (some (statement.apply present)) = Value.valueAt? path present := by
  rw [Bears, not_or, not_and, not_and_not_right] at h
  rw [Value.valueAt?, Value.valueAt?, apply]
  by_cases hbelow : statement.path <+: path
  · -- An empty table is said to be at the place or above it, and that changes no value.
    have hempty := Saying.eq_emptyTable (Bool.not_eq_false _ |>.mp (h.1 hbelow))
    rcases hbelow with ⟨rest, rfl⟩
    rw [Value.at?_change_append, Value.at?_append, hempty]
    cases Value.at? statement.path present with
    | some value => rfl
    | none =>
        cases rest with
        | nil => rfl
        | cons name rest =>
            show Option.filter _ (Value.at? rest none) = _
            rw [Value.at?_none, Value.at?_none]
  · by_cases habove : path <+: statement.path
    · exact absurd (h.2 habove ▸ List.prefix_refl _) hbelow
    · rw [Value.at?_change_beside _ hbelow habove]

/-- The last of several statements that has a say in what value stands at a place. -/
def lastBearing? (statements : List Statement) (path : List String) : Option Statement :=
  statements.reverse.find? fun statement => statement.Bears path

theorem lastBearing?_concat (statements : List Statement) (last : Statement) (path : List String) :
    lastBearing? (statements ++ [last]) path =
      if last.Bears path then some last else lastBearing? statements path := by
  rw [lastBearing?, List.reverse_append, List.reverse_singleton, List.singleton_append,
    List.find?_cons, lastBearing?]
  by_cases h : last.Bears path <;> simp [h]

theorem mem_of_lastBearing? {statements : List Statement}
    (h : lastBearing? statements path = some statement) :
    statement ∈ statements ∧ statement.Bears path := by
  have hbears := List.find?_some h
  exact ⟨List.mem_reverse.mp (List.mem_of_find?_eq_some h), of_decide_eq_true hbears⟩

/-- A place about which nothing is said keeps its value. -/
theorem valueAt?_carryOut_of_none {statements : List Statement}
    (h : lastBearing? statements path = none) (present : Option Value) :
    Value.valueAt? path (carryOut statements present) = Value.valueAt? path present := by
  induction statements using List.reverseRecOn with
  | nil => rfl
  | append_singleton statements last ih =>
      rw [lastBearing?_concat] at h
      by_cases hlast : last.Bears path
      · rw [if_pos hlast] at h
        cases h
      · rw [if_neg hlast] at h
        -- The last statement changes nothing here, and neither do the ones before it.
        rw [carryOut_concat, valueAt?_apply_of_not_bears hlast, ih h]

/-- The last statement with a say decides what value stands at a place. By induction from the back,
    for the statements behind the last one with a say leave the value as it is. -/
theorem valueAt?_carryOut_of_some {statements : List Statement} {last : Statement}
    (h : lastBearing? statements path = some last) (present : Option Value) :
    if last.path = path then
      ∃ value, Value.valueAt? path (carryOut statements present) = some value ∧
        Saying.Alike last.saying.alone value
    else Value.valueAt? path (carryOut statements present) = none := by
  induction statements using List.reverseRecOn with
  | nil => cases h
  | append_singleton statements final ih =>
      rw [lastBearing?_concat] at h
      rw [carryOut_concat]
      -- The last statement of all decides if it has a say, and otherwise one before it.
      by_cases hfinal : final.Bears path
      · rw [if_pos hfinal] at h
        cases h
        split
        · rename_i heq
          subst heq
          rcases hfinal with ⟨-, hvalue⟩ | ⟨-, hne⟩
          · exact valueAt?_apply_self hvalue _
          · exact absurd rfl hne
        · exact valueAt?_apply_clear hfinal ‹_› _
      · rw [if_neg hfinal] at h
        rw [valueAt?_apply_of_not_bears hfinal]
        exact ih h

end Statement

end Colloquy
