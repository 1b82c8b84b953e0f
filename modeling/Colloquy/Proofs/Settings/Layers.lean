import Colloquy.Proofs.Settings.Statement

/-!
# Layers of Settings

Several sources are laid over one another, and the value at a place is one that the topmost source
gives to it which gives one at all. This is so only if no source takes away what was given. A value
in place of a table takes away everything in the table, and a table in place of a value takes away
the value; so the sources have to agree on where there are tables. A source can also disagree with
itself, by names that differ in case or by a path beside an entry, but this does harm only where it
gives a value.

In the same way a source may give several values to one place. It is one of them then. Which one
depends on the order in which the entries of the source are gone through, and an order is nothing
that a source has. Everything here is therefore said of the statements of a source and of none in
particular.

## Main definitions

* `Layer`, `Layer.valuesAt`: A source, and the values that it gives to a place.
* `Layer.HasTable`, `Layer.PutsValue`, `Layer.Agree`: Sources agree on where there are tables.
* `Layer.Spares`, `Layer.Coherent`: A source takes away no value that another one gives to a place,
  or no value of its own.
* `Layer.topmost`: The values that the topmost of several sources gives to a place.

## Theorems

* `undisturbed_of_agree`: Sources that agree take nothing away from one another.
* `topmost_alike`: The value at a place is one of the topmost.
-/

namespace Colloquy

/-- The entries of one source of settings. -/
abbrev Layer := List (String × Value)

namespace Layer

/-- A source is about something in a table at a place. -/
def HasTable (layer : Layer) (path : List String) : Prop :=
  ∃ statement ∈ statements layer, path <+: statement.path ∧ path ≠ statement.path

/-- A source puts a value at a place that is no table. -/
def PutsValue (layer : Layer) (path : List String) : Prop :=
  ∃ statement ∈ statements layer,
    statement.path = path ∧ statement.saying.alone.isTable = false

/-- The values that a source gives to a place. -/
def valuesAt (layer : Layer) (path : List String) : List Value :=
  ((statements layer).filter fun statement =>
    statement.path = path ∧ statement.saying.alone.isTable = false).map (·.saying.alone)

instance (layer : Layer) : DecidablePred layer.HasTable :=
  fun _ => inferInstanceAs (Decidable (∃ statement ∈ statements layer, _))

instance (layer : Layer) : DecidablePred layer.PutsValue :=
  fun _ => inferInstanceAs (Decidable (∃ statement ∈ statements layer, _))

/-- No source puts a value that is no table where another one has a table. -/
def Agree (layers : List Layer) : Prop :=
  layers.Pairwise fun first second => ∀ path,
    ¬ (first.HasTable path ∧ second.PutsValue path) ∧
      ¬ (second.HasTable path ∧ first.PutsValue path)

/-- Only the places where a source puts values have to be looked at. -/
theorem forall_not_iff (first second : Layer) :
    (∀ path, ¬ (first.HasTable path ∧ second.PutsValue path)) ↔
      ∀ statement ∈ statements second, statement.saying.alone.isTable = false →
        ¬ first.HasTable statement.path := by
  constructor
  · exact fun h statement hmem hvalue htable =>
      h statement.path ⟨htable, statement, hmem, rfl, hvalue⟩
  · rintro h path ⟨htable, statement, hmem, rfl, hvalue⟩
    exact h statement hmem hvalue htable

instance : DecidablePred Agree := fun layers =>
  decidable_of_iff
    (layers.Pairwise fun (first second : Layer) =>
      (∀ statement ∈ statements second, statement.saying.alone.isTable = false →
        ¬ first.HasTable statement.path) ∧
      ∀ statement ∈ statements first, statement.saying.alone.isTable = false →
        ¬ second.HasTable statement.path)
    (by simp only [Agree, forall_and, forall_not_iff])

/-- If a source gives a value to a place, then another one does not take it away. -/
def Spares (layer giver : Layer) (path : List String) : Prop :=
  giver.PutsValue path → ∀ statement ∈ statements layer, statement.Bears path →
    statement.path = path

instance (layer giver : Layer) (path : List String) : Decidable (layer.Spares giver path) :=
  inferInstanceAs (Decidable (_ → _))

/-- No source gives a value to a place and takes it away itself. -/
def Coherent (layers : List Layer) (path : List String) : Prop :=
  ∀ layer ∈ layers, layer.Spares layer path

instance (layers : List Layer) : DecidablePred (Coherent layers) :=
  fun path => inferInstanceAs (Decidable (∀ layer ∈ layers, layer.Spares layer path))

/-- No source takes away what one of them gives to a place. -/
def Undisturbed (layers : List Layer) (path : List String) : Prop :=
  ∀ giver ∈ layers, ∀ layer ∈ layers, layer.Spares giver path

/-- The values that a source gives to a place, or those from below if it gives none. -/
def valuesOver (path : List String) (below : List Value) (layer : Layer) : List Value :=
  if layer.valuesAt path = [] then below else layer.valuesAt path

/-- The values that the last of several sources gives to a place which gives any. -/
def topmost (layers : List Layer) (path : List String) : List Value :=
  layers.foldl (valuesOver path) []

/-- What comes of several sources, the first of them below all others. -/
def settled (layers : List Layer) : Value := layers.foldl Value.overlay (.table [])

variable {layer lower : Layer} {layers : List Layer} {path : List String} {value : Value}

theorem mem_valuesAt :
    value ∈ layer.valuesAt path ↔ ∃ statement ∈ statements layer,
      (statement.path = path ∧ statement.saying.alone.isTable = false) ∧
        statement.saying.alone = value := by
  simp only [valuesAt, List.mem_map, List.mem_filter, decide_eq_true_eq, and_assoc]

theorem valuesAt_eq_nil_iff : layer.valuesAt path = [] ↔ ¬ layer.PutsValue path := by
  rw [valuesAt, List.map_eq_nil_iff, List.filter_eq_nil_iff, PutsValue]
  simp only [decide_eq_true_eq, not_exists, not_and]

/-- What a statement about a place itself has a say about is a value there. -/
theorem mem_valuesAt_of_bears {statement : Statement} (hmem : statement ∈ statements layer)
    (hbears : statement.Bears path) (hplace : statement.path = path) :
    statement.saying.alone ∈ layer.valuesAt path := by
  rcases hbears with ⟨-, hvalue⟩ | ⟨-, hne⟩
  · exact mem_valuesAt.mpr ⟨statement, hmem, ⟨hplace, hvalue⟩, rfl⟩
  · exact absurd hplace.symm hne

/-- A source without a say about a place gives no value to it. -/
theorem valuesAt_eq_nil_of_lastBearing?
    (h : Statement.lastBearing? (statements layer) path = none) : layer.valuesAt path = [] := by
  rw [valuesAt_eq_nil_iff]
  rintro ⟨statement, hmem, hplace, hvalue⟩
  have hnone := List.find?_eq_none.mp h statement (List.mem_reverse.mpr hmem)
  exact hnone (decide_eq_true (.inl ⟨hplace ▸ List.prefix_rfl, hvalue⟩))

/-- A source that puts a value at a place has tables at all places above. -/
theorem PutsValue.hasTable (h : layer.PutsValue path) {above : List String}
    (habove : above <+: path) (hne : above ≠ path) : layer.HasTable above := by
  rcases h with ⟨statement, hmem, rfl, -⟩
  exact ⟨statement, hmem, habove, hne⟩

/-- A source that takes a value away disagrees with the one that gives it: there is a table of the
    giver where the other one puts a value, or the other way round. -/
theorem spares_of_agree (h : ∀ place, ¬ (lower.HasTable place ∧ layer.PutsValue place) ∧
    ¬ (layer.HasTable place ∧ lower.PutsValue place)) (path : List String) :
    layer.Spares lower path := by
  rintro hgiven statement hmem hbears
  by_contra hne
  rcases hbears with ⟨habove, hvalue⟩ | ⟨hbelow, hother⟩
  · exact (h statement.path).1 ⟨hgiven.hasTable habove hne, statement, hmem, rfl, hvalue⟩
  · exact (h path).2 ⟨⟨statement, hmem, hbelow, hother⟩, hgiven⟩

/-- Sources that agree take nothing away from one another, and coherent ones nothing from
    themselves. -/
theorem undisturbed_of_agree (h : Agree layers) (hself : Coherent layers path) :
    Undisturbed layers path := by
  -- Of two sources either one may be the upper one.
  have hupper : layers.Pairwise fun giver layer => layer.Spares giver path :=
    h.imp fun hplaces => spares_of_agree hplaces path
  have hlower : layers.Pairwise fun layer giver => layer.Spares giver path :=
    h.imp fun hplaces => spares_of_agree (fun place => (hplaces place).symm) path
  exact hupper.forall_of_forall_of_flip hself hlower

theorem topmost_concat (layers : List Layer) (layer : Layer) (path : List String) :
    topmost (layers ++ [layer]) path =
      if layer.valuesAt path = [] then topmost layers path else layer.valuesAt path := by
  rw [topmost, List.foldl_concat, ← topmost, valuesOver]

/-- A value that the topmost source gives is one that some source gives. -/
theorem exists_of_mem_topmost (h : value ∈ topmost layers path) :
    ∃ layer ∈ layers, value ∈ layer.valuesAt path := by
  induction layers using List.reverseRecOn with
  | nil => cases h
  | append_singleton layers layer ih =>
      rw [topmost_concat] at h
      split at h
      · rcases ih h with ⟨giver, hgiver, hvalue⟩
        exact ⟨giver, List.mem_append_left _ hgiver, hvalue⟩
      · exact ⟨layer, List.mem_append_right _ List.mem_cons_self, h⟩

/-- There is a topmost source unless no source gives a value at all. -/
theorem topmost_eq_nil_iff :
    topmost layers path = [] ↔ ∀ layer ∈ layers, ¬ layer.PutsValue path := by
  constructor
  · intro h
    induction layers using List.reverseRecOn with
    | nil => exact nofun
    | append_singleton layers layer ih =>
        rw [topmost_concat] at h
        split at h
        · -- The source on top gives nothing either, or there would be something.
          rename_i hnone
          intro other hother
          rcases List.mem_append.mp hother with hother | hother
          · exact ih h other hother
          · rw [List.mem_singleton.mp hother]
            exact valuesAt_eq_nil_iff.mp hnone
        · exact absurd h ‹_›
  · intro h
    refine List.eq_nil_iff_forall_not_mem.mpr fun value hvalue => ?_
    rcases exists_of_mem_topmost hvalue with ⟨layer, hlayer, hgiven⟩
    exact List.ne_nil_of_mem hgiven (valuesAt_eq_nil_iff.mpr (h layer hlayer))

/-- What comes of one more source on top. -/
theorem settled_concat (layers : List Layer) (layer : Layer) :
    some (settled (layers ++ [layer])) =
      Statement.carryOut (statements layer) (some (settled layers)) := by
  rw [carryOut_statements, settled, List.foldl_append]
  rfl

/-- Before anything is said there is no value anywhere. -/
theorem valueAt?_nothing (path : List String) :
    Value.valueAt? path (some (.table [])) = none := by
  cases path with
  | nil => rfl
  | cons name rest =>
      rw [Value.valueAt?, Value.at?]
      show Option.filter _ (Value.at? rest none) = none
      rw [Value.at?_none]
      rfl

/-- What is found is one of several values that are given, or one list for another; and nothing is
    found if none is given. -/
def Amongst (given : List Value) : Option Value → Prop
  | some found => ∃ value ∈ given, Saying.Alike value found
  | none => given = []

/-- The value at a place is one that the topmost source gives to it which gives any. By induction
    from the top: a source that is silent about the place leaves what was there, and one that has a
    say either gives a value or leaves none, where there was none. -/
theorem topmost_alike (h : Undisturbed layers path) :
    Amongst (topmost layers path) (Value.valueAt? path (some (settled layers))) := by
  induction layers using List.reverseRecOn with
  | nil =>
      rw [show settled [] = .table [] from rfl, valueAt?_nothing]
      rfl
  | append_singleton layers layer ih =>
      have hmem : layer ∈ layers ++ [layer] := List.mem_append_right _ List.mem_cons_self
      have hlower : Undisturbed layers path := fun giver hgiver other hother =>
        h giver (List.mem_append_left _ hgiver) other (List.mem_append_left _ hother)
      rw [settled_concat]
      cases hlast : Statement.lastBearing? (statements layer) path with
      | none =>
          -- A source that is silent leaves the value of those below it.
          have hsilent := valuesAt_eq_nil_of_lastBearing? hlast
          rw [topmost_concat, if_pos hsilent, Statement.valueAt?_carryOut_of_none hlast]
          exact ih hlower
      | some last =>
          rcases Statement.mem_of_lastBearing? hlast with ⟨hstatement, hbears⟩
          have hdecides := Statement.valueAt?_carryOut_of_some hlast (some (settled layers))
          by_cases heq : last.path = path
          · rw [if_pos heq] at hdecides
            -- It gives a value, which covers all that was given below.
            rcases hdecides with ⟨found, hfound, halike⟩
            have hgiven := mem_valuesAt_of_bears hstatement hbears heq
            rw [hfound, topmost_concat, if_neg (List.ne_nil_of_mem hgiven)]
            exact ⟨_, hgiven, halike⟩
          · -- Here a value would be taken away, so no source can have given one.
            rw [if_neg heq] at hdecides
            rw [hdecides]
            refine topmost_eq_nil_iff.mpr fun giver hgiver hgiven => heq ?_
            exact h giver hgiver layer hmem hgiven last hstatement hbears

/-- A list stands only where some source has put one. -/
theorem exists_of_isList (hvalue : value ∈ Value.at? path (some (settled layers)))
    (hlist : value.isList = true) :
    ∃ layer ∈ layers, ∃ statement ∈ statements layer,
      statement.path = path ∧ statement.saying.alone.isList = true := by
  have hfound : Value.valueAt? path (some (settled layers)) = some value :=
    Option.filter_eq_some_iff.mpr ⟨hvalue, by rw [Value.isTable_of_isList hlist]; rfl⟩
  -- For this the sources may as well be one: the last statement of all decides.
  have hdone := carryOut_flatMap layers (.table [])
  rw [settled, ← hdone] at hfound
  rcases hlast : Statement.lastBearing? (layers.flatMap statements) path with _ | last
  · rw [Statement.valueAt?_carryOut_of_none hlast, valueAt?_nothing] at hfound
    cases hfound
  · have hdecides := Statement.valueAt?_carryOut_of_some hlast (some (.table []))
    rcases Statement.mem_of_lastBearing? hlast with ⟨hmem, -⟩
    rcases List.mem_flatMap.mp hmem with ⟨layer, hlayer, hstatement⟩
    split at hdecides
    · rename_i hplace
      rcases hdecides with ⟨other, hother, halike⟩
      cases hother.symm.trans hfound
      refine ⟨layer, hlayer, last, hstatement, hplace, ?_⟩
      rcases halike with heq | ⟨hgiven, -⟩
      · rwa [heq]
      · exact hgiven
    · rw [hdecides] at hfound
      cases hfound

/-- Names are distinct in what comes of sources. -/
theorem tidy_settled (layers : List Layer) : (settled layers).Tidy := by
  have hdone := carryOut_flatMap layers (.table [])
  have hempty : ∀ value ∈ some (Value.table []), value.Tidy := by
    rintro value ⟨⟩
    exact .table .nil nofun
  exact Statement.tidy_carryOut _ hempty _ hdone

end Layer

end Colloquy
