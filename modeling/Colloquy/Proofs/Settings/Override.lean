import Colloquy.Proofs.Settings.Leaf
import Colloquy.Proofs.Settings.Order
import Colloquy.Settings.Sources

/-!
# Layers Override Single Settings

Settings are loaded from one file or two and from variables. Each of these sources is laid over the
ones below it setting by setting and not section by section. So a source that sets one field of a
section, one agent or one property of an agent says nothing about the others, and every setting is
what the topmost source makes it that sets it at all. A source that sets it in several ways makes it
one of them, and in which order the entries of a source are gone through does not matter otherwise.

Sections must be tables for this, and agents too. As a list of its settings in order a section has
no places for them, and what a list leaves of a list below it is no matter of single settings.

## Main definitions

* `Settings.loadFrom`, `Settings.layersFrom`: Settings and the layers that they come from.
* `Settings.ComeOf`: Settings that come of layers in some order of their entries.
* `Layer.NoList`: No layer puts a list at a place.

## Theorems

* `layersFrom_of_loadFrom`: Settings are what comes of their layers.
* `decidesAmong_topmost`: What is read from layers is decided by the topmost with a say.
* `leaf_of_loadFrom`: Every setting is decided by the topmost layer that sets it.
* `list_takes_sibling`: Lists of two layers, of which one removes what the other set.
-/

namespace Colloquy

open Reading

namespace Layer

/-- No source puts a list at a place, as a whole or in parts. -/
def NoList (layers : List Layer) (path : List String) : Prop :=
  ∀ layer ∈ layers, ∀ statement ∈ statements layer,
    statement.path = path → statement.saying.alone.isList = false

instance (layers : List Layer) : DecidablePred (NoList layers) := fun _ =>
  inferInstanceAs (Decidable (∀ layer ∈ layers, ∀ statement ∈ statements layer, _))

variable {layers ordered : List Layer} {path : List String} {value : Value}

/-- Whether there are lists does not depend on the order of entries. -/
theorem NoList.reordered (h : NoList layers path)
    (hordered : List.Forall₂ Reordered layers ordered) : NoList ordered path := by
  intro layer hlayer statement hmem hplace
  rcases exists_reordered hordered layer hlayer with ⟨other, hother, hsame⟩
  rcases saidIn_of_reordered hsame statement hmem with ⟨found, hfound, hplace', halike⟩
  rw [halike.isList_eq]
  exact h other hother found hfound (hplace'.symm.trans hplace)

/-- What comes of sources is a table. -/
theorem isTable_overlay (h : value.isTable = true) (layer : Layer) :
    (value.overlay layer).isTable = true := by
  induction layer generalizing value with
  | nil => exact h
  | cons entry rest ih =>
      refine ih ?_
      rcases KeyPath.ofText_eq_cons entry.1 with ⟨first, steps, hpath⟩
      show (Value.assign (KeyPath.ofText entry.1) entry.2 value).isTable = true
      rw [hpath]
      -- The first step of a path is a name, and a name makes a table.
      cases steps <;> rfl

theorem isTable_settled (layers : List Layer) : (settled layers).isTable = true := by
  induction layers using List.reverseRecOn with
  | nil => rfl
  | append_singleton layers layer ih =>
      rw [settled, List.foldl_append]
      exact isTable_overlay ih layer

/-- Where no source puts a list there is none. -/
theorem isList_of_noList (hnone : NoList layers path)
    (hvalue : value ∈ Value.at? path (some (settled layers))) : value.isList = false := by
  by_contra hlist
  rw [Bool.not_eq_false] at hlist
  rcases exists_of_isList hvalue hlist with ⟨layer, hlayer, statement, hmem, hplace, hgiven⟩
  rw [hnone layer hlayer statement hmem hplace] at hgiven
  cases hgiven

end Layer

/-- A setting is never read from a table or a list. -/
theorem Leaf.isPlain_read (leaf : Leaf) : IsPlain leaf.read := by
  cases leaf <;>
    first
    | exact isPlain_text?
    | exact isPlain_natural?
    | exact isPlain_boolean?
    | exact isPlain_optionalText?
    | exact isPlain_text?.map some

/-- Of two lists none is read, and otherwise alike values are the same. -/
theorem Reading.read_of_alike {α : Type} {read : Value → Option α} (hread : IsPlain read)
    {value other : Value} (h : Saying.Alike value other) {result : α}
    (hother : read other = some result) : read value = some result := by
  rcases h with rfl | ⟨-, hlist⟩
  · exact hother
  · rw [hread other (.inr hlist)] at hother
    cases hother

/-- Values that are among others decide nothing that the others do not. -/
theorem DecidesAmong.of_covers {α : Type} {read : Value → Option α} (hread : IsPlain read)
    {default result : α} {others given : List Value} (hcovers : Layer.Covers others given)
    (h : DecidesAmong read default given result) : DecidesAmong read default others result := by
  unfold DecidesAmong at h ⊢
  split at h <;> rename_i hgiven
  · rw [if_pos (hcovers.1.mpr hgiven)]
    exact h
  · rw [if_neg (mt hcovers.1.mp hgiven)]
    rcases h with ⟨value, hvalue, hresult⟩
    -- The value that was read is among the others too, and a list cannot have been read.
    rcases hcovers.2 value hvalue with ⟨other, hother, halike⟩
    exact ⟨other, hother, read_of_alike hread halike.symm hresult⟩

namespace Settings

variable {disk : Disk} {environment : Environment} {settings : Settings} {layers : List Layer}
  {named : Option String}

/-- Settings from a file that is named, or else from the standard files. -/
def loadFrom (disk : Disk) (environment : Environment) : Option String → Except LoadError Settings
  | some path => loadFile disk environment path
  | none => load disk environment

/-- The sources of settings, the lowest first: the file that is named, or else the standard files,
    and the variables on top. A file that is missing says nothing. -/
def layersFrom (disk : Disk) (environment : Environment) :
    Option String → Except LoadError (List Layer)
  | some path =>
    (readFile disk path).map fun file => [file.getD [], variableEntries environment]
  | none =>
    ((standardPaths environment).mapM (readOptional disk)).map fun files =>
      files.map (·.getD []) ++ [variableEntries environment]

/-- Settings come of sources if they are made of them in some order of their entries. -/
def ComeOf (layers : List Layer) (settings : Settings) : Prop :=
  ∃ ordered, List.Forall₂ Layer.Reordered layers ordered ∧ ofSources ordered = .ok settings

/-- Files that are missing may as well be empty. -/
theorem foldl_overlay_filterMap (files : List (Option Layer)) (value : Value) :
    (files.filterMap id).foldl Value.overlay value =
      (files.map (·.getD [])).foldl Value.overlay value := by
  induction files generalizing value with
  | nil => rfl
  | cons file rest ih =>
      cases file with
      | none => exact ih value
      | some layer => exact ih (value.overlay layer)

/-- Settings that were loaded are made of their layers. -/
theorem layersFrom_of_loadFrom (h : loadFrom disk environment named = .ok settings) :
    ∃ layers, layersFrom disk environment named = .ok layers ∧ ofSources layers = .ok settings := by
  cases named with
  | some path =>
      simp only [loadFrom, loadFile] at h
      split at h
      · cases h
      · split at h
        · cases h
        · cases h
        · rename_i entries hfile
          exact ⟨[entries, variableEntries environment], by rw [layersFrom, hfile]; rfl, h⟩
  | none =>
      simp only [loadFrom, load] at h
      split at h
      · cases h
      · rename_i files hfiles
        refine ⟨_, by rw [layersFrom, hfiles]; rfl, ?_⟩
        -- Only files that are there are laid over one another.
        rw [ofSources, List.foldl_append, foldl_overlay_filterMap] at h
        rw [ofSources, List.foldl_append]
        exact h

theorem ofValue?_of_ofSources (h : ofSources layers = .ok settings) :
    ofValue? .lenient (Layer.settled layers) = some settings := by
  unfold ofSources at h
  split at h
  · cases h
  · split at h
    · cases h
    · cases h
      assumption

/-- What is read from what comes of layers is decided by the topmost of them that has a say. -/
theorem decidesAmong_topmost (h : ofSources layers = .ok settings) (leaf : Leaf)
    (hnone : Layer.NoList layers leaf.group) (hplace : Layer.Undisturbed layers leaf.path) :
    DecidesAmong leaf.read (leaf.get {}) (Layer.topmost layers leaf.path) (leaf.get settings) := by
  have hdecides := decides_of_ofValue? (ofValue?_of_ofSources h) (Layer.isTable_settled layers)
    (Layer.tidy_settled layers) leaf fun _ => Layer.isList_of_noList hnone
  have hamongst := Layer.topmost_alike hplace
  cases hfound : Value.valueAt? leaf.path (some (Layer.settled layers)) with
  | none =>
      rw [hfound] at hdecides hamongst
      have hnothing : Layer.topmost layers leaf.path = [] := hamongst
      rw [DecidesAmong, if_pos hnothing]
      exact hdecides
  | some found =>
      rw [hfound] at hdecides hamongst
      rcases hamongst with ⟨value, hvalue, halike⟩
      rw [DecidesAmong, if_neg (List.ne_nil_of_mem hvalue)]
      exact ⟨value, hvalue, read_of_alike leaf.isPlain_read halike hdecides⟩

/-- Settings that are loaded come of their layers. Whatever comes of layers that agree on where
    there are tables, every setting is decided by the topmost layer that sets it, or else it has its
    default, if none of them has a list for the group of the setting and none takes away the setting
    that it gives itself. -/
theorem leaf_of_loadFrom (disk : Disk) (environment : Environment) (named : Option String) :
    (∀ settings, loadFrom disk environment named = .ok settings →
      ∃ layers, layersFrom disk environment named = .ok layers ∧ ComeOf layers settings) ∧
    ∀ layers, layersFrom disk environment named = .ok layers → Layer.Agree layers →
      ∀ settings, ComeOf layers settings → ∀ leaf : Leaf, Layer.NoList layers leaf.group →
        Layer.Coherent layers leaf.path →
          DecidesAmong leaf.read (leaf.get {}) (Layer.topmost layers leaf.path)
            (leaf.get settings) := by
  constructor
  · -- The order in which the entries happen to be is one of the orders.
    intro settings h
    rcases layersFrom_of_loadFrom h with ⟨layers, hlayers, hmade⟩
    exact ⟨layers, hlayers, layers, List.forall₂_same.mpr fun _ _ => .refl _, hmade⟩
  · rintro layers - hagree settings ⟨ordered, hordered, hmade⟩ leaf hnone hcoherent
    -- In another order the layers are still undisturbed and without lists, so the topmost of them
    -- decides, and it gives nothing else than it does in this order.
    have hplace := Layer.undisturbed_of_agree hagree hcoherent
    have hdecides := decidesAmong_topmost hmade leaf (hnone.reordered hordered)
      (hplace.reordered hordered)
    exact hdecides.of_covers leaf.isPlain_read (Layer.topmost_reordered hordered leaf.path)

/-- The disk of a user with two settings files. -/
def twoFiles (user working : String) : Disk where
  entries :=
    [(["home"], .directory), (["home", ".config"], .directory),
      (["home", ".config", "parlance"], .directory),
      (["home", ".config", "parlance", "config.toml"], .file user.toUTF8),
      (["parlance.toml"], .file working.toUTF8)]

theorem exists_of_any {ε α : Type} {result : Except ε α} {p : α → Bool}
    (h : result.toOption.any p = true) : ∃ value, result = .ok value ∧ p value = true := by
  cases result with
  | error error => cases h
  | ok value => exact ⟨value, rfl, h⟩

/-- Three layers of which each sets something of its own. The middle one takes nothing away. -/
theorem leaf_of_loadFrom_three_layers :
    ∃ settings, load
        (twoFiles "[store]\nbase_dir = \"u\"\nsuffix = \".u\"\n" "[store]\nbase_dir = \"w\"\n")
        [("HOME", "/home"), ("PARLANCE__GOSSIP__XML_ROOT", "r")] = .ok settings ∧
      settings.baseDir = "w" ∧ settings.suffix = ".u" ∧ settings.shareLog.root = "r" := by
  let disk :=
    twoFiles "[store]\nbase_dir = \"u\"\nsuffix = \".u\"\n" "[store]\nbase_dir = \"w\"\n"
  let environment := [("HOME", "/home"), ("PARLANCE__GOSSIP__XML_ROOT", "r")]
  have hload : (loadFrom disk environment none).toOption.any (fun _ => true) = true := by
    decide +kernel
  -- All that is asked of the layers can be computed.
  have hread : (layersFrom disk environment none).toOption.any (fun layers =>
      decide (Layer.Agree layers ∧
        (∀ leaf ∈ [Leaf.baseDir, .suffix, .root],
          Layer.NoList layers leaf.group ∧ Layer.Coherent layers leaf.path) ∧
        (Layer.topmost layers Leaf.baseDir.path).map lenient.text? = [some "w"] ∧
        (Layer.topmost layers Leaf.suffix.path).map lenient.text? = [some ".u"] ∧
        (Layer.topmost layers Leaf.root.path).map lenient.text? = [some "r"])) = true := by
    decide +kernel
  rcases exists_of_any hload with ⟨settings, hload, -⟩
  rcases exists_of_any hread with ⟨read, hread, hall⟩
  rcases of_decide_eq_true hall with ⟨hagree, hplaces, hbase, hsuffix, hroot⟩
  have hleaf := leaf_of_loadFrom disk environment none
  rcases hleaf.1 settings hload with ⟨layers, hlayers, hcome⟩
  cases hread.symm.trans hlayers
  have hdecides (leaf : Leaf) (hmem : leaf ∈ [Leaf.baseDir, .suffix, .root]) :=
    hleaf.2 read hlayers hagree settings hcome leaf (hplaces leaf hmem).1 (hplaces leaf hmem).2
  exact ⟨settings, hload, (hdecides .baseDir (by decide)).eq_of_map hbase,
    (hdecides .suffix (by decide)).eq_of_map hsuffix,
    (hdecides .root (by decide)).eq_of_map hroot⟩

/-- Both files have a list where neither has a table, and the list of the second takes away what the
    first one set: its property is lost, though the second file says nothing about it. -/
theorem list_takes_sibling :
    let first := "[agents]\naria = [\x7bx = \"1\"\x7d]\n"
    let second := "[agents]\naria = [\x7by = \"2\"\x7d]\n"
    let property (user working name : String) : Option (Option String) :=
      (load (twoFiles user working) [("HOME", "/home")]).toOption.map
        (Leaf.property "aria" name).get
    ((layersFrom (twoFiles first second) [("HOME", "/home")] none).toOption.any
        fun layers => decide (Layer.Agree layers)) ∧
      property first "" "x" = some (some "1") ∧
      property "" second "x" = some none ∧
      property first second "x" = some none ∧
      property first second "y" = some (some "2") := by
  decide +kernel

end Settings

end Colloquy
