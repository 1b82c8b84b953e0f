import Colloquy.Proofs.Store.Unit

/-!
# Paths of Units

Where a store puts its units, as far as that can be told from the paths alone.

An identifier becomes a part of a path as it is. Users choose their own, so it matters that no
identifier leads out of the base directory and that no two users share a unit. The checks look at
one text at a time, but the name of a unit is put together from two: a user and the suffix. That
such a name is plain because both of its parts are is `isComponent_append`, and the one case in it
that could go wrong is a dot with a dot behind it, which is excluded because a dot is no name.

Two paths may differ as texts and still lead to one place, for instance by a slash more. So it is
the steps of a path that tell units apart here, and equal paths have equal steps.

## Main definitions

* `IsPlainName`: A text that names one thing in a directory.
* `Path.IsBelow`: A path that leads two names below another.

## Theorems

* `isPlainName_iff`: What is checked of a name.
* `open?_eq_ok_iff`: Which stores can be opened.
* `pathFor_eq_ok_iff`, `pathFor_of_agent`, `pathFor_of_user`: When there is a path.
* `isBelow_unitPath`: A unit is two names below the base directory.
* `eq_of_steps_unitPath`: Different scopes have paths that lead differently.
* `unit_paths_contained_and_unique`: All of it, for any store.
-/

namespace Colloquy

/-- A text that names one thing in a directory, whatever the directory is: it is not empty, it leads
    neither back to the directory nor out of it, and there is no separator and no NUL in it. -/
structure IsPlainName (name : String) : Prop where
  ne_empty : name ≠ ""
  ne_dot : name ≠ "."
  ne_dots : name ≠ ".."
  plain : ∀ c ∈ name.toList, c ≠ '/' ∧ c ≠ '\\' ∧ c ≠ '\x00'

/-- What is checked of a name is that it is plain. -/
theorem isPlainName_iff (name : String) : IsPlainName name ↔ isComponent name = true := by
  have htext (text : String) : name ≠ text ↔ name.toList ≠ text.toList := by
    rw [ne_eq, ne_eq, String.toList_inj]
  rw [isComponent_iff]
  constructor
  · intro h
    exact ⟨(htext "").mp h.ne_empty, (htext ".").mp h.ne_dot, (htext "..").mp h.ne_dots, h.plain⟩
  · rintro ⟨hempty, hdot, hdots, hplain⟩
    exact ⟨(htext "").mpr hempty, (htext ".").mpr hdot, (htext "..").mpr hdots, hplain⟩

instance (name : String) : Decidable (IsPlainName name) :=
  decidable_of_iff _ (isPlainName_iff name).symm

/-- A path that leads from another to a directory in it and to something in that directory. It is
    the text of the other path, with a slash behind it where one is needed, and the two names with a
    slash between them. -/
structure Path.IsBelow (base directory name path : String) : Prop where
  text : path.toList = stem base ++ directory.toList ++ '/' :: name.toList
  steps : Path.steps path = Path.steps base ++ [.down directory, .down name]
  start : isAbsolute path = isAbsolute base

namespace FlatFile

/-- A store can be opened if its suffix is plain. -/
theorem open?_eq_ok_iff {base suffix : String} {store : FlatFile} :
    open? base suffix = .ok store ↔ IsPlainName suffix ∧ store = ⟨base, suffix⟩ := by
  rw [isPlainName_iff, open?, checkComponent]
  by_cases h : isComponent suffix = true
  · simp only [h, if_true, Except.ok.injEq, true_and, eq_comm]
  · simp only [h, if_false, Bool.false_eq_true, reduceCtorEq, false_and]

section Checks

variable {store : FlatFile} {scope : Scope}

/-- An agent that is no plain name is refused, whoever the user is. -/
theorem pathFor_of_agent (hagent : ¬ IsPlainName scope.agent) :
    store.pathFor scope = .error (.invalidIdentifier .agent scope.agent) := by
  rw [isPlainName_iff, Bool.not_eq_true] at hagent
  exact pathFor_agent store hagent

/-- A user that is no plain name is refused if the agent is not. -/
theorem pathFor_of_user (hagent : IsPlainName scope.agent) (huser : ¬ IsPlainName scope.user) :
    store.pathFor scope = .error (.invalidIdentifier .user scope.user) := by
  rw [isPlainName_iff, Bool.not_eq_true] at huser
  exact pathFor_user store ((isPlainName_iff _).mp hagent) huser

/-- There is a path if the agent and the user are plain names. -/
theorem pathFor_eq_ok_iff {path : String} :
    store.pathFor scope = .ok path ↔
      (IsPlainName scope.agent ∧ IsPlainName scope.user) ∧ path = store.unitPath scope := by
  by_cases hagent : IsPlainName scope.agent
  · by_cases huser : IsPlainName scope.user
    · have hvalid : scope.IsValid := ⟨(isPlainName_iff _).mp hagent, (isPlainName_iff _).mp huser⟩
      simp only [pathFor_eq hvalid, hagent, huser, Except.ok.injEq, and_self, true_and, eq_comm]
    · simp only [pathFor_of_user hagent huser, huser, reduceCtorEq, and_false, false_and]
  · simp only [pathFor_of_agent hagent, hagent, reduceCtorEq, false_and]

end Checks

section Paths

variable {store : FlatFile} {scope : Scope} (hsuffix : isComponent store.suffix = true)
  (hvalid : scope.IsValid)
include hsuffix hvalid

/-- A unit is two names below the base directory: the agent, and the user with the suffix. -/
theorem isBelow_unitPath :
    Path.IsBelow store.base scope.agent (scope.user ++ store.suffix) (store.unitPath scope) := by
  have hname := isName_unitName hvalid hsuffix
  have hagent := Path.isName hvalid.1
  refine ⟨?_, ?_, ?_⟩
  · rw [unitPath, Path.toList_join hname, agentPath, Path.stem_join hagent,
      Path.toList_join hagent, List.append_assoc, List.singleton_append]
  · rw [unitPath, Path.steps_join hname, steps_agentPath hvalid.1, List.append_assoc,
      List.singleton_append]
  · rw [unitPath, Path.isAbsolute_join hname, agentPath, Path.isAbsolute_join hagent]

/-- Paths of units lead differently if the units are of different scopes. The last two steps tell
    them apart, and both users have the same suffix behind them. -/
theorem eq_of_steps_unitPath {other : Scope} (hother : other.IsValid)
    (h : Path.steps (store.unitPath scope) = Path.steps (store.unitPath other)) :
    scope = other := by
  rw [(isBelow_unitPath hsuffix hvalid).steps, (isBelow_unitPath hsuffix hother).steps] at h
  have hlast := List.append_cancel_left h
  simp only [List.cons.injEq, Step.down.injEq, and_true] at hlast
  have huser := (String.append_left_inj store.suffix).mp hlast.2
  cases scope
  cases other
  exact congr (congrArg Scope.mk huser) hlast.1

end Paths

/-- The paths of units, for any base directory, any suffix that a store can be opened with, and any
    identifiers. There is a path if and only if the agent and the user are plain names, and the
    agent is refused first. The path leads to the agent below the base directory and there to the
    user with the suffix, and both of these are plain names. Two scopes whose paths lead the same
    way are one scope. -/
theorem unit_paths_contained_and_unique {base suffix : String} {store : FlatFile}
    (h : open? base suffix = .ok store) :
    (∀ scope, (∃ path, store.pathFor scope = .ok path) ↔
      IsPlainName scope.agent ∧ IsPlainName scope.user) ∧
    (∀ scope, ¬ IsPlainName scope.agent →
      store.pathFor scope = .error (.invalidIdentifier .agent scope.agent)) ∧
    (∀ scope, IsPlainName scope.agent → ¬ IsPlainName scope.user →
      store.pathFor scope = .error (.invalidIdentifier .user scope.user)) ∧
    (∀ scope path, store.pathFor scope = .ok path →
      Path.IsBelow base scope.agent (scope.user ++ suffix) path ∧
      IsPlainName scope.agent ∧ IsPlainName (scope.user ++ suffix)) ∧
    ∀ scope other path path', store.pathFor scope = .ok path → store.pathFor other = .ok path' →
      Path.steps path = Path.steps path' → scope = other := by
  rcases open?_eq_ok_iff.mp h with ⟨hplain, hstore⟩
  obtain ⟨rfl, rfl⟩ : store.base = base ∧ store.suffix = suffix := by
    rw [hstore]
    exact ⟨rfl, rfl⟩
  have hsuffix : isComponent store.suffix = true := (isPlainName_iff _).mp hplain
  -- A store gives out the path of a unit for valid names and no other path.
  have hpath : ∀ {scope : Scope} {path : String}, store.pathFor scope = .ok path →
      scope.IsValid ∧ path = store.unitPath scope := by
    intro scope path hok
    rcases pathFor_eq_ok_iff.mp hok with ⟨⟨hagent, huser⟩, heq⟩
    exact ⟨⟨(isPlainName_iff _).mp hagent, (isPlainName_iff _).mp huser⟩, heq⟩
  refine ⟨fun scope => ⟨?_, fun hnames => ⟨_, pathFor_eq_ok_iff.mpr ⟨hnames, rfl⟩⟩⟩,
    fun scope => pathFor_of_agent, fun scope => pathFor_of_user, fun scope path hok => ?_,
    fun scope other path path' hok hok' hsteps => ?_⟩
  · rintro ⟨path, hok⟩
    exact (pathFor_eq_ok_iff.mp hok).1
  · rcases hpath hok with ⟨hvalid, rfl⟩
    exact ⟨isBelow_unitPath hsuffix hvalid, (isPlainName_iff _).mpr hvalid.1,
      (isPlainName_iff _).mpr (isComponent_append hvalid.2 hsuffix)⟩
  · rcases hpath hok with ⟨hvalid, rfl⟩
    rcases hpath hok' with ⟨hvalid', rfl⟩
    exact eq_of_steps_unitPath hsuffix hvalid hvalid' hsteps

/-- A user whose name ends in the suffix does not get the unit of the user without it, and three
    dots are a user like any other. -/
theorem unit_paths_contained_and_unique_overlapping :
    let store : FlatFile := ⟨"data/", ".tmp"⟩
    open? "data/" ".tmp" = .ok store ∧
      store.pathFor ⟨"alice.tmp", "aria"⟩ = .ok "data/aria/alice.tmp.tmp" ∧
      store.pathFor ⟨"alice", "aria"⟩ = .ok "data/aria/alice.tmp" ∧
      Path.steps "data/aria/alice.tmp.tmp" ≠ Path.steps "data/aria/alice.tmp" ∧
      Path.IsBelow "data/" "..." "....tmp" "data/.../....tmp" := by
  intro store
  have hopen : open? "data/" ".tmp" = .ok store := rfl
  have hlong : store.pathFor ⟨"alice.tmp", "aria"⟩ = .ok "data/aria/alice.tmp.tmp" :=
    pathFor_eq_ok_iff.mpr ⟨⟨by decide, by decide⟩, by decide⟩
  have hshort : store.pathFor ⟨"alice", "aria"⟩ = .ok "data/aria/alice.tmp" :=
    pathFor_eq_ok_iff.mpr ⟨⟨by decide, by decide⟩, by decide⟩
  have hdots : store.pathFor ⟨"...", "..."⟩ = .ok "data/.../....tmp" :=
    pathFor_eq_ok_iff.mpr ⟨⟨by decide, by decide⟩, by decide⟩
  have hall := unit_paths_contained_and_unique hopen
  refine ⟨hopen, hlong, hshort, fun hsteps => ?_, (hall.2.2.2.1 ⟨"...", "..."⟩ _ hdots).1⟩
  exact absurd (hall.2.2.2.2 _ _ _ _ hlong hshort hsteps) (by decide)

end FlatFile

end Colloquy
