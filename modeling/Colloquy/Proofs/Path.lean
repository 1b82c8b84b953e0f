import Colloquy.Path
import Colloquy.Proofs.Text.Split
import Colloquy.Scope

/-!
# Paths That End in a Name

What a path leads to once a name has been put behind it. A name holds no slash and is neither empty
nor dots, so putting it behind a path adds exactly one step down and never changes where the path
starts. That is less than a component is, which holds no backslash either: the names that stand on a
disk come from any path. The text that `Path.join` makes depends on how the path before it ends,
which is why the lemmas here speak of steps and parents and not of the text.

Taking the parent of a path with two names at its end gives back the path with one, letter for
letter. The parent is what a message names, so it matters that nothing is normalised on the way.

## Main definitions

* `Path.stem`: The text in front of a name that is put behind a path.
* `Path.IsName`: A text that is one step down.

## Theorems

* `steps_join`: A name is one more step down.
* `isAbsolute_join`: A name does not change where a path starts.
* `parent?_join_join`: The parent of a path with two names.
* `namesDirectory_join`: A path that ends in a name can name a file.
* `not_mem_join`: Joining brings in no character but the slash.
* `isName_of_down_mem_steps`: The steps down of any path are names.
-/

namespace Colloquy

/-- What a component is, as a condition on its characters. -/
theorem isComponent_iff (name : String) :
    isComponent name = true ↔ name.toList ≠ [] ∧ name.toList ≠ ['.'] ∧ name.toList ≠ ['.', '.'] ∧
      ∀ c ∈ name.toList, c ≠ '/' ∧ c ≠ '\\' ∧ c ≠ '\x00' := by
  have hempty : name = "" ↔ name.toList = [] := by
    rw [← String.toList_inj]
    rfl
  have hdot : name = "." ↔ name.toList = ['.'] := by
    rw [← String.toList_inj]
    rfl
  have hdots : name = ".." ↔ name.toList = ['.', '.'] := by
    rw [← String.toList_inj]
    rfl
  simp only [isComponent, ne_eq, Bool.and_eq_true, decide_eq_true_eq, hempty, hdot, hdots,
    Bool.not_eq_true', List.any_eq_false, Bool.or_eq_true, not_or, and_assoc]

namespace Path

/-- The text in front of a name that is put behind a path. -/
def stem (base : String) : List Char :=
  if base.isEmpty || base.toList.getLast? = some '/' then base.toList else base.toList ++ ['/']

/-- The step that a part of a path is, if it leads anywhere. -/
def stepOf? (part : List Char) : Option Step :=
  if part.isEmpty || part = ['.'] then none
  else if part = ['.', '.'] then some .up
  else some (.down (String.ofList part))

theorem steps_eq (path : String) : steps path = (names path).filterMap stepOf? := rfl

/-- A text that is one step down wherever it stands in a path. -/
structure IsName (name : String) : Prop where
  ne_nil : name.toList ≠ []
  ne_dot : name.toList ≠ ['.']
  ne_dots : name.toList ≠ ['.', '.']
  slash_not_mem : '/' ∉ name.toList

/-- A component is a name. -/
theorem isName {name : String} (h : isComponent name = true) : IsName name :=
  have hcomponent := (isComponent_iff name).mp h
  ⟨hcomponent.1, hcomponent.2.1, hcomponent.2.2.1, fun hmem => (hcomponent.2.2.2 '/' hmem).1 rfl⟩

section Names

variable {name : String} (hname : IsName name)
include hname

theorem not_isAbsolute : isAbsolute name = false := by
  have hslash := hname.slash_not_mem
  cases hcs : name.toList with
  | nil => rw [isAbsolute, hcs]; rfl
  | cons c cs =>
      have hc : c ≠ '/' := fun h => hslash (by rw [hcs, h]; exact List.mem_cons_self)
      rw [isAbsolute, hcs, List.head?_cons, decide_eq_false_iff_not, Option.some.injEq]
      exact hc

theorem toList_join (base : String) : (join base name).toList = stem base ++ name.toList := by
  rw [join, not_isAbsolute hname, if_neg Bool.false_ne_true, stem]
  by_cases h : (base.isEmpty || base.toList.getLast? = some '/') = true
  · rw [if_pos h, if_pos h, String.toList_append]
  · rw [if_neg h, if_neg h, String.toList_append, String.toList_append]
    rfl

/-- A name that is put behind a path is its last part, and the parts before it lead where the path
    led. -/
theorem names_join (base : String) :
    ∃ before, names (join base name) = before ++ [name.toList] ∧
      before.filterMap stepOf? = steps base := by
  have hone : splitAt '/' name.toList = [name.toList] := splitAt_of_not_mem hname.slash_not_mem
  rw [names, toList_join hname, stem]
  by_cases hempty : base.isEmpty = true
  · rw [String.isEmpty_iff.mp hempty]
    -- A name joined to nothing is the path.
    exact ⟨[], hone, rfl⟩
  by_cases hslash : base.toList.getLast? = some '/'
  · -- The path ends in a slash, behind which its last part is empty.
    rcases List.getLast?_eq_some_iff.mp hslash with ⟨front, hfront⟩
    rw [if_pos (by rw [hslash, decide_eq_true rfl, Bool.or_true]), hfront, List.append_assoc,
      List.singleton_append, splitAt_append_cons, hone]
    refine ⟨splitAt '/' front, rfl, ?_⟩
    rw [steps_eq, names, hfront, splitAt_append_cons, List.filterMap_append]
    exact (List.append_nil _).symm
  · -- A slash is put between the path and the name, and it ends the last part of the path.
    rw [if_neg (by simp only [hempty, hslash, decide_false, Bool.or_self, not_false_eq_true,
        Bool.false_eq_true]), List.append_assoc, List.singleton_append, splitAt_append_cons, hone]
    exact ⟨splitAt '/' base.toList, rfl, rfl⟩

theorem stepOf?_name : stepOf? name.toList = some (.down name) := by
  rw [stepOf?, List.isEmpty_eq_false_iff.mpr hname.ne_nil, decide_eq_false hname.ne_dot,
    if_neg hname.ne_dots, String.ofList_toList]
  rfl

/-- A name is one more step down. -/
theorem steps_join (base : String) : steps (join base name) = steps base ++ [.down name] := by
  rcases names_join hname base with ⟨before, hnames, hbefore⟩
  rw [steps_eq, hnames, List.filterMap_append, hbefore, List.filterMap_cons, stepOf?_name hname]
  rfl

/-- A path that ends in a name can name a file. -/
theorem namesDirectory_join (base : String) : namesDirectory (join base name) = false := by
  rcases names_join hname base with ⟨before, hnames, _⟩
  rw [namesDirectory, hnames, List.getLast?_concat]
  simp only [List.isEmpty_eq_false_iff.mpr hname.ne_nil, hname.ne_dot, hname.ne_dots, decide_false,
    Bool.or_self]

/-- A name does not change where a path starts. -/
theorem isAbsolute_join (base : String) : isAbsolute (join base name) = isAbsolute base := by
  rw [isAbsolute, toList_join hname, stem]
  cases hcs : base.toList with
  | nil =>
      have hempty : base = "" := String.toList_inj.mp hcs
      have hrelative := not_isAbsolute hname
      rw [hempty]
      exact hrelative
  | cons c cs =>
      -- The path has a first character, and it stays the first one.
      rw [isAbsolute, hcs]
      split
      · rw [List.cons_append, List.head?_cons, List.head?_cons]
      · rw [List.cons_append, List.cons_append, List.head?_cons, List.head?_cons]

/-- Joining brings in no character but the slash. -/
theorem not_mem_join {base : String} {c : Char} (hbase : c ∉ base.toList) (hc : c ∉ name.toList)
    (hslash : c ≠ '/') : c ∉ (join base name).toList := by
  rw [toList_join hname, List.mem_append, stem]
  rintro (h | h)
  · split at h
    · exact hbase h
    · rcases List.mem_append.mp h with h | h
      · exact hbase h
      · -- The path may have been given a slash at its end.
        exact hslash (List.mem_singleton.mp h)
  · exact hc h

theorem join_ne_empty (base : String) : (join base name).isEmpty = false := by
  rw [Bool.eq_false_iff]
  intro h
  have hnil := congrArg String.toList (String.isEmpty_iff.mp h)
  rw [toList_join hname] at hnil
  exact hname.ne_nil (List.append_eq_nil_iff.mp hnil).2

/-- A name behind other parts is reached at the end of the text. -/
theorem reaches_concat (relative : Bool) (before : List Char) (parts : List (List Char)) :
    reaches relative before (parts ++ [name.toList])
      = reaches relative before parts
        ++ [before ++ (parts.flatMap fun part => part ++ ['/']) ++ name.toList] := by
  induction parts generalizing relative before with
  | nil =>
      -- A name is kept, because it is neither empty nor a dot.
      have hkept : ¬ (name.toList.isEmpty || (name.toList = ['.'] && !relative)) = true := by
        simp only [List.isEmpty_eq_false_iff.mpr hname.ne_nil, hname.ne_dot, decide_false,
          Bool.false_and, Bool.or_self, Bool.false_eq_true, not_false_eq_true]
      change (if _ then _ else _ : List (List Char)) = _
      rw [if_neg hkept, List.flatMap_nil, List.append_nil]
      rfl
  | cons part parts ih =>
      have htext : before ++ part ++ ['/'] ++ (parts.flatMap fun part => part ++ ['/'])
          = before ++ ((part :: parts).flatMap fun part => part ++ ['/']) := by
        rw [List.flatMap_cons, List.append_assoc, List.append_assoc, List.append_assoc]
      rw [List.cons_append, reaches, reaches, ih, htext]
      split
      · rfl
      · rfl

/-- The last part of a path that ends in a name is reached by the whole path. -/
theorem reaches_join (relative : Bool) (base : String) :
    ∃ before, reaches relative [] (names (join base name))
      = before ++ [(join base name).toList] := by
  rcases names_join hname base with ⟨parts, hnames, _⟩
  have htext : (parts.flatMap fun part => part ++ ['/']) ++ name.toList
      = (join base name).toList := by
    have hjoin := flatMap_splitAt '/' (join base name).toList
    -- All parts together, each with a slash behind it, are the path with a slash behind it.
    rw [← names, hnames, List.flatMap_append, List.flatMap_singleton, ← List.append_assoc] at hjoin
    exact List.append_cancel_right hjoin
  refine ⟨reaches relative [] parts, ?_⟩
  rw [hnames, reaches_concat hname, List.nil_append, htext]

/-- A path that ends in a name does not end in a slash. -/
theorem stem_join (base : String) : stem (join base name) = (join base name).toList ++ ['/'] := by
  have hlast : (join base name).toList.getLast? ≠ some '/' := by
    rw [toList_join hname, List.getLast?_append, List.getLast?_eq_some_getLast hname.ne_nil,
      Option.some_or]
    -- Its last character is one of the name, which holds no slash.
    intro h
    have hmem := List.getLast_mem hname.ne_nil
    rw [Option.some.inj h] at hmem
    exact hname.slash_not_mem hmem
  rw [stem, join_ne_empty hname, decide_eq_false hlast]
  rfl

end Names

/-- The parent of a path with two names at its end is the path with one. -/
theorem parent?_join_join {inner outer : String} (hinner : IsName inner) (houter : IsName outer)
    (base : String) :
    parent? (join (join base outer) inner) = some (join base outer) := by
  have hnames : names (join (join base outer) inner)
      = names (join base outer) ++ [inner.toList] := by
    rw [names, toList_join hinner, stem_join houter, List.append_assoc, List.singleton_append,
      splitAt_append_cons, splitAt_of_not_mem hinner.slash_not_mem, names]
  rcases reaches_join houter (!isAbsolute (join (join base outer) inner)) base with
    ⟨before, hbefore⟩
  -- The last part is the inner name, and the way before it leads through the outer one.
  rw [parent?, hnames, reaches_concat hinner, hbefore, List.reverse_append, List.reverse_append]
  exact congrArg some String.ofList_toList

/-- The steps down of any path are names. -/
theorem isName_of_down_mem_steps {path name : String} (h : .down name ∈ steps path) :
    IsName name := by
  rw [steps_eq, List.mem_filterMap] at h
  rcases h with ⟨part, hpart, hstep⟩
  rw [stepOf?] at hstep
  split at hstep
  · cases hstep
  split at hstep
  · cases hstep
  -- What is left is a part that is neither empty nor dots, and it holds no slash.
  rename_i hsome hdots
  cases hstep
  rw [Bool.or_eq_true, not_or, List.isEmpty_iff, decide_eq_true_eq] at hsome
  refine ⟨?_, ?_, ?_, ?_⟩ <;> rw [String.toList_ofList]
  · exact hsome.1
  · exact hsome.2
  · exact hdots
  · exact not_mem_of_mem_splitAt hpart

end Path

end Colloquy
