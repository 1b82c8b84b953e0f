import Colloquy.Command.Invocation

/-!
# Options That Are Accepted

What can be said of the options of a command line that is accepted, whatever the program. Every
option is one of the command's own, and if its value is a path, the path is not empty. An option
is checked only when it is settled, and one that waits is settled later or never, so both are
followed through the reading: the settled ones are right, and the waiting one is of the command.

## Main definitions

* `CommandProgress.Suits`: What has been read of a command is right so far.

## Theorems

* `exists_of_bind`: The steps of a computation that succeeds.
* `settle_suits`, `finish_suits`, `add_suits`: Every step of the reading keeps it right.
* `option?_of_read`: The options of an accepted line.
* `logFile_ne_empty`: An invocation names no log file, or names one by a path that is not empty.
-/

namespace Colloquy

/-- A computation that succeeds has succeeded in its first step and in what comes after it. -/
theorem exists_of_bind {ε α β : Type} {first : Except ε α} {next : α → Except ε β} {result : β}
    (h : (first >>= next) = .ok result) : ∃ value, first = .ok value ∧ next value = .ok result := by
  cases first with
  | error error => cases h
  | ok value => exact ⟨value, rfl, h⟩

namespace CommandProgress

/-- What is settled is of options of the command and holds no empty path, and what waits is an
    option of the command. -/
structure Suits (shape : CommandShape) (progress : CommandProgress) : Prop where
  settled : ∀ entry ∈ progress.settled, ∃ option ∈ shape.options,
    option.name = entry.1 ∧ (option.isPath = true → entry.2.isEmpty = false)
  waiting : ∀ option value, progress.waiting = some (option, value) → option ∈ shape.options

variable {shape : CommandShape} {progress progress' : CommandProgress}

theorem suits_start (shape : CommandShape) : Suits shape {} :=
  ⟨fun _ hmem => absurd hmem List.not_mem_nil, nofun⟩

theorem settle_suits (hsuits : progress.Suits shape) {option : OptionShape}
    (hoption : option ∈ shape.options) {value : String}
    (h : progress.settle option value = .ok progress') : progress'.Suits shape := by
  unfold settle at h
  split at h
  · cases h
  split at h
  · cases h
  · -- What is settled now was checked before, and the rest was settled already.
    rename_i hvalue
    cases h
    refine ⟨fun entry hmem => ?_, hsuits.waiting⟩
    rcases List.mem_append.mp hmem with hmem | hmem
    · exact hsuits.settled entry hmem
    · rw [List.mem_singleton.mp hmem]
      exact ⟨option, hoption, rfl, fun hpath => by simpa [hpath] using hvalue⟩

theorem finish_suits (hsuits : progress.Suits shape) (h : progress.finish = .ok progress') :
    progress'.Suits shape := by
  unfold finish at h
  split at h
  · cases h
    exact hsuits
  · cases h
  · rename_i option value hwaiting
    have hcleared : Suits shape { progress with waiting := none } :=
      ⟨hsuits.settled, fun _ _ hnone => nomatch hnone⟩
    exact settle_suits hcleared (hsuits.waiting option _ hwaiting) h

/-- Whatever comes after the waiting option is settled starts from right progress. -/
theorem exists_of_finish_bind {α : Type} (hsuits : progress.Suits shape)
    {next : CommandProgress → Except UsageError α} {result : α}
    (h : (progress.finish >>= next) = .ok result) :
    ∃ finished : CommandProgress, finished.Suits shape ∧ next finished = .ok result := by
  rcases exists_of_bind h with ⟨finished, hfinish, hnext⟩
  exact ⟨finished, finish_suits hsuits hfinish, hnext⟩

theorem addWord_suits (hsuits : progress.Suits shape) {word : String} {literal : Bool}
    (h : progress.addWord shape word literal = .ok progress') : progress'.Suits shape := by
  unfold addWord at h
  split at h
  · cases hfinish : progress.finish with
    | error error => rw [hfinish] at h; cases h
    | ok finished =>
        rw [hfinish] at h
        cases h
        -- An option that waited for a value is closed without one.
        have hfinished := finish_suits hsuits hfinish
        exact ⟨hfinished.settled, hfinished.waiting⟩
  · split at h <;> cases h

theorem addLong_suits (hsuits : progress.Suits shape) {body : String}
    (h : progress.addLong shape body = .ok progress') : progress'.Suits shape := by
  unfold addLong at h
  rcases hsplit : splitOnce? '=' body.toList with _ | ⟨name, value⟩ <;> simp only [hsplit] at h
  · split at h
    · simp only [Option.isSome_none, Bool.false_eq_true, if_false] at h
      split at h <;> cases h
    · split at h
      · cases h
      · cases ‹none = some _›
      · rename_i option hoption _
        -- The option waits for its value, and the one that waited before is settled.
        rcases exists_of_finish_bind hsuits h with ⟨finished, hfinished, hresult⟩
        cases hresult
        refine ⟨hfinished.settled, fun other value hwaiting => ?_⟩
        cases hwaiting
        exact List.mem_of_find?_eq_some hoption
  · split at h
    · cases h
    · split at h
      · cases h
      · rename_i option attached hoption _
        rcases exists_of_finish_bind hsuits h with ⟨finished, hfinished, hresult⟩
        exact settle_suits hfinished (List.mem_of_find?_eq_some hoption) hresult
      · cases ‹some _ = none›

theorem add_suits (hsuits : progress.Suits shape) {argument : String}
    (h : progress.add shape argument = .ok progress') : progress'.Suits shape := by
  unfold add at h
  split at h
  · exact addLong_suits hsuits h
  · unfold addShort at h
    split at h
    · split at h <;> cases h
    · cases h
  · split at h
    · rename_i option hawaiting
      -- The argument is the value of the option that waits.
      cases h
      refine ⟨hsuits.settled, fun other value hwaiting => ?_⟩
      cases hwaiting
      unfold awaiting at hawaiting
      split at hawaiting
      · rename_i waiting hwaiting
        cases hawaiting
        exact hsuits.waiting _ _ hwaiting
      · cases hawaiting
    · exact addWord_suits hsuits h

end CommandProgress

namespace CommandShape

variable {shape : CommandShape} {progress : CommandProgress} {line : CommandLine}

/-- The options that a line holds are what was settled when its reading had come to its end. -/
def Ends (shape : CommandShape) (line : CommandLine) : Prop :=
  ∃ progress : CommandProgress, progress.Suits shape ∧
    ∀ name, line.option? name = progress.settled.lookup name

theorem conclude_ends (hsuits : progress.Suits shape) (h : shape.conclude progress = .ok line) :
    shape.Ends line := by
  rcases CommandProgress.exists_of_finish_bind hsuits h with ⟨finished, hfinished, h⟩
  rcases exists_of_bind h with ⟨u, -, h⟩
  cases h
  exact ⟨finished, hfinished, fun _ => rfl⟩

theorem readWords_ends {words : List String} (hsuits : progress.Suits shape)
    (h : shape.readWords progress words = .ok line) : shape.Ends line := by
  induction words generalizing progress with
  | nil => exact conclude_ends hsuits h
  | cons word rest ih =>
      rw [readWords] at h
      rcases exists_of_bind h with ⟨added, hadd, h⟩
      exact ih (CommandProgress.addWord_suits hsuits hadd) h

/-- By induction on the arguments: whatever an argument does, what has been read stays right. What
    is read of a subcommand does not matter, for the option in front of it is settled behind it. -/
theorem readFrom_ends {arguments : List String} (hsuits : progress.Suits shape)
    (h : shape.readFrom progress arguments = .ok line) : shape.Ends line := by
  induction arguments generalizing progress with
  | nil => exact conclude_ends hsuits (by rwa [readFrom] at h)
  | cons argument rest ih =>
      rw [readFrom] at h
      split at h
      · split at h
        · cases h
        · -- The name of a command below ends the options of this one.
          rcases exists_of_bind h with ⟨subline, -, h⟩
          rcases CommandProgress.exists_of_finish_bind hsuits h with ⟨finished, hfinished, h⟩
          cases h
          exact ⟨finished, hfinished, fun _ => rfl⟩
      · split at h
        · exact readWords_ends hsuits h
        · rcases exists_of_bind h with ⟨added, hadd, h⟩
          exact ih (CommandProgress.add_suits hsuits hadd) h

/-- An option of an accepted line is one of the command's, and it is no empty path. -/
theorem option?_of_read {arguments : List String} (h : shape.read arguments = .ok line)
    {name value : String} (hvalue : line.option? name = some value) :
    ∃ option ∈ shape.options,
      option.name = name ∧ (option.isPath = true → value.isEmpty = false) := by
  rcases readFrom_ends (CommandProgress.suits_start shape) h with ⟨progress, hsuits, hoptions⟩
  rw [hoptions, List.lookup_eq_some_iff] at hvalue
  rcases hvalue with ⟨before, after, hsettled, -⟩
  exact hsuits.settled (name, value) (by rw [hsettled]; exact List.mem_append_cons_self)

end CommandShape

namespace Invocation

/-- The path of a log file that an accepted command line names is not empty. -/
theorem logFile_ne_empty {arguments : List String} {invocation : Invocation}
    (h : ofArguments arguments = .ok invocation) {path : String}
    (hpath : invocation.logFile = some path) : path.isEmpty = false := by
  unfold ofArguments at h
  split at h
  · cases h
  · rename_i line hread
    split at h
    · cases h
    · cases h
      rcases CommandShape.option?_of_read hread hpath with ⟨option, hmem, hname, hvalue⟩
      refine hvalue ?_
      simp only [CommandShape.options, shape, List.mem_cons, List.not_mem_nil, or_false] at hmem
      -- Of all options one has this name, and it takes a path.
      rcases hmem with rfl | rfl | rfl | rfl | rfl <;> first | rfl | simp at hname

end Invocation

end Colloquy
