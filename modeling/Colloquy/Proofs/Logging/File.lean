import Colloquy.Command.Program
import Colloquy.Proofs.Command.Line
import Colloquy.Proofs.Disk.Content
import Colloquy.Proofs.ShareLog

/-!
# Which File the Log Is

A log file can be named on the command line, by a variable and in the settings. The rule for the
three is that the first one which is given and not empty counts, in this order. A run does not
follow the rule. It puts the flag where the setting was and asks the rule about a variable and a
setting only, so that a variable wins over the flag. This is all that goes wrong: the file of a run
is the one that the rule names unless there is a flag and a variable that names another file.

## Main definitions

* `firstGiven?`: The first of several paths that is given and not empty.
* `Invocation.baseSettings`: The settings of an invocation before its options are in place.
* `LogsTo`: How a run uses a log file.

## Theorems

* `logFilePath?_eq`: The rule, as a choice between paths.
* `logFilePath?_applyTo`: The file that a run asks the rule for.
* `path_of_planFor`: A log that goes to a file has the file that settings and environment name.
* `makeFile_altered`, `makeFile_eq_ok`: What making a log file does.
* `log_file_of_run`: The file of a run, and when it is the one that the rule names.
* `variable_beats_flag`: A run in which it is not.
-/

namespace Colloquy

/-- The first of several paths that is given and not empty. -/
def firstGiven? (paths : List (Option String)) : Option String :=
  paths.findSome? (Option.filter (!·.isEmpty))

@[simp]
theorem firstGiven?_nil : firstGiven? [] = none := rfl

@[simp]
theorem firstGiven?_none (rest : List (Option String)) :
    firstGiven? (none :: rest) = firstGiven? rest := rfl

@[simp]
theorem firstGiven?_some (path : String) (rest : List (Option String)) :
    firstGiven? (some path :: rest) = if path.isEmpty then firstGiven? rest else some path := by
  cases hempty : path.isEmpty <;> simp [firstGiven?, Option.filter, hempty]

/-- The file that is used if none is given: one in the user's directory. -/
def Environment.logFile? (environment : Environment) : Option String :=
  environment.stateDirectory?.map fun directory => Path.join directory "parlance.log"

/-- The rule: a flag, a variable and a setting in this order, and then the user's directory. -/
theorem logFilePath?_eq (environment : Environment) (flag setting : Option String) :
    logFilePath? environment flag setting =
      (firstGiven? [flag, environment.value? "PARLANCE_LOG_FILE", setting]
        <|> environment.logFile?) := by
  -- The first path of a list that is given and not empty is the first one given.
  have hfind (paths : List (Option String)) :
      (paths.filterMap id).find? (!·.isEmpty) = firstGiven? paths := by
    induction paths with
    | nil => rfl
    | cons path rest ih =>
        cases path with
        | none => exact ih
        | some path =>
            show (path :: rest.filterMap id).find? (!·.isEmpty) = _
            rw [List.find?_cons, firstGiven?_some]
            cases path.isEmpty with
            | true => exact ih
            | false => rfl
  unfold logFilePath? Environment.logFile?
  simp only [hfind]
  cases firstGiven? [flag, environment.value? "PARLANCE_LOG_FILE", setting] <;> rfl

namespace Invocation

/-- The settings of an invocation before its options are in place. -/
def baseSettings (invocation : Invocation) (environment : Environment) (disk : Disk) :
    Except LoadError Settings :=
  match invocation.config with
  | some path => Settings.loadFile disk environment path
  | none => Settings.load disk environment

theorem loadSettings_eq (invocation : Invocation) (environment : Environment) (disk : Disk) :
    invocation.loadSettings environment disk =
      (invocation.baseSettings environment disk).map invocation.applyTo := rfl

variable {arguments : List String} {invocation : Invocation}

/-- A run asks for the file with its flag in the place of the setting. So a variable comes first,
    and the flag before the setting. -/
theorem logFilePath?_applyTo (haccepted : ofArguments arguments = .ok invocation)
    (environment : Environment) (settings : Settings) :
    logFilePath? environment none (invocation.applyTo settings).logging.file =
      (firstGiven? [environment.value? "PARLANCE_LOG_FILE", invocation.logFile,
        settings.logging.file] <|> environment.logFile?) := by
  rw [logFilePath?_eq]
  congr 1
  show firstGiven? [none, environment.value? "PARLANCE_LOG_FILE",
    invocation.logFile <|> settings.logging.file] = _
  cases hflag : invocation.logFile with
  | none => cases environment.value? "PARLANCE_LOG_FILE" <;> simp
  | some flag =>
      -- A flag is never empty, so no setting counts beside it.
      have hgiven := logFile_ne_empty haccepted hflag
      cases environment.value? "PARLANCE_LOG_FILE" <;> simp [hgiven]

/-- A run asks for the file that the rule names if it has no flag, if there is no variable that
    could be in its way, or if both name one file; and only then. -/
theorem logFilePath?_applyTo_eq_iff (haccepted : ofArguments arguments = .ok invocation)
    (environment : Environment) (settings : Settings) :
    logFilePath? environment none (invocation.applyTo settings).logging.file =
        logFilePath? environment invocation.logFile settings.logging.file
      ↔ invocation.logFile = none ∨ firstGiven? [environment.value? "PARLANCE_LOG_FILE"] = none ∨
        firstGiven? [environment.value? "PARLANCE_LOG_FILE"] = invocation.logFile := by
  rw [logFilePath?_applyTo haccepted, logFilePath?_eq]
  cases hflag : invocation.logFile with
  | none => cases environment.value? "PARLANCE_LOG_FILE" <;> simp
  | some flag =>
      -- A path that was accepted on the command line is not empty.
      have hgiven := logFile_ne_empty haccepted hflag
      rcases environment.value? "PARLANCE_LOG_FILE" with _ | path
      · simp [hgiven]
      · cases hempty : path.isEmpty <;> simp [hgiven, hempty]

end Invocation

namespace LogSetup

variable {environment : Environment} {disk : Disk} {path : String}

/-- A log that goes to a file goes to the one that variable and setting name. -/
theorem path_of_planFor {settings : LogSettings} {setup : LogSetup}
    (hplan : planFor environment settings = .ok setup) (hfile : setup.targets.file = true) :
    ∃ path, setup.path = some path ∧ logFilePath? environment none settings.file = some path := by
  rcases exists_of_bind hplan with ⟨filter, -, hplan⟩
  rcases exists_of_bind hplan with ⟨form, -, hplan⟩
  rcases exists_of_bind hplan with ⟨targets, -, hplan⟩
  split at hplan
  · split at hplan
    · -- A file is only planned where there is a path for it.
      rename_i path hpath
      cases hplan
      exact ⟨path, rfl, hpath⟩
    · cases hplan
  · rename_i hno
    cases hplan
    exact absurd hfile hno

/-- Making a log file alters its place and the directories on the way to it, even if it fails. -/
theorem makeFile_altered (disk : Disk) (path : String) :
    Disk.Altered (ShareLog.parentWay disk path) [disk.destination path] disk
      (makeFile disk path).2 := by
  -- The file is opened after its directory has been made, if it has one.
  have hopen (between : Disk) :
      Disk.Altered [] [between.destination path] between (makeFile.openFile path between).2 := by
    unfold makeFile.openFile
    split
    · exact .refl _ _ _
    · exact Disk.touch_altered ‹_›
  unfold makeFile
  cases hparent : Path.parent? path with
  | none => exact (hopen disk).mono (List.nil_subset _) (List.Subset.refl _)
  | some parent =>
      have hmade : Disk.Altered (ShareLog.parentWay disk path) [] disk
          (disk.makeDirectories parent).2 := by
        simpa only [ShareLog.parentWay, hparent] using Disk.makeDirectories_altered disk parent
      simp only []
      split
      · rename_i hmake
        rw [hmake] at hmade
        exact hmade.mono (List.Subset.refl _) (List.nil_subset _)
      · rename_i between hmake
        rw [hmake] at hmade
        exact ShareLog.altered_file hmade (hopen between)

/-- A log file that was made is there, with what was in it before or with nothing. -/
theorem makeFile_eq_ok {disk' : Disk} {u : Unit} (h : makeFile disk path = (.ok u, disk')) :
    disk'.contentAt? (disk.destination path)
      = some ((disk.contentAt? (disk.destination path)).getD .empty) := by
  have hopen {between : Disk} (h : makeFile.openFile path between = (.ok u, disk')) :
      disk'.contentAt? (between.destination path)
        = some ((between.contentAt? (between.destination path)).getD .empty) := by
    unfold makeFile.openFile at h
    split at h
    · cases h
    · cases h
      exact Disk.touch_contentAt? ‹_›
  unfold makeFile at h
  cases hparent : Path.parent? path with
  | none => exact hopen (by rwa [hparent] at h)
  | some parent =>
      have hmade := Disk.makeDirectories_altered disk parent
      simp only [hparent] at h
      split at h
      · cases h
      · rename_i between hmake
        rw [hmake] at hmade
        -- The directories that were made leave the file as it was.
        have hplace : between.destination path = disk.destination path :=
          hmade.destination_eq path
        have hkept : between.contentAt? (between.destination path)
            = disk.contentAt? (disk.destination path) :=
          hmade.contentAt?_destination List.not_mem_nil
        rw [← hkept, ← hplace, hopen h]

/-- What keeps a log file from being made does not end a run. -/
theorem endsRun_of_makeFile {disk' : Disk} {fault : LogFault}
    (h : makeFile disk path = (.error fault, disk')) : fault.endsRun = false := by
  unfold makeFile makeFile.openFile at h
  split at h
  · split at h <;> cases h
    rfl
  · split at h
    · cases h
      rfl
    · split at h <;> cases h
      rfl

end LogSetup

/-- How a run uses a log file. Before its command it makes the file, with the directories on the way
    to it, and nothing else; and after its command it adds lines to the file. If the file cannot be
    made, or if no more can be added to it, the run goes on without it. -/
inductive LogsTo (path : String) (settings : Settings) (command : Command) (world : World) :
    World → Prop where
  | opened {disk : Disk} {after final : World} (lines : String)
      (haltered : Disk.Altered (ShareLog.parentWay world.disk path)
        [world.disk.destination path] world.disk disk)
      (hmade : disk.contentAt? (world.disk.destination path)
        = some ((world.disk.contentAt? (world.disk.destination path)).getD .empty))
      (hafter : (Run.conclude settings command { world with disk }).2 = after)
      (hfinal : final = after ∨
        ∃ written, after.disk.append path lines.toUTF8 = .ok written ∧
          final = { after with disk := written }) :
      LogsTo path settings command world final
  | refused {disk : Disk} {final : World}
      (haltered : Disk.Altered (ShareLog.parentWay world.disk path)
        [world.disk.destination path] world.disk disk)
      (hrefused : ∃ fault, LogSetup.makeFile world.disk path = (.error fault, disk))
      (hafter : (Run.conclude settings command { world with disk }).2 = final) :
      LogsTo path settings command world final

namespace Run

variable {environment : Environment} {settings : Settings} {setup : LogSetup} {path : String}

/-- Lines are added to the file, or the world stays as it was. -/
theorem writeLog_world (hpath : setup.path = some path) (lines : String) (result : RunResult)
    (world : World) :
    (writeLog setup lines result world).2 = world ∨
      ∃ written, world.disk.append path lines.toUTF8 = .ok written ∧
        (writeLog setup lines result world).2 = { world with disk := written } := by
  unfold writeLog
  simp only [hpath]
  split
  · exact .inr ⟨_, ‹_›, rfl⟩
  · exact .inl rfl

/-- A run with a plan for its log uses the file of the plan. -/
theorem withSettings_logsTo (henabled : settings.logging.enabled = true)
    (hplan : LogSetup.planFor environment settings.logging = .ok setup)
    (hpath : setup.path = some path) (command : Command) (world : World) :
    LogsTo path settings command world (withSettings environment settings command world).2 := by
  have haltered := LogSetup.makeFile_altered world.disk path
  have hoff : (!settings.logging.enabled) = false := by rw [henabled]; rfl
  unfold withSettings
  rcases hmake : LogSetup.makeFile world.disk path with ⟨fault | u, disk⟩
  -- A file that cannot be made is no reason to stop, so the command is done without it.
  · have hprepare : LogSetup.prepare environment settings.logging world.disk
        = (.error fault, disk) := by
      simp only [LogSetup.prepare, hoff, hplan, hpath, hmake, Bool.false_eq_true, if_false]
    rw [hmake] at haltered
    simp only [hprepare, LogSetup.endsRun_of_makeFile hmake, Bool.false_eq_true, if_false]
    exact .refused haltered ⟨fault, hmake⟩ rfl
  · have hprepare : LogSetup.prepare environment settings.logging world.disk
        = (.ok setup, disk) := by
      simp only [LogSetup.prepare, hoff, hplan, hpath, hmake, Bool.false_eq_true, if_false]
    rw [hmake] at haltered
    simp only [hprepare]
    exact .opened _ haltered (LogSetup.makeFile_eq_ok hmake) rfl (writeLog_world hpath _ _ _)

end Run

variable {environment : Environment} {arguments : List String} {invocation : Invocation}
  {settings : Settings} {setup : LogSetup} {world : World}

/-- The log file of a run. A variable names it, or else the flag, or else the setting, or else it is
    the one in the user's directory; that is the file which the rule names unless there is a flag
    and a variable that names another file. -/
theorem log_file_of_run (haccepted : Invocation.ofArguments arguments = .ok invocation)
    (hloaded : invocation.baseSettings environment world.disk = .ok settings)
    (henabled : settings.logging.enabled = true)
    (hplan : LogSetup.planFor environment (invocation.applyTo settings).logging = .ok setup)
    (hfile : setup.targets.file = true) :
    ∃ path,
      (firstGiven? [environment.value? "PARLANCE_LOG_FILE", invocation.logFile,
        settings.logging.file] <|> environment.logFile?) = some path ∧
      LogsTo path (invocation.applyTo settings) invocation.command world
        (run environment arguments world).2 ∧
      (logFilePath? environment invocation.logFile settings.logging.file = some path
        ↔ invocation.logFile = none ∨
          firstGiven? [environment.value? "PARLANCE_LOG_FILE"] = none ∨
          firstGiven? [environment.value? "PARLANCE_LOG_FILE"] = invocation.logFile) := by
  rcases LogSetup.path_of_planFor hplan hfile with ⟨path, hsetup, hpath⟩
  refine ⟨path, ?_, ?_, ?_⟩
  · rw [← hpath, Invocation.logFilePath?_applyTo haccepted]
  · -- With the command line accepted and the settings loaded the run goes on with both.
    have hrun : run environment arguments world = Run.withSettings environment
        (invocation.applyTo settings) invocation.command world := by
      simp only [run, haccepted, Invocation.loadSettings_eq, hloaded, Except.map]
    rw [hrun]
    have henabled' : (invocation.applyTo settings).logging.enabled = true := henabled
    exact Run.withSettings_logsTo henabled' hplan hsetup invocation.command world
  · rw [← Invocation.logFilePath?_applyTo_eq_iff haccepted environment settings, hpath, eq_comm]

/-- A variable that is empty does not stand in the way of a flag. -/
theorem log_file_of_run_beside_empty_variable :
    ∃ path, firstGiven? [some "", some "cli.log", none] = some path ∧
      LogsTo path { logging := { output := "file", file := some "cli.log" } } .listElements {}
        (run [("PARLANCE_LOG_FILE", "")]
          ["--log-output", "file", "--log-file", "cli.log", "tags"] {}).2 ∧
      logFilePath? [("PARLANCE_LOG_FILE", "")] (some "cli.log") none = some path := by
  have haccepted : Invocation.ofArguments
      ["--log-output", "file", "--log-file", "cli.log", "tags"] =
        .ok { command := .listElements, logOutput := some "file", logFile := some "cli.log" } := by
    rfl
  rcases @log_file_of_run [("PARLANCE_LOG_FILE", "")] _ _ {} _ {} haccepted rfl rfl rfl rfl
    with ⟨path, hpath, hlogs, hrule⟩
  exact ⟨path, hpath, hlogs, hrule.mpr (.inr (.inl rfl))⟩

/-- The rule names the file of the flag, and the run uses the file of the variable. -/
theorem variable_beats_flag :
    logFilePath? [("PARLANCE_LOG_FILE", "env.log")] (some "cli.log") none = some "cli.log" ∧
      (run [("PARLANCE_LOG_FILE", "env.log")]
        ["--log-output", "file", "--log-file", "cli.log", "tags"] {}).2.disk.entries.map (·.1)
        = [["env.log"]] := by
  decide +kernel

end Colloquy
