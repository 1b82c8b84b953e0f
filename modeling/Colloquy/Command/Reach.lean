import Colloquy.Command.Program

/-!
# What a Run Looks at

The paths that a run may read or write, known before it starts. A run is a function on an image of
the disk, so whoever carries it out has to know how much of the disk the image needs: the settings
files first, and when the settings are known, the files that they and the command name.

## Main definitions

* `Invocation.settingsPaths`: The files that settings may come from.
* `Invocation.workingPaths`: The files and directories that a command with settings may use.
-/

namespace Colloquy

/-- The unit of a scope in a store, or nothing if its ids are refused. -/
def FlatFile.unitPaths (store : FlatFile) (scope : Scope) : List String :=
  match store.pathFor scope with
  | .ok path => [path]
  | .error _ => []

/-- The paths that a command itself names or leads to. -/
def Command.paths (store : FlatFile) : Command → List String
  | .respond scope _ file => file.toList ++ store.unitPaths scope
  | .getPredicate scope _ => store.unitPaths scope
  | .setPredicate scope _ _ => store.unitPaths scope
  | .listPredicates scope _ => store.unitPaths scope
  | .countUsers agent => [store.agentPath agent]
  | .listElements => []

namespace Invocation

/-- The files that settings may come from. -/
def settingsPaths (invocation : Invocation) (environment : Environment) : List String :=
  match invocation.config with
  | some path => Settings.candidates path
  | none => (Settings.standardPaths environment).flatMap Settings.candidates

/-- The files and directories that a command with settings may use. -/
def workingPaths (invocation : Invocation) (environment : Environment) (settings : Settings) :
    List String :=
  invocation.command.paths ⟨settings.baseDir, settings.suffix⟩ ++
    [settings.shareLog.documentPath, settings.shareLog.plainPath] ++
    (logFilePath? environment none settings.logging.file).toList

end Invocation

end Colloquy
