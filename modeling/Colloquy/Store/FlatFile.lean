import Colloquy.Disk
import Colloquy.Scope
import Colloquy.UnitText.Document

/-!
# Predicates in Files

A store that keeps each scope in a file of its own: a directory for each agent below the base
directory, and in it a file for each user, named by the user and the suffix of the store. The ids
are used as they are, so ids that are no names of files are refused before the disk is looked at,
the agent first.

Directories and files are made on first access, by reading too. Saving one predicate reads the
whole unit and writes the whole unit; the new text replaces the old one in a single step, so a
unit is never seen half written.

Everything here is about the disk alone. `header` is the time of writing as it is noted in the file.

## Main definitions

* `StoreError`: Why a store could not do what it was asked.
* `FlatFile`: A base directory and a suffix.
* `FlatFile.open?`: The store at a base directory, if the suffix can be part of a name.
* `FlatFile.pathFor`: The path of a unit.
* `FlatFile.readUnit`, `FlatFile.writeUnit`: A unit as a whole.
* `FlatFile.predicates`, `FlatFile.load`, `FlatFile.save`, `FlatFile.userCount`: The operations of a
  store.
-/

namespace Colloquy

/-- Why a store could not do what it was asked. -/
inductive StoreError where
  | io (path : String) (fault : Disk.Fault)
  | invalidIdentifier (role : Scope.Role) (value : String)
  deriving DecidableEq, Repr

/-- What is said about a store that failed. -/
def StoreError.message : StoreError → String
  | .io path fault => "predicate storage I/O error at " ++ path ++ ": " ++ fault.message
  | .invalidIdentifier role value => "invalid " ++ role.word ++ " id: " ++ quoted value

/-- A store of units below a base directory, in files with a suffix. -/
structure FlatFile where
  base : String
  suffix : String
  deriving DecidableEq, Repr

namespace FlatFile

/-- Nothing, if a text can be the name of a file; otherwise its refusal. -/
def checkComponent (role : Scope.Role) (value : String) : Except StoreError Unit :=
  if isComponent value then .ok () else .error (.invalidIdentifier role value)

/-- The store at a base directory. -/
def open? (base suffix : String) : Except StoreError FlatFile :=
  match checkComponent .suffix suffix with
  | .ok () => .ok ⟨base, suffix⟩
  | .error error => .error error

/-- The directory of an agent. -/
def agentPath (store : FlatFile) (agent : String) : String :=
  Path.join store.base agent

/-- The path of the unit of a scope. -/
def pathFor (store : FlatFile) (scope : Scope) : Except StoreError String :=
  match checkComponent .agent scope.agent with
  | .error error => .error error
  | .ok () =>
    match checkComponent .user scope.user with
    | .error error => .error error
    | .ok () => .ok (Path.join (store.agentPath scope.agent) (scope.user ++ store.suffix))

/-- The unit at a path made if it is missing, with the directories it needs. -/
def ensureUnit (disk : Disk) (path : String) : Except StoreError Unit × Disk :=
  let parent := (Path.parent? path).getD ""
  match disk.makeDirectories parent with
  | (.error fault, disk) => (.error (.io parent fault), disk)
  | (.ok (), disk) =>
    match disk.touch path with
    | .error fault => (.error (.io path fault), disk)
    | .ok disk => (.ok (), disk)

/-- The predicates of the unit at a path. -/
def readUnit (disk : Disk) (path : String) : Except StoreError Predicates × Disk :=
  match ensureUnit disk path with
  | (.error error, disk) => (.error error, disk)
  | (.ok (), disk) =>
    match disk.readText path with
    -- A unit that is gone again holds nothing.
    | .ok text => (.ok (UnitText.decode text), disk)
    | .error .missing => (.ok ∅, disk)
    | .error fault => (.error (.io path fault), disk)

/-- The name under which a unit is written before it takes the place of the old one. Only its length
    matters here. -/
def draftName : String := ".tmp000000"

/-- The disk with the unit at a path replaced. The new unit is written beside the old one first, at
    a path from the root, which may turn out too long. -/
def writeUnit (disk : Disk) (path header : String) (predicates : Predicates) :
    Except StoreError Unit × Disk :=
  let parent := (Path.parent? path).getD ""
  if disk.isOverlong (Path.join (disk.fromRoot parent) draftName) then
    (.error (.io parent .nameTooLong), disk)
  else match disk.write path (UnitText.encode header predicates).toUTF8 with
    | .error fault => (.error (.io path fault), disk)
    | .ok disk => (.ok (), disk)

/-- Every predicate of a scope. -/
def predicates (store : FlatFile) (disk : Disk) (scope : Scope) :
    Except StoreError Predicates × Disk :=
  match store.pathFor scope with
  | .error error => (.error error, disk)
  | .ok path => readUnit disk path

/-- The value of a predicate. -/
def load (store : FlatFile) (disk : Disk) (scope : Scope) (name : String) :
    Except StoreError (Option String) × Disk :=
  match store.predicates disk scope with
  | (.error error, disk) => (.error error, disk)
  | (.ok predicates, disk) => (.ok (predicates.get? name), disk)

/-- The disk with a predicate set, and the path of its unit. -/
def save (store : FlatFile) (disk : Disk) (header : String) (scope : Scope) (name value : String) :
    Except StoreError String × Disk :=
  match store.pathFor scope with
  | .error error => (.error error, disk)
  | .ok path =>
    match readUnit disk path with
    | (.error error, disk) => (.error error, disk)
    | (.ok predicates, disk) =>
      -- The other predicates of the unit are written again as they were read.
      match writeUnit disk path header (predicates.insert name value) with
      | (.error error, disk) => (.error error, disk)
      | (.ok (), disk) => (.ok path, disk)

/-- Whether a file of this name in the directory of an agent is a unit. -/
def isUnitName (store : FlatFile) (name : String) : Bool :=
  store.suffix.utf8ByteSize < name.utf8ByteSize &&
    store.suffix.toList.isSuffixOf name.toList

/-- The number of units in the directory of an agent. -/
def userCount (store : FlatFile) (disk : Disk) (agent : String) : Except StoreError Nat :=
  match checkComponent .agent agent with
  | .error error => .error error
  | .ok () =>
    let path := store.agentPath agent
    match disk.list path with
    -- An agent that nobody has talked to has no directory.
    | .error .missing => .ok 0
    | .error fault => .error (.io path fault)
    | .ok names =>
      .ok (names.countP fun name => store.isUnitName name && disk.isFile (Path.join path name))

end FlatFile

end Colloquy
