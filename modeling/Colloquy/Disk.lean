import Colloquy.Path

/-!
# The Disk

A tree of directories and files, and the operations that the rest of the program performs on it.
The tree is kept as a list of places with what stands there. A place is the list of names on the
way from the root, so that writing one place says nothing about another, and the effect of an
operation can be stated place by place. The root itself is always a directory and needs no entry.

Paths are followed the way an operating system follows them, one step after the other: a step down
needs a directory to be there, and a step up goes to the directory above the one that was reached,
whichever way it was reached. Operations fail for what stands in the way and for no other reason,
except that a disk may set limits to the length of names and of whole paths.

Operations that can fail half-way, because they make several directories, return the disk as they
leave it beside their result. The others return a disk only when they succeed.

## Main definitions

* `Place`, `Entry`, `Disk`: The tree.
* `Disk.Fault`: Why an operation failed.
* `Disk.locate`: The place that a path leads to.
* `Disk.makeDirectories`, `Disk.touch`, `Disk.write`, `Disk.append`, `Disk.remove`: Operations that
  change the tree.
* `Disk.read`, `Disk.readText`, `Disk.list`, `Disk.isFile`, `Disk.holds`: Operations that do not.
-/

namespace Colloquy

/-- The names on the way from the root. -/
abbrev Place := List String

/-- Contents are compared byte by byte. -/
instance instDecidableEqContent : DecidableEq ByteArray := ByteArray.instDecidableEq

/-- What stands at a place. -/
inductive Entry where
  | directory
  | file (content : ByteArray)
  deriving DecidableEq

/-- A tree of directories and files, and the directory where relative paths start. -/
structure Disk where
  entries : List (Place × Entry) := []
  here : Place := []
  /-- The number of bytes that a name may have, if there is a limit. -/
  nameLimit : Option Nat := none
  /-- The number of bytes that a path may have, if there is a limit. -/
  pathLimit : Option Nat := none

namespace Disk

/-- Why an operation failed. -/
inductive Fault where
  | missing
  | notDirectory
  | isDirectory
  | occupied
  | nameTooLong
  | nulInPath
  | notText
  deriving DecidableEq, Repr

/-- The words of an operating system for a fault. -/
def Fault.message : Fault → String
  | .missing => "No such file or directory (os error 2)"
  | .notDirectory => "Not a directory (os error 20)"
  | .isDirectory => "Is a directory (os error 21)"
  | .occupied => "File exists (os error 17)"
  | .nameTooLong => "File name too long (os error 36)"
  | .nulInPath => "file name contained an unexpected NUL byte"
  | .notText => "stream did not contain valid UTF-8"

/-- What stands at a place. -/
def entry? (disk : Disk) (place : Place) : Option Entry :=
  if place = [] then some .directory else disk.entries.lookup place

/-- The disk with something put at a place. -/
def put (disk : Disk) (place : Place) (entry : Entry) : Disk :=
  { disk with entries := (place, entry) :: disk.entries.filter (·.1 ≠ place) }

/-- The disk with nothing at a place. -/
def clear (disk : Disk) (place : Place) : Disk :=
  { disk with entries := disk.entries.filter (·.1 ≠ place) }

/-- Whether a name is longer than the disk allows. -/
def isTooLong (disk : Disk) (name : String) : Bool :=
  match disk.nameLimit with
  | some limit => limit < name.utf8ByteSize
  | none => false

/-- Whether a path is longer than the disk allows. What stands on the disk is not looked at. -/
def isOverlong (disk : Disk) (path : String) : Bool :=
  match disk.pathLimit with
  | some limit => limit < path.utf8ByteSize
  | none => false

/-- The place that steps lead to, from directory to directory. -/
def enter (disk : Disk) : Place → List Step → Except Fault Place
  | at_, [] => .ok at_
  -- The directory above the root is the root.
  | at_, .up :: rest => enter disk at_.dropLast rest
  | at_, .down name :: rest =>
    match disk.entry? (at_ ++ [name]) with
    | some .directory => enter disk (at_ ++ [name]) rest
    | some (.file _) => .error .notDirectory
    | none => .error (if disk.isTooLong name then .nameTooLong else .missing)

/-- Where the steps of a path start. -/
def start (disk : Disk) (path : String) : Place :=
  if Path.isAbsolute path then [] else disk.here

/-- A path as it is written from the root. -/
def fromRoot (disk : Disk) (path : String) : String :=
  Path.join ("/" ++ "/".intercalate disk.here) path

/-- The place that a path leads to. The directories on the way have to be there; what the path ends
    at need not. -/
def locate (disk : Disk) (path : String) : Except Fault Place :=
  if path.isEmpty then .error .missing
  else if path.toList.contains '\x00' then .error .nulInPath
  else if disk.isOverlong path then .error .nameTooLong
  else match (Path.steps path).getLast? with
    | some (.down name) =>
      -- What the path ends at need not be there, but has to have a possible name.
      match disk.enter (disk.start path) (Path.steps path).dropLast with
      | .ok parent => if disk.isTooLong name then .error .nameTooLong else .ok (parent ++ [name])
      | .error fault => .error fault
    | _ => disk.enter (disk.start path) (Path.steps path)

/-- The directories along steps, made where they are missing. -/
def carve (disk : Disk) : Place → List Step → Except Fault Unit × Disk
  | _, [] => (.ok (), disk)
  | at_, .up :: rest => carve disk at_.dropLast rest
  | at_, .down name :: rest =>
    match disk.entry? (at_ ++ [name]) with
    | some .directory => carve disk (at_ ++ [name]) rest
    -- A file in the way is told from a file in the last place.
    | some (.file _) => (.error (if rest.isEmpty then .occupied else .notDirectory), disk)
    | none =>
      if disk.isTooLong name then (.error .nameTooLong, disk)
      else carve (disk.put (at_ ++ [name]) .directory) (at_ ++ [name]) rest

/-- The directory at a path and those on the way to it, made where they are missing. -/
def makeDirectories (disk : Disk) (path : String) : Except Fault Unit × Disk :=
  if path.toList.contains '\x00' then (.error .nulInPath, disk)
  else if disk.isOverlong path then (.error .nameTooLong, disk)
  else disk.carve (disk.start path) (Path.steps path)

/-- The place of a file that may be written at a path, and its content if there is one. -/
def target (disk : Disk) (path : String) : Except Fault (Place × Option ByteArray) :=
  match disk.locate path with
  | .error fault => .error fault
  | .ok place =>
    match disk.entry? place with
    | some .directory => .error .isDirectory
    -- A path that can only name a directory does not lead to a file, nor is one made there.
    | some (.file content) =>
      if Path.namesDirectory path then .error .notDirectory else .ok (place, some content)
    | none => if Path.namesDirectory path then .error .isDirectory else .ok (place, none)

/-- The disk with an empty file at a path, unless there is a file already. -/
def touch (disk : Disk) (path : String) : Except Fault Disk :=
  match disk.target path with
  | .error fault => .error fault
  | .ok (_, some _) => .ok disk
  | .ok (place, none) => .ok (disk.put place (.file .empty))

/-- The disk with a file of this content at a path. -/
def write (disk : Disk) (path : String) (content : ByteArray) : Except Fault Disk :=
  match disk.target path with
  | .error fault => .error fault
  | .ok (place, _) => .ok (disk.put place (.file content))

/-- The disk with bytes at the end of the file at a path, which is made if it is missing. -/
def append (disk : Disk) (path : String) (bytes : ByteArray) : Except Fault Disk :=
  match disk.target path with
  | .error fault => .error fault
  | .ok (place, content) => .ok (disk.put place (.file (content.getD .empty ++ bytes)))

/-- The content of the file at a path. -/
def read (disk : Disk) (path : String) : Except Fault ByteArray :=
  match disk.locate path with
  | .error fault => .error fault
  | .ok place =>
    match disk.entry? place with
    | some (.file content) =>
      if Path.namesDirectory path then .error .notDirectory else .ok content
    | some .directory => .error .isDirectory
    | none => .error .missing

/-- The content of the file at a path, which has to be text. -/
def readText (disk : Disk) (path : String) : Except Fault String :=
  match disk.read path with
  | .error fault => .error fault
  | .ok content =>
    match String.fromUTF8? content with
    | some text => .ok text
    | none => .error .notText

/-- Whether there is a file at a path. -/
def isFile (disk : Disk) (path : String) : Bool :=
  match disk.read path with
  | .ok _ => true
  | .error _ => false

/-- Whether there is anything at a path. -/
def holds (disk : Disk) (path : String) : Bool :=
  match disk.locate path with
  | .ok place =>
    match disk.entry? place with
    | some .directory => true
    | some (.file _) => !Path.namesDirectory path
    | none => false
  | .error _ => false

/-- The disk without the file at a path. -/
def remove (disk : Disk) (path : String) : Except Fault Disk :=
  match disk.locate path with
  | .error fault => .error fault
  | .ok place =>
    match disk.entry? place with
    | some (.file _) => .ok (disk.clear place)
    | some .directory => .error .isDirectory
    | none => .error .missing

/-- The names in a directory. -/
def children (disk : Disk) (place : Place) : List String :=
  disk.entries.filterMap fun (other, _) =>
    match other.getLast? with
    | some name => if other.dropLast = place then some name else none
    | none => none

/-- The names in the directory at a path. -/
def list (disk : Disk) (path : String) : Except Fault (List String) :=
  match disk.locate path with
  | .error fault => .error fault
  | .ok place =>
    match disk.entry? place with
    | some .directory => .ok (disk.children place)
    | some (.file _) => .error .notDirectory
    | none => .error .missing

end Disk

end Colloquy
