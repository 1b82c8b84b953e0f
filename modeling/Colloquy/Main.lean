import Colloquy.Command.Reach
import Colloquy.Text.Utf8
import Std.Time.DateTime.Timestamp

/-!
# The Command Line

The program as it is started: it takes an image of as much of the disk as the run needs, carries out
the run on the image, and brings the disk to the state that the run leaves. A file that only grew is
appended to, and any other is replaced in a single step.

## Main definitions

* `Terminal.observe`: An image with what the disk holds along a path.
* `Terminal.restore`: The disk brought to the state of an image.
* `main`: The program.
-/

namespace Colloquy

namespace Terminal

/-- The variables of a process, which are written one after the other with a NUL behind each. -/
def environmentOf (block : String) : Environment :=
  (splitAt '\x00' block.toList).filterMap fun setting =>
    (splitOnce? '=' setting).map fun (name, value) => (String.ofList name, String.ofList value)

/-- The place that a path names, without asking what stands there. -/
def placeOf (disk : Disk) (path : String) : Place :=
  (Path.steps path).foldl
    (fun place step => match step with
      | .up => place.dropLast
      | .down name => place ++ [name])
    (disk.start path)

/-- An image with what the disk holds at one path. -/
def observeAt (disk : Disk) (path : String) : IO Disk := do
  let file := (← IO.currentDir) / path
  if ← file.isDir then return disk.put (placeOf disk path) .directory
  if ← file.pathExists then
    return disk.put (placeOf disk path) (.file (← IO.FS.readBinFile file))
  return disk

/-- An image with the names in a directory. What stands there is not read. -/
def observeNames (disk : Disk) (path : String) : IO Disk := do
  let directory := (← IO.currentDir) / path
  if !(← directory.isDir) then return disk
  let mut disk := disk
  for entry in ← directory.readDir do
    let place := placeOf disk path ++ [entry.fileName]
    if (disk.entry? place).isNone then
      disk := disk.put place (if ← entry.path.isDir then .directory else .file .empty)
  return disk

/-- An image with what the disk holds along a path, from its first part to what is in its last. -/
def observe (disk : Disk) (path : String) : IO Disk := do
  -- Every directory on the way is part of the image, since steps go from one to the next.
  let mut disk := disk
  for part in Path.reaches (!Path.isAbsolute path) [] (Path.names path) do
    disk ← observeAt disk (String.ofList part)
  observeNames disk path

/-- The path of a place. -/
def pathOf (place : Place) : String := "/" ++ "/".intercalate place

/-- The disk brought to what an image has at one place. -/
def restoreAt (before : Disk) (place : Place) (entry : Entry) : IO Unit := do
  match entry, before.entry? place with
  | .directory, some .directory => pure ()
  | .directory, _ => IO.FS.createDirAll (pathOf place)
  | .file content, some (.file old) =>
    -- A file that only grew is appended to, which leaves what others add to it alone.
    if content.size ≤ old.size || content.extract 0 old.size ≠ old then
      if content ≠ old then replace content
    else
      let handle ← IO.FS.Handle.mk (pathOf place) .append
      handle.write (content.extract old.size content.size)
  | .file content, _ => replace content
where
  /-- The file at a place replaced. -/
  replace (content : ByteArray) : IO Unit := do
    IO.FS.writeBinFile (pathOf place ++ ".new") content
    IO.FS.rename (pathOf place ++ ".new") (pathOf place)

/-- The disk brought to the state of an image. Directories come before what they hold. -/
def restore (before after : Disk) : IO Unit := do
  let changed := after.entries.filter fun (place, entry) => before.entry? place ≠ some entry
  for (place, entry) in changed.mergeSort fun a b => a.1.length ≤ b.1.length do
    restoreAt before place entry

/-- The time. -/
def now : IO Moment := do
  let duration := (← Std.Time.Timestamp.now).toDurationSinceUnixEpoch
  return ⟨duration.second.val.toNat, duration.nano.val.toNat⟩

/-- An image of the disk for a run. -/
def imageFor (environment : Environment) (arguments : List String) : IO Disk := do
  let here := (Path.steps (← IO.currentDir).toString).filterMap fun
    | .down name => some name
    | .up => none
  let mut disk : Disk :=
    { entries := (List.range here.length).map fun n => (here.take (n + 1), .directory), here }
  match Invocation.ofArguments arguments with
  | .error _ => return disk
  | .ok invocation =>
    for path in invocation.settingsPaths environment do
      disk ← observe disk path
    match invocation.loadSettings environment disk with
    | .error _ => return disk
    | .ok settings =>
      for path in invocation.workingPaths environment settings do
        disk ← observe disk path
      return disk

end Terminal

end Colloquy

open Colloquy in
/-- The program. -/
def main (arguments : List String) : IO UInt32 := do
  let block ← IO.FS.readBinFile "/proc/self/environ"
  let environment := Terminal.environmentOf (Utf8.lenient block)
  let disk ← Terminal.imageFor environment arguments
  let (result, world) := run environment arguments { disk, now := ← Terminal.now }
  Terminal.restore disk world.disk
  IO.print result.output
  IO.eprint result.errors
  return result.exitCode.toUInt32
