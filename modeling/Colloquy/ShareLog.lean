import Colloquy.Text.Blank
import Colloquy.World

/-!
# The Share Log

Where gossip goes. Every entry is appended, with its time and its scope, to a plain log that is
only read by people. On request it is also put into a document that stays wrapped in one root
element: the entry goes in front of the closing tag, and a document that is missing or blank gets
its tags first. A document that ends otherwise was not made here and is only appended to, without
touching what it holds.

Whether a document is wrapped is decided by its text each time. Nothing is remembered between
entries, so any number of logs with the same settings may write to one document.

The document is written before the plain log. An entry that cannot be put into the document is not
logged at all.

## Main definitions

* `ShareLog`: The settings of a share log.
* `ShareLog.wrap`: The text of a document with one more entry.
* `ShareLog.appendStructured`, `ShareLog.appendPlain`: One entry in either file.
* `ShareLog.record`: One entry in every file it belongs to.
-/

namespace Colloquy

/-- Where gossip is recorded, and whether it is recorded in a document too. -/
structure ShareLog where
  documentEnabled : Bool := false
  documentPath : String := "./aiml/gossip.aiml"
  root : String := "aiml"
  plainPath : String := "./logs/gossip.log"
  deriving DecidableEq, Repr

/-- Why an entry could not be recorded: the path that failed, and how. -/
structure ShareLogError where
  path : String
  fault : Disk.Fault
  deriving DecidableEq, Repr

/-- What is said about an entry that could not be recorded. -/
def ShareLogError.message (error : ShareLogError) : String :=
  "failed to write share log " ++ error.path ++ ": " ++ error.fault.message

namespace ShareLog

/-- The tag that ends a wrapped document. -/
def closingTag (root : String) : List Char := '<' :: '/' :: root.toList ++ ['>']

/-- The tag that starts a wrapped document. -/
def openingTag (root : String) : List Char := '<' :: root.toList ++ ['>']

/-- The text of a document with one more entry, which ends its own line. -/
def wrap (root : String) (document entry : List Char) : List Char :=
  let trimmed := trimEnd document
  -- White space behind the closing tag is given up for one line end.
  if (closingTag root).isSuffixOf trimmed then
    trimmed.take (trimmed.length - (closingTag root).length) ++ entry ++ closingTag root ++ ['\n']
  else if isAllBlank document then
    openingTag root ++ '\n' :: entry ++ closingTag root ++ ['\n']
  else document ++ entry

/-- The directory of a file made if it is missing. -/
def ensureParent (disk : Disk) (path : String) : Except ShareLogError Unit × Disk :=
  match Path.parent? path with
  | none => (.ok (), disk)
  | some parent =>
    if parent.isEmpty then (.ok (), disk)
    else match disk.makeDirectories parent with
      | (.error fault, disk) => (.error ⟨parent, fault⟩, disk)
      | (.ok (), disk) => (.ok (), disk)

/-- The document with one more entry. -/
def appendStructured (log : ShareLog) (disk : Disk) (entry : String) :
    Except ShareLogError Unit × Disk :=
  match ensureParent disk log.documentPath with
  | (.error error, disk) => (.error error, disk)
  | (.ok (), disk) =>
    match disk.touch log.documentPath with
    | .error fault => (.error ⟨log.documentPath, fault⟩, disk)
    | .ok disk =>
      match disk.readText log.documentPath with
      | .error fault => (.error ⟨log.documentPath, fault⟩, disk)
      | .ok document =>
        let text := String.ofList (wrap log.root document.toList entry.toList)
        match disk.write log.documentPath text.toUTF8 with
        | .error fault => (.error ⟨log.documentPath, fault⟩, disk)
        | .ok disk => (.ok (), disk)

/-- The line of one entry in the plain log. -/
def plainLine (stamp : String) (scope : Scope) (text : String) : String :=
  stamp ++ " [" ++ scope.agent ++ "/" ++ scope.user ++ "] " ++ text ++ "\n"

/-- The plain log with one more entry. -/
def appendPlain (log : ShareLog) (disk : Disk) (stamp : String) (scope : Scope) (text : String) :
    Except ShareLogError Unit × Disk :=
  match ensureParent disk log.plainPath with
  | (.error error, disk) => (.error error, disk)
  | (.ok (), disk) =>
    match disk.append log.plainPath (plainLine stamp scope text).toUTF8 with
    | .error fault => (.error ⟨log.plainPath, fault⟩, disk)
    | .ok disk => (.ok (), disk)

/-- The channel on which recorded gossip is reported. -/
def channel : String := "parlance::gossip"

/-- The report of a recorded entry. -/
def recordedEvent (scope : Scope) (text : String) : Event :=
  { channel := channel, level := .info, message := "Gossip recorded"
    facts := [("user_id", .text scope.user), ("agent_id", .text scope.agent),
      ("gossip", .text text)] }

/-- One entry in every file it belongs to, on a disk. -/
def write (log : ShareLog) (disk : Disk) (stamp : String) (scope : Scope) (text : String) :
    Except ShareLogError Unit × Disk :=
  if log.documentEnabled then
    match log.appendStructured disk (text ++ "\n") with
    | (.error error, disk) => (.error error, disk)
    | (.ok (), disk) => log.appendPlain disk stamp scope text
  else log.appendPlain disk stamp scope text

/-- The world with one entry recorded. -/
def record (log : ShareLog) (scope : Scope) (text : String) (world : World) :
    Except ShareLogError Unit × World :=
  match log.write world.disk world.now.logText scope text with
  | (.error error, disk) => (.error error, { world with disk })
  | (.ok (), disk) => (.ok (), { world with disk }.report (recordedEvent scope text))

end ShareLog

end Colloquy
