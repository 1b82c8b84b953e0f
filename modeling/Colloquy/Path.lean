import Colloquy.Text.Split

/-!
# Paths

Names of places on a disk, as they stand in settings and messages. A path stays the text it was
given: messages repeat it letter for letter, so joining and taking the parent work on the text and
normalise nothing.

The parts of a path are the names between its slashes. Empty names and single dots lead nowhere and
are no parts, except that a dot in front of a relative path counts as the place one stands at; two
dots lead up. What the parts mean is for `Disk` to say.

## Main definitions

* `Step`: One part of a path that leads somewhere.
* `Path.join`: A path followed by a name.
* `Path.parent?`: The path without its last part.
* `Path.steps`: The parts of a path that lead somewhere.
* `Path.withEnding`: The path with an ending added to its last name.
-/

namespace Colloquy

/-- One step along a path. -/
inductive Step where
  | up
  | down (name : String)
  deriving DecidableEq, Repr

namespace Path

/-- Whether a path starts at the root. -/
def isAbsolute (path : String) : Bool := path.toList.head? = some '/'

/-- A path followed by another, which replaces it if it starts at the root. -/
def join (base path : String) : String :=
  if isAbsolute path then path
  else if base.isEmpty || base.toList.getLast? = some '/' then base ++ path
  else base ++ "/" ++ path

/-- The names between the slashes of a path. -/
def names (path : String) : List (List Char) := splitAt '/' path.toList

/-- Each part of a path, as the text of the path up to its end. `relative` holds at the start of a
    path that does not begin at the root, where a single dot is a part. -/
def reaches : (relative : Bool) → (before : List Char) → List (List Char) → List (List Char)
  | _, _, [] => []
  | relative, before, name :: rest =>
    let here := before ++ name
    if name.isEmpty || (name = ['.'] && !relative) then reaches false (here ++ ['/']) rest
    else here :: reaches false (here ++ ['/']) rest

/-- The path without its last part. A path without parts has no parent. -/
def parent? (path : String) : Option String :=
  match (reaches (!isAbsolute path) [] (names path)).reverse with
  | [] => none
  -- Above the only part of a path is where the path starts.
  | [_] => some (if isAbsolute path then "/" else "")
  | _ :: parent :: _ => some (String.ofList parent)

/-- The steps of a path. -/
def steps (path : String) : List Step :=
  (names path).filterMap fun name =>
    if name.isEmpty || name = ['.'] then none
    else if name = ['.', '.'] then some .up
    else some (.down (String.ofList name))

/-- The path with an ending added to its last name. A path that ends in no name stays as it is. -/
def withEnding (path ending : String) : String :=
  match (reaches (!isAbsolute path) [] (names path)).getLast?, (steps path).getLast? with
  | some last, some (.down _) => String.ofList last ++ ending
  | _, _ => path

/-- Whether a path can only name a directory, because it ends in a slash or a dot. -/
def namesDirectory (path : String) : Bool :=
  match (names path).getLast? with
  | some last => last.isEmpty || last = ['.'] || last = ['.', '.']
  | none => false

end Path

end Colloquy
