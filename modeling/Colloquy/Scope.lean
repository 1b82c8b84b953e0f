import Colloquy.Text.Quoted

/-!
# Scopes and Identifiers

Whose predicates are meant: those of one user in conversation with one agent. Identifiers are
arbitrary texts as far as conversations are concerned. Only a store that keeps its units as files
turns them into names of files, and there a text that would be no name, or would lead elsewhere, is
refused.

## Main definitions

* `Scope`: One user talking to one agent.
* `isComponent`: Whether a text can be the name of a file or directory.
* `Scope.Role`: What an identifier was meant to name.
-/

namespace Colloquy

/-- One user in conversation with one agent. -/
structure Scope where
  user : String
  agent : String
  deriving DecidableEq, Repr, Inhabited

/-- What an identifier was meant to name. -/
inductive Scope.Role where
  | agent
  | user
  | suffix
  deriving DecidableEq, Repr

/-- The word for what an identifier was meant to name. -/
def Scope.Role.word : Scope.Role → String
  | .agent => "agent"
  | .user => "user"
  | .suffix => "suffix"

/-- Whether a text can name one file or directory: it is not empty, does not lead to the directory
    itself or to the one above it, and holds no separator and no NUL. -/
def isComponent (name : String) : Bool :=
  name ≠ "" && name ≠ "." && name ≠ ".." &&
    !name.toList.any fun c => c = '/' || c = '\\' || c = '\x00'

end Colloquy
