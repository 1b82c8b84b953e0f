import Colloquy.Path

/-!
# The Environment

The variables that the program is started with, and the directories of its user that follow from
them. Settings of a user and state of a user have directories of their own below the user's home,
which a variable can move elsewhere. A variable that does not hold an absolute path is ignored.

Assumed here is that the home directory is the one that the environment names. A system may know of
another one for the account that the program runs under, and libraries ask for it where `HOME` is
missing or empty; a user without `HOME` has no directories here.

## Main definitions

* `Environment`: Variables by name.
* `Environment.configDirectory?`, `Environment.stateDirectory?`: The program's directories of its
  user.
-/

namespace Colloquy

/-- The variables that the program is started with. -/
abbrev Environment := List (String × String)

namespace Environment

/-- The value of a variable. -/
def value? (environment : Environment) (name : String) : Option String :=
  environment.lookup name

/-- The home directory of the user, as far as the environment names it. The account of the user is
    not asked for another one. -/
def home? (environment : Environment) : Option String :=
  (environment.value? "HOME").filter (!·.isEmpty)

/-- The program's part of a directory of its user: the one that the variable of a name holds, or
    else one below the home directory. -/
def directory? (environment : Environment) (name below : String) : Option String :=
  let moved := (environment.value? name).filter Path.isAbsolute
  environment.home?.map fun home =>
    Path.join (moved.getD (Path.join home below)) "parlance"

/-- Where a user's settings are. -/
def configDirectory? (environment : Environment) : Option String :=
  environment.directory? "XDG_CONFIG_HOME" ".config"

/-- Where what the program leaves behind is kept for a user. -/
def stateDirectory? (environment : Environment) : Option String :=
  environment.directory? "XDG_STATE_HOME" ".local/state"

end Environment

end Colloquy
