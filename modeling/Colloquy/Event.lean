/-!
# Events

What the parts of the program report while they work. An event names what happened and carries the
facts of the case as fields; where it is shown, in which form, and whether at all, is decided
elsewhere by its level and by the channel it was reported on. It also says of which work it was a
part, if there was one that has a name.

## Main definitions

* `Level`: How much an event matters.
* `Work`: Something the program does that events can be part of.
* `Event`: A report with its fields.
-/

namespace Colloquy

/-- How much an event matters, from the least to the most. -/
inductive Level where
  | trace
  | debug
  | info
  | warn
  | error
  deriving DecidableEq, Repr

namespace Level

/-- The name of a level in a log. -/
def name : Level → String
  | .trace => "TRACE"
  | .debug => "DEBUG"
  | .info => "INFO"
  | .warn => "WARN"
  | .error => "ERROR"

/-- The rank of a level among the levels. -/
def rank : Level → Nat
  | .trace => 1
  | .debug => 2
  | .info => 3
  | .warn => 4
  | .error => 5

end Level

/-- A fact carried by an event. -/
inductive Fact where
  | text (value : String)
  | number (value : Nat)
  deriving DecidableEq, Repr

/-- Something the program does that has a beginning and an end, so that events can be part of it. -/
structure Work where
  channel : String
  level : Level
  name : String
  facts : List (String × String)
  deriving DecidableEq, Repr

/-- A report: on which channel, at which level, what happened, the facts of the case, and the work
    it was part of. -/
structure Event where
  channel : String
  level : Level
  message : String
  facts : List (String × Fact)
  work : Option Work := none
  deriving DecidableEq, Repr

end Colloquy
