import Colloquy.Logging.Setup
import Colloquy.Moment.Calendar
import Colloquy.Text.Json

/-!
# Log Lines

How an event looks in a log, and what a log that is set up does with the events of a run. A line in
JSON names the time, the level, the facts in order of name, and the channel. A line of text is for
people.

## Main definitions

* `Event.jsonLine`, `Event.textLine`: An event as a line.
* `LogSetup.lines`: The lines of events.
-/

namespace Colloquy

/-- A fact in JSON. -/
def Fact.toJson : Fact → Json
  | .text value => .text value
  | .number value => .number value

/-- A fact in a line of text. -/
def Fact.plain : Fact → String
  | .text value => value
  | .number value => toString value

namespace Event

/-- The facts of an event with what happened among them, in order of name. -/
def allFacts (event : Event) : Dictionary Fact :=
  Dictionary.ofList (("message", .text event.message) :: event.facts)

/-- An event as a line of JSON. -/
def jsonLine (stamp : String) (event : Event) : String :=
  (Json.object
    [("timestamp", .text stamp), ("level", .text event.level.name),
      ("fields", .object (event.allFacts.entries.map fun entry => (entry.1, entry.2.toJson))),
      ("target", .text event.channel)]).line

/-- An event as a line of text. -/
def textLine (stamp : String) (event : Event) : String :=
  let level := event.level.name
  let padding := String.ofList (List.replicate (5 - level.length) ' ')
  " ".intercalate
    (stamp :: (padding ++ level) :: (event.channel ++ ":") :: event.message ::
      event.facts.map fun fact => fact.1 ++ "=" ++ fact.2.plain)

end Event

/-- The lines of events in a log, each with its line end. -/
def LogSetup.lines (setup : LogSetup) (stamp : String) (events : List Event) : String :=
  let line := match setup.form with
    | .json => Event.jsonLine stamp
    | .text => Event.textLine stamp
  String.join ((events.filter setup.filter.admits).map fun event => line event ++ "\n")

end Colloquy
