import Colloquy.Event
import Colloquy.Number.Literal
import Colloquy.Pattern.Reader
import Colloquy.Pattern.Search
import Colloquy.Settings.Decode
import Colloquy.Text.Alphanumeric
import Colloquy.Text.Blank
import Colloquy.Text.Split

/-!
# Log Directives

A directive says from which level on events of a channel are logged. It is written as a channel,
an equals sign and a level; either may be missing. Behind the channel, brackets can narrow a
directive down to work of one kind, with facts of that work between braces, and to events that
carry certain facts. The value of a fact is a pattern.

A word without an equals sign is a level if it names one, and else a channel. A channel without a
level lets every event through.

White space around a directive is passed over when its signs are looked for, but its words are cut
out of the whole text, at the distances from the start at which the signs were found. So white
space behind a directive belongs to its last word, and with white space in front every word is cut
too early.

## Main definitions

* `Threshold`: The least level that is let through.
* `Directive`: A threshold and the events it is for.
* `DirectiveFault`: Why a text is no directive.
* `Directive.Stage`: How far a directive has been read.
* `Directive.ofText`: The directive that a text is.
* `Directive.concerns`, `Directive.fits`: Whether a directive is about some work.
-/

namespace Colloquy

/-- The least level that is let through; without one, no event is. -/
abbrev Threshold := Option Level

namespace Threshold

/-- Whether a threshold lets a level through. -/
def admits (threshold : Threshold) (level : Level) : Bool :=
  match threshold with
  | some least => least.rank ≤ level.rank
  | none => false

/-- The one of two thresholds that lets more through. -/
def wider : Threshold → Threshold → Threshold
  | none, other => other
  | some least, none => some least
  | some a, some b => if a.rank ≤ b.rank then some a else some b

/-- The thresholds by number, from the strictest. -/
def numbered : List Threshold :=
  [none, some .error, some .warn, some .info, some .debug, some .trace]

/-- The threshold of a number or a name, in any case. -/
def ofText? (cs : List Char) : Option Threshold :=
  match Reading.writtenNatural? cs with
  | some n => numbered[n]?
  | none =>
    let word := String.ofList (cs.map Char.toUpper)
    if word = "OFF" then some none
    else ([.trace, .debug, .info, .warn, .error].find? fun level : Level => level.name = word).map
      some

end Threshold

/-- A threshold and the events it is for: those of channels that start with `channel`, if it names
    any, those inside of work called `work`, and those that carry `facts`, perhaps with certain
    values. -/
structure Directive where
  threshold : Threshold := some .trace
  channel : Option String := none
  work : Option String := none
  facts : List (String × Option String) := []
  deriving DecidableEq, Repr

/-- Why a text is no directive: its level is none, the value of a fact is no pattern, a word of it
    would be cut within a character, or anything else about it. -/
inductive DirectiveFault where
  | malformed
  | unknownLevel
  | value (fault : Pattern.Fault)
  | torn
  deriving DecidableEq, Repr

/-- The words for why a text is no directive. -/
def DirectiveFault.message : DirectiveFault → String
  | .malformed => "invalid filter directive"
  | .unknownLevel =>
    "error parsing level filter: expected one of \"off\", \"error\", \"warn\", " ++
      "\"info\", \"debug\", \"trace\", or a number 0-5"
  | .value fault => "invalid field filter: " ++ fault.message
  | .torn => "a word ends within a character"

namespace Directive

/-- Whether a directive may start with a character. -/
def starts (c : Char) : Bool :=
  c = '-' || c = ':' || c = '_' || isAlphanumeric c

/-- The text behind so many bytes, if no character is cut. -/
def dropBytes? : Nat → List Char → Option (List Char)
  | 0, cs => some cs
  | _ + 1, [] => none
  | size + 1, c :: rest =>
    if c.utf8Size ≤ size + 1 then dropBytes? (size + 1 - c.utf8Size) rest else none
termination_by _ cs => cs.length

/-- The first so many bytes of a text, if no character is cut. -/
def takeBytes? : Nat → List Char → Option (List Char)
  | 0, _ => some []
  | _ + 1, [] => none
  | size + 1, c :: rest =>
    if c.utf8Size ≤ size + 1 then
      (takeBytes? (size + 1 - c.utf8Size) rest).map (c :: ·)
    else none
termination_by _ cs => cs.length

/-- The word of a text between two distances from its start, in bytes. -/
def cut (text : List Char) (start stop : Nat) : Except DirectiveFault (List Char) :=
  match (dropBytes? start text).bind (takeBytes? (stop - start)) with
  | some word => .ok word
  | none => .error .torn

/-- The word of a text from a distance from its start on. -/
def cutFrom (text : List Char) (start : Nat) : Except DirectiveFault (List Char) :=
  match dropBytes? start text with
  | some word => .ok word
  | none => .error .torn

/-- The threshold of a level; without one, everything is let through. -/
def thresholdOf (level : List Char) : Except DirectiveFault Threshold :=
  if level.isEmpty then .ok (some .trace)
  else match Threshold.ofText? level with
    | some threshold => .ok threshold
    | none => .error .unknownLevel

/-- Whether the value of a fact reads as a truth value or a number. Such values are not asked of
    texts, so they are not patterns either. -/
def isPlainValue (value : List Char) : Bool :=
  value = "true".toList || value = "false".toList || (Literal.fraction? value).isSome

/-- A fact that is asked for: a name, perhaps with a value. What follows a second equals sign means
    nothing. -/
def factOf (cs : List Char) : Except DirectiveFault (String × Option String) :=
  match splitAt '=' cs with
  | name :: value :: _ =>
    if isPlainValue value then .ok (String.ofList name, some (String.ofList value))
    else match Pattern.ofText value with
      | .ok _ => .ok (String.ofList name, some (String.ofList value))
      | .error fault => .error (.value fault)
  | [name] => if name.isEmpty then .error .malformed else .ok (String.ofList name, none)
  | [] => .error .malformed

/-- How far a directive has been read. A stage in which a word is being read knows how far from the
    start of the text the word starts. -/
inductive Stage where
  | start
  | word
  | work (start : Nat)
  | fact (start : Nat)
  | facts
  | narrowed
  | level (start : Nat)
  | complete
  deriving DecidableEq, Repr

/-- A directive with one more fact, which is a word of the text. -/
def addFact (directive : Directive) (text : List Char) (start stop : Nat) :
    Except DirectiveFault Directive := do
  let fact ← factOf (← cut text start stop)
  return { directive with facts := directive.facts ++ [fact] }

/-- The directive that a text without brackets and equals sign is. -/
def ofWord (text : List Char) : Directive :=
  match Threshold.ofText? text with
  | some threshold => { threshold }
  | none => { channel := some (String.ofList text) }

/-- A directive once one more character of it has been read, `place` bytes from its start. -/
def advance (text : List Char) (directive : Directive) (stage : Stage) (place : Nat) (c : Char) :
    Except DirectiveFault (Directive × Stage) :=
  let next := place + c.utf8Size
  match stage, c with
  | .start, '[' => .ok (directive, .work next)
  | .start, c => if starts c then .ok (directive, .word) else .error .malformed
  | .word, '=' => do
    let channel ← cut text 0 place
    return ({ directive with channel := some (String.ofList channel) }, .level next)
  | .word, '[' => do
    let channel ← cut text 0 place
    return ({ directive with channel := some (String.ofList channel) }, .work next)
  | .word, ',' => do return (ofWord (← cut text 0 place), .complete)
  | .word, _ => .ok (directive, .word)
  | .work start, ']' => do
    -- Without braces the brackets always name work, if only by the empty name.
    let name ← cut text start place
    return ({ directive with work := some (String.ofList name) }, .narrowed)
  | .work start, '\x7b' => do
    let name ← cut text start place
    let work := if name.isEmpty then none else some (String.ofList name)
    return ({ directive with work }, .fact next)
  | .work start, _ => .ok (directive, .work start)
  | .fact start, '\x7d' => do return (← addFact directive text start place, .facts)
  | .fact start, ',' => do return (← addFact directive text start place, .fact next)
  | .fact start, _ => .ok (directive, .fact start)
  | .facts, ']' => .ok (directive, .narrowed)
  | .narrowed, '=' => .ok (directive, .level next)
  | .level start, ',' => do
    let threshold ← thresholdOf (← cut text start place)
    return ({ directive with threshold }, .complete)
  | .level start, _ => .ok (directive, .level start)
  | .facts, _ | .narrowed, _ | .complete, _ => .error .malformed

/-- A directive when its text ends. -/
def finish (text : List Char) (directive : Directive) : Stage → Except DirectiveFault Directive
  | .word => .ok (ofWord text)
  | .level start => do
    let threshold ← thresholdOf (← cutFrom text start)
    return { directive with threshold }
  | .narrowed => .ok directive
  | .complete => .ok directive
  | .start | .work _ | .fact _ | .facts => .error .malformed

/-- A directive with the rest of its signs read, from `place` bytes on. -/
def readFrom (text : List Char) (directive : Directive) (stage : Stage) (place : Nat) :
    List Char → Except DirectiveFault Directive
  | [] => finish text directive stage
  | c :: rest => do
    let (directive, stage) ← advance text directive stage place c
    readFrom text directive stage (place + c.utf8Size) rest

/-- The directive that a text is. -/
def ofText (text : String) : Except DirectiveFault Directive :=
  readFrom text.toList {} .start 0 (trimBlanks text.toList)

/-- Whether a channel is one of those that a directive or a rule is for. -/
def covers (channel : Option String) (other : String) : Bool :=
  match channel with
  | some channel => channel.toList.isPrefixOf other.toList
  | none => true

/-- Whether a directive asks for work of some kind or for facts. -/
def asksForWork (directive : Directive) : Bool :=
  directive.work.isSome || !directive.facts.isEmpty

/-- Whether a directive asks for values of facts. -/
def asksForValues (directive : Directive) : Bool := directive.facts.any (·.2.isSome)

/-- Whether a directive can be about some work, as far as can be told without the values of its
    facts. -/
def concerns (directive : Directive) (work : Work) : Bool :=
  covers directive.channel work.channel && directive.work.all (· = work.name) &&
    directive.facts.all fun fact => work.facts.any (·.1 = fact.1)

/-- Whether a text is what a directive asks for: the first place in it that the pattern fits has to
    reach its end. -/
def isAsked (value text : List Char) : Bool :=
  match Pattern.ofText value with
  | .ok pattern => !isPlainValue value && pattern.reachesEnd text
  | .error _ => false

/-- The values that a directive asks for. -/
def values (directive : Directive) : List (String × String) :=
  directive.facts.filterMap fun fact => fact.2.map (fact.1, ·)

/-- Whether the facts of some work have the values that a directive asks for. Of several values for
    one fact the last counts. -/
def fits (directive : Directive) (work : Work) : Bool :=
  directive.values.all fun fact =>
    (directive.values.reverse.lookup fact.1).all fun value =>
      (work.facts.lookup fact.1).any fun text => isAsked value.toList text.toList

end Directive

end Colloquy
