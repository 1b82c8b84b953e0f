import Colloquy.Pattern.Basic

/-!
# Searching for Patterns

Where a pattern is found in a text, and whether that place reaches to the end of the text. The
place is the one that a reader finds first: the earliest start, and from there the preferences of
choices and repetitions in the order in which they come up.

A pattern is laid out as a net of nodes, and the text is walked once. At every place in the text
there is a list of the nodes that a match in progress may be at, the preferred ones first; a new
match may start everywhere, with the least preference of all. As soon as one match is complete, the
less preferred ones are given up, and no new one starts. So when the text ends, a complete match is
among those left only if the match that a reader finds is complete there.

## Main definitions

* `Pattern.Net`: A pattern laid out.
* `Pattern.Net.reach`: The nodes that can be reached without taking a character.
* `Pattern.reachesEnd`: Whether the place where a pattern is found reaches the end of a text.
-/

namespace Colloquy

namespace Pattern

/-- A node of a net, with the nodes that follow it. -/
inductive Node where
  | take (members : CharClass) (next : Nat)
  | pass (edge : Edge) (next : Nat)
  | prefer (first second : Nat)
  | complete
  deriving DecidableEq, Repr

/-- The nodes of a pattern by number. -/
abbrev Net := Array Node

/-- A choice between going into a repetition and leaving it. -/
def Node.turn (greedy : Bool) (inside outside : Nat) : Node :=
  if greedy then .prefer inside outside else .prefer outside inside

/-- A net with the nodes of a pattern that goes on at `next`, and the node it starts at. -/
def layOut : Pattern → Nat → Net → Nat × Net
  | .empty, next, net => (next, net)
  | .one members, next, net => (net.size, net.push (.take members next))
  | .edge place, next, net => (net.size, net.push (.pass place next))
  | .sequence first second, next, net =>
    let (middle, net) := layOut second next net
    layOut first middle net
  | .choice left right, next, net =>
    let (right, net) := layOut right next net
    let (left, net) := layOut left next net
    (net.size, net.push (.prefer left right))
  | .optional greedy inner, next, net =>
    let (inside, net) := layOut inner next net
    (net.size, net.push (.turn greedy inside next))
  | .repeated greedy inner, next, net =>
    -- The node that closes the circle is needed before it is known where the circle starts.
    let back := net.size
    let (inside, net) := layOut inner back (net.push .complete)
    (inside, net.setIfInBounds back (.turn greedy inside next))

/-- The nodes that can be reached at a place in the text without taking a character, the preferred
    ones first. Each is visited once, so the fuel is a bound on the steps between them. -/
def Net.reach (net : Net) (before after : Option Char) : Nat → List Nat → List Nat → List Nat
  | 0, _, seen => seen.reverse
  | _, [], seen => seen.reverse
  | fuel + 1, node :: waiting, seen =>
    if seen.contains node then net.reach before after fuel waiting seen
    else match net[node]? with
      | some (.prefer first second) =>
        net.reach before after fuel (first :: second :: waiting) (node :: seen)
      | some (.pass place next) =>
        if place.holds before after then
          net.reach before after fuel (next :: waiting) (node :: seen)
        else net.reach before after fuel waiting (node :: seen)
      | _ => net.reach before after fuel waiting (node :: seen)

/-- The nodes that matches in progress are at, in a place between two characters. -/
def Net.places (net : Net) (before after : Option Char) (nodes : List Nat) : List Nat :=
  net.reach before after (nodes.length + 2 * net.size + 1) nodes []

/-- Whether a match is complete at a node. -/
def Net.isComplete (net : Net) (node : Nat) : Bool := net[node]? = some .complete

/-- The node after one that takes a character. -/
def Net.take? (net : Net) (c : Char) (node : Nat) : Option Nat :=
  match net[node]? with
  | some (.take members next) => if members.holds c then some next else none
  | _ => none

/-- Whether a match is complete at the end of a text and none that is preferred to it, or that was
    complete before, has ended it. `searching` says whether new matches start. -/
def Net.endsComplete (net : Net) (start : Nat) (before : Option Char) (searching : Bool)
    (nodes : List Nat) : List Char → Bool
  | [] =>
    (net.places before none (if searching then nodes ++ [start] else nodes)).any net.isComplete
  | c :: rest =>
    let places := net.places before (some c) (if searching then nodes ++ [start] else nodes)
    let preferred := places.takeWhile (!net.isComplete ·)
    net.endsComplete start (some c) (searching && !places.any net.isComplete)
      (preferred.filterMap (net.take? c)) rest

/-- Whether the place where a pattern is found reaches the end of a text. -/
def reachesEnd (pattern : Pattern) (text : List Char) : Bool :=
  let (start, net) := pattern.layOut 0 #[.complete]
  net.endsComplete start none true [] text

end Pattern

end Colloquy
