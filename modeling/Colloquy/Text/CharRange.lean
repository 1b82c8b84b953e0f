/-!
# Character Ranges

Classes of characters that a standard fixes by listing code points. Each such class is kept as a
list of closed ranges, in order, and membership is asked of the list; the modules beside this one
hold one list each, named for the property it tabulates.

A list is the plainest table there is: the classes are asked for one character at a time and only
outside ASCII, so a search that is linear in the number of ranges costs nothing that matters.

## Main definitions

* `CharRange.holds`: Whether a code point lies in one of the ranges.
-/

namespace Colloquy

namespace CharRange

/-- Whether the code point `c` lies in one of the closed ranges. -/
def holds (ranges : List (Nat × Nat)) (c : Nat) : Bool :=
  ranges.any fun range => range.1 ≤ c && c ≤ range.2

end CharRange

end Colloquy
