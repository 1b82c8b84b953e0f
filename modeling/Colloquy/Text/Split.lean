/-!
# Splitting Text

A text cut at every occurrence of one character. The pieces include the empty ones, so there is
always one piece more than there are cuts and the pieces put together again give back the text.

## Main definitions

* `splitAt`: The pieces between the occurrences of a character.
* `splitOnce?`: The text before and after the first occurrence.
-/

namespace Colloquy

/-- The pieces of a text between the occurrences of `mark`. -/
def splitAt (mark : Char) : List Char → List (List Char)
  | [] => [[]]
  | c :: rest =>
    if c = mark then [] :: splitAt mark rest
    else match splitAt mark rest with
      | [] => [[c]]
      | piece :: pieces => (c :: piece) :: pieces

/-- Dropping characters never makes a text longer. -/
theorem length_dropWhile_le (p : Char → Bool) (cs : List Char) :
    (cs.dropWhile p).length ≤ cs.length :=
  (List.dropWhile_sublist p).length_le

/-- The text before and after the first occurrence of `mark`. -/
def splitOnce? (mark : Char) (cs : List Char) : Option (List Char × List Char) :=
  match cs.dropWhile (· ≠ mark) with
  | [] => none
  | _ :: after => some (cs.takeWhile (· ≠ mark), after)

end Colloquy
