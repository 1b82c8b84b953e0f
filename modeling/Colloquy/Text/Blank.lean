/-!
# Blank Characters

The characters that Unicode calls white space, and the two ways in which text is trimmed of them.
The share log asks where the text of a document ends, and the settings ask whether a name has
anything in it; both mean white space in every script, not only the ASCII blanks.

## Main definitions

* `isBlank`: White space.
* `trimEnd`: A text without its trailing white space.
* `trimBlanks`: A text without white space at either end.
-/

namespace Colloquy

/-- White space in any script. -/
def isBlank (c : Char) : Bool :=
  let n := c.toNat
  (9 ≤ n && n ≤ 13) || n = 0x20 || n = 0x85 || n = 0xA0 || n = 0x1680 ||
    (0x2000 ≤ n && n ≤ 0x200A) || n = 0x2028 || n = 0x2029 || n = 0x202F || n = 0x205F ||
    n = 0x3000

/-- The characters up to the last one that is not blank. -/
def trimEnd (cs : List Char) : List Char :=
  cs.reverse.dropWhile isBlank |>.reverse

/-- The characters from the first to the last one that is not blank. -/
def trimBlanks (cs : List Char) : List Char :=
  trimEnd (cs.dropWhile isBlank)

/-- Whether a text holds nothing but white space. -/
def isAllBlank (cs : List Char) : Bool :=
  cs.all isBlank

end Colloquy
