import Colloquy.Pattern.Basic
import Colloquy.Text.Alphanumeric
import Colloquy.Text.Blank

/-!
# Reading Patterns

The written form of patterns. It has choices, groups, classes of characters between brackets,
repetitions, and flags that change how the rest of a group is read. Braces do not occur: a pattern
stands between braces itself, so the first one would end it, and whatever needs braces is refused.

Nothing here knows the properties of characters beyond ASCII. A pattern that would need them is
refused: classes named for a property, letters whatever their case, and the edges of words, all of
which can still be asked for within ASCII by a flag.

## Main definitions

* `Pattern.Mode`: The flags in force.
* `Pattern.Part`: A pattern that has been read, with its depth.
* `Pattern.Fault`: Why a text is no pattern.
* `Pattern.ofText`: The pattern that a text is.
-/

namespace Colloquy

namespace Pattern

/-- The flags in force. -/
structure Mode where
  /-- Letters stand for both cases. -/
  anyCase : Bool := false
  /-- The ends of lines count as ends of the text. -/
  lines : Bool := false
  /-- The dot stands for line ends too. -/
  dotAll : Bool := false
  /-- Repetitions are lazy unless marked. -/
  lazy : Bool := false
  /-- Classes hold characters of all scripts, not of ASCII alone. -/
  scripts : Bool := true
  /-- A carriage return may end a line. -/
  returns : Bool := false
  /-- White space and comments mean nothing. -/
  spaced : Bool := false

/-- The mode with the flag of a letter on or off. -/
def Mode.set? (mode : Mode) (flag : Char) (on : Bool) : Option Mode :=
  match flag with
  | 'i' => some { mode with anyCase := on }
  | 'm' => some { mode with lines := on }
  | 's' => some { mode with dotAll := on }
  | 'U' => some { mode with lazy := on }
  | 'u' => some { mode with scripts := on }
  | 'R' => some { mode with returns := on }
  | 'x' => some { mode with spaced := on }
  | _ => none

/-- A text without the white space and the comments at its start. -/
def skipSpaced (inComment : Bool) : List Char → List Char
  | [] => []
  | c :: rest =>
    if inComment then skipSpaced (c ≠ '\n') rest
    else if isBlank c then skipSpaced false rest
    else if c = '#' then skipSpaced true rest
    else c :: rest

/-- A text without what means nothing at its start. -/
def Mode.skip (mode : Mode) (cs : List Char) : List Char :=
  if mode.spaced then skipSpaced false cs else cs

/-! ## Single characters -/

/-- What a single character or an escape means. -/
inductive Atom where
  /-- A character; one that is given by the number of a byte has to be ASCII where classes are. -/
  | char (c : Char) (byte : Bool)
  | members (held : CharClass)
  | place (edge : Edge)

/-- The digits of a number in base sixteen, and the text behind them. -/
def hexDigits? (mode : Mode) : Nat → List Char → Option (List Char × List Char)
  | 0, cs => some ([], cs)
  | count + 1, cs =>
    match mode.skip cs with
    | c :: rest =>
      if c.isDigit || ('a' ≤ c && c ≤ 'f') || ('A' ≤ c && c ≤ 'F') then
        (hexDigits? mode count rest).map fun (digits, rest) => (c :: digits, rest)
      else none
    | [] => none

/-- The value of a digit in base sixteen. -/
def hexValue (c : Char) : Nat :=
  if c.isDigit then c.toNat - '0'.toNat else c.toLower.toNat - 'a'.toNat + 10

/-- A character given by its number in so many digits. -/
def numbered? (mode : Mode) (count : Nat) (cs : List Char) : Option (Atom × List Char) :=
  (hexDigits? mode count cs).bind fun (digits, rest) =>
    let number := digits.foldl (fun n c => n * 16 + hexValue c) 0
    if number.isValidChar then some (.char (Char.ofNat number) (count = 2), rest) else none

/-- An edge of words. Beyond ASCII nothing is known about words. -/
def Mode.wordEdge (mode : Mode) (edge : Edge) : Atom :=
  .place (if mode.scripts then .scriptWord else edge)

/-- A class of ASCII characters that has a letter. -/
def Mode.lettered? (mode : Mode) (members : CharClass) : Option Atom :=
  if mode.scripts then none else some (.members members)

/-- What stands behind a backslash. A punctuation mark stands for itself; letters have meanings of
    their own, and letters without one, as well as digits, are refused. -/
def escape? (mode : Mode) : List Char → Option (Atom × List Char)
  | [] => none
  | c :: rest =>
    let here (atom : Atom) : Option (Atom × List Char) := some (atom, rest)
    match c with
    | 'x' => numbered? mode 2 rest
    | 'u' => numbered? mode 4 rest
    | 'U' => numbered? mode 8 rest
    | 'd' => (mode.lettered? .digit).map (·, rest)
    | 's' => (mode.lettered? .space).map (·, rest)
    | 'w' => (mode.lettered? .word).map (·, rest)
    | 'a' => here (.char '\x07' false)
    | 'f' => here (.char '\x0c' false)
    | 't' => here (.char '\t' false)
    | 'n' => here (.char '\n' false)
    | 'r' => here (.char '\r' false)
    | 'v' => here (.char '\x0b' false)
    | 'A' => here (.place .textStart)
    | 'z' => here (.place .textEnd)
    | 'b' => here (mode.wordEdge .wordEdge)
    | 'B' => here (mode.wordEdge .wordInside)
    | '<' => here (mode.wordEdge .wordStart)
    | '>' => here (mode.wordEdge .wordEnd)
    | c => if c.toNat < 0x80 && !c.isAlphanum then here (.char c false) else none

/-! ## Classes between brackets -/

/-- A class that is being read: its members, whether it has any, and how deeply it is nested. -/
structure Members where
  held : CharClass := .ranges []
  isEmpty : Bool := true
  depth : Nat := 0

/-- What has been read of a class: the members so far, how many parts they came in, and the
    operation and the left side that wait for them. -/
structure ClassDraft where
  parts : Nat := 0
  members : Members := {}
  waiting : Option ((CharClass → CharClass → CharClass) × Members) := none

/-- A draft with one more part. -/
def ClassDraft.add (draft : ClassDraft) (part : Members) : ClassDraft :=
  { draft with
    parts := draft.parts + 1
    members :=
      { held := .union draft.members.held part.held
        isEmpty := draft.members.isEmpty && part.isEmpty
        depth := max draft.members.depth part.depth } }

/-- A class in which letters stand for both cases, if they are to. The cases of other scripts are
    not known. -/
def Mode.folded? (mode : Mode) (members : Members) : Option Members :=
  if !mode.anyCase then some members
  else if !mode.scripts then some { members with held := .anyCase members.held }
  else if members.isEmpty then some members
  else none

/-- A class or its negation. Negations hold characters of all scripts. -/
def Mode.negated? (mode : Mode) (negated : Bool) (members : Members) : Option Members :=
  (mode.folded? members).bind fun members =>
    if !negated then some members
    else if mode.scripts then
      some { members with held := .negation members.held, isEmpty := false }
    else none

/-- The members of a draft, once the operation that waits for them is carried out. -/
def ClassDraft.close? (mode : Mode) (draft : ClassDraft) : Option Members :=
  let own :=
    if draft.parts ≤ 1 then draft.members
    else { draft.members with depth := draft.members.depth + 1 }
  match draft.waiting with
  | none => some own
  | some (operation, left) => do
    let left ← mode.folded? left
    let right ← mode.folded? own
    some { held := operation left.held right.held
           isEmpty := left.isEmpty && right.isEmpty
           depth := max left.depth right.depth + 1 }

/-- The class with a name, between brackets and colons, behind its opening bracket. -/
def namedClass? (mode : Mode) (cs : List Char) : Option (Option Members × List Char) :=
  match cs with
  | ':' :: rest =>
    let (negated, rest) := match rest with
      | '^' :: rest => (true, rest)
      | _ => (false, rest)
    match CharClass.named? (rest.takeWhile (· ≠ ':')), rest.dropWhile (· ≠ ':') with
    | some held, ':' :: ']' :: rest =>
      some (mode.negated? negated { held, isEmpty := false }, rest)
    | _, _ => none
  | _ => none

/-- One end of a range, which has to be a character. -/
def Mode.classChar? (mode : Mode) : Atom → Option Char
  | .char c _ => if mode.scripts || c.toNat < 0x80 then some c else none
  | _ => none

/-- A character or an escape in a class. -/
def classAtom? (mode : Mode) : List Char → Option (Atom × List Char)
  | '\\' :: rest => escape? mode rest
  | c :: rest => some (.char c false, rest)
  | [] => none

/-- A part of a class that is one character, a range or an escape. A hyphen stands for itself at
    the end of a class and in front of another. -/
def classRange? (mode : Mode) (cs : List Char) : Option (Members × List Char) := do
  let (first, cs) ← classAtom? mode cs
  let alone (rest : List Char) : Option (Members × List Char) :=
    match first with
    | .members held => some ({ held, isEmpty := false }, rest)
    | _ => (mode.classChar? first).map fun c =>
      ({ held := .single c, isEmpty := false }, rest)
  match mode.skip cs with
  | '-' :: rest =>
    match mode.skip rest with
    | ']' :: _ => alone ('-' :: rest)
    | '-' :: _ => alone ('-' :: rest)
    | rest => do
      let (last, rest) ← classAtom? mode rest
      let first ← mode.classChar? first
      let last ← mode.classChar? last
      if first ≤ last then
        some ({ held := .ranges [(first.toNat, last.toNat)], isEmpty := false }, rest)
      else none
  | rest => alone rest

/-- The hyphens at the start of a class, and a closing bracket that comes first: these stand for
    themselves. -/
def classStart (mode : Mode) (first : Bool) (draft : ClassDraft) :
    List Char → ClassDraft × List Char
  | [] => (draft, [])
  | c :: rest =>
    if mode.spaced && isBlank c then classStart mode first draft rest
    else if c = '-' then
      classStart mode false (draft.add { held := .single c, isEmpty := false }) rest
    else if c = ']' && first then (draft.add { held := .single c, isEmpty := false }, rest)
    else (draft, c :: rest)

/-- The operation on classes that a text starts with, and the text behind it. -/
def operation? : List Char → Option ((CharClass → CharClass → CharClass) × List Char)
  | '&' :: '&' :: rest => some (.intersection, rest)
  | '-' :: '-' :: rest => some (.difference, rest)
  | '~' :: '~' :: rest => some (.symmetricDifference, rest)
  | _ => none

/-- The rest of a class behind its opening bracket, and the text behind it. The fuel is a bound on
    the length of the text. -/
def class? (mode : Mode) : Nat → ClassDraft → Bool → List Char → Option (Members × List Char)
  | 0, _, _, _ => none
  | fuel + 1, draft, negated, cs =>
    match mode.skip cs with
    | [] => none
    | ']' :: rest => do
      let members ← mode.negated? negated (← draft.close? mode)
      some ({ members with depth := members.depth + 1 }, rest)
    | '[' :: rest =>
      match namedClass? mode rest with
      | some (part, rest) => do class? mode fuel (draft.add (← part)) negated rest
      | none => do
        let (inner, isNegated, rest) := opened rest
        let (part, rest) ← class? mode fuel inner isNegated rest
        class? mode fuel (draft.add part) negated rest
    | c :: rest =>
      match operation? (c :: rest) with
      | some (operation, rest) => do
        let left ← draft.close? mode
        class? mode fuel { waiting := some (operation, left) } negated rest
      | none => do
        let (part, rest) ← classRange? mode (c :: rest)
        class? mode fuel (draft.add part) negated rest
where
  /-- The start of a class behind its opening bracket. -/
  opened (cs : List Char) : ClassDraft × Bool × List Char :=
    match mode.skip cs with
    | '^' :: rest =>
      let (draft, rest) := classStart mode true {} rest
      (draft, true, rest)
    | rest =>
      let (draft, rest) := classStart mode true {} rest
      (draft, false, rest)

/-! ## Patterns -/

/-- A pattern that has been read, with its depth: how many repetitions, groups, choices and
    sequences of more than one part are around its innermost part. -/
structure Part where
  pattern : Pattern
  depth : Nat := 0
  /-- Whether the part only sets flags, so that there is nothing to repeat. -/
  isFlags : Bool := false

/-- A character as a pattern. -/
def Mode.literal? (mode : Mode) (c : Char) (byte : Bool) : Option Pattern :=
  if mode.scripts then if mode.anyCase then none else some (.one (.single c))
  else if byte && 0x80 ≤ c.toNat then none
  else if mode.anyCase then some (.one (.anyCase (.single c)))
  else some (.one (.single c))

/-- What the dot stands for. -/
def Mode.dot? (mode : Mode) : Option Pattern :=
  if !mode.scripts then none
  else if mode.dotAll then some (.one (.negation (.ranges [])))
  else if mode.returns then some (.one (.negation (.ranges [(0x0A, 0x0A), (0x0D, 0x0D)])))
  else some (.one (.negation (.single '\n')))

/-- The start of the text, or of a line. -/
def Mode.start (mode : Mode) : Edge :=
  if !mode.lines then .textStart else if mode.returns then .returnLineStart else .lineStart

/-- The end of the text, or of a line. -/
def Mode.stop (mode : Mode) : Edge :=
  if !mode.lines then .textEnd else if mode.returns then .returnLineEnd else .lineEnd

/-- An atom as a pattern. -/
def Mode.atom? (mode : Mode) : Atom → Option Pattern
  | .char c byte => mode.literal? c byte
  | .members held => some (.one (if mode.anyCase then .anyCase held else held))
  | .place place => some (.edge place)

/-- A single character, an escape, or a sign for a place or for any character. -/
def single? (mode : Mode) : List Char → Option (Part × List Char)
  | '\\' :: rest => do
    let (atom, rest) ← escape? mode rest
    some ({ pattern := ← mode.atom? atom }, rest)
  | '.' :: rest => do some ({ pattern := ← mode.dot? }, rest)
  | '^' :: rest => some ({ pattern := .edge mode.start }, rest)
  | '$' :: rest => some ({ pattern := .edge mode.stop }, rest)
  | c :: rest => do some ({ pattern := ← mode.literal? c false }, rest)
  | [] => none

/-- Parts one after the other, given from the last. -/
def inSequence : List Part → Part
  | [] => { pattern := .empty }
  | [part] => part
  | parts =>
    { pattern := parts.foldl (fun rest part => .sequence part.pattern rest) .empty
      depth := (parts.map Part.depth).foldl max 0 + 1 }

/-- A choice between parts, given from the last. -/
def inChoice : List Part → Part
  | [] => { pattern := .empty }
  | [part] => part
  | last :: parts =>
    { pattern := parts.foldl (fun rest part => .choice part.pattern rest) last.pattern
      depth := ((last :: parts).map Part.depth).foldl max 0 + 1 }

/-- What has been read of a group: the choices before the current one and the parts of that, each
    from the last. -/
structure Draft where
  choices : List Part := []
  parts : List Part := []

/-- A draft with one more part. -/
def Draft.add (draft : Draft) (part : Part) : Draft :=
  { draft with parts := part :: draft.parts }

/-- The part that a draft is. -/
def Draft.close (draft : Draft) : Part := inChoice (inSequence draft.parts :: draft.choices)

/-- The flags behind the question mark of a group, up to the sign that ends them. `on` says whether
    flags are being put on, `seen` which signs have occurred, from the last. -/
def flags? (mode : Mode) (on : Bool) (seen : List Char) :
    List Char → Option (Mode × List Char × List Char)
  | [] => none
  | c :: rest =>
    if c = ':' || c = ')' then
      -- A minus sign puts off the flags behind it, so there has to be one.
      if seen.head? = some '-' then none else some (mode, seen, c :: rest)
    else if seen.contains c then none
    else if c = '-' then flags? mode false (c :: seen) rest
    else (mode.set? c on).bind fun mode => flags? mode on (c :: seen) rest

/-- The name of a group, and the text behind it. -/
def groupName? (cs : List Char) : Option (List Char × List Char) :=
  let name := cs.takeWhile (· ≠ '>')
  match name, cs.dropWhile (· ≠ '>') with
  | first :: others, '>' :: rest =>
    let isFirst := first = '_' || (isAlphanumeric first && !first.isDigit)
    let isOther (c : Char) : Bool :=
      c = '_' || c = '.' || c = '[' || c = ']' || isAlphanumeric c
    if isFirst && others.all isOther then some (name, rest) else none
  | _, _ => none

/-- What an opening parenthesis begins: flags for the rest of the group around it, or a group of
    its own, perhaps with flags or a name. -/
inductive Opening where
  | flags (mode : Mode)
  | group (mode : Mode) (name : Option (List Char))

/-- What an opening parenthesis begins, and the text behind that. Looking ahead or back is not
    possible. -/
def opening? (mode : Mode) (cs : List Char) : Option (Opening × List Char) :=
  match mode.skip cs with
  | '?' :: 'P' :: '<' :: rest => named rest
  | '?' :: '<' :: rest => named rest
  | '?' :: rest => do
    match ← flags? mode true [] rest with
    | (_, [], ')' :: _) => none
    | (mode, _, ')' :: rest) => some (.flags mode, rest)
    | (mode, _, rest) => some (.group mode none, rest.drop 1)
  | rest => some (.group mode none, rest)
where
  /-- A group with a name. -/
  named (rest : List Char) : Option (Opening × List Char) :=
    (groupName? rest).map fun (name, rest) => (.group mode (some name), rest)

/-- A repetition with its sign: `c` tells how often, and a question mark behind it turns it from
    greedy to lazy or back. -/
def repeat? (mode : Mode) (c : Char) (draft : Draft) (cs : List Char) :
    Option (Draft × List Char) :=
  match draft.parts with
  | [] => none
  | part :: parts =>
    if part.isFlags then none
    else
      let (marked, rest) := match cs with
        | '?' :: rest => (true, rest)
        | rest => (false, rest)
      let greedy := marked == mode.lazy
      let pattern :=
        if c = '?' then .optional greedy part.pattern
        else if c = '+' then .repeated greedy part.pattern
        else star greedy part.pattern
      some ({ draft with parts := { pattern, depth := part.depth + 1 } :: parts }, rest)

/-- The pattern that a text is, with the group that is being read and those around it, innermost
    first, each with its mode. `names` are the names of groups so far, which have to differ. The
    fuel is a bound on the length of the text. -/
def parts? : Nat → Mode → List (List Char) → Draft → List (Mode × Draft) → List Char → Option Part
  | 0, _, _, _, _, _ => none
  | fuel + 1, mode, names, draft, around, cs =>
    match mode.skip cs with
    | [] => if around.isEmpty then some draft.close else none
    | '(' :: rest => do
      match ← opening? mode rest with
      | (.flags mode, rest) =>
        parts? fuel mode names (draft.add { pattern := .empty, isFlags := true }) around rest
      | (.group inner name, rest) =>
        let named := name.toList
        if named.any names.contains then none
        else parts? fuel inner (named ++ names) {} ((mode, draft) :: around) rest
    | ')' :: rest =>
      match around with
      | [] => none
      | (outer, before) :: around =>
        let part := draft.close
        let group : Part := { pattern := part.pattern, depth := part.depth + 1 }
        parts? fuel outer names (before.add group) around rest
    | '|' :: rest =>
      parts? fuel mode names { choices := inSequence draft.parts :: draft.choices } around rest
    | '[' :: rest => do
      let (start, negated, rest) := class?.opened mode rest
      let (members, rest) ← class? mode fuel start negated rest
      let part : Part := { pattern := .one members.held, depth := members.depth }
      parts? fuel mode names (draft.add part) around rest
    | '\x7b' :: _ => none
    | c :: rest =>
      if c = '?' || c = '*' || c = '+' then do
        let (draft, rest) ← repeat? mode c draft rest
        parts? fuel mode names draft around rest
      else do
        let (part, rest) ← single? mode (c :: rest)
        parts? fuel mode names (draft.add part) around rest

/-- How deep a pattern may be. -/
def depthLimit : Nat := 250

/-- Why a text is no pattern: it breaks the rules, or asks for edges of words in every script. -/
inductive Fault where
  | malformed
  | scriptWords
  deriving DecidableEq, Repr

/-- What is said about a text that is no pattern. -/
def Fault.message : Fault → String
  | malformed => "error building NFA"
  | scriptWords =>
    "unsupported regex feature for DFAs: cannot build DFAs for regexes with Unicode word " ++
      "boundaries; switch to ASCII word boundaries, or heuristically enable Unicode word " ++
      "boundaries or use a different regex engine"

/-- The pattern that a text is. -/
def ofText (text : List Char) : Except Fault Pattern :=
  match parts? (text.length + 1) {} [] {} [] text with
  | none => .error .malformed
  | some part =>
    if depthLimit < part.depth then .error .malformed
    else if part.pattern.asksForWords then .error .scriptWords
    else .ok part.pattern

end Pattern

end Colloquy
