import Colloquy.Text.Emoji
import Colloquy.Text.Wide
import Colloquy.Text.Widthless

/-!
# Columns of Text

How many columns of a terminal a text takes up. Most characters take one; the wide characters of
East Asian scripts and pictures take two; marks that attach to another character, and characters
that are ignored when shown, take none.

A character alone does not settle it. A variation selector makes a sign a picture or a picture a
sign, a joiner makes one picture of several, two letters of a region make a flag, and in some
scripts two letters are drawn as one. In all of these what comes later in the text decides about
what comes before, so a text is measured from its end, and each character is asked how wide it is
in front of what has been seen.

A ligature is charged to whichever part comes out simplest, so one part of it may take less than
nothing: the sum over the whole ligature is what counts.

## Main definitions

* `Columns.Sequel`: What has been seen of a sequence that started behind a character.
* `Columns.Context`: A sequel with the variation selectors in front of it.
* `Columns.alone`: The width of a character that nothing behind it changes.
* `Columns.combined`: The width of a character that goes on with a sequence.
* `Columns.step`: One step of the measure.
* `columns`: The width of a text.
-/

namespace Colloquy

namespace Columns

/-- The last letter of a ligature, which a letter in front of it may join. -/
inductive Letter
  | lamed
  | buginese
  | bugineseVowel
  | tifinagh
  | linkedTifinagh
  | lisu
  | turkic
  | khmer
  deriving DecidableEq

/-- What has been seen of a sequence, reading from its end. -/
inductive Sequel
  /-- Nothing that concerns the character in front. -/
  | plain
  | lineFeed
  /-- A skin tone, waiting for someone to take it. -/
  | tone
  /-- One letter of a flag, or several. -/
  | region
  | regions
  | picture
  /-- A joiner with a picture behind it. -/
  | joined
  /-- The frame of a key with a joiner behind it. -/
  | joinedKey
  /-- Letters of flags with a joiner behind them: one, an even number, or an odd number. -/
  | joinedRegion
  | joinedEven
  | joinedOdd
  /-- The end of the name of a flag: digits, with letters behind them if there are no digits. -/
  | joinedTags (digits letters : Nat)
  | kiratE
  | kiratAi
  | alef
  /-- A letter that may end a ligature, perhaps with a joiner in front of it. -/
  | letter (last : Letter) (joiner : Bool)
  deriving DecidableEq

/-- Whether variation selectors and the marks between letters leave a sequence as it is. -/
def Sequel.isLetter : Sequel → Bool
  | .alef | .letter _ _ => true
  | _ => false

/-- Whether a picture in front of a sequence is joined to it. -/
def Sequel.isJoined : Sequel → Bool
  | .joined | .joinedKey => true
  | _ => false

/-- What a character stands in front of: a sequence, and the variation selectors that ask the
    character to be a picture, to be a sign, or to fill the width of an ideograph. -/
structure Context where
  sequel : Sequel := .plain
  asPicture : Bool := false
  asSign : Bool := false
  asFull : Bool := false

/-- The letters of flags. -/
def isRegion (c : Char) : Bool := 0x1F1E6 ≤ c.toNat && c.toNat ≤ 0x1F1FF

/-- The skin tones. -/
def isTone (c : Char) : Bool := 0x1F3FB ≤ c.toNat && c.toNat ≤ 0x1F3FF

/-- The forms of the Arabic alef that join a lam. -/
def isAlef (c : Char) : Bool :=
  let n := c.toNat
  n = 0x622 || n = 0x623 || n = 0x625 || n = 0x627 || (0x671 ≤ n && n ≤ 0x673) || n = 0x675 ||
    n = 0x773 || n = 0x774 || (0x870 ≤ n && n ≤ 0x882)

/-- The forms of the Arabic lam. -/
def isLam (c : Char) : Bool :=
  let n := c.toNat
  n = 0x644 || (0x6B5 ≤ n && n ≤ 0x6B8) || n = 0x76A || n = 0x8A6 || n = 0x8C7

/-- The Tifinagh consonants. -/
def isTifinagh (c : Char) : Bool :=
  (0x2D31 ≤ c.toNat && c.toNat ≤ 0x2D65) || c.toNat = 0x2D6F

/-- The Khmer letters that have a form below the letter in front of them. -/
def khmerSubscripts : List (Nat × Nat) :=
  [(0x1780, 0x1782), (0x1784, 0x1787), (0x1789, 0x178C), (0x178E, 0x1793), (0x1795, 0x1798),
   (0x179B, 0x179D), (0x17A0, 0x17A0), (0x17A2, 0x17A2), (0x17A7, 0x17A7), (0x17AB, 0x17AC),
   (0x17AF, 0x17AF)]

/-- The quotation marks that have a form as wide as an ideograph. -/
def isCurlyQuote (c : Char) : Bool :=
  c.toNat = 0x2018 || c.toNat = 0x2019 || c.toNat = 0x201C || c.toNat = 0x201D

/-- The width of a character that nothing behind it changes. Two Khmer signs stand for several
    letters and are as wide as those. -/
def width (c : Char) : Int :=
  let n := c.toNat
  if n = 0x17A4 then 2
  else if n = 0x17D8 then 3
  else if isWidthless c then 0
  else if isWide c then 2
  else 1

/-- What a character begins, for the character in front of it. -/
def opening (c : Char) : Sequel :=
  let n := c.toNat
  if isRegion c then .region
  else if isTone c then .tone
  else if isPicture c then .picture
  else if isAlef c then .alef
  else if n = 0x5DC then .letter .lamed false
  else if CharRange.holds khmerSubscripts n then .letter .khmer true
  else if n = 0x1A10 then .letter .buginese false
  else if isTifinagh c then .letter .tifinagh false
  else if n = 0xA4FC || n = 0xA4FD then .letter .lisu true
  else if n = 0x10C03 then .letter .turkic false
  else if n = 0x16D67 then .kiratE
  else if n = 0x16D68 then .kiratAi
  else .plain

/-- The width of a character on its own, and what it begins. -/
def alone (c : Char) : Int × Sequel := (width c, opening c)

/-- A letter that joins the last letter of a ligature. -/
def ligature (c : Char) (last : Letter) (joiner : Bool) : Option (Int × Sequel) :=
  let n := c.toNat
  match last, joiner with
  | .lamed, true => if n = 0x5D0 then some (0, .plain) else none
  | .khmer, _ => if n = 0x17D2 then some (-1, .plain) else none
  | .buginese, true => if n = 0x1A17 then some (0, .letter .bugineseVowel true) else none
  | .bugineseVowel, _ => if n = 0x1A15 then some (0, .plain) else none
  | .tifinagh, _ =>
    if n = 0x2D7F then some (1, .letter .linkedTifinagh true)
    else if joiner && isTifinagh c then some (0, .plain) else none
  | .linkedTifinagh, _ => if isTifinagh c then some (-1, .plain) else none
  | .lisu, _ => if 0xA4F8 ≤ n && n ≤ 0xA4FB then some (0, .plain) else none
  | .turkic, true => if n = 0x10C32 then some (0, .plain) else none
  | _, _ => none

/-- A part of the name of a flag, in front of the rest of the name: up to six letters, or up to
    three digits with at most four letters behind them. The name is complete, and the flag in front
    of it belongs to it, from three letters or digits on. -/
def flagName (c : Char) (digits letters : Nat) : Option (Int × Sequel) :=
  let n := c.toNat
  if 0xE0061 ≤ n && n ≤ 0xE007A && digits = 0 && letters < 6 then
    some (0, .joinedTags 0 (letters + 1))
  else if 0xE0030 ≤ n && n ≤ 0xE0039 && digits < 3 && letters ≤ 4 then
    some (0, .joinedTags (digits + 1) 0)
  else if n = 0x1F3F4 && (digits = 3 || 3 ≤ letters) then some (0, .picture)
  else none

/-- The width of a character that goes on with the sequence behind it, and what has been seen
    then; `none` if it does not belong to the sequence. -/
def combined (c : Char) : Sequel → Option (Int × Sequel)
  | .alef =>
    if isLam c then some (0, .plain)
    else if isWidthless c && !isSeparating c then some (0, .alef) else none
  | .letter last joiner => ligature c last joiner
  | .tone =>
    if takesTone c then some (0, .picture)
    else if c = '\u200d' then some (0, .joined) else none
  | .region => if isRegion c then some (1, .regions) else none
  | .regions =>
    if isRegion c then some (1, .regions)
    else if c = '\u200d' then some (0, .joined) else none
  | .picture => if c = '\u200d' then some (0, .joined) else none
  | .joined =>
    if c = '\u20e3' then some (0, .joinedKey)
    else if isRegion c then some (1, .joinedRegion)
    else if isTone c then some (0, .tone)
    else if c.toNat = 0xE007F then some (0, .joinedTags 0 0)
    else if isPicture c then some (0, .picture) else none
  | .joinedRegion => if isRegion c then some (-1, .joinedEven) else none
  | .joinedEven =>
    if isRegion c then some (3, .joinedOdd)
    else if c = '\u200d' then some (0, .joined) else none
  | .joinedOdd =>
    if isRegion c then some (-1, .joinedEven)
    else if c = '\u200d' then some (0, .joined) else none
  | .joinedTags digits letters => flagName c digits letters
  | .kiratE =>
    match c.toNat with
    | 0x16D63 => some (0, .plain)
    | 0x16D67 => some (0, .kiratAi)
    | 0x16D68 => some (1, .kiratE)
    | 0x16D69 => some (0, .plain)
    | _ => none
  | .kiratAi => if c.toNat = 0x16D63 then some (0, .plain) else none
  | .plain | .lineFeed | .joinedKey => none

/-- The width of a character in front of a sequence when no variation selector stands between
    them. -/
def inFrontOf (c : Char) (sequel : Sequel) : Int × Sequel :=
  match sequel with
  | .letter last _ =>
    -- A joiner is remembered, and a mark that is ignored does not break the ligature.
    if c = '\u200d' then (0, .letter last true)
    else if isIgnoredMark c then (0, sequel)
    else (combined c sequel).getD (alone c)
  | _ => (combined c sequel).getD (alone c)

/-- A request for a form of the character in front. Only the sequences that a selector does not
    end are kept behind it. -/
def Context.selecting (ctx : Context) (c : Char) : Option Context :=
  if c = '\ufe0f' then
    some (if ctx.sequel.isLetter || ctx.sequel.isJoined then {ctx with asPicture := true}
      else {asPicture := true})
  else if c = '\ufe0e' then
    some (if ctx.sequel.isLetter then {ctx with asSign := true} else {asSign := true})
  else if c = '\ufe01' then
    some (if ctx.sequel.isLetter then {ctx with asFull := true} else {asFull := true})
  else none

/-- The width of a character that no selector asks to be a picture, and the context for the
    character in front of it. -/
def plainStep (c : Char) (ctx : Context) : Int × Context :=
  -- Everything before the no-break space is one column wide, whatever it does to a terminal.
  if c.toNat ≤ 0xA0 then
    if c = '\n' then (1, {sequel := .lineFeed})
    else if c = '\r' && ctx.sequel = .lineFeed then (0, {})
    else (1, {})
  else match ctx.selecting c with
    | some selected => (0, selected)
    | none =>
      if ctx.asSign && hasNarrowForm c then (1, {})
      else if ctx.asFull && isCurlyQuote c then (2, {})
      else
        let (columns, sequel) := inFrontOf c ctx.sequel
        (columns, {sequel})

/-- The width of a character in its context, and the context for the character in front of it. -/
def step (c : Char) (ctx : Context) : Int × Context :=
  if ctx.asPicture then
    if hasPictureForm c then
      (if ctx.sequel.isJoined then 0 else 2, {sequel := .picture})
    else if ctx.sequel.isLetter then plainStep c {ctx with asPicture := false}
    else plainStep c {}
  else plainStep c ctx

end Columns

/-- The columns of a run of characters. -/
def columns (cs : List Char) : Nat :=
  let measured := cs.foldr (fun c (seen : Int × Columns.Context) =>
    let (columns, ctx) := Columns.step c seen.2
    (seen.1 + columns, ctx)) (0, {})
  measured.1.toNat

end Colloquy
