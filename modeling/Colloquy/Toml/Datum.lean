import Colloquy.Settings.Value
import Colloquy.Moment.Calendar
import Colloquy.Number.Literal
import Colloquy.Text.Split

/-!
# Data of a TOML Document

What a document says under its names: truth values, numbers, texts, dates and times, lists and
tables. No setting is a date, so dates and times end up as texts. They are kept apart until then,
because a table may stand for a date or a time as well: one that has a certain name first, whose
entry has to be a text with a date or a time in it. What else such a table holds means nothing.

Dates and times are checked and kept as text in one form: the fraction of a second loses digits
beyond the ninth and trailing zeros, and the zone is written in its shortest form.

## Main definitions

* `Toml.Datum`: What a document says under a name.
* `Toml.date?`, `Toml.time?`: The parts of moments, in the form in which they are kept.
* `Toml.dated?`: A date, a time or both in the text of a table that stands for one.
* `Toml.Datum.toValue?`: The setting that a datum is.
-/

namespace Colloquy

namespace Toml

/-- What a document says under a name. -/
inductive Datum where
  | boolean (value : Bool)
  | integer (value : Int)
  | fraction (value : Binary64)
  | text (value : String)
  /-- A date, a time or both, in the form in which it is kept. -/
  | moment (value : String)
  | list (items : List Datum)
  | table (entries : List (String × Datum))
  deriving Inhabited

/-! ## Dates and times -/

/-- A number with exactly two digits that is not greater than a limit. -/
def twoDigits? (limit : Nat) : List Char → Option Nat
  | [a, b] =>
    let n := Literal.digitsValue [a, b]
    if a.isDigit && b.isDigit && n ≤ limit then some n else none
  | _ => none

/-- A day of the calendar. -/
def date? (cs : List Char) : Option (List Char) :=
  match splitAt '-' cs with
  | [year, month, day] =>
    match twoDigits? 12 month, twoDigits? 31 day with
    | some m, some d =>
      let date : Moment.Date := ⟨Literal.digitsValue year, m, d⟩
      if year.length = 4 && year.all Char.isDigit && date.isReal then some cs else none
    | _, _ => none
  | _ => none

/-- The seconds of a time of day, with a fraction or without. -/
def seconds? (cs : List Char) : Option (List Char) :=
  (twoDigits? 60 (cs.take 2)).bind fun _ =>
    match cs.drop 2 with
    | [] => some cs
    | '.' :: places =>
      if places.isEmpty || !places.all Char.isDigit then none
      else
        let kept := ((places.take 9).reverse.dropWhile (· = '0')).reverse
        some (cs.take 2 ++ if kept.isEmpty then [] else '.' :: kept)
    | _ => none

/-- A time of day. -/
def time? (lastHour : Nat) (cs : List Char) : Option (List Char) :=
  match splitAt ':' cs with
  | [hour, minute, second] => do
    let _ ← twoDigits? lastHour hour
    let _ ← twoDigits? 59 minute
    let second ← seconds? second
    pure (hour ++ ':' :: minute ++ ':' :: second)
  | _ => none

/-- Whether a character starts a zone. -/
def isZoneStart (c : Char) : Bool := c = 'Z' || c = 'z' || c = '+' || c = '-'

/-- The zone of a moment, where hours and minutes have limits and so has the whole in minutes. -/
def zone? (lastHour lastMinute last : Nat) (cs : List Char) : Option (List Char) :=
  match cs with
  | [] => some []
  | ['Z'] => some ['Z']
  | ['z'] => some ['Z']
  | sign :: clock =>
    match splitAt ':' clock with
    | [hour, minute] => do
      let h ← twoDigits? lastHour hour
      let m ← twoDigits? lastMinute minute
      let whole := h * 60 + m
      if (sign ≠ '+' ∧ sign ≠ '-') ∨ last < whole then none
      else
        some ((if whole = 0 then '+' else sign) ::
          (Moment.padded 2 (whole / 60)).toList ++ ':' :: (Moment.padded 2 (whole % 60)).toList)
    | _ => none

/-- A date, a time or both in the text of a table that stands for one. The limits are wider than
    those of dates and times that stand for themselves: a day may have a twenty-fifth hour, and a
    zone may be a day away. -/
def dated? (cs : List Char) : Option (List Char) :=
  if cs[2]? = some ':' then time? 24 cs
  else do
    let date ← date? (cs.take 10)
    match cs.drop 10 with
    | [] => some date
    | mark :: rest =>
      if mark = 'T' ∨ mark = 't' ∨ mark = ' ' then do
        let time ← time? 24 (rest.takeWhile (!isZoneStart ·))
        let zone ← zone? 99 99 (24 * 60) (rest.dropWhile (!isZoneStart ·))
        some (date ++ 'T' :: time ++ zone)
      else none

/-! ## Settings -/

/-- The name that makes a table stand for a date or a time. -/
def momentName : String := "$__toml_private_datetime"

mutual

/-- The setting that a datum is, unless it is a table that ought to be a date or a time and is
    none. -/
def Datum.toValue? : Datum → Option Value
  | .boolean value => some (.boolean value)
  | .integer value => some (.integer value)
  | .fraction value => some (.fraction value)
  | .text value => some (.text value)
  | .moment value => some (.text value)
  | .list items => (itemValues? items).map .list
  | .table entries =>
    match entries with
    | [] => some (.table [])
    | (name, datum) :: rest =>
      if name = momentName then
        match datum with
        | .text text => (dated? text.toList).map fun text => .text (String.ofList text)
        | _ => none
      else do
        let value ← datum.toValue?
        let rest ← entryValues? rest
        some (.table ((name, value) :: rest))

/-- The settings that the items of a list are. -/
def itemValues? : List Datum → Option (List Value)
  | [] => some []
  | item :: rest => do
    let value ← item.toValue?
    let rest ← itemValues? rest
    some (value :: rest)

/-- The settings that the entries of a table are. -/
def entryValues? : List (String × Datum) → Option (List (String × Value))
  | [] => some []
  | (name, datum) :: rest => do
    let value ← datum.toValue?
    let rest ← entryValues? rest
    some ((name, value) :: rest)

end

end Toml

end Colloquy
