import ServiceWire.Number.Reading
import ServiceWire.Text.Cut
import ServiceWire.Text.LetterCase
import ServiceWire.Time.DateTime

/-!
# RFC 822 dates

Writing gives the fixed form of HTTP headers. Reading is lenient: the weekday is passed over, the
day and the month may change places, as may the year and the time, a date may be joined by hyphens,
two-digit years belong to 1969 up to 2068, and a missing or unknown zone means UTC.
-/

namespace ServiceWire.Rfc822

/-- The text of a moment of the UTC clock, without the fraction of its second. -/
def render (t : DateTime) : String :=
  let f := t.fields
  let weekday := (Calendar.weekdayNames[Calendar.weekday (t.wall / microsPerDay)]?).getD ""
  let month := (Calendar.monthNames[f.date.month - 1]?).getD ""
  s!"{weekday}, {Text.padded 2 f.date.day} {month} {Text.padded 4 f.date.year} " ++
    f.timeText ++ " GMT"

/-- The words of a text, between runs of white space; `word` holds the characters of the current
one, last first. -/
def wordsFrom (word : List Char) : List Char → List (List Char)
  | [] => if word.isEmpty then [] else [word.reverse]
  | c :: rest =>
    if Text.isBlank c then
      if word.isEmpty then wordsFrom [] rest else word.reverse :: wordsFrom [] rest
    else wordsFrom (c :: word) rest

/-- The names of the months, short ones first. -/
def monthWords : List String :=
  ["jan", "feb", "mar", "apr", "may", "jun", "jul", "aug", "sep", "oct", "nov", "dec",
    "january", "february", "march", "april", "may", "june", "july", "august", "september",
    "october", "november", "december"]

/-- The number of the month a word names. -/
def month? (word : List Char) : Option Nat :=
  (monthWords.findIdx? (· == Text.lower (String.ofList word))).map fun i => i % 12 + 1

/-- The zones with a name, as hours and minutes ahead of UTC written in four digits. -/
def zones : List (String × Int) :=
  [("UT", 0), ("UTC", 0), ("GMT", 0), ("Z", 0), ("AST", -400), ("ADT", -300), ("EST", -500),
    ("EDT", -400), ("CST", -600), ("CDT", -500), ("MST", -700), ("MDT", -600), ("PST", -800),
    ("PDT", -700)]

/-- The seconds that a zone word is ahead of UTC; none for an unknown zone and for `-0000`. -/
def zoneOffset? (word : List Char) : Option Int :=
  let name := Text.upper (String.ofList word)
  let digits : Option Int :=
    match zones.lookup name with
    | some n => some n
    | none =>
      match Number.readInt? name with
      | some n => if n = 0 ∧ name.startsWith "-" then none else some n
      | none => none
  digits.map fun n =>
    let size : Int := ((n.natAbs / 100 * 3600 + n.natAbs % 100 * 60 : Nat) : Int)
    if n < 0 then -size else size

/-- Drops the weekday at the start of a date. -/
def withoutWeekday : List (List Char) → List (List Char)
  | [] => []
  | w :: rest =>
    if w.getLast? == some ',' ||
        ["mon", "tue", "wed", "thu", "fri", "sat", "sun"].contains (Text.lower (String.ofList w))
    then rest
    else Text.afterLast ',' w :: rest

/-- The five parts of a date: day, month, year, time and zone, in the order they are written. -/
def parts? (words : List (List Char)) :
    Option (List Char × List Char × List Char × List Char × List Char) :=
  let words := match words with
    | [w, b, c] =>
      match Text.pieces '-' w with
      | [x, y, z] => [x, y, z, b, c]
      | _ => words
    | _ => words
  match words with
  | [a, b, c, d] =>
    let signed := fun sign => match Text.cut? sign d with
      | some (t, z) => some (t, sign :: z)
      | none => none
    match signed '+' <|> signed '-' with
    | some (t, z) => if t.isEmpty then some (a, b, c, d, []) else some (a, b, c, t, z)
    | none => some (a, b, c, d, [])
  | a :: b :: c :: d :: e :: _ => some (a, b, c, d, e)
  | _ => none

/-- A word without a comma at its end. -/
def withoutComma (w : List Char) : List Char :=
  if w.getLast? == some ',' then w.dropLast else w

/-- The hour, minute and second of a time word. -/
def clock? (w : List Char) : Option (Int × Int × Int) :=
  let read := fun (x : List Char) => Number.readInt? (String.ofList x)
  match Text.pieces ':' w with
  | [h, m] => do return (← read h, ← read m, 0)
  | [h, m, s] => do return (← read h, ← read m, ← read s)
  | [x] =>
    match Text.pieces '.' x with
    | [h, m] => do return (← read h, ← read m, 0)
    | [h, m, s] => do return (← read h, ← read m, ← read s)
    | _ => none
  | _ => none

/-- A year as it is meant: those below 100 belong to 1969 up to 2068. -/
def fullYear (y : Int) : Int :=
  if y < 100 then if 68 < y then y + 1900 else y + 2000 else y

/-- A date as it was written: year, month, day, time and the seconds its clock is ahead. -/
structure Reading where
  year : Int
  month : Nat
  day : Int
  hour : Int
  minute : Int
  second : Int
  offset : Option Int

/-- Reads the parts of a date. -/
def reading? (s : String) : Option Reading := do
  let (dd, mm, yy, tm, tz) ← parts? (withoutWeekday (wordsFrom [] s.toList))
  if dd.isEmpty || mm.isEmpty || yy.isEmpty then none
  else
    let (dd, month) ← match month? mm with
      | some month => some (dd, month)
      | none => (month? dd).map fun month => ((Text.lower (String.ofList mm)).toList, month)
    let dd := withoutComma dd
    let (yy, tm) := match Text.cut? ':' yy with
      | some (a, _) => if a.isEmpty then (yy, tm) else (tm, yy)
      | none => (yy, tm)
    let yy := withoutComma yy
    let first ← yy.head?
    let (yy, tz) := if Text.isDigitLike first then (yy, tz) else (tz, yy)
    let (hour, minute, second) ← clock? (withoutComma tm)
    let year ← Number.readInt? (String.ofList yy)
    let day ← Number.readInt? (String.ofList dd)
    return ⟨fullYear year, month, day, hour, minute, second, zoneOffset? tz⟩

/-- Whether a field fits a 32-bit integer. -/
def fitsField (i : Int) : Bool := fitsWord 31 i

/-- The moment a date means. -/
def Reading.toDateTime (r : Reading) : Except Failure DateTime :=
  match r.offset with
  | some z =>
    if z < -86399999913600 ∨ 86400000000000 ≤ z then .error (.plain .overflow)
    else if 86400 ≤ z.natAbs then .error (.plain .value)
    else build (some (z * 1000000))
  | none => build none
where
  /-- The moment with the reading's fields and an offset. -/
  build (offset : Option Int) : Except Failure DateTime :=
    let fields := [r.year, r.day, r.hour, r.minute, r.second]
    if !fields.all fitsField then .error (.plain .overflow)
    else if fields.any (· < 0) then .error (.plain .value)
    else
      match DateTime.ofFields? ⟨⟨r.year.toNat, r.month, r.day.toNat⟩, r.hour.toNat,
          r.minute.toNat, r.second.toNat, 0⟩ offset with
      | some t => .ok t
      | none => .error (.plain .value)

/-- The moment written in a text. -/
def parse (s : String) : Except Failure DateTime :=
  match reading? s with
  | some r => r.toDateTime
  | none => .error (.plain .value)

end ServiceWire.Rfc822
