/-!
# The calendar

Days of the proleptic Gregorian calendar, numbered from 0 at 1 January of year 1, and their dates.
-/

namespace ServiceWire.Calendar

/-- Whether a year has 366 days. -/
def isLeap (year : Nat) : Bool := year % 4 == 0 && (year % 100 != 0 || year % 400 == 0)

/-- The lengths of the months of a year. -/
def monthLengths (leap : Bool) : List Nat :=
  [31, if leap then 29 else 28, 31, 30, 31, 30, 31, 31, 30, 31, 30, 31]

/-- The number of days before 1 January of a year. -/
def daysBeforeYear (year : Nat) : Nat :=
  let p := year - 1
  p * 365 + p / 4 - p / 100 + p / 400

/-- The number of days of a year before the first of a month. -/
def daysBeforeMonth (leap : Bool) (month : Nat) : Nat :=
  ((monthLengths leap).take (month - 1)).foldl (· + ·) 0

/-- A date. -/
structure Date where
  year : Nat
  month : Nat
  day : Nat
deriving DecidableEq, Repr

/-- The number of days of a month. -/
def monthLength (year month : Nat) : Nat := ((monthLengths (isLeap year))[month - 1]?).getD 0

/-- Whether a date exists, in years 1 to 9999. -/
def Date.isValid (d : Date) : Bool :=
  1 ≤ d.year && d.year ≤ 9999 && 1 ≤ d.month && d.month ≤ 12 && 1 ≤ d.day &&
    d.day ≤ monthLength d.year d.month

/-- The number of a date's day. -/
def Date.dayNumber (d : Date) : Nat :=
  daysBeforeYear d.year + daysBeforeMonth (isLeap d.year) d.month + (d.day - 1)

/-- The month and the day of the month of the day that is `n` days into the months listed, the
first of which has number `month`. -/
def monthAndDay (month : Nat) : List Nat → Nat → Nat × Nat
  | [], n => (month, n + 1)
  | length :: rest, n =>
    if n < length then (month, n + 1) else monthAndDay (month + 1) rest (n - length)

/-- The year of a day and its number within the year: whole cycles of 400, 100 and 4 years and
single years are taken off, the last century and the last year of a cycle being one day longer. -/
def yearAndDay (n : Nat) : Nat × Nat :=
  let n400 := n / 146097
  let r400 := n % 146097
  let n100 := min (r400 / 36524) 3
  let r100 := r400 - n100 * 36524
  let n4 := r100 / 1461
  let r4 := r100 % 1461
  let n1 := min (r4 / 365) 3
  (n400 * 400 + n100 * 100 + n4 * 4 + n1 + 1, r4 - n1 * 365)

/-- The date of a day. -/
def Date.ofDayNumber (n : Nat) : Date :=
  let (year, k) := yearAndDay n
  let (month, day) := monthAndDay 1 (monthLengths (isLeap year)) k
  ⟨year, month, day⟩

/-- The number of days in years 1 to 9999. -/
def dayLimit : Nat := 3652059

/-- The day of the week, from 0 for Monday. -/
def weekday (n : Nat) : Nat := n % 7

/-- The names of the days of the week, Monday first. -/
def weekdayNames : List String := ["Mon", "Tue", "Wed", "Thu", "Fri", "Sat", "Sun"]

/-- The short names of the months. -/
def monthNames : List String :=
  ["Jan", "Feb", "Mar", "Apr", "May", "Jun", "Jul", "Aug", "Sep", "Oct", "Nov", "Dec"]

/-- The day of an ISO week date: week 1 is the one with the year's first Thursday. The result may
lie in the next year; it is none if the year has no such week or the week no such day. -/
def weekDate? (year week day : Nat) : Option Nat :=
  if year < 1 ∨ 9999 < year then none
  else
    let first := daysBeforeYear year
    let firstWeekday := weekday first
    let longYear := firstWeekday = 3 ∨ (firstWeekday = 2 ∧ isLeap year = true)
    if week < 1 ∨ 53 < week ∨ (week = 53 ∧ ¬longYear) ∨ day < 1 ∨ 7 < day then none
    else
      let monday : Int := first - firstWeekday + (if 3 < firstWeekday then 7 else 0)
      some (monday + ((week - 1) * 7 + (day - 1) : Nat)).toNat

end ServiceWire.Calendar
