import ServiceWire.Failure
import ServiceWire.Number.Double
import ServiceWire.Number.Word
import ServiceWire.Time.Calendar

/-!
# Moments

A moment is a wall-clock reading in years 1 to 9999, to the microsecond, with the offset of its
clock from UTC, if that is known. Readings without an offset are taken to be UTC. Epoch seconds
count from the start of 1970.
-/

namespace ServiceWire

/-- Microseconds in a second. -/
def microsPerSecond : Nat := 1000000

/-- Microseconds in a day. -/
def microsPerDay : Nat := 86400000000

/-- The number of microseconds in years 1 to 9999. -/
def wallLimit : Nat := Calendar.dayLimit * microsPerDay

/-- A moment: the microseconds of the wall clock since the start of year 1, and the microseconds
the clock is ahead of UTC. -/
structure DateTime where
  wall : Nat
  offset : Option Int
  wall_lt : wall < wallLimit
deriving DecidableEq, Repr

/-- A wall-clock reading by its fields. -/
structure ClockFields where
  date : Calendar.Date
  hour : Nat
  minute : Nat
  second : Nat
  micro : Nat
deriving DecidableEq, Repr

namespace ClockFields

/-- Whether the fields are those of a reading in years 1 to 9999. -/
def isValid (f : ClockFields) : Bool :=
  f.date.isValid && f.hour < 24 && f.minute < 60 && f.second < 60 && f.micro < 1000000

/-- The microseconds since the start of year 1. -/
def wall (f : ClockFields) : Nat :=
  f.date.dayNumber * microsPerDay +
    (((f.hour * 60 + f.minute) * 60 + f.second) * microsPerSecond + f.micro)

/-- The date of a reading, with hyphens. -/
def dateText (f : ClockFields) : String :=
  s!"{Text.padded 4 f.date.year}-{Text.padded 2 f.date.month}-" ++ Text.padded 2 f.date.day

/-- The time of a reading to the second, with colons. -/
def timeText (f : ClockFields) : String :=
  s!"{Text.padded 2 f.hour}:{Text.padded 2 f.minute}:{Text.padded 2 f.second}"

/-- The fields of a reading. -/
def ofWall (w : Nat) : ClockFields :=
  let rest := w % microsPerDay
  let seconds := rest / microsPerSecond
  { date := .ofDayNumber (w / microsPerDay)
    hour := seconds / 3600
    minute := seconds / 60 % 60
    second := seconds % 60
    micro := rest % microsPerSecond }

end ClockFields

namespace DateTime

/-- The moment with a given reading and offset, if the fields are valid. -/
def ofFields? (f : ClockFields) (offset : Option Int) : Option DateTime :=
  if f.isValid then
    if h : f.wall < wallLimit then some ⟨f.wall, offset, h⟩ else none
  else none

/-- The fields of the wall clock. -/
def fields (t : DateTime) : ClockFields := .ofWall t.wall

/-- The microseconds into the second. -/
def micro (t : DateTime) : Nat := t.wall % microsPerSecond

/-- The moment of UTC with a given reading, if that is in years 1 to 9999. -/
def ofWall? (w : Int) : Option DateTime :=
  if h : 0 ≤ w ∧ w.toNat < wallLimit then some ⟨w.toNat, some 0, h.2⟩ else none

/-- The same moment on the UTC clock, unless that reads a year outside 1 to 9999. -/
def toUtc (t : DateTime) : Except Failure DateTime :=
  match t.offset with
  | none => .ok ⟨t.wall, some 0, t.wall_lt⟩
  | some offset =>
    match ofWall? (t.wall - offset) with
    | some u => .ok u
    | none => .error (.plain .overflow)

/-- The reading of the UTC clock at the epoch. -/
def epochWall : Nat := 719162 * microsPerDay

/-- The seconds beyond which the year of a moment needs more than 32 bits. -/
def farthestSecond : Int := 67768036191676799

/-- The seconds before which the year of a moment needs more than 32 bits. -/
def earliestSecond : Int := -67768040609740800

/-- The moment a number of whole seconds and microseconds after the epoch. -/
def ofEpoch (seconds : Int) (micros : Nat) : Except Failure DateTime :=
  if seconds < earliestSecond ∨ farthestSecond < seconds then .error (.plain .system)
  else match ofWall? (epochWall + seconds * microsPerSecond + micros) with
    | some t => .ok t
    | none => .error (.plain .value)

/-- The moment an integer number of seconds after the epoch. -/
def ofEpochInt (seconds : Int) : Except Failure DateTime :=
  if !fitsWord 63 seconds then .error (.plain .overflow)
  else ofEpoch seconds 0

/-- The moment a number of seconds after the epoch. The fraction of a second, times a million, is
first rounded to a double-precision number and then to whole microseconds, a half to the even
one. -/
def ofEpochDouble (x : Double) : Except Failure DateTime :=
  match x with
  | .nan => .error (.plain .value)
  | .infinite _ => .error (.plain .overflow)
  | .finite negative m s _ =>
    let u := Double.units m s
    let whole := u / Double.unitsInOne
    let micros : Nat :=
      match Double.ofRatio false (u % Double.unitsInOne * 1000000) Double.unitsInOne with
      | .finite _ m' s' _ => roundDiv (Double.units m' s') Double.unitsInOne
      | _ => 0
    let size : Int := ((whole * 1000000 + micros : Nat) : Int)
    let total := if negative then -size else size
    let seconds := total / 1000000
    if !fitsWord 63 seconds then .error (.plain .overflow)
    else ofEpoch seconds (total % 1000000).toNat

/-- The microseconds from the epoch to a moment of the UTC clock. -/
def sinceEpoch (t : DateTime) : Int := (t.wall : Int) - epochWall

/-- The seconds from the epoch to a moment of the UTC clock, as the nearest number. -/
def epochSeconds (t : DateTime) : Double :=
  Double.ofRatio (t.sinceEpoch < 0) t.sinceEpoch.natAbs microsPerSecond

/-- Whether two moments are the same: read on clocks whose offsets are known, or on clocks of
unknown offset. -/
def sameMoment (t u : DateTime) : Bool :=
  match t.offset, u.offset with
  | some a, some b => (t.wall : Int) - a == u.wall - b
  | none, none => t.wall == u.wall
  | _, _ => false

end DateTime

end ServiceWire
