import ServiceWire.Text.Utf8
import ServiceWire.Time.DateTime

/-!
# ISO 8601 texts

Writing keeps the fraction of a second only as far as needed: none, three or six places. Reading
takes a calendar or week date in extended or basic form, one separator character, a time with or
without colons, and an offset.
-/

namespace ServiceWire.Iso8601

/-- The text of a moment of the UTC clock. -/
def render (t : DateTime) : String :=
  let f := t.fields
  let part :=
    if f.micro = 0 then ""
    else if f.micro % 1000 = 0 then "." ++ Text.padded 3 (f.micro / 1000)
    else "." ++ Text.padded 6 f.micro
  f.dateText ++ "T" ++ f.timeText ++ part ++ "Z"

/-- The value of an ASCII digit, as a byte. -/
def digit? (b : UInt8) : Option Nat :=
  if 0x30 ≤ b ∧ b ≤ 0x39 then some (b.toNat - 0x30) else none

/-- Reads exactly `count` digits after the value `n`. -/
def digits? : Nat → Nat → Bytes → Option (Nat × Bytes)
  | 0, n, bs => some (n, bs)
  | _ + 1, _, [] => none
  | count + 1, n, b :: bs => do digits? count (n * 10 + (← digit? b)) bs

/-- The byte at a place, zero beyond the end. -/
def byteAt (bs : Bytes) (i : Nat) : UInt8 := (bs[i]?).getD 0

/-- The number of bytes of the date part: the one before the separator, or the whole text. -/
def dateLength (bs : Bytes) : Nat :=
  let n := bs.length
  if n = 7 then 7
  else if byteAt bs 4 = 0x2D then
    if byteAt bs 5 = 0x57 then
      if 8 < n ∧ byteAt bs 8 = 0x2D then
        if 10 < n ∧ (digit? (byteAt bs 10)).isSome then 8 else 10
      else 8
    else 10
  else if byteAt bs 4 = 0x57 then
    let stop := 7 + ((bs.drop 7).takeWhile fun b => (digit? b).isSome).length
    if stop < 9 then stop else if stop % 2 = 0 then 7 else 8
  else 8

/-- Reads a hyphen, if the date is written with hyphens. -/
def hyphen? (separated : Bool) (bs : Bytes) : Option Bytes :=
  match separated, bs with
  | false, _ => some bs
  | true, b :: rest => if b = 0x2D then some rest else none
  | true, [] => none

/-- Reads a date whose part of the text has the given length. -/
def date? (length : Nat) (bs : Bytes) : Option Calendar.Date := do
  let (year, rest) ← digits? 4 0 bs
  let separated := byteAt rest 0 = 0x2D
  let rest := if separated then rest.drop 1 else rest
  if byteAt rest 0 = 0x57 then
    let (week, rest) ← digits? 2 0 (rest.drop 1)
    let read := 4 + (if separated then 1 else 0) + 3
    let day ← if read < length then do
        let (day, _) ← digits? 1 0 (← hyphen? separated rest)
        pure day
      else pure 1
    return .ofDayNumber (← Calendar.weekDate? year week day)
  else
    let (month, rest) ← digits? 2 0 rest
    let (day, _) ← digits? 2 0 (← hyphen? separated rest)
    return ⟨year, month, day⟩

/-- The fields of a time or an offset, and whether they took up the whole text. -/
structure TimeFields where
  hour : Nat := 0
  minute : Nat := 0
  second : Nat := 0
  micro : Nat := 0
  complete : Bool := true

/-- Sets the field with a given number: hour, minute or second. -/
def TimeFields.set (t : TimeFields) : Nat → Nat → TimeFields
  | 0, n => { t with hour := n }
  | 1, n => { t with minute := n }
  | _, n => { t with second := n }

/-- Reads a fraction of a second: six digits count, the digits after them are passed over. -/
def fraction? (t : TimeFields) (bs : Bytes) : Option TimeFields := do
  let count := min bs.length 6
  let (n, rest) ← digits? count 0 bs
  let rest := rest.dropWhile fun b => (digit? b).isSome
  let complete := rest.isEmpty || rest.head? == some 0
  return { t with micro := n * Nat.pow 10 (6 - count), complete }

/-- Reads the field with number `3 - left` and those after it. The first separator decides whether
the time is written with colons. -/
def timeFrom? : Nat → Option Bool → TimeFields → Bytes → Option TimeFields
  | 0, _, t, bs => fraction? t bs
  | left + 1, colons, t, bs => do
    let (n, rest) ← digits? 2 0 bs
    let t := t.set (2 - left) n
    match rest with
    | [] => return t
    | [b] => return { t with complete := b == 0 }
    | b :: rest' =>
      let colons := colons.getD (b == 0x3A)
      if colons && b == 0x3A then timeFrom? left (some colons) t rest'
      else if b == 0x2E || b == 0x2C then fraction? t rest'
      else if colons then none
      else timeFrom? left (some colons) t rest

/-- Whether a byte begins an offset. -/
def beginsOffset (b : UInt8) : Bool := b == 0x2B || b == 0x2D || b == 0x5A

/-- Reads a time and its offset, in microseconds. -/
def time? (bs : Bytes) : Option (TimeFields × Option Int) := do
  let t ← timeFrom? 3 none {} (bs.takeWhile fun b => !beginsOffset b)
  match bs.dropWhile fun b => !beginsOffset b with
  | [] => if t.complete then return (t, none) else none
  | sign :: rest =>
    if sign == 0x5A then if rest.isEmpty || rest.head? == some 0 then return (t, some 0) else none
    else
      let z ← timeFrom? 3 none {} rest
      if !z.complete then none
      else
        let seconds := (z.hour * 60 + z.minute) * 60 + z.second
        if seconds = 0 then return (t, some 0)
        else
          let offset : Int := seconds * 1000000 + z.micro
          if 86400000000 ≤ offset then none
          else return (t, some (if sign == 0x2D then -offset else offset))

/-- The number of bytes of the separator that starts with a byte. -/
def separatorLength (b : UInt8) : Nat :=
  if b < 0x80 then 1 else if b < 0xE0 then 2 else if b < 0xF0 then 3 else 4

/-- The moment written in a text. -/
def parse? (s : String) : Option DateTime := do
  let bs := Utf8.encode s
  if bs.length < 7 then none
  else
    let length := dateLength bs
    let date ← date? length bs
    match bs.drop length with
    | [] => DateTime.ofFields? ⟨date, 0, 0, 0, 0⟩ none
    | b :: rest =>
      let (t, offset) ← time? ((b :: rest).drop (separatorLength b))
      DateTime.ofFields? ⟨date, t.hour, t.minute, t.second, t.micro⟩ offset

end ServiceWire.Iso8601
