import ServiceWire.Number.Shortest
import ServiceWire.Text.Blank
import ServiceWire.Text.Digit

/-!
# Reading numbers

Integers and decimals in free text: white space around them, digits of any script, and single
underscores between digits. A decimal may also be an infinity or not a number, in any case.
-/

namespace ServiceWire.Number

/-- The text in ASCII: digits of any script become ASCII digits, white space beyond ASCII becomes a
space and every other character beyond ASCII a question mark. ASCII texts stay as they are. -/
def toAscii (cs : List Char) : List Char :=
  if cs.all fun c => c.toNat < 0x80 then cs
  else cs.map fun c =>
    if c.toNat < 0x7F then c
    else if Text.isBlank c then ' '
    else match Text.decimalDigit? c with
      | some n => Char.ofNat (0x30 + n)
      | none => '?'

/-- The blanks that may stand around a number once it is in ASCII. -/
def isAsciiBlank (c : Char) : Bool := c == ' ' || (0x09 ≤ c.toNat && c.toNat ≤ 0x0D)

/-- A text in ASCII without the blanks around it. -/
def core (s : String) : List Char := Text.trimBy isAsciiBlank (toAscii s.toList)

/-- Whether a character is an ASCII digit. -/
def isDigit (c : Char) : Bool := '0' ≤ c && c ≤ '9'

/-- Drops the underscores of a text; there is one only between two digits. -/
def withoutUnderscores (previousDigit : Bool) : List Char → Option (List Char)
  | [] => some []
  | ['_'] => none
  | '_' :: c :: rest =>
    if previousDigit ∧ isDigit c then withoutUnderscores false (c :: rest) else none
  | c :: rest => (withoutUnderscores (isDigit c) rest).map (c :: ·)

/-- The number a run of ASCII digits stands for. -/
def ofDigits (cs : List Char) : Nat :=
  cs.foldl (fun n c => n * 10 + (c.toNat - '0'.toNat)) 0

/-- A sign and what follows it; no sign means plus. -/
def signed : List Char → Bool × List Char
  | '-' :: rest => (true, rest)
  | '+' :: rest => (false, rest)
  | rest => (false, rest)

/-- The integer written in a text. -/
def readInt? (s : String) : Option Int := do
  let (negative, body) := signed (core s)
  let digits ← withoutUnderscores false body
  if digits.isEmpty || !digits.all isDigit then none
  else return if negative then -(ofDigits digits : Int) else (ofDigits digits : Int)

/-- The exponent part of a decimal, from its letter on; nothing at all means zero. -/
def exponent? : List Char → Option Int
  | [] => some 0
  | c :: rest =>
    if c == 'e' || c == 'E' then
      let (negative, digits) := signed rest
      if digits.isEmpty || !digits.all isDigit then none
      else some (if negative then -(ofDigits digits : Int) else (ofDigits digits : Int))
    else none

/-- The fraction digits after a decimal point and the rest of the text. -/
def fraction : List Char → List Char × List Char
  | '.' :: rest => (rest.takeWhile isDigit, rest.dropWhile isDigit)
  | rest => ([], rest)

/-- The unsigned decimal written in plain ASCII: digits with an optional point and exponent. -/
def decimal? (cs : List Char) : Option Decimal := do
  let whole := cs.takeWhile isDigit
  let (part, rest) := fraction (cs.dropWhile isDigit)
  if whole.isEmpty && part.isEmpty then none
  else
    let e ← exponent? rest
    return ⟨ofDigits (whole ++ part), e - part.length⟩

/-- The number written in a text. -/
def readDouble? (s : String) : Option Double := do
  let (negative, body) := signed (← withoutUnderscores false (core s))
  let name := String.ofList (body.map Char.toLower)
  if name == "inf" || name == "infinity" then return .infinite negative
  else if name == "nan" then return .nan
  else return (← decimal? body).toDouble negative

end ServiceWire.Number
