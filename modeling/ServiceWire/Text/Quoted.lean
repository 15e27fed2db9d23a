import ServiceWire.Text.Digit
import ServiceWire.Text.Printable
import ServiceWire.Text.Utf8

/-!
# Quoted texts

How messages and generated modules show a text or a byte string: between quotes, with escapes for
the quote, the backslash and everything that does not print. The quote is single unless the text
holds a single quote and no double one.
-/

namespace ServiceWire.Quoted

/-- The quote that surrounds a text with the given characters. -/
def quoteFor (hasSingle hasDouble : Bool) : Char :=
  if hasSingle && !hasDouble then '"' else '\''

/-- The escape of a code point: two, four or eight digits. -/
def escapeNumber (n : Nat) : List Char :=
  if n < 0x100 then '\\' :: 'x' :: Text.fixedDigits 16 2 n
  else if n < 0x10000 then '\\' :: 'u' :: Text.fixedDigits 16 4 n
  else '\\' :: 'U' :: Text.fixedDigits 16 8 n

/-- A character as it is written between quotes. -/
def escapeChar (quote c : Char) : List Char :=
  if c == quote || c == '\\' then ['\\', c]
  else if c == '\n' then ['\\', 'n']
  else if c == '\r' then ['\\', 'r']
  else if c == '\t' then ['\\', 't']
  else if Text.isPrintable c then [c]
  else escapeNumber c.toNat

/-- A text between quotes, as characters. -/
def chars (cs : List Char) : List Char :=
  let quote := quoteFor (cs.contains '\'') (cs.contains '"')
  quote :: cs.flatMap (escapeChar quote) ++ [quote]

/-- A text between quotes. -/
def text (s : String) : String := String.ofList (chars s.toList)

/-- A byte as it is written between quotes, given the quotes that are escaped. -/
def escapeByte (quotes : List Char) (b : UInt8) : List Char :=
  let c := Char.ofNat b.toNat
  if quotes.contains c || c == '\\' then ['\\', c]
  else if c == '\n' then ['\\', 'n']
  else if c == '\r' then ['\\', 'r']
  else if c == '\t' then ['\\', 't']
  else if 0x20 ≤ b && b < 0x7F then [c]
  else '\\' :: 'x' :: Text.fixedDigits 16 2 b.toNat

/-- A byte string between quotes, marked with a `b`. Beside the quote around it, some others are
escaped. -/
def bytesWith (others : List Char) (bs : Bytes) : String :=
  let quote := quoteFor (bs.contains 0x27) (bs.contains 0x22)
  String.ofList ('b' :: quote :: bs.flatMap (escapeByte (quote :: others)) ++ [quote])

/-- A constant byte string between quotes. -/
def bytes (bs : Bytes) : String := bytesWith [] bs

/-- A byte string that may change: single quotes in it are escaped in any case. -/
def mutableBytes (bs : Bytes) : String := "bytearray(" ++ bytesWith ['\''] bs ++ ")"

end ServiceWire.Quoted
