import ServiceWire.Text.Digit
import ServiceWire.Text.Utf8

/-!
# Percent-encoding

Texts in a request URI and in form bodies: the unreserved characters stand for themselves, every
other character is written as the bytes of its UTF-8 form, each `%XX` with upper-case digits.
Decoding leaves a `%` that begins no such group as it is.
-/

namespace ServiceWire.Percent

/-- The characters that are never encoded. -/
def isUnreserved (b : UInt8) : Bool :=
  (0x41 ≤ b && b ≤ 0x5A) || (0x61 ≤ b && b ≤ 0x7A) || (0x30 ≤ b && b ≤ 0x39) ||
    b == 0x5F || b == 0x2E || b == 0x2D || b == 0x7E

/-- An upper-case hexadecimal digit. -/
def hexDigit (n : Nat) : Char :=
  if n < 10 then Char.ofNat (0x30 + n) else Char.ofNat (0x41 + (n - 10))

/-- A byte as it is written in a URI. -/
def encodeByte (b : UInt8) : List Char :=
  if isUnreserved b then [Char.ofNat b.toNat]
  else ['%', hexDigit (b.toNat / 16), hexDigit (b.toNat % 16)]

/-- The percent-encoded form of a byte string. -/
def encodeBytes (bs : Bytes) : List Char := bs.flatMap encodeByte

/-- The percent-encoded form of a text. -/
def encode (s : String) : String := String.ofList (encodeBytes (Utf8.encode s))

/-- A character that stands for itself: an ASCII one is the byte of its code. -/
def literal (c : Char) : UInt8 ⊕ Char :=
  if c.toNat < 0x80 then .inl (UInt8.ofNat c.toNat) else .inr c

/-- The bytes and characters that a percent-encoded text stands for. -/
def units : List Char → List (UInt8 ⊕ Char)
  | '%' :: a :: b :: rest =>
    match Text.hexDigit? a, Text.hexDigit? b with
    | some x, some y => .inl (UInt8.ofNat (x * 16 + y)) :: units rest
    | _, _ => literal '%' :: units (a :: b :: rest)
  | c :: rest => literal c :: units rest
  | [] => []

/-- The text that a percent-encoded text stands for. -/
def decode (cs : List Char) : String := Utf8.decodeMixed (units cs)

end ServiceWire.Percent
