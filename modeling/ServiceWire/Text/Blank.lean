import ServiceWire.Text.CharClass

/-!
# Blank characters

Two notions of blank are in use. Texts are trimmed of every Unicode white space character
(with the four ASCII separators); byte strings only of the six ASCII blanks.
-/

namespace ServiceWire

/-- The Unicode white space characters, with the ASCII separators U+001C to U+001F. -/
def CharClass.blank : CharClass where
  ranges :=
  [(0x9, 0xD), (0x1C, 0x20), (0x85, 0x85), (0xA0, 0xA0), (0x1680, 0x1680), (0x2000, 0x200A),
     (0x2028, 0x2029), (0x202F, 0x202F), (0x205F, 0x205F), (0x3000, 0x3000)]

namespace Text

/-- Whether a character is Unicode white space. -/
def isBlank (c : Char) : Bool := CharClass.blank.contains c

/-- Drops the characters with a property from both ends. -/
def trimBy (p : Char → Bool) (cs : List Char) : List Char :=
  ((cs.dropWhile p).reverse.dropWhile p).reverse

/-- A text without the white space at its two ends. -/
def strip (s : String) : String :=
  String.ofList (trimBy isBlank s.toList)

/-- A space and the control characters from tab to carriage return: what a byte string is
trimmed of. -/
def isBlankByte (b : UInt8) : Bool :=
  b == 0x20 || (0x09 ≤ b && b ≤ 0x0D)

/-- A byte string without the blanks at its ends. -/
def stripBytes (bs : List UInt8) : List UInt8 :=
  ((bs.dropWhile isBlankByte).reverse.dropWhile isBlankByte).reverse

end Text

end ServiceWire
