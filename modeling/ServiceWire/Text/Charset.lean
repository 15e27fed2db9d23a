import ServiceWire.Text.Cut
import ServiceWire.Text.Utf8

/-!
# Character sets of single bytes

A character set gives each byte at most one character. The lower half of the bytes is ASCII; the
upper half is listed, with U+FFFD for a byte that stands for nothing. A set is found under any
spelling of its names that differs in case or in the marks between letters and digits.
-/

namespace ServiceWire

/-- A character set whose lower half is ASCII: its names in plain form and the characters of its
upper half. -/
structure Charset where
  names : List String
  upper : String

namespace Charset

/-- The character of a byte, given the upper half. -/
def charOf? (upper : Array Char) (b : UInt8) : Option Char :=
  if b < 0x80 then some (Char.ofNat b.toNat)
  else (upper[b.toNat - 0x80]?).filter (· != Utf8.replacement)

/-- The characters of bytes, if each byte has one. -/
def decode? (k : Charset) (bs : Bytes) : Option (List Char) :=
  bs.mapM (charOf? k.upper.toList.toArray)

/-- The plain form of a name: the runs of letters, digits and dots, lower case, with low lines
between them. -/
def plainName (name : String) : String :=
  let marked := name.toList.map fun c => if c.isAlphanum || c == '.' then c.toLower else '_'
  String.ofList (['_'].intercalate ((Text.pieces '_' marked).filter (! ·.isEmpty)))

/-- Whether a list of plain names has a name; a dot in the name may stand for a low line. -/
def isNamed (names : List String) (name : String) : Bool :=
  let plain := plainName name
  names.contains plain ||
    names.contains (String.ofList (plain.toList.map fun c => if c == '.' then '_' else c))

end Charset

end ServiceWire
