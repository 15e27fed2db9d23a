import ServiceWire.Json.Writer

/-!
# Canonical JSON

The text of a document that shows what it says and nothing of how it was made: the fields of each
object are sorted by name, there are no spaces, and every character beyond ASCII is written as an
escape, one beyond the sixteen-bit range as a pair of them.
-/

namespace ServiceWire.Json

/-- A sixteen-bit number as an escape. -/
def unitEscape (n : Nat) : List Char := '\\' :: 'u' :: Text.fixedDigits 16 4 n

/-- A character as it is written in a canonical string. -/
def canonicalChar (c : Char) : List Char :=
  if c.toNat < 0x7F then escapeChar c
  else if c.toNat < 0x10000 then unitEscape c.toNat
  else
    let n := c.toNat - 0x10000
    unitEscape (0xD800 + n / 0x400) ++ unitEscape (0xDC00 + n % 0x400)

/-- A canonical string literal. -/
def canonicalString (s : String) : List Char :=
  '"' :: s.toList.flatMap canonicalChar ++ ['"']

/-- Texts with a comma between each two. -/
def withCommas : List (List Char) → List Char
  | [] => []
  | [cs] => cs
  | cs :: rest => cs ++ ',' :: withCommas rest

/-- A field with its value's text. -/
def canonicalField (p : String × List Char) : List Char := canonicalString p.1 ++ ':' :: p.2

/-- Fields sorted by their names, which are compared by code point. -/
def sortFields {α : Type} (fields : List (String × α)) : List (String × α) :=
  fields.mergeSort fun p q => decide (p.1 ≤ q.1)

mutual

/-- The canonical text of a document, as characters. -/
def canonicalChars : Json → List Char
  | null => "null".toList
  | bool b => if b then "true".toList else "false".toList
  | int i => (toString i).toList
  | float x => (doubleText x).toList
  | str s => canonicalString s
  | array items => '[' :: withCommas (canonicalItems items) ++ [']']
  | object fields =>
    '\x7b' :: withCommas ((sortFields (canonicalFields fields)).map canonicalField) ++ ['\x7d']

/-- The canonical texts of the items of an array. -/
def canonicalItems : List Json → List (List Char)
  | [] => []
  | d :: rest => canonicalChars d :: canonicalItems rest

/-- The fields of an object with the canonical texts of their values. -/
def canonicalFields : List (String × Json) → List (String × List Char)
  | [] => []
  | (k, d) :: rest => (k, canonicalChars d) :: canonicalFields rest

end

/-- The canonical text of a document. -/
def canonical (d : Json) : String := String.ofList d.canonicalChars

end ServiceWire.Json
