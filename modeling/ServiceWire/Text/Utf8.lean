import ServiceWire.Text.Cut

/-!
# UTF-8

Byte strings and the UTF-8 form of texts. Strict decoding is the library's; forgiving decoding
puts U+FFFD for each longest beginning of a character that does not continue as one.
-/

namespace ServiceWire

/-- A string of bytes. -/
abbrev Bytes := List UInt8

namespace Utf8

/-- The UTF-8 form of a text. -/
def encode (s : String) : Bytes := s.toUTF8.data.toList

/-- The text whose UTF-8 form is the given byte string, if there is one. -/
def decode? (bs : Bytes) : Option String := String.fromUTF8? ⟨bs.toArray⟩

theorem decode?_encode (s : String) : decode? (encode s) = some s := by
  simp [decode?, encode, String.fromUTF8?, String.fromUTF8, s.isValidUTF8]

/-- A character whose first bytes have been read: the bits so far, the number of bytes still to
come and the bounds of the next one. -/
structure Partial where
  bits : Nat
  left : Nat
  low : UInt8
  high : UInt8

/-- What a byte means at the start of a character. -/
inductive Lead
  /-- The byte is a character of its own. -/
  | single (c : Char)
  /-- The byte begins a longer character. -/
  | begins (p : Partial)
  /-- No character begins with the byte. -/
  | invalid

/-- The meaning of a byte at the start of a character. -/
def Lead.ofByte (b : UInt8) : Lead :=
  if b < 0x80 then .single (Char.ofNat b.toNat)
  else if b < 0xC2 then .invalid
  else if b < 0xE0 then .begins ⟨b.toNat - 0xC0, 1, 0x80, 0xBF⟩
  else if b == 0xE0 then .begins ⟨0, 2, 0xA0, 0xBF⟩
  else if b == 0xED then .begins ⟨0xD, 2, 0x80, 0x9F⟩
  else if b < 0xF0 then .begins ⟨b.toNat - 0xE0, 2, 0x80, 0xBF⟩
  else if b == 0xF0 then .begins ⟨0, 3, 0x90, 0xBF⟩
  else if b < 0xF4 then .begins ⟨b.toNat - 0xF0, 3, 0x80, 0xBF⟩
  else if b == 0xF4 then .begins ⟨4, 3, 0x80, 0x8F⟩
  else .invalid

/-- The sign put in place of bytes that are no character. -/
def replacement : Char := '\ufffd'

/-- Reads a byte at the start of a character. -/
def startWith (b : UInt8) (continueWith : Option Partial → List Char) : List Char :=
  match Lead.ofByte b with
  | .single c => c :: continueWith none
  | .begins p => continueWith (some p)
  | .invalid => replacement :: continueWith none

/-- Decodes a run of bytes and characters; the characters stand for themselves and end any
unfinished character before them. -/
def decodeMixedFrom : Option Partial → List (UInt8 ⊕ Char) → List Char
  | none, [] => []
  | some _, [] => [replacement]
  | none, .inr c :: rest => c :: decodeMixedFrom none rest
  | some _, .inr c :: rest => replacement :: c :: decodeMixedFrom none rest
  | none, .inl b :: rest => startWith b fun p => decodeMixedFrom p rest
  | some p, .inl b :: rest =>
    if p.low ≤ b ∧ b ≤ p.high then
      let bits := p.bits * 64 + (b.toNat - 0x80)
      if p.left = 1 then Char.ofNat bits :: decodeMixedFrom none rest
      else decodeMixedFrom (some ⟨bits, p.left - 1, 0x80, 0xBF⟩) rest
    else replacement :: startWith b fun p => decodeMixedFrom p rest

/-- Decodes bytes and characters, with U+FFFD for what is no character. -/
def decodeMixed (units : List (UInt8 ⊕ Char)) : String :=
  String.ofList (decodeMixedFrom none units)

end Utf8

/-- The UTF-8 form of a text, as a byte string. -/
abbrev bytesOf (s : String) : Bytes := Utf8.encode s

end ServiceWire
