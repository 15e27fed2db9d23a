import ServiceWire.Text.Cut
import ServiceWire.Text.Percent
import ServiceWire.Value

/-!
# Parameters in a URL

Names and values joined with equal signs and ampersands. Everything but letters, digits, points,
hyphens, underscores and tildes is percent-encoded. In reading, a plus sign is a space and pieces
without an equal sign have an empty value.
-/

namespace ServiceWire.UrlForm

/-- A name or value as it is written: a byte string by its bytes, all else by its text. -/
def encodePart : Value → String
  | .bytes .fixed data => String.ofList (Percent.encodeBytes data)
  | v => Percent.encode v.text

/-- A parameter as it is written. -/
def encodePair (p : Value × Value) : String := encodePart p.1 ++ "=" ++ encodePart p.2

/-- Parameters as they are written. -/
def encode (pairs : List (Value × Value)) : String := Text.join "&" (pairs.map encodePair)

/-- Text pairs as parameters. -/
def ofTexts (pairs : List (String × String)) : List (Value × Value) :=
  pairs.map fun p => (.str p.1, .str p.2)

/-- A name or value as it is read. -/
def decodePart (cs : List Char) : String :=
  Percent.decode (cs.map fun c => if c == '+' then ' ' else c)

/-- The parameter that a piece between ampersands holds; an empty piece holds none. -/
def decodePiece (cs : List Char) : Option (String × String) :=
  if cs.isEmpty then none
  else match Text.cut? '=' cs with
    | some (name, value) => some (decodePart name, decodePart value)
    | none => some (decodePart cs, "")

/-- The parameters of a text, in order. -/
def decode (s : String) : List (String × String) :=
  (Text.pieces '&' s.toList).filterMap decodePiece

end ServiceWire.UrlForm
