import ServiceWire.Text.LetterCase
import ServiceWire.Value

/-!
# Header fields

The header fields of a response. Names are texts and compared without regard to case; the spelling
and value that came last count, in the place of the first. Values are texts as a rule.
-/

namespace ServiceWire

/-- Header fields: for each name in lower case, its spelling and its value. -/
structure Headers where
  fields : List (String × String × Value) := []

namespace Headers

/-- The header fields of a sequence of names and values. -/
def ofPairs (pairs : List (String × Value)) : Headers where
  fields := Entries.ofPairs (pairs.map fun p => (Text.lower p.1, p.1, p.2))

/-- A name of a header field, which must be a text. -/
def nameOf : Value → Except Failure String
  | .str name => .ok name
  | _ => .error (.plain .attribute)

/-- The header fields of the entries of a mapping. -/
def ofEntries (entries : List (Value × Value)) : Except Failure Headers :=
  (entries.mapM fun p => (nameOf p.1).map fun name => (name, p.2)).map ofPairs

/-- The header fields that a value holds: a mapping, or nothing. -/
def ofValue (v : Value) : Except Failure Headers :=
  if !v.truthy then .ok {}
  else
    match v with
    | .dict entries => ofEntries entries
    | _ => .error (.plain .attribute)

/-- The names as spelled and the values, in order. -/
def toList (h : Headers) : List (String × Value) := h.fields.map fun p => p.2

/-- The value of a name. -/
def get? (h : Headers) (name : String) : Option Value :=
  (h.fields.lookup (Text.lower name)).map fun p => p.2

/-- The number of fields. -/
def size (h : Headers) : Nat := h.fields.length

/-- The quoted form of header fields. -/
def quoted (h : Headers) : String :=
  let items := h.toList.map fun p => Quoted.text p.1 ++ ": " ++ p.2.quoted
  "CaseInsensitiveDict(\x7b" ++ Text.join ", " items ++ "\x7d)"

end Headers

end ServiceWire
