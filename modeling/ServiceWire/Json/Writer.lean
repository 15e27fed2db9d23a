import ServiceWire.Json.Document

/-!
# Writing JSON

The text of a document. Characters beyond ASCII are written as they are; the quote, the backslash
and control characters are escaped. Bodies are written without spaces, log lines with a space after
each comma and colon.
-/

namespace ServiceWire.Json

/-- The separators between items and between a name and its value. -/
structure Spacing where
  comma : List Char
  colon : List Char

/-- No spaces. -/
def Spacing.compact : Spacing := ⟨[','], [':']⟩

/-- A space after each comma and colon. -/
def Spacing.loose : Spacing := ⟨[',', ' '], [':', ' ']⟩

/-- A character as it is written in a string. -/
def escapeChar (c : Char) : List Char :=
  if c == '"' then ['\\', '"']
  else if c == '\\' then ['\\', '\\']
  else if c == '\n' then ['\\', 'n']
  else if c == '\r' then ['\\', 'r']
  else if c == '\t' then ['\\', 't']
  else if c == '\x08' then ['\\', 'b']
  else if c == '\x0c' then ['\\', 'f']
  else if c.toNat < 0x20 then '\\' :: 'u' :: Text.fixedDigits 16 4 c.toNat
  else [c]

/-- A string literal. -/
def stringChars (s : String) : List Char := '"' :: s.toList.flatMap escapeChar ++ ['"']

/-- The text of a number that is no integer. -/
def doubleText : Double → String
  | .nan => "NaN"
  | .infinite negative => if negative then "-Infinity" else "Infinity"
  | x => x.render

mutual

/-- The text of a document, as characters. -/
def chars (sp : Spacing) : Json → List Char
  | null => "null".toList
  | bool b => if b then "true".toList else "false".toList
  | int i => (toString i).toList
  | float x => (doubleText x).toList
  | str s => stringChars s
  | array items => '[' :: itemChars sp items ++ [']']
  | object fields => '\x7b' :: fieldChars sp fields ++ ['\x7d']

/-- The items of an array with commas between them. -/
def itemChars (sp : Spacing) : List Json → List Char
  | [] => []
  | [d] => chars sp d
  | d :: rest => chars sp d ++ sp.comma ++ itemChars sp rest

/-- The fields of an object with commas between them. -/
def fieldChars (sp : Spacing) : List (String × Json) → List Char
  | [] => []
  | [(k, d)] => stringChars k ++ sp.colon ++ chars sp d
  | (k, d) :: rest => stringChars k ++ sp.colon ++ chars sp d ++ sp.comma ++ fieldChars sp rest

end

/-- The text of a document without spaces. -/
def render (d : Json) : String := String.ofList (d.chars .compact)

/-- The text of a document with a space after each comma and colon. -/
def renderLoose (d : Json) : String := String.ofList (d.chars .loose)

end ServiceWire.Json
