import ServiceWire.Json.Document
import ServiceWire.Number.Reading
import ServiceWire.Text.Cut

/-!
# Reading JSON

A document is read from its characters. Beyond the standard, `NaN`, `Infinity` and `-Infinity` are
numbers. Of two fields with one name the later value counts, in the place of the earlier one. A
text is a document only as a whole.
-/

namespace ServiceWire.Json

/-- Drops white space. -/
def skipBlank (cs : List Char) : List Char :=
  cs.dropWhile fun c => c == ' ' || c == '\t' || c == '\n' || c == '\r'

/-- Reads four hexadecimal digits. -/
def hex4? : List Char → Option (Nat × List Char)
  | a :: b :: c :: d :: rest => do
    let digits ← [a, b, c, d].mapM Text.hexDigit?
    return (digits.foldl (fun n x => n * 16 + x) 0, rest)
  | _ => none

/-- The low half of a surrogate pair, written as an escape. -/
def lowSurrogate? : List Char → Option (Nat × List Char)
  | '\\' :: 'u' :: rest =>
    match hex4? rest with
    | some (n, rest) => if 0xDC00 ≤ n ∧ n < 0xE000 then some (n, rest) else none
    | none => none
  | _ => none

/-- The character a one-letter escape stands for. -/
def simpleEscape? : Char → Option Char
  | '"' => some '"'
  | '\\' => some '\\'
  | '/' => some '/'
  | 'b' => some '\x08'
  | 'f' => some '\x0c'
  | 'n' => some '\n'
  | 'r' => some '\r'
  | 't' => some '\t'
  | _ => none

/-- Reads one escape, after its backslash. -/
def escape? : List Char → Option (Char × List Char)
  | 'u' :: rest => do
    let (n, rest) ← hex4? rest
    if 0xD800 ≤ n ∧ n < 0xDC00 then
      match lowSurrogate? rest with
      | some (low, rest) =>
        return (Char.ofNat (0x10000 + (n - 0xD800) * 0x400 + (low - 0xDC00)), rest)
      | none => return ('\ufffd', rest)
    else if 0xDC00 ≤ n ∧ n < 0xE000 then return ('\ufffd', rest)
    else return (Char.ofNat n, rest)
  | c :: rest => do return (← simpleEscape? c, rest)
  | [] => none

/-- Reads a string after its opening quote, in front of the characters read, last first. -/
def string? : Nat → List Char → List Char → Option (String × List Char)
  | 0, _, _ => none
  | _ + 1, _, [] => none
  | fuel + 1, acc, c :: rest =>
    if c == '"' then some (String.ofList acc.reverse, rest)
    else if c == '\\' then
      match escape? rest with
      | some (c, rest) => string? fuel (c :: acc) rest
      | none => none
    else if c.toNat < 0x20 then none
    else string? fuel (c :: acc) rest

/-- Reads the whole part of a number: zero, or digits that do not begin with zero. -/
def wholePart? : List Char → Option (List Char × List Char)
  | '0' :: rest => some (['0'], rest)
  | c :: rest =>
    if Number.isDigit c then
      some (c :: rest.takeWhile Number.isDigit, rest.dropWhile Number.isDigit)
    else none
  | [] => none

/-- Reads a fraction: a point with at least one digit. -/
def fractionPart : List Char → List Char × List Char
  | '.' :: rest =>
    let digits := rest.takeWhile Number.isDigit
    if digits.isEmpty then ([], '.' :: rest) else (digits, rest.dropWhile Number.isDigit)
  | cs => ([], cs)

/-- Reads an exponent with at least one digit. -/
def exponentPart (cs : List Char) : Option Int × List Char :=
  match cs with
  | c :: rest =>
    if c == 'e' || c == 'E' then
      let (negative, body) := Number.signed rest
      let digits := body.takeWhile Number.isDigit
      if digits.isEmpty then (none, cs)
      else
        let n : Int := Number.ofDigits digits
        (some (if negative then -n else n), body.dropWhile Number.isDigit)
    else (none, cs)
  | [] => (none, [])

/-- Reads a number without its sign. -/
def number? (negative : Bool) (cs : List Char) : Option (Json × List Char) := do
  let (whole, rest) ← wholePart? cs
  let (part, rest) := fractionPart rest
  let (e, rest) := exponentPart rest
  if part.isEmpty && e.isNone then
    let n : Int := Number.ofDigits whole
    return (.int (if negative then -n else n), rest)
  else
    let d : Decimal := ⟨Number.ofDigits (whole ++ part), e.getD 0 - part.length⟩
    return (.float (d.toDouble negative), rest)

/-- The words that are documents. -/
def words : List (String × Json) :=
  [("null", .null), ("true", .bool true), ("false", .bool false), ("NaN", .float .nan),
    ("Infinity", .float (.infinite false)), ("-Infinity", .float (.infinite true))]

/-- Reads a word. -/
def word? (cs : List Char) : Option (Json × List Char) :=
  words.findSome? fun w => (Text.dropStart? cs w.1.toList).map fun rest => (w.2, rest)

/-- Reads a word or a number. -/
def atom? (cs : List Char) : Option (Json × List Char) :=
  match word? cs with
  | some r => some r
  | none =>
    match cs with
    | '-' :: rest => number? true rest
    | cs => number? false cs

mutual

/-- Reads one document. -/
def value? : Nat → List Char → Option (Json × List Char)
  | 0, _ => none
  | fuel + 1, cs =>
    match cs with
    | '"' :: rest => (string? (fuel + 1) [] rest).map fun r => (.str r.1, r.2)
    | '[' :: rest =>
      match skipBlank rest with
      | ']' :: rest => some (.array [], rest)
      | rest => items? fuel [] rest
    | '\x7b' :: rest =>
      match skipBlank rest with
      | '\x7d' :: rest => some (.object [], rest)
      | rest => fields? fuel [] rest
    | cs => atom? cs

/-- Reads the items of an array, in front of those read, last first. -/
def items? : Nat → List Json → List Char → Option (Json × List Char)
  | 0, _, _ => none
  | fuel + 1, acc, cs =>
    match value? fuel cs with
    | none => none
    | some (d, rest) =>
      match skipBlank rest with
      | ',' :: rest => items? fuel (d :: acc) (skipBlank rest)
      | ']' :: rest => some (.array (d :: acc).reverse, rest)
      | _ => none

/-- Reads the fields of an object, in front of those read. -/
def fields? : Nat → List (String × Json) → List Char → Option (Json × List Char)
  | 0, _, _ => none
  | fuel + 1, acc, cs =>
    match cs with
    | '"' :: rest =>
      match string? (fuel + 1) [] rest with
      | none => none
      | some (key, rest) =>
        match skipBlank rest with
        | ':' :: rest =>
          match value? fuel (skipBlank rest) with
          | none => none
          | some (d, rest) =>
            let acc := Entries.put key d acc
            match skipBlank rest with
            | ',' :: rest => fields? fuel acc (skipBlank rest)
            | '\x7d' :: rest => some (.object acc, rest)
            | _ => none
        | _ => none
    | _ => none

end

/-- The document a text is. -/
def parse? (s : String) : Option Json :=
  let cs := skipBlank s.toList
  match value? (cs.length + 1) cs with
  | some (d, rest) => if (skipBlank rest).isEmpty then some d else none
  | none => none

end ServiceWire.Json
