import ServiceWire.Failure
import ServiceWire.Json.Document
import ServiceWire.Number.Reading
import ServiceWire.Text.Cut

/-!
# The types of YAML nodes

A node has the type that its tag names. A plain scalar without a tag has the type that its text
looks like: nothing, a truth value, a number, or else text. Integers may be binary, octal,
hexadecimal, decimal or sexagesimal; numbers may have underscores between their digits. Dates are
texts here.
-/

namespace ServiceWire.Yaml

/-- The type of a node. -/
inductive NodeType
  | null
  | bool
  | int
  | float
  | text
  | sequence
  | mapping
  /-- The key of entries to be merged into a mapping. -/
  | merge
  /-- An equals sign, which has a meaning only as a key. -/
  | default
  | unknown
deriving DecidableEq, Repr

/-- The names of the types that a tag may name. -/
def NodeType.names : List (String × NodeType) :=
  [("null", .null), ("bool", .bool), ("int", .int), ("float", .float), ("str", .text),
    ("timestamp", .text), ("seq", .sequence), ("map", .mapping), ("merge", .merge),
    ("value", .default)]

/-- What the full tags of these types begin with. -/
def standardTags : String := "tag:yaml.org,2002:"

/-- The type that a full tag names. -/
def NodeType.ofTag (uri : String) : NodeType :=
  match Text.dropStart? uri.toList standardTags.toList with
  | some name => (names.lookup (String.ofList name)).getD .unknown
  | none => .unknown

/-- The ways to write null. -/
def nullWords : List String := ["", "~", "null", "Null", "NULL"]

/-- The ways to write true. -/
def trueWords : List String := ["yes", "Yes", "YES", "true", "True", "TRUE", "on", "On", "ON"]

/-- The ways to write false. -/
def falseWords : List String := ["no", "No", "NO", "false", "False", "FALSE", "off", "Off", "OFF"]

/-! ### The forms of numbers -/

/-- Whether all characters, of which there are some, are digits or underscores. -/
def areDigits (isDigit : Char → Bool) (cs : List Char) : Bool :=
  !cs.isEmpty && cs.all fun c => isDigit c || c == '_'

/-- Whether a text is a decimal digit and perhaps more of them, with underscores. -/
def isWhole : List Char → Bool
  | [] => false
  | c :: rest => c.isDigit && rest.all fun c => c.isDigit || c == '_'

/-- Whether a text is a place of a sexagesimal number after the first: a number below sixty. -/
def isPlace : List Char → Bool
  | [a] => a.isDigit
  | [a, b] => '0' ≤ a && a ≤ '5' && b.isDigit
  | _ => false

/-- Whether a text is a whole number and at least one place after colons. -/
def isSexagesimal (cs : List Char) : Bool :=
  match Text.pieces ':' cs with
  | first :: second :: more => isWhole first && (second :: more).all isPlace
  | _ => false

/-- Whether a text is an integer without its sign. -/
def isNatural (cs : List Char) : Bool :=
  match cs with
  | ['0'] => true
  | '0' :: 'b' :: ds => areDigits (fun c => c == '0' || c == '1') ds
  | '0' :: 'x' :: ds => areDigits (fun c => (Text.hexDigit? c).isSome) ds
  | '0' :: ds => areDigits (fun c => '0' ≤ c && c ≤ '7') ds
  | _ => isWhole cs || isSexagesimal cs

/-- Whether a text is an exponent, which has a sign, or nothing. -/
def isExponent : List Char → Bool
  | [] => true
  | e :: sign :: ds =>
    (e == 'e' || e == 'E') && (sign == '+' || sign == '-') && !ds.isEmpty && ds.all Char.isDigit
  | _ => false

/-- Whether a character may stand in a number after its first digit. -/
def isDigitMark (c : Char) : Bool := c.isDigit || c == '_'

/-- Whether a text is a number with a point, without its sign. Digits stand before the point. -/
def isPointed (cs : List Char) : Bool :=
  match Text.cut? '.' cs with
  | some (whole, rest) =>
    let part := rest.takeWhile isDigitMark
    let exponent := rest.drop part.length
    (isWhole whole && isExponent exponent) || (isSexagesimal whole && exponent.isEmpty)
  | none => false

/-- Whether a text is a number that begins with its point. -/
def isFraction : List Char → Bool
  | '.' :: rest =>
    let part := rest.takeWhile isDigitMark
    isWhole part && isExponent (rest.drop part.length)
  | _ => false

/-- The ways to write infinity, without its sign. -/
def infinityWords : List String := [".inf", ".Inf", ".INF"]

/-- The ways to write that something is not a number. -/
def nanWords : List String := [".nan", ".NaN", ".NAN"]

/-- The type that the text of a plain scalar looks like. -/
def NodeType.ofText (s : String) : NodeType :=
  let (_, body) := Number.signed s.toList
  if nullWords.contains s then .null
  else if trueWords.contains s || falseWords.contains s then .bool
  else if isPointed body || isFraction s.toList || infinityWords.contains (String.ofList body) ||
      nanWords.contains s then .float
  else if isNatural body then .int
  else if s == "<<" then .merge
  else if s == "=" then .default
  else .text

/-! ### The values of scalars -/

/-- The number that digits of a base write. -/
def ofDigits? (base : Nat) (cs : List Char) : Option Nat :=
  if cs.isEmpty then none
  else (cs.mapM fun c => (Text.hexDigit? c).filter (· < base)).map fun ds =>
    ds.foldl (fun n d => n * base + d) 0

/-- The number that places between colons write. -/
def sexagesimal? (cs : List Char) : Option Nat :=
  ((Text.pieces ':' cs).mapM (ofDigits? 10)).map fun ds => ds.foldl (fun n d => n * 60 + d) 0

/-- The integer that a text without sign and underscores writes. -/
def natural? (cs : List Char) : Option Nat :=
  match cs with
  | ['0'] => some 0
  | '0' :: 'b' :: ds => ofDigits? 2 ds
  | '0' :: 'x' :: ds => ofDigits? 16 ds
  | '0' :: _ => ofDigits? 8 cs
  | _ => sexagesimal? cs

/-- The integer that a text writes. -/
def int? (s : String) : Option Int :=
  let (negative, body) := Number.signed (s.toList.filter (· != '_'))
  (natural? body).map fun n => if negative then -(n : Int) else n

/-- The decimal that a text without sign and underscores writes; its last place may have a
fraction. -/
def decimal? (cs : List Char) : Option Decimal :=
  match (Text.pieces ':' cs).reverse with
  | [] => none
  | last :: places => do
    let d ← Number.decimal? last
    if places.isEmpty then return d
    else
      let whole ← sexagesimal? (cs.take (cs.length - last.length - 1))
      if d.exponent ≤ 0 then
        return ⟨whole * 60 * Nat.pow 10 d.exponent.natAbs + d.digits, d.exponent⟩
      else none

/-- The number that a text writes. -/
def double? (s : String) : Option Double :=
  let (negative, body) := Number.signed ((s.toList.filter (· != '_')).map Char.toLower)
  if body == ".inf".toList then some (.infinite negative)
  else if body == ".nan".toList then some .nan
  else (decimal? body).map (·.toDouble negative)

/-- What a scalar stands for. Text that does not fit the type that a tag names is a wrong value. -/
def NodeType.scalar (kind : NodeType) (s : String) : Except FailureKind Json :=
  match kind with
  | .null => .ok .null
  | .bool =>
    if trueWords.contains s.toLower then .ok (.bool true)
    else if falseWords.contains s.toLower then .ok (.bool false)
    else .error .key
  | .int => (int? s).elim (.error .value) fun i => .ok (.int i)
  | .float => (double? s).elim (.error .value) fun x => .ok (.float x)
  | .text => .ok (.str s)
  | .sequence | .mapping | .merge | .default | .unknown => .error .malformedYaml

end ServiceWire.Yaml
