import ServiceWire.Entries
import ServiceWire.Number.Numeric
import ServiceWire.Number.Shortest
import ServiceWire.Time.DateTime

/-!
# Dynamic values

Requests and responses are values whose type is found only when they are looked at: a shape says
what is expected, a value is what is there. Mappings keep the order of their entries and may have
keys of any type; an object has named attributes but is no mapping.
-/

namespace ServiceWire

/-- The forms of a byte string in memory. -/
inductive BytesForm
  /-- A constant byte string. -/
  | fixed
  /-- A byte string that may be changed. -/
  | mutable
  /-- A window on another byte string. -/
  | view
deriving DecidableEq, Repr

/-- A dynamic value. -/
inductive Value where
  | null
  | bool (b : Bool)
  | int (i : Int)
  | float (x : Double)
  | str (s : String)
  | bytes (form : BytesForm) (data : Bytes)
  /-- A readable stream with these bytes ahead. -/
  | stream (ahead : Bytes)
  | datetime (t : DateTime)
  | list (items : List Value)
  | tuple (items : List Value)
  /-- A sequence that can be gone through once. -/
  | iter (items : List Value)
  | dict (entries : List (Value × Value))
  /-- An object with attributes, which is no mapping. -/
  | object (attributes : List (String × Value))
  /-- The structure that a shape's own constructor made. -/
  | typed (shape : String) (members : List (String × Value))

instance : Inhabited Value := ⟨.null⟩

namespace Value

/-- A constant byte string. -/
abbrev ofBytes (data : Bytes) : Value := .bytes .fixed data

/-- A mapping with text keys. -/
def ofFields (fields : List (String × Value)) : Value :=
  .dict (fields.map fun p => (.str p.1, p.2))

/-- A sequence of pairs of a name and a value. -/
def ofPairs (pairs : List (String × Value)) : Value :=
  .list (pairs.map fun p => .list [.str p.1, p.2])

/-- A sequence of texts. -/
def ofTexts (texts : List String) : Value := .list (texts.map .str)

/-- The name of a value's type in messages. -/
def typeName : Value → String
  | null => "NoneType"
  | bool _ => "bool"
  | int _ => "int"
  | float _ => "float"
  | str _ => "str"
  | bytes .fixed _ => "bytes"
  | bytes .mutable _ => "bytearray"
  | bytes .view _ => "memoryview"
  | stream _ => "BytesIO"
  | datetime _ => "datetime"
  | list _ => "list"
  | tuple _ => "tuple"
  | iter _ => "generator"
  | dict _ => "dict"
  | object _ => "SimpleNamespace"
  | typed shape _ => shape

/-- Whether a value is nothing. -/
def isNull : Value → Bool
  | null => true
  | _ => false

/-- Whether a value counts as true: nothing, zero and what is empty do not. -/
def truthy : Value → Bool
  | null => false
  | bool b => b
  | int i => i != 0
  | float x => !x.isZero
  | str s => !s.isEmpty
  | bytes _ data => !data.isEmpty
  | list items | tuple items => !items.isEmpty
  | dict entries => !entries.isEmpty
  | stream _ | datetime _ | iter _ | object _ | typed .. => true

/-- A value, or another in place of an empty one. -/
def orElse (v other : Value) : Value := if v.truthy then v else other

/-- A value as a text that is to be taken apart. Byte strings can be taken apart too, but not by
characters. -/
def asText : Value → Except Failure String
  | str s => .ok s
  | bytes .fixed _ | bytes .mutable _ => .error (.plain .type)
  | _ => .error (.plain .attribute)

mutual

/-- Whether a value can be the key of a mapping: it never changes. -/
def isKey : Value → Bool
  | list _ | dict _ | object _ | typed .. | bytes .mutable _ => false
  | tuple items => areKeys items
  | null | bool _ | int _ | float _ | str _ | bytes .fixed _ | bytes .view _ | stream _
  | datetime _ | iter _ => true

/-- Whether all values of a sequence can be keys. -/
def areKeys : List Value → Bool
  | [] => true
  | v :: rest => isKey v && areKeys rest

end

/-- The number that a value is, if it is one; a truth value is one or zero. -/
def numeric? : Value → Option Numeric
  | bool b => some (.int (if b then 1 else 0))
  | int i => some (.int i)
  | float x => some (.real x)
  | _ => none

/-- A number as a value. -/
def ofNumeric : Numeric → Value
  | .int i => .int i
  | .real x => .float x

/-- The value of a text key in a mapping's entries. -/
def lookupText (key : String) : List (Value × Value) → Option Value
  | [] => none
  | (.str k, v) :: rest => if k == key then some v else lookupText key rest
  | _ :: rest => lookupText key rest

/-- The value under a text key: an entry of a mapping, an attribute of an object or a member of a
typed structure. Other values have none. -/
def get? (v : Value) (key : String) : Option Value :=
  match v with
  | dict entries => lookupText key entries
  | object attributes => attributes.lookup key
  | typed _ members => members.lookup key
  | _ => none

/-- The lines of a byte string, each with its line feed. -/
def linesFrom (line : Bytes) : Bytes → List Bytes
  | [] => if line.isEmpty then [] else [line.reverse]
  | b :: rest =>
    if b == 0x0A then (b :: line).reverse :: linesFrom [] rest else linesFrom (b :: line) rest

/-- What a value yields when it is gone through: the items of a sequence, the characters of a
text, the numbers of a byte string, the lines of a stream, the keys of a mapping. -/
def items? : Value → Option (List Value)
  | list items | tuple items | iter items => some items
  | str s => some (s.toList.map fun c => .str (String.singleton c))
  | bytes _ data => some (data.map fun b => .int b.toNat)
  | stream ahead => some ((linesFrom [] ahead).map .ofBytes)
  | dict entries => some (entries.map Prod.fst)
  | null | bool _ | int _ | float _ | datetime _ | object _ | typed .. => none

/-- Joins texts with a comma and a space. -/
private def commaJoin : List String → String
  | [] => ""
  | [s] => s
  | s :: rest => s ++ ", " ++ commaJoin rest

/-- The offset of a clock in a moment's long text: sign, hours, minutes, and seconds as needed. -/
private def offsetText (offset : Int) : String :=
  let size := offset.natAbs
  let seconds := size / 1000000
  let head := s!"{Text.padded 2 (seconds / 3600)}:{Text.padded 2 (seconds / 60 % 60)}"
  let tail :=
    if seconds % 60 = 0 ∧ size % 1000000 = 0 then ""
    else if size % 1000000 = 0 then ":" ++ Text.padded 2 (seconds % 60)
    else ":" ++ Text.padded 2 (seconds % 60) ++ "." ++ Text.padded 6 (size % 1000000)
  (if offset < 0 then "-" else "+") ++ head ++ tail

/-- The plain text of a moment. -/
def momentText (separator : String) (t : DateTime) : String :=
  let f := t.fields
  let part := if f.micro = 0 then "" else "." ++ Text.padded 6 f.micro
  f.dateText ++ separator ++ f.timeText ++ part ++ (t.offset.map offsetText).getD ""

/-- The offset of a clock in a moment's quoted form. -/
private def offsetForm (offset : Int) : String :=
  if offset = 0 then "datetime.timezone.utc"
  else
    let days := offset / 86400000000
    let rest := offset % 86400000000
    let fields := (if days = 0 then [] else [s!"days={days}"]) ++
      (if rest / 1000000 = 0 then [] else [s!"seconds={rest / 1000000}"]) ++
      (if rest % 1000000 = 0 then [] else [s!"microseconds={rest % 1000000}"])
    s!"datetime.timezone(datetime.timedelta({commaJoin fields}))"

/-- The quoted form of a moment. -/
def momentForm (t : DateTime) : String :=
  let f := t.fields
  let tail := if f.micro = 0 then if f.second = 0 then [] else [f.second] else [f.second, f.micro]
  let numbers := [f.date.year, f.date.month, f.date.day, f.hour, f.minute] ++ tail
  let zone := (t.offset.map fun o => s!", tzinfo={offsetForm o}").getD ""
  s!"datetime.datetime({commaJoin (numbers.map Nat.repr)}{zone})"

mutual

/-- The quoted form of a value. -/
def quoted : Value → String
  | null => "None"
  | bool b => if b then "True" else "False"
  | int i => toString i
  | float x => x.render
  | str s => Quoted.text s
  | bytes .fixed data => Quoted.bytes data
  | bytes .mutable data => Quoted.mutableBytes data
  | bytes .view _ => "<memory>"
  | stream _ => "<_io.BytesIO object>"
  | datetime t => momentForm t
  | list items => "[" ++ commaJoin (quotedAll items) ++ "]"
  | tuple items =>
    match quotedAll items with
    | [one] => "(" ++ one ++ ",)"
    | texts => "(" ++ commaJoin texts ++ ")"
  | iter _ => "<generator object>"
  | dict entries => "\x7b" ++ commaJoin (quotedEntries entries) ++ "\x7d"
  | object attributes => "namespace(" ++ commaJoin (quotedFields attributes) ++ ")"
  | typed shape members => shape ++ "(" ++ commaJoin (quotedFields members) ++ ")"

/-- The quoted forms of a sequence of values. -/
def quotedAll : List Value → List String
  | [] => []
  | v :: rest => quoted v :: quotedAll rest

/-- The quoted forms of the entries of a mapping. -/
def quotedEntries : List (Value × Value) → List String
  | [] => []
  | (k, v) :: rest => (quoted k ++ ": " ++ quoted v) :: quotedEntries rest

/-- The quoted forms of named fields. -/
def quotedFields : List (String × Value) → List String
  | [] => []
  | (k, v) :: rest => (k ++ "=" ++ quoted v) :: quotedFields rest

end

/-- The plain text of a value: a text is its own, a moment is written in full and every other
value has its quoted form. -/
def text : Value → String
  | str s => s
  | datetime t => momentText " " t
  | v => quoted v

end Value

end ServiceWire
