import ServiceWire.Value

/-!
# JSON documents

A JSON document as a tree. Integers are unbounded and apart from other numbers; the fields of an
object keep their order.

A section is a part of a document that is an object. Where a section may be left out, anything that
is empty counts as one without fields; a field that is not there is nothing.
-/

namespace ServiceWire

/-- A JSON document. -/
inductive Json where
  | null
  | bool (b : Bool)
  | int (i : Int)
  | float (x : Double)
  | str (s : String)
  | array (items : List Json)
  | object (fields : List (String × Json))

instance : Inhabited Json := ⟨.null⟩

namespace Json

/-- The name of a document's type in messages. -/
def typeName : Json → String
  | null => "NoneType"
  | bool _ => "bool"
  | int _ => "int"
  | float _ => "float"
  | str _ => "str"
  | array _ => "list"
  | object _ => "dict"

/-- Whether a document is the null literal. -/
def isNull : Json → Bool
  | null => true
  | _ => false

/-- Whether a document counts as true: null, false, zero and what is empty do not. -/
def truthy : Json → Bool
  | null => false
  | bool b => b
  | int i => i != 0
  | float x => !x.isZero
  | str s => !s.isEmpty
  | array items => !items.isEmpty
  | object fields => !fields.isEmpty

/-- The value of a field of an object. -/
def get? (d : Json) (key : String) : Option Json :=
  match d with
  | object fields => fields.lookup key
  | _ => none

mutual

/-- A document as a dynamic value. -/
def toValue : Json → Value
  | null => .null
  | bool b => .bool b
  | int i => .int i
  | float x => .float x
  | str s => .str s
  | array items => .list (toValues items)
  | object fields => .dict (toEntries fields)

/-- Documents as dynamic values. -/
def toValues : List Json → List Value
  | [] => []
  | d :: rest => toValue d :: toValues rest

/-- Fields as the entries of a mapping. -/
def toEntries : List (String × Json) → List (Value × Value)
  | [] => []
  | (k, d) :: rest => (.str k, toValue d) :: toEntries rest

end

mutual

/-- Whether two documents are equal: numbers by what they count, objects whatever the order of
their fields. -/
def same : Json → Json → Bool
  | null, null => true
  | str s, str t => s == t
  | array items, array others => sameAll items others
  | object fields, object others => fields.length == others.length && sameFields others fields
  | d, e =>
    match d.toValue.numeric?, e.toValue.numeric? with
    | some x, some y => x.same y
    | _, _ => false

/-- Whether two sequences of documents are equal. -/
def sameAll : List Json → List Json → Bool
  | [], [] => true
  | d :: rest, e :: others => same d e && sameAll rest others
  | _, _ => false

/-- Whether all fields are among others. -/
def sameFields (others : List (String × Json)) : List (String × Json) → Bool
  | [] => true
  | (k, d) :: rest =>
    (match others.lookup k with
      | some e => same d e
      | none => false) && sameFields others rest

end

/-- The plain text of a document inside a message. -/
def text (d : Json) : String := d.toValue.text

/-! ### Sections -/

/-- The fields of a section, which may be left out or empty. -/
def sectionFields (d? : Option Json) : Except Failure (List (String × Json)) :=
  match d?.filter truthy with
  | none => .ok []
  | some (object fields) => .ok fields
  | some _ => .error (.plain .attribute)

/-- The value of a field; one that is not there is nothing. -/
def fieldValue (fields : List (String × Json)) (key : String) : Value :=
  ((fields.lookup key).getD .null).toValue

end Json

end ServiceWire
