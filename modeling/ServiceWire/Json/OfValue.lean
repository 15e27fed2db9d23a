import ServiceWire.Json.Document

/-!
# Documents of values

Any value as a document, for texts that people read: what JSON has no form for is shown by its
plain text. The keys of a mapping must be texts, numbers, truth values or nothing, and are written
as texts; two keys may then be written alike.
-/

namespace ServiceWire.Json

/-- The name of a field, for a key of a mapping. -/
def fieldName : Value → Except Failure String
  | .str s => .ok s
  | .int i => .ok (toString i)
  | .float .nan => .ok "NaN"
  | .float (.infinite negative) => .ok (if negative then "-Infinity" else "Infinity")
  | .float x => .ok x.render
  | .bool b => .ok (if b then "true" else "false")
  | .null => .ok "null"
  | _ => .error (.plain .type)

mutual

/-- The document of a value. -/
def ofValue : Value → Except Failure Json
  | .null => .ok .null
  | .bool b => .ok (.bool b)
  | .int i => .ok (.int i)
  | .float x => .ok (.float x)
  | .str s => .ok (.str s)
  | .list items | .tuple items => do
    let ds ← ofValues items
    return .array ds
  | .dict entries => do
    let fields ← ofEntries entries
    return .object fields
  | v => .ok (.str v.text)

/-- The documents of a sequence of values. -/
def ofValues : List Value → Except Failure (List Json)
  | [] => .ok []
  | v :: rest => do
    let d ← ofValue v
    let ds ← ofValues rest
    return d :: ds

/-- The fields of a mapping. -/
def ofEntries : List (Value × Value) → Except Failure (List (String × Json))
  | [] => .ok []
  | (k, v) :: rest => do
    let name ← fieldName k
    let d ← ofValue v
    let fields ← ofEntries rest
    return (name, d) :: fields

end

end ServiceWire.Json
