import ServiceWire.Value

/-!
# Literals

Values as source text. A mapping or a sequence that is not empty takes a line for each of its
entries, indented by four more spaces than its closing bracket and ended by a comma; every other
value is written in its quoted form.
-/

namespace ServiceWire.Value

/-- Spaces, none for a number below zero. -/
def spaces (n : Int) : String := String.ofList (List.replicate n.toNat ' ')

mutual

/-- A value as source text, within lines that are indented. -/
def literal (indent : Int) : Value → String
  | dict [] => "\x7b\x7d"
  | dict entries =>
    "\x7b\n" ++ literalEntries (indent + 4) entries ++ spaces indent ++ "\x7d"
  | list [] | tuple [] => "[]"
  | list items | tuple items =>
    "[\n" ++ literalItems (indent + 4) items ++ spaces indent ++ "]"
  | v => v.quoted

/-- The lines of the entries of a mapping. -/
def literalEntries (indent : Int) : List (Value × Value) → String
  | [] => ""
  | (k, v) :: rest =>
    spaces indent ++ k.quoted ++ ": " ++ literal indent v ++ ",\n" ++ literalEntries indent rest

/-- The lines of the items of a sequence. -/
def literalItems (indent : Int) : List Value → String
  | [] => ""
  | v :: rest => spaces indent ++ literal indent v ++ ",\n" ++ literalItems indent rest

end

end ServiceWire.Value
