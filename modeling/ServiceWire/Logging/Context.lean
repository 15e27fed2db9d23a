import ServiceWire.Failure
import ServiceWire.Value

/-!
# Log contexts

What a program is working on while it logs: the request, the component, the operation and so on,
with further fields of its own. A context is reported without the fields that say nothing.
-/

namespace ServiceWire

namespace Value

mutual

/-- Whether a value can be copied. A sequence that can be gone through once cannot, nor can a
window on a byte string. -/
def isCopyable : Value → Bool
  | iter _ | bytes .view _ => false
  | list items | tuple items => areCopyable items
  | dict entries => entriesCopyable entries
  | object attributes => fieldsCopyable attributes
  | typed _ members => fieldsCopyable members
  | null | bool _ | int _ | float _ | str _ | bytes .. | stream _ | datetime _ => true

/-- Whether all values of a sequence can be copied. -/
def areCopyable : List Value → Bool
  | [] => true
  | v :: rest => isCopyable v && areCopyable rest

/-- Whether all keys and values of a mapping can be copied. -/
def entriesCopyable : List (Value × Value) → Bool
  | [] => true
  | (k, v) :: rest => isCopyable k && isCopyable v && entriesCopyable rest

/-- Whether the values of all fields can be copied. -/
def fieldsCopyable : List (String × Value) → Bool
  | [] => true
  | (_, v) :: rest => isCopyable v && fieldsCopyable rest

end

/-- Whether a value is a mapping without entries. -/
def isEmptyMapping : Value → Bool
  | dict [] => true
  | _ => false

end Value

/-- What a program is working on. -/
structure LogContext where
  /-- The values of the fields that have a name of their own, and the further fields. -/
  fields : List (String × Value) := []

namespace LogContext

/-- The names of the fields, in the order of reports. -/
def names : List String :=
  ["request_id", "component", "operation", "protocol", "service", "additional_fields"]

/-- The context that named arguments describe. -/
def ofArguments (arguments : List (String × Value)) : Except Failure LogContext :=
  if arguments.all fun p => names.contains p.1 then .ok ⟨arguments⟩ else .error (.plain .type)

/-- The context that a mapping of arguments describes. -/
def ofValue : Value → Except Failure LogContext
  | .dict entries => do
    let arguments ← entries.mapM fun p => match p.1 with
      | .str name => .ok (name, p.2)
      | _ => .error (.plain .type)
    ofArguments arguments
  | _ => .error (.plain .type)

/-- The context as a report. -/
def report (c : LogContext) : Except Failure Value :=
  let fields := names.filterMap fun name => (c.fields.lookup name).map fun v => (name, v)
  if fields.all fun p => p.2.isCopyable then
    .ok (.ofFields (fields.filter fun p => !p.2.isNull && !p.2.isEmptyMapping))
  else .error (.plain .type)

end LogContext

end ServiceWire
