import ServiceWire.Entries
import ServiceWire.Json.OfValue
import ServiceWire.Json.Writer
import ServiceWire.Logging.Context
import ServiceWire.Logging.Entry

/-!
# Log events

A log event says what happened and when, how serious it is and what it belongs to. It is written
as one line of JSON, with the parts that there always are first.
-/

namespace ServiceWire

/-- The levels of log events: those of log entries, and two more. -/
inductive EventLevel
  | trace
  | entry (l : LogLevel)
  | performance
deriving DecidableEq, Repr

namespace EventLevel

/-- The name of a level. -/
def label : EventLevel → String
  | trace => "TRACE"
  | entry l => l.label
  | performance => "PERFORMANCE"

/-- The level of a name. -/
def ofLabel? (s : String) : Option EventLevel :=
  ([trace, performance] ++ LogLevel.all.map entry).find? fun l => l.label == s

end EventLevel

/-- A log event. -/
structure LogEvent where
  /-- The seconds since the epoch. -/
  timestamp : Value
  level : EventLevel
  category : LogCategory
  message : Value
  component : Value
  operation : Value := .null
  context? : Option LogContext := none
  /-- The text of the error that the event tells about. -/
  error? : Option String := none
  measurements : Value := .null
  metadata : Value := .dict []

namespace LogEvent

/-- A choice by its name, which must be one of the known ones. -/
def chosen {α : Type} (ofLabel? : String → Option α) : Value → Except Failure α
  | .str s => ((ofLabel? s).map .ok).getD (.error (.plain .value))
  | _ => .error (.plain .value)

/-- A context that may be left out. -/
def contextOf (v : Value) : Except Failure (Option LogContext) :=
  if v.isNull then .ok none else (LogContext.ofValue v).map some

/-- The text of an error that may be left out. -/
def errorOf (v : Value) : Option String := if v.isNull then none else some v.text

/-- The names of what an event must have. -/
def required : List String := ["timestamp", "level", "category", "message", "component"]

/-- The names of what an event may have. -/
def optional : List String :=
  ["operation", "context", "exception", "performance_metrics", "metadata"]

/-- The event that named arguments describe. -/
def ofArguments (arguments : List (String × Value)) : Except Failure LogEvent := do
  let argument := fun name => (arguments.lookup name).getD .null
  let level ← chosen EventLevel.ofLabel? (argument "level")
  let category ← chosen LogCategory.ofLabel? (argument "category")
  let context? ← contextOf (argument "context")
  if required.all (Entries.has arguments) &&
      arguments.all fun p => (required ++ optional).contains p.1 then
    return {
      timestamp := argument "timestamp"
      level := level
      category := category
      message := argument "message"
      component := argument "component"
      operation := argument "operation"
      context? := context?
      error? := errorOf (argument "exception")
      measurements := argument "performance_metrics"
      metadata := (arguments.lookup "metadata").getD (.dict []) }
  else throw (.plain .type)

/-- The moment of an event. -/
def moment (e : LogEvent) : Except Failure DateTime :=
  match e.timestamp with
  | .bool b => DateTime.ofEpochInt (if b then 1 else 0)
  | .int i => DateTime.ofEpochInt i
  | .float x => DateTime.ofEpochDouble x
  | _ => .error (.plain .type)

/-- An error as a report, with the one line that a trace of it has. -/
def errorReport (text : String) : Value :=
  let name := FailureKind.value.label
  let line := if text.isEmpty then name else s!"{name}: {text}"
  .ofFields
    [("type", .str name), ("message", .str text), ("traceback", .list [.str (line ++ "\n")])]

/-- The moment of an event in full, with the offset of its clock. -/
def isoText (t : DateTime) : String :=
  Value.momentText "T" { t with offset := some 0 }

/-- An event as a report. -/
def report (e : LogEvent) : Except Failure (List (String × Value)) := do
  let t ← e.moment
  let context ← e.context?.mapM LogContext.report
  return [("timestamp", e.timestamp), ("iso_timestamp", .str (isoText t)),
      ("level", .str e.level.label), ("category", .str e.category.label), ("message", e.message),
      ("component", e.component), ("operation", e.operation), ("metadata", e.metadata)] ++
    (context.map fun v => ("context", v)).toList ++
    (e.error?.map fun s => ("exception", errorReport s)).toList ++
    if e.measurements.truthy then [("performance_metrics", e.measurements)] else []

/-- An event as a document. -/
def document (e : LogEvent) : Except Failure Json := do
  let fields ← e.report
  Json.ofValue (.ofFields fields)

/-- The line of an event. -/
def line (e : LogEvent) : Except Failure String := e.document.map Json.renderLoose

end LogEvent

end ServiceWire
