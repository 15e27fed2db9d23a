import ServiceWire.Logging.Event
import ServiceWire.Logging.Placeholder

/-!
# Log records

What is handed to a log: a message with its arguments, a numbered level, and what it belongs to. A
record becomes an event when its message is written out; what a record does not say gets the value
that events without it have.
-/

namespace ServiceWire

/-- A log record. -/
structure LogRecord where
  /-- The name of the log. -/
  name : Value
  level : Int
  message : Value
  arguments : List Value := []
  /-- The seconds since the epoch. -/
  created : Value := .int 0
  category? : Option LogCategory := none
  component? : Option Value := none
  operation : Value := .null
  context? : Option LogContext := none
  error? : Option String := none
  measurements : Value := .null
  metadata : Value := .null

namespace LogRecord

/-- The record with details that have names. A category of no known name is left out, and so are
details of other names. -/
def withDetails (r : LogRecord) (details : List (String × Value)) : Except Failure LogRecord := do
  let context? ← LogEvent.contextOf ((details.lookup "context").getD .null)
  return { r with
    category? := (details.lookup "category").bind fun v => LogCategory.ofLabel? v.text
    component? := details.lookup "component"
    operation := (details.lookup "operation").getD .null
    context? := context?
    measurements := (details.lookup "performance_metrics").getD .null
    metadata := (details.lookup "metadata").getD .null }

/-- The level of an event whose record has a level of this number: information, if the number has
no name. -/
def eventLevel (n : Int) : EventLevel :=
  .entry ((LogLevel.all.find? fun l => (l.number : Int) == n).getD .info)

/-- The event of a record, with or without its context. -/
def event (r : LogRecord) (withContext : Bool) : Except Failure LogEvent := do
  let text ← messageText r.message r.arguments
  return {
    timestamp := r.created
    level := eventLevel r.level
    category := r.category?.getD .system
    message := .str text
    component := r.component?.getD r.name
    operation := r.operation
    context? := if withContext then r.context? else none
    error? := r.error?
    measurements := r.measurements
    metadata := r.metadata.orElse (.dict []) }

end LogRecord

end ServiceWire
