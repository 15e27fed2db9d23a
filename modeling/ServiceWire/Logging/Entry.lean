/-!
# Log entries

What a program tells about its work: how serious it is, which part of the program tells it and what
kind of work it is about.
-/

namespace ServiceWire

/-- The levels of log entries. -/
inductive LogLevel
  | debug
  | info
  | warning
  | error
  | critical
deriving DecidableEq, Repr

namespace LogLevel

/-- The name of a log level. -/
def label : LogLevel → String
  | debug => "DEBUG"
  | info => "INFO"
  | warning => "WARNING"
  | error => "ERROR"
  | critical => "CRITICAL"

/-- All log levels, from the lowest to the highest. -/
def all : List LogLevel := [debug, info, warning, error, critical]

/-- The log level of a name. -/
def ofLabel? (s : String) : Option LogLevel := all.find? fun l => l.label == s

/-- The number of a log level. -/
def number : LogLevel → Nat
  | debug => 10
  | info => 20
  | warning => 30
  | error => 40
  | critical => 50

/-- Whether a level reaches another. -/
def reaches (l threshold : LogLevel) : Bool := threshold.number ≤ l.number

end LogLevel

/-- The kinds of work that log entries are about. -/
inductive LogCategory
  | system
  | marshalling
  | unmarshalling
  | eventStream
  | endpoints
  | codegen
  | performance
deriving DecidableEq, Repr

namespace LogCategory

/-- The name of a category. -/
def label : LogCategory → String
  | system => "system"
  | marshalling => "marshalling"
  | unmarshalling => "unmarshalling"
  | eventStream => "event_stream"
  | endpoints => "endpoints"
  | codegen => "codegen"
  | performance => "performance"

/-- All categories. -/
def all : List LogCategory :=
  [system, marshalling, unmarshalling, eventStream, endpoints, codegen, performance]

/-- The category of a name. -/
def ofLabel? (s : String) : Option LogCategory := all.find? fun c => c.label == s

end LogCategory

/-- A log entry. -/
structure LogEntry where
  level : LogLevel
  category : LogCategory := .system
  component : String
  message : String
deriving DecidableEq, Repr

end ServiceWire
