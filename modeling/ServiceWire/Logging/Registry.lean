import ServiceWire.Entries
import ServiceWire.Logging.Record
import ServiceWire.Text.Cut
import ServiceWire.Text.LetterCase
import ServiceWire.Value.Entries

/-!
# Loggers

Loggers by name, made when they are first asked for. A logger has settings of its own, which begin
as those of the registry, and a stack of contexts. Its channel decides which records are written: a
channel without a level has that of the nearest channel above it, where `a` is above `a.b`, and a
record is written by the handlers of its channel and of all channels above.

A channel outlives the failure to set it up; then it has its handlers, but no level.
-/

namespace ServiceWire

/-- Where the records of a logger go. -/
structure LogChannel where
  /-- The number of the level that records must reach; zero means none of its own. -/
  level : Nat := 0
  handlers : Nat := 0

/-- A logger. -/
structure Logger where
  settings : List (Value × Value)
  /-- The contexts, the innermost first. -/
  contexts : List LogContext := []

namespace LogChannel

/-- The numbers of the names of levels. -/
def levels : List (String × Nat) :=
  [("CRITICAL", 50), ("FATAL", 50), ("ERROR", 40), ("WARNING", 30), ("WARN", 30), ("INFO", 20),
    ("DEBUG", 10), ("NOTSET", 0)]

/-- The level that a setting names, in any case. -/
def levelOf (v : Value) : Except Failure Nat :=
  match Text.upper v.text with
  | "BASIC_FORMAT" => .error (.plain .value)
  | name => ((levels.lookup name).map .ok).getD (.error (.plain .attribute))

/-- The number of handlers that settings ask for: one for the console, one for a file. -/
def handlersOf (settings : List (Value × Value)) : Nat :=
  let console := (Value.lookupText "console" settings).getD (.bool true)
  let file := (Value.lookupText "log_file" settings).getD .null
  console.truthy.toNat + file.truthy.toNat

/-- Sets up a channel, unless it has handlers. -/
def setUp (c : LogChannel) (settings : List (Value × Value)) : Except Failure Unit × LogChannel :=
  if c.handlers ≠ 0 then (.ok (), c)
  else
    let c := { c with handlers := handlersOf settings }
    match levelOf ((Value.lookupText "log_level" settings).getD (.str "INFO")) with
    | .ok n => (.ok (), { c with level := n })
    | .error f => (.error f, c)

end LogChannel

/-- The loggers of a program. -/
structure LoggerRegistry where
  /-- The settings that new loggers begin with. -/
  defaults : List (Value × Value) := [(.str "log_level", .str "INFO"), (.str "log_file", .null)]
  loggers : List (String × Logger) := []
  channels : List (String × LogChannel) := []

namespace LoggerRegistry

/-- What changes the registry and may fail; a change made before a failure stays made. -/
abbrev Change : Type → Type := ExceptT Failure (StateM LoggerRegistry)

/-- A result as a change of nothing. -/
def ofResult {α : Type} (x : Except Failure α) : Change α := ExceptT.mk (pure x)

/-- The channel of a name. -/
def channel (r : LoggerRegistry) (name : String) : LogChannel :=
  (r.channels.lookup name).getD {}

/-- Sets up the channel of a name. -/
def setUp (name : String) (settings : List (Value × Value)) : Change Unit := do
  let r ← get
  let (result, c) := (r.channel name).setUp settings
  set { r with channels := Entries.put name c r.channels }
  ofResult result

/-- The logger of a name. A new one has the default settings, with the given ones put into them. -/
def logger (name : String) (settings : Value) : Change Logger := do
  let r ← get
  match r.loggers.lookup name with
  | some l => return l
  | none =>
    let more ← ofResult (if settings.truthy then settings.entriesOf else .ok [])
    let l : Logger := { settings := Entries.putAll r.defaults more }
    setUp name l.settings
    modify fun r => { r with loggers := Entries.put name l r.loggers }
    return l

/-- Puts settings into those of all loggers, and of new ones, and sets up the channels that have no
handlers yet. -/
def configure (settings : Value) : Change Unit := do
  let more ← ofResult settings.entriesOf
  modify fun r => { r with defaults := Entries.putAll r.defaults more }
  for (name, l) in (← get).loggers do
    let l := { l with settings := Entries.putAll l.settings more }
    modify fun r => { r with loggers := Entries.put name l r.loggers }
    setUp name l.settings

/-- Changes the contexts of a logger. -/
def setContexts (name : String) (contexts : List LogContext) : Change Unit :=
  modify fun r =>
    { r with loggers := r.loggers.map fun p =>
        if p.1 == name then (p.1, { p.2 with contexts := contexts }) else p }

/-- Puts a context on top of those of a logger. -/
def push (name : String) (c : LogContext) : Change Unit := do
  let l ← logger name .null
  setContexts name (c :: l.contexts)

/-- Takes the innermost context of a logger. -/
def pop (name : String) : Change (Option LogContext) := do
  let l ← logger name .null
  setContexts name l.contexts.tail
  return l.contexts.head?

/-- A name and the names above it, the nearest first. -/
def lineage (name : String) : List String :=
  let parts := (Text.pieces '.' name.toList).map String.ofList
  ((List.range parts.length).map fun n => Text.join "." (parts.take (n + 1))).reverse

/-- The number of the level that records of a name must reach: a warning, unless a channel has a
level. -/
def effectiveLevel (r : LoggerRegistry) (name : String) : Nat :=
  (((lineage name).map fun n => (r.channel n).level).find? (· ≠ 0)).getD LogLevel.warning.number

/-- The number of handlers that write the records of a name. -/
def writers (r : LoggerRegistry) (name : String) : Nat :=
  (lineage name).foldl (fun count n => count + (r.channel n).handlers) 0

/-- The documents that are written for a record of a logger, one for each handler. A record without
a context has the innermost one of the logger; one that cannot be written is left out. -/
def emit (name : String) (record : LogRecord) : Change (List Json) := do
  let l ← logger name .null
  let r ← get
  if record.level < r.effectiveLevel name then return []
  let record := { record with context? := record.context? <|> l.contexts.head? }
  match record.event true >>= LogEvent.document with
  | .ok d => return List.replicate (r.writers name) d
  | .error _ => return []

/-- The names of the options of a message. -/
def options : List String := ["category", "operation", "context", "metadata", "exception"]

/-- Logs a message with options for a logger, and yields what is written. -/
def log (name : String) (component : String) (level : LogLevel) (message : Value)
    (arguments : List (String × Value)) : Change (List Json) := do
  let record : LogRecord :=
    { name := .str component
      level := level.number
      message := message
      error? := LogEvent.errorOf ((arguments.lookup "exception").getD .null) }
  let record ← ofResult (record.withDetails arguments)
  if arguments.all fun p => options.contains p.1 then emit name record
  else ofResult (.error (.plain .type))

/-- Does something within a context of a logger. -/
def within {α : Type} (name : String) (c : LogContext) (x : Change α) : Change α := ExceptT.mk do
  match ← (push name c).run with
  | .error f => return .error f
  | .ok () =>
    let result ← x.run
    let _ ← (pop name).run
    return result

end LoggerRegistry

end ServiceWire
