import ServiceWire.Fault
import ServiceWire.Value.Entries

/-!
# Error reports

An error as it is told to a user or written to a log: its class, its wording and its code, what it
is about, and the details that its class keeps. Each class is described by parameters of its own,
the first of which must be given.
-/

namespace ServiceWire

/-- An error as it is reported. -/
structure ErrorReport where
  errorClass : ErrorClass
  message : Value
  code : Value
  /-- What the error is about. -/
  context : Value
  /-- What errors of this class keep beside that. -/
  details : List (String × Value) := []

/-- The parameters that describe an error of a class. The first one must be given. -/
def ErrorClass.parameters : ErrorClass → List String
  | .general => ["message", "error_code", "context"]
  | .configuration => ["message", "config_key", "shape_name"]
  | .marshalling => ["message", "operation", "member"]
  | .unmarshalling => ["message", "operation", "status_code"]
  | .eventStream => ["message", "stream_error_code", "operation"]
  | .unknownEvent => ["event_type", "known_events"]
  | .service => ["error_code", "error_message", "status_code", "request_id", "operation"]

namespace ErrorReport

/-- The names of events, sorted. -/
def eventNames (v : Value) : Except Failure (List String) :=
  if !v.truthy then .ok []
  else
    match v.items? with
    | none => .error (.plain .type)
    | some items => do
      let names ← items.mapM fun e => match e with
        | .str s => .ok s
        | _ => .error (.plain .type)
      return names.mergeSort

/-- The report of an error of a class with these arguments. -/
def describe (c : ErrorClass) (argument : String → Value) : Except Failure ErrorReport :=
  let message := argument "message"
  let operation := argument "operation"
  let fixed := fun (context details : List (String × Value)) =>
    Except.ok (ErrorReport.mk c message (.str c.code) (.ofFields context) details)
  match c with
  | .general =>
    .ok ⟨c, message, (argument "error_code").orElse (.str c.code),
      (argument "context").orElse (.dict []), []⟩
  | .configuration =>
    fixed (reportField "config_key" (argument "config_key") ++
      reportField "shape_name" (argument "shape_name")) []
  | .marshalling =>
    fixed (reportField "operation" operation ++ reportField "member" (argument "member"))
      [("operation", operation)]
  | .unmarshalling =>
    fixed (reportField "operation" operation ++
      presentField "status_code" (argument "status_code")) [("operation", operation)]
  | .eventStream =>
    let code := argument "stream_error_code"
    fixed (reportField "operation" operation ++ reportField "stream_error_code" code)
      [("operation", operation), ("stream_error_code", code)]
  | .unknownEvent => do
    let event := argument "event_type"
    let known ← eventNames (argument "known_events")
    return ⟨c, .str (WireError.unknownEventText event known), .str c.code,
      .ofFields [("event_type", event)],
      [("event_type", event), ("known_events", .ofTexts known)]⟩
  | .service =>
    let code := argument "error_code"
    let text := argument "error_message"
    let status := argument "status_code"
    let request := argument "request_id"
    .ok ⟨c, if text.truthy then .str s!"{code.text}: {text.text}" else code,
      code.orElse (.str ErrorClass.general.code),
      .ofFields (presentField "status_code" status ++ reportField "request_id" request ++
        reportField "operation" operation),
      [("operation", operation), ("error_message", text), ("status_code", status),
        ("request_id", request)]⟩

/-- The value of a parameter that is not given: nothing, or for the text of a service an empty
text. -/
def missingArgument (name : String) : Value :=
  if name == "error_message" then .str "" else .null

/-- The report of an error of a class that named arguments describe. -/
def make (c : ErrorClass) (arguments : List (String × Value)) : Except Failure ErrorReport :=
  let needed := c.parameters.head?.all (Entries.has arguments)
  if needed && arguments.all fun p => c.parameters.contains p.1 then
    describe c fun name => (arguments.lookup name).getD (missingArgument name)
  else .error (.plain .type)

/-- The text of a report. -/
def text (r : ErrorReport) : String :=
  if r.context.truthy then
    s!"{r.message.text} (Code: {r.code.text}, Context: {r.context.text})"
  else s!"{r.message.text} (Code: {r.code.text})"

/-- A report as the fields of a log entry. What the error is about must be a mapping or a sequence
of pairs. -/
def fields (r : ErrorReport) (cause : Option String) : Except Failure (List (String × Value)) := do
  let context ← r.context.entriesOf
  return [("type", .str r.errorClass.label), ("message", r.message), ("error_code", r.code),
    ("context", .ofEntries context), ("cause", optionalText cause)]

end ErrorReport

namespace WireError

/-- What an error keeps beside its context. -/
def details : WireError → List (String × Value)
  | marshalling _ operation _ | eventMarshalling _ operation _ | unmarshalling _ operation _ _
  | eventUnmarshalling _ operation _ | messageType _ operation => [("operation", operation)]
  | eventStream _ code operation => [("operation", operation), ("stream_error_code", code)]
  | unknownEvent event known => [("event_type", event), ("known_events", .ofTexts known)]
  | service _ text status request operation =>
    [("operation", operation), ("error_message", text), ("status_code", status),
      ("request_id", request)]
  | configuration _ | failure _ => []

/-- The report of an error, unless it is a failure outside of any message. -/
def report? (e : WireError) : Option ErrorReport :=
  match e.errorClass?, e.message? with
  | some c, some message => some ⟨c, message, .str e.code, .ofFields e.context, e.details⟩
  | _, _ => none

/-- The text of an error. -/
def text (e : WireError) : String :=
  match e.report?, e with
  | some r, _ => r.text
  | none, failure f => f.describe
  | none, _ => ""

end WireError

end ServiceWire
