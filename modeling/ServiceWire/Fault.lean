import ServiceWire.Defect

/-!
# Faults

A conversion fails because of the value or because of the configuration: that is a `Fault`. An
operation as a whole reports a `WireError`: a defect as it is, a failed conversion wrapped in what
was being done, or an error that the service or the event stream itself reported. Names and numbers
that come from outside are kept as the values they are; an empty one is left out of the context.
-/

namespace ServiceWire

/-- Why a conversion did not succeed. -/
inductive Fault
  /-- The value is at fault. -/
  | failure (f : Failure)
  /-- The configuration is at fault. -/
  | defect (d : Defect)

/-- What happened to a whole message. -/
inductive WireError
  /-- The configuration is defective. -/
  | configuration (d : Defect)
  /-- A request could not be written. -/
  | marshalling (protocol : String) (operation : Value) (cause : Failure)
  /-- An event could not be written. -/
  | eventMarshalling (event operation : Value) (cause : Failure)
  /-- A response could not be read. -/
  | unmarshalling (protocol : String) (operation status : Value) (cause : Failure)
  /-- An event could not be read. -/
  | eventUnmarshalling (event operation : Value) (cause : Failure)
  /-- A frame is of no known message type. -/
  | messageType (type operation : Value)
  /-- The event stream reported an error. -/
  | eventStream (text code operation : Value)
  /-- An event is none of the known ones. -/
  | unknownEvent (event : Value) (known : List String)
  /-- The service reported an error. -/
  | service (code : String) (text status request operation : Value)
  /-- A conversion failed outside of any message. -/
  | failure (f : Failure)

/-- The names of the classes of errors, from the most general to the class itself. -/
inductive ErrorClass
  | general
  | configuration
  | marshalling
  | unmarshalling
  | eventStream
  | unknownEvent
  | service
deriving DecidableEq, Repr

namespace ErrorClass

/-- All classes. -/
def all : List ErrorClass :=
  [general, configuration, marshalling, unmarshalling, eventStream, unknownEvent, service]

/-- The name of a class. -/
def label : ErrorClass → String
  | general => "ShapewireException"
  | configuration => "ConfigurationError"
  | marshalling => "MarshallingError"
  | unmarshalling => "UnmarshallingError"
  | eventStream => "EventStreamError"
  | unknownEvent => "UnknownEventTypeError"
  | service => "ServiceError"

/-- A class and the classes it belongs to, the nearest first. -/
def lineage : ErrorClass → List ErrorClass
  | general => [general]
  | eventStream => [eventStream, unmarshalling, general]
  | c => [c, general]

/-- The code of the errors of a class, if they all have the same. -/
def code : ErrorClass → String
  | general => "SHAPEWIRE_ERROR"
  | configuration => "CONFIG_ERROR"
  | marshalling => "MARSHALLING_ERROR"
  | unmarshalling => "UNMARSHALLING_ERROR"
  | eventStream => "EVENT_STREAM_ERROR"
  | unknownEvent => "UNKNOWN_EVENT_TYPE"
  | service => "SERVICE_ERROR"

end ErrorClass

/-- An entry of a report, unless there is no value. -/
def presentField (name : String) (value : Value) : List (String × Value) :=
  if value.isNull then [] else [(name, value)]

/-- A text that may be absent. -/
def optionalText : Option String → Value
  | some s => .str s
  | none => .null

namespace WireError

/-- The class of an error. -/
def errorClass? : WireError → Option ErrorClass
  | configuration _ => some .configuration
  | marshalling .. | eventMarshalling .. => some .marshalling
  | unmarshalling .. | eventUnmarshalling .. | messageType .. => some .unmarshalling
  | eventStream .. => some .eventStream
  | unknownEvent .. => some .unknownEvent
  | service .. => some .service
  | failure _ => none

/-- The wording for an event that is none of the known ones. -/
def unknownEventText (event : Value) (known : List String) : String :=
  s!"Unknown event type '{event.text}'" ++
    if known.isEmpty then "" else ". Known events: " ++ Text.join ", " known

/-- The wording of an error that the service reported. -/
def serviceText (code : String) (text : Value) : String :=
  if text.truthy then s!"{code}: {text.text}" else code

/-- The wording of an error of the event stream; without a text of its own, its code. -/
def eventStreamText (text code : Value) : Value :=
  if text.truthy then text else .str s!"Event stream error {code.text}"

/-- The wording of an error. A failure outside of any message may have none. -/
def message? : WireError → Option Value
  | configuration d => some (.str d.message)
  | marshalling protocol _ cause =>
    some (.str s!"Unable to marshall request to {protocol}: {cause.describe}")
  | eventMarshalling event _ cause =>
    some (.str s!"Unable to marshall event '{event.text}': {cause.describe}")
  | unmarshalling protocol _ _ cause =>
    some (.str s!"Unable to unmarshall response from {protocol}: {cause.describe}")
  | eventUnmarshalling event _ cause =>
    some (.str s!"Unable to unmarshall event '{event.text}': {cause.describe}")
  | messageType type _ => some (.str s!"Unsupported event stream message type '{type.text}'")
  | eventStream text code _ => some (eventStreamText text code)
  | unknownEvent event known => some (.str (unknownEventText event known))
  | service code text .. => some (.str (serviceText code text))
  | failure f => f.message?.map .str

/-- The code of an error. -/
def code : WireError → String
  | service code .. => code
  | e => (e.errorClass?.getD .general).code

/-- What an error is about, as the fields of a report. -/
def context : WireError → List (String × Value)
  | configuration d => d.context
  | marshalling _ operation _ => reportField "operation" operation
  | eventMarshalling event operation _ =>
    reportField "operation" operation ++ reportField "member" event
  | unmarshalling _ operation status _ =>
    reportField "operation" operation ++ presentField "status_code" status
  | eventUnmarshalling _ operation _ | messageType _ operation => reportField "operation" operation
  | eventStream _ code operation =>
    reportField "operation" operation ++ reportField "stream_error_code" code
  | unknownEvent event _ => [("event_type", event)]
  | service _ _ status request operation =>
    presentField "status_code" status ++ reportField "request_id" request ++
      reportField "operation" operation
  | failure _ => []

/-- The kind of the failure behind an error. -/
def cause? : WireError → Option FailureKind
  | configuration d => d.cause?
  | marshalling _ _ cause | eventMarshalling _ _ cause | unmarshalling _ _ _ cause
  | eventUnmarshalling _ _ cause => some cause.kind
  | _ => none

end WireError

/-- A fault outside of any message. -/
def Fault.toError : Fault → WireError
  | .failure f => .failure f
  | .defect d => .configuration d

end ServiceWire
