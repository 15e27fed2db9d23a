import ServiceWire.Metric
import ServiceWire.Operation.Service
import ServiceWire.Stream.Handler

/-!
# Event unions

The events of a stream are the members of a union, and each has a handler; that they fit is
checked when the union is set up. A frame is counted once: as read or written, as failed, or, where
a whole stream is read, as of an unknown event. A frame of an unknown event does not end a stream,
every other failure does.
-/

namespace ServiceWire

/-- The events of a stream with their handlers. -/
structure EventUnion (g : Graph) where
  shape : g.Ref
  handlers : List (EventHandler g)
  settings : StreamSettings
  /-- The operation that the stream belongs to, in reports. -/
  operation : Value

namespace EventUnion

variable {g : Graph}

/-- A union with handlers for its events: one for each event, and no other. -/
def create (g : Graph) (r : g.Ref) (handlers : List (EventHandler g)) (settings : StreamSettings)
    (operation : Value) : Except Defect (EventUnion g) :=
  let events := (g.members r).map Member.name
  let names := handlers.map EventHandler.name
  let missing := events.filter fun e => !names.contains e
  let extra := names.filter fun e => !events.contains e
  if !(g.shape r).eventStream then .error (.notEventStream (g.shape r).name)
  else if missing.isEmpty && extra.isEmpty then .ok ⟨r, handlers, settings, operation⟩
  else .error (.incompleteDispatch (g.shape r).name missing.mergeSort extra.mergeSort)

/-- The names of the events, sorted. -/
def eventNames (u : EventUnion g) : List String := (u.handlers.map EventHandler.name).mergeSort

/-- The handler of an event with this name. -/
def handler? (u : EventUnion g) : Value → Option (EventHandler g)
  | .str s => u.handlers.find? fun h => h.name == s
  | _ => none

/-- The handler of an event, or what is wrong with its name. -/
def dispatch (u : EventUnion g) (event : Value) : Except WireError (EventHandler g) :=
  match u.handler? event with
  | some h => .ok h
  | none =>
    if event.isKey then .error (.unknownEvent event u.eventNames)
    else .error (.failure (.plain .type))

/-! ### Single frames -/

/-- A frame that was written, or not, in the count. -/
def outbound (ok : Bool) : Increment := .frame "outbound" (Increment.status ok)

/-- Writes the frame of an event. -/
def write (u : EventUnion g) (e : Envelope) : Except WireError Frame × List Increment :=
  match u.dispatch e.event with
  | .error err => (.error err, [])
  | .ok h =>
    match h.write e.payload with
    | .ok f => (.ok f, [outbound true])
    | .error (.defect d) => (.error (.configuration d), [outbound false])
    | .error (.failure f) => (.error (.eventMarshalling e.event u.operation f), [outbound false])

/-- What comes of reading: a result, what was counted, and the notes. -/
structure Outcome (α : Type) where
  result : Except WireError α
  increments : List Increment := []
  notes : List String := []

/-- A frame that was read, or not, in the count. -/
def inbound (ok : Bool) : Increment := .frame "inbound" (Increment.status ok)

/-- The error that a frame reports. -/
def reported (u : EventUnion g) (f : Frame) : WireError :=
  .eventStream ((f.header? (.str Frame.errorTextField)).getD .null)
    ((f.header? (.str Frame.errorCodeField)).getD .null) u.operation

/-- Reads the event of a frame. -/
def read (u : EventUnion g) (f : Frame) : Outcome Envelope :=
  if f.isMessage Frame.errorMessage then ⟨.error (u.reported f), [inbound false], []⟩
  else if f.isMessage Frame.eventMessage || f.isMessage Frame.errorEventMessage then
    match u.dispatch f.eventType with
    | .error err => ⟨.error err, [], []⟩
    | .ok h =>
      let reading := h.read f
      match reading.outcome with
      | .ok v =>
        ⟨.ok ⟨f.eventType, v, f.isMessage Frame.errorEventMessage⟩, [inbound true], reading.notes⟩
      | .error (.defect d) => ⟨.error (.configuration d), [inbound false], reading.notes⟩
      | .error (.failure cause) =>
        ⟨.error (.eventUnmarshalling f.eventType u.operation cause), [inbound false],
          reading.notes⟩
  else ⟨.error (.messageType f.messageType u.operation), [inbound false], []⟩

/-! ### Whole streams -/

/-- What has come of a stream of events that were written. -/
structure Written where
  frames : List Frame := []
  failure? : Option WireError := none
  increments : List Increment := []

/-- Writes events until one fails. -/
def writeAll (u : EventUnion g) : List Envelope → Written
  | [] => {}
  | e :: rest =>
    let (result, increments) := u.write e
    match result with
    | .error err => { failure? := some err, increments := increments }
    | .ok f =>
      let after := u.writeAll rest
      { after with frames := f :: after.frames, increments := increments ++ after.increments }

/-- What has come of a stream of frames that were read. -/
structure Run where
  events : List Envelope := []
  /-- The frames of unknown events, each with the name of its event. -/
  unknown : List (Value × Frame) := []
  failure? : Option WireError := none
  increments : List Increment := []
  notes : List String := []
  warnings : List String := []

/-- The warnings on a frame of an unknown event, if the settings want any. -/
def skipWarnings (u : EventUnion g) (event : Value) (known : List String) : List String :=
  if u.settings.logUnknownEvents.truthy then
    ["Skipping event stream frame: " ++ WireError.unknownEventText event known]
  else []

/-- Reads frames until one fails. A frame of an unknown event is set aside. -/
def readAll (u : EventUnion g) : List Frame → Run
  | [] => {}
  | f :: rest =>
    let out := u.read f
    match out.result with
    | .ok e =>
      let after := u.readAll rest
      { after with
        events := e :: after.events
        increments := out.increments ++ after.increments
        notes := out.notes ++ after.notes }
    | .error (.unknownEvent event known) =>
      let after := u.readAll rest
      { after with
        unknown := (event, f) :: after.unknown
        increments :=
          out.increments ++ [.frame "inbound" "unknown", .unknownEvent event.text] ++
            after.increments
        notes := out.notes ++ after.notes
        warnings := u.skipWarnings event known ++ after.warnings }
    | .error err =>
      { failure? := some err, increments := out.increments, notes := out.notes }

end EventUnion

/-- The content type of the documents in the frames of a service. -/
def Service.eventContentType (s : Service) : Value :=
  match s.codec.format with
  | .json =>
    s.settings.eventStream.defaultContentType.orElse (.str BodyFormat.json.contentType)
  | format => .str format.contentType

/-- The standard handlers of a service for the events of a union. -/
def Service.eventHandlers (s : Service) (g : Graph) (r : g.Ref) :
    Except Defect (List (EventHandler g)) :=
  EventHandler.standardFor s.codec g r s.eventContentType

end ServiceWire
