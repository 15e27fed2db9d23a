import ServiceWire.Value.Entries

/-!
# Frames

An event stream is a sequence of frames. A frame has header fields with values of any type and a
payload, which is bytes as a rule; which event it carries is said by its header fields. An envelope
is a value together with the name of the event that carries it.
-/

namespace ServiceWire

/-- A frame of an event stream. -/
structure Frame where
  headers : List (Value × Value) := []
  payload : Value := .ofBytes []

/-- A value that an event carries. -/
structure Envelope where
  event : Value
  payload : Value := .null
  /-- Whether the event is an error. -/
  isError : Bool := false

namespace Frame

/-! ### The header fields that have a meaning -/

/-- The field that says what kind of message a frame is. -/
def messageTypeField : String := ":message-type"

/-- The field that names an event. -/
def eventTypeField : String := ":event-type"

/-- The field that names an event that is an error. -/
def errorTypeField : String := ":exception-type"

/-- The field that says what the payload is. -/
def contentTypeField : String := ":content-type"

/-- The field with the code of an error of the stream itself. -/
def errorCodeField : String := ":error-code"

/-- The field with the text of an error of the stream itself. -/
def errorTextField : String := ":error-message"

/-- The type of messages that carry events. -/
def eventMessage : String := "event"

/-- The type of messages that carry events which are errors. -/
def errorEventMessage : String := "exception"

/-- The type of messages that report an error of the stream itself. -/
def errorMessage : String := "error"

/-! ### Frames made from and taken apart into fields -/

/-- The value of a header field. -/
def header? (f : Frame) (name : Value) : Option Value := f.headers.lookup name

/-- The kind of message that a frame is. Without the field it carries an event. -/
def messageType (f : Frame) : Value := (f.header? (.str messageTypeField)).getD (.str eventMessage)

/-- Whether a frame is a message of a type. -/
def isMessage (f : Frame) (type : String) : Bool :=
  match f.messageType with
  | .str s => s == type
  | _ => false

/-- The name of the event that a frame carries, or nothing. -/
def eventType (f : Frame) : Value :=
  let field := if f.isMessage errorEventMessage then errorTypeField else eventTypeField
  (f.header? (.str field)).getD .null

/-- A frame that carries an event, with further header fields. -/
def event (type payload contentType : Value) (more : List (Value × Value)) : Frame where
  headers :=
    Entries.putAll
      ([(.str messageTypeField, .str eventMessage), (.str eventTypeField, type)] ++
        if contentType.truthy then [(.str contentTypeField, contentType)] else [])
      more
  payload := payload

/-- A frame that reports an error of the stream itself. -/
def error (code text : Value) : Frame where
  headers :=
    [(.str messageTypeField, .str errorMessage), (.str errorCodeField, code),
      (.str errorTextField, text)]

/-- A frame as a report. -/
def report (f : Frame) : Value :=
  .ofFields
    [("headers", .list (f.headers.map fun p => .list [p.1, p.2])), ("payload", f.payload),
      ("message_type", f.messageType), ("event_type", f.eventType)]

end Frame

/-- An envelope as a report. -/
def Envelope.report (e : Envelope) : Value :=
  .ofFields [("event_type", e.event), ("payload", e.payload), ("is_exception", .bool e.isError)]

end ServiceWire
