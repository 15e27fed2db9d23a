import ServiceWire.Codec.JsonBody
import ServiceWire.Codec.XmlBody
import ServiceWire.Number.Word
import ServiceWire.Stream.Frame

/-!
# Event handlers

A handler turns the values of one event into frames and back. The standard handler sends the
members that are located in the header as header fields, with their values as they are. A payload
member that is a byte string or a string is the payload itself; every other payload is a document.
-/

namespace ServiceWire

/-- What turns the values of one event into frames and back. -/
structure EventHandler (g : Graph) where
  name : String
  shape : g.Ref
  /-- The content type of payloads that are documents. -/
  contentType : Value
  write : Value → Except Fault Frame
  read : Frame → Reading Value

namespace EventHandler

variable (c : Codec) (g : Graph)

/-! ### Writing -/

/-- A number as a byte. -/
def byteOf : Value → Except Failure UInt8
  | .int i =>
    if 0 ≤ i ∧ i < 256 then .ok (UInt8.ofNat i.toNat) else .error (.plain .value)
  | .bool b => .ok (if b then 1 else 0)
  | _ => .error (.plain .type)

/-- As many zero bytes as a number says; an index into memory has 63 bits. -/
def zeros (count : Int) : Except Failure Bytes :=
  if !fitsWord 63 count then .error (.plain .overflow)
  else if count < 0 then .error (.plain .value)
  else .ok (List.replicate count.toNat 0)

/-- The bytes that a value stands for: a byte string its own, a number as many zero bytes, a
sequence of numbers those bytes. -/
def bytesFrom : Value → Except Failure Bytes
  | .bytes _ data => .ok data
  | .int count => zeros count
  | .bool b => zeros (if b then 1 else 0)
  | .str _ => .error (.plain .type)
  | v =>
    match v.items? with
    | some items => items.mapM byteOf
    | none => .error (.plain .type)

/-- The bytes that a value stands for. An empty value stands for none. -/
def rawBytes (v : Value) : Except Failure Bytes :=
  if v.truthy then bytesFrom v else .ok []

/-- The bytes of a text. An empty value stands for an empty text. -/
def rawText (v : Value) : Except Failure Bytes :=
  if !v.truthy then .ok []
  else
    match v with
    | .str s => .ok (bytesOf s)
    | _ => .error (.plain .attribute)

/-- The value of a member, or nothing. -/
def memberValue (v : Value) (m : Member g.size) : Value := (v.get? m.name).getD .null

/-- The document of a value. In XML the root element has the name of the event. -/
def document (event : String) (v : Value) (r : g.Ref) (members : Option (List (Member g.size))) :
    Except Fault Bytes :=
  match c.format with
  | .xml => XmlBody.encode c g v r (.str event) members
  | _ => JsonBody.encode c g v r members

/-- The type of the messages of a shape. -/
def messageTypeOf (s : Shape g.size) : String :=
  if s.isError then Frame.errorEventMessage else Frame.eventMessage

/-- The header fields that name an event. -/
def eventFields (event : String) (s : Shape g.size) : List (Value × Value) :=
  [(.str Frame.messageTypeField, .str (messageTypeOf g s)),
    (.str (if s.isError then Frame.errorTypeField else Frame.eventTypeField), .str event)]

/-- Header fields with the member of a value, if it is located there. -/
def writeField (v : Value) (fields : List (Value × Value)) (m : Member g.size) :
    Except Failure (List (Value × Value)) :=
  let x := memberValue g v m
  if m.location == .header && !x.isNull then
    m.wireName.asKey.map fun name => Entries.put name x fields
  else .ok fields

/-- The payload of a value, and its content type. -/
def payloadOf (event : String) (r : g.Ref) (contentType : Value) (v : Value) :
    Except Fault (Value × Bytes) :=
  let s := g.shape r
  match s.payloadMember? with
  | none => (document c g event v r (some s.bodyMembers)).map fun data => (contentType, data)
  | some m =>
    let x := memberValue g v m
    match (g.shape m.shape).kind with
    | .scalar .blob =>
      ((rawBytes x).mapError .failure).map fun data => (.str "application/octet-stream", data)
    | .scalar .string =>
      ((rawText x).mapError .failure).map fun data => (.str "text/plain", data)
    | _ =>
      if x.isNull then .ok (contentType, [])
      else (document c g event x m.shape none).map fun data => (contentType, data)

/-- The frame of a value. -/
def writeFrame (event : String) (r : g.Ref) (contentType : Value) (v : Value) :
    Except Fault Frame := do
  let s := g.shape r
  let fields ← (s.members.foldlM (writeField g v) (eventFields g event s)).mapError .failure
  let (type, data) ← payloadOf c g event r contentType v
  return ⟨Entries.put (.str Frame.contentTypeField) type fields, .ofBytes data⟩

/-! ### Reading -/

/-- The value of a header field. Only texts are read, all else is the value itself. -/
def fieldValue (r : g.Ref) : Value → Except Failure Value
  | .str s => Scalar.fromValue (g.shape r).name (g.shape r).kind (.str s)
  | v => .ok v

/-- The value of a member that is located in the header, if there is one. -/
def readField (f : Frame) (m : Member g.size) : Except Failure (Option (String × Value)) := do
  let name ← m.wireName.asKey
  match f.header? name with
  | none => return none
  | some raw => (fieldValue g m.shape raw).map fun v => some (m.name, v)

/-- The values of the members that are located in the header. -/
def readFields (f : Frame) (members : List (Member g.size)) :
    Except Failure (List (String × Value)) := do
  let found ← (members.filter fun m => m.location == .header).mapM (readField g f)
  return Entries.ofPairs (found.filterMap id)

/-- The value of a document. -/
def readDocument (payload : Value) (r : g.Ref) : Reading Value :=
  match c.format with
  | .xml => do
    let e ← Reading.ofConversion (Xml.parseValue payload)
    XmlBody.ofElement c g e r
  | _ => JsonBody.decode c g payload r none

/-- The values of the members that share a document. -/
def readMembers (payload : Value) (r : g.Ref) : Reading (List (String × Value)) :=
  let members := (g.shape r).bodyMembers
  match c.format with
  | .xml => do
    let e ← Reading.ofConversion (Xml.parseValue payload)
    XmlBody.readSome c g r members e.children e.attributes
  | _ => do
    let text ← Reading.ofConversion (JsonBody.bodyText payload)
    let d ← Reading.ofConversion (JsonBody.parseText text)
    JsonBody.readSome c g d r members

/-- The values that the payload has. -/
def readPayload (payload : Value) (r : g.Ref) : Reading (List (String × Value)) :=
  let s := g.shape r
  match s.payloadMember? with
  | some m =>
    match (g.shape m.shape).kind with
    | .scalar .blob => do
      let data ← Reading.ofConversion (bytesFrom payload)
      return [(m.name, .ofBytes data)]
    | .scalar .string => do
      let text ← Reading.ofConversion (JsonBody.bodyText payload)
      return [(m.name, .str text)]
    | _ =>
      if !payload.truthy then return []
      else do
        let v ← readDocument c g payload m.shape
        return [(m.name, v)]
  | none =>
    if !payload.truthy || s.bodyMembers.isEmpty then return []
    else readMembers c g payload r

/-- The value of a frame. -/
def readFrame (r : g.Ref) (f : Frame) : Reading Value := do
  let s := g.shape r
  let fields ← Reading.ofConversion (readFields g f s.members)
  let more ← readPayload c g f.payload r
  Reading.ofConversion (s.build (Entries.putAll fields more))

/-! ### Handlers -/

/-- The standard handler of an event. -/
def standard (event : String) (r : g.Ref) (contentType : Value) : EventHandler g where
  name := event
  shape := r
  contentType := contentType
  write := writeFrame c g event r contentType
  read := readFrame c g r

/-- A handler that fails on all values and frames. -/
def failing (event : String) (r : g.Ref) (fault : Fault) : EventHandler g where
  name := event
  shape := r
  contentType := .null
  write _ := .error fault
  read _ := .fail fault

/-- The type of the messages that a handler writes. -/
def messageType (h : EventHandler g) : String := messageTypeOf g (g.shape h.shape)

/-- The standard handlers of all events of a union. Each shape must be one that the codec
handles; of several members with one name, the last has the handler. -/
def standardFor (union : g.Ref) (contentType : Value) : Except Defect (List (EventHandler g)) := do
  let handlers ← (g.members union).mapM fun m => do
    c.checkShape g m.shape
    return (m.name, standard c g m.name m.shape contentType)
  return (Entries.ofPairs handlers).map Prod.snd

end EventHandler

end ServiceWire
