import ServiceWire.Codec.FormBody
import ServiceWire.Codec.JsonBody
import ServiceWire.Codec.XmlBody
import ServiceWire.Http.Message
import ServiceWire.Http.UriTemplate
import ServiceWire.Metric
import ServiceWire.Operation.Binding
import ServiceWire.Settings.Basic

/-!
# Writing requests

A request is written in two parts. First the members of the input that are bound to the URI, the
query and the header fields take their places; then the body is written in the way of the
protocol. JSON and Query requests have every member in the body. A request that cannot be written
is reported as such, with the name of the operation; only a defect of the configuration keeps its
own wording.
-/

namespace ServiceWire

/-- The protocols of services. -/
inductive Protocol
  | json
  | restJson
  | restXml
  | query
deriving DecidableEq, Repr

namespace Protocol

/-- The name of a protocol. -/
def label : Protocol → String
  | json => "json"
  | restJson => "rest-json"
  | restXml => "rest-xml"
  | query => "query"

/-- All protocols. -/
def all : List Protocol := [json, restJson, restXml, query]

/-- The protocol of a name. -/
def ofLabel? (s : String) : Option Protocol := all.find? fun p => p.label == s

/-- Whether members may be bound to other parts of a request than its body. -/
def bindsLocations : Protocol → Bool
  | restJson | restXml => true
  | json | query => false

/-- The form of the bodies of responses. -/
def responseFormat : Protocol → BodyFormat
  | json | restJson => .json
  | restXml | query => .xml

end Protocol

/-- What writes the requests of an operation. -/
structure RequestWriter (g : Graph) where
  protocol : Protocol
  operation : Operation g
  codec : Codec
  settings : ProtocolSettings := {}
  endpoint : Value := .null
  targetPrefix : Value := .null
  jsonVersion : Value := .null
  apiVersion : Value := .null

namespace RequestWriter

variable {g : Graph}

/-- Checks what a writer is made of: the Query protocol needs a version, and the codec must write
all shapes of the input. -/
def check (w : RequestWriter g) : Except Defect Unit := do
  if w.protocol = .query ∧ !w.apiVersion.truthy then throw .noApiVersion
  match w.operation.input with
  | some r => w.codec.checkWritable g r
  | none => pure ()

/-! ### Members outside the body -/

/-- The value that a request has for a member. -/
def valueOf (request : Value) (name : String) : Option Value :=
  (request.get? name).filter fun v => !v.isNull

/-- A value as the text of a shape. -/
def scalarText (g : Graph) (format : Scalar.TimestampFormat) (r : g.Ref) (v : Value) :
    Except Failure String :=
  Scalar.toText format (g.shape r).name (g.shape r).kind v

/-- What a value yields when it is gone through. -/
def itemsOf (v : Value) : Except Failure (List Value) :=
  match v.items? with
  | some items => .ok items
  | none => .error (.plain .type)

/-- The entries of a value that must be a mapping. -/
def entriesOf : Value → Except Failure (List (Value × Value))
  | .dict entries => .ok entries
  | _ => .error (.plain .attribute)

/-- The query parameters of an entry of a map. A list gives a parameter for each item. -/
def entryParams (g : Graph) (value : g.Ref) (p : Value × Value) :
    Except Failure (List (Value × Value)) :=
  match (g.shape value).form with
  | .list item => do
    let items ← itemsOf p.2
    items.mapM fun v => do
      let s ← scalarText g .iso8601 item v
      return (p.1, .str s)
  | _ => do
    let s ← scalarText g .iso8601 value p.2
    return [(p.1, .str s)]

/-- The query parameters of a member. -/
def queryParams (m : Member g.size) (v : Value) : Except Failure (List (Value × Value)) :=
  match (g.shape m.shape).form with
  | .list item => do
    let items ← itemsOf v
    items.mapM fun w => do
      let s ← scalarText g .iso8601 item w
      return (m.wireName, .str s)
  | .map _ value => do
    let entries ← entriesOf v
    let params ← entries.mapM (entryParams g value)
    return params.flatten
  | _ => do
    let s ← scalarText g .iso8601 m.shape v
    return [(m.wireName, .str s)]

/-- The header fields of a member. A map gives a field for each entry, a list one for all items. -/
def headerFields (m : Member g.size) (v : Value) : Except Failure (List (Value × String)) :=
  match (g.shape m.shape).form with
  | .map _ value => do
    let entries ← entriesOf v
    entries.mapM fun p => do
      let s ← scalarText g .rfc822 value p.2
      return (.str (m.wireName.text ++ p.1.text), s)
  | .list item => do
    let items ← itemsOf v
    let texts ← items.mapM (scalarText g .rfc822 item)
    let name ← m.wireName.asKey
    return [(name, Text.join "," texts)]
  | _ => do
    let s ← scalarText g .rfc822 m.shape v
    let name ← m.wireName.asKey
    return [(name, s)]

/-- The members outside the body: labels of the URI, query parameters, header fields. -/
structure Bound where
  labels : List (String × Value) := []
  query : List (Value × Value) := []
  headers : List (Value × String) := []

/-- Labels with one more member. Only a text can be the name of a label. -/
def putLabel (name : Value) (text : String) (labels : List (String × Value)) :
    Except Failure (List (String × Value)) :=
  match name with
  | .str label => .ok (Entries.put label (.str text) labels)
  | v => v.asKey.map fun _ => labels

/-- Puts a member in its place outside the body, if it has one. -/
def bind (request : Value) (b : Bound) (m : Member g.size) : Except Failure Bound :=
  match valueOf request m.name with
  | none => .ok b
  | some v =>
    match m.location with
    | .uri => do
      let s ← scalarText g .iso8601 m.shape v
      let labels ← putLabel m.wireName s b.labels
      return { b with labels := labels }
    | .query => do
      let params ← queryParams m v
      return { b with query := b.query ++ params }
    | .header => do
      let fields ← headerFields m v
      return { b with headers := Entries.putAll b.headers fields }
    | .body | .statusCode => .ok b

/-- The members outside the body of a request. -/
def bound (w : RequestWriter g) (request : Value) : Except Failure Bound :=
  match w.operation.input with
  | some r => if w.protocol.bindsLocations then (g.members r).foldlM (bind request) {} else .ok {}
  | none => .ok {}

/-- The path of a request. -/
def path (template : String) (labels : List (String × Value)) : Except Failure String :=
  match UriTemplate.expand template labels with
  | .error (.missingKey quoted) => .error (.unboundLabel quoted)
  | result => result

/-! ### The body -/

/-- A structure as a whole body. -/
def structurePayload (w : RequestWriter g) (m : Member g.size) (v : Value) :
    Except Fault Bytes :=
  match w.protocol with
  | .restXml => XmlBody.encode w.codec g v m.shape m.locationName none
  | _ => JsonBody.encode w.codec g v m.shape none

/-- The request with a payload member as its whole body. -/
def withPayload (w : RequestWriter g) (request : Value) (m : Member g.size) (r : Http.Request) :
    Except Fault Http.Request :=
  let s := g.shape m.shape
  match valueOf request m.name with
  | none => .ok { r with body := .ofBytes [] }
  | some v =>
    if s.kind = .scalar .blob ∨ s.streaming then
      match v with
      | .bytes .fixed _ | .bytes .mutable _ => .ok { r with body := v }
      | .str text =>
        if s.kind = .scalar .string then .ok { r with body := .ofBytes (bytesOf text) }
        else .error (.failure (.expectedPayload "bytes or stream" m.name v.typeName))
      | _ =>
        if v.isReadable then .ok { r with body := v }
        else .error (.failure (.expectedPayload "bytes or stream" m.name v.typeName))
    else
      match s.kind with
      | .scalar .string =>
        match v with
        | .str text => .ok { r with body := .ofBytes (bytesOf text) }
        | _ => .error (.failure (.expectedPayload "string" m.name v.typeName))
      | .struct => do
        let data ← w.structurePayload m v
        return { r with body := .ofBytes data }.withDefaultHeader "Content-Type"
          w.codec.format.contentType
      | k => .error (.failure (.unsupportedPayload k.label m.name))

/-- The request of the JSON protocol with its body. -/
def withJsonBody (w : RequestWriter g) (request : Value) (r : Http.Request) :
    Except Fault Http.Request :=
  let r :=
    if w.targetPrefix.truthy then
      r.withHeader "X-Amz-Target" s!"{w.targetPrefix.text}.{w.operation.name.text}"
    else r
  let r := r.withHeader "Content-Type" s!"application/x-amz-json-{w.jsonVersion.text}"
  match w.operation.input with
  | none => .ok { r with body := w.settings.emptyJsonBody }
  | some s =>
    match (g.shape s).payloadMember? with
    | some m => w.withPayload request m r
    | none => (JsonBody.encode w.codec g request s none).map fun data =>
      { r with body := .ofBytes data }

/-- The body members of the input as a body. -/
def encodeMembers (w : RequestWriter g) (request : Value) (s : g.Ref) : Except Fault Bytes :=
  let members := some (g.shape s).bodyMembers
  match w.protocol with
  | .restXml => XmlBody.encode w.codec g request s .null members
  | _ => JsonBody.encode w.codec g request s members

/-- The request of a protocol that binds locations, with its body. -/
def withRestBody (w : RequestWriter g) (request : Value) (r : Http.Request) :
    Except Fault Http.Request :=
  match w.operation.input with
  | none => .ok r
  | some s =>
    if w.operation.explicitPayload then
      match (g.shape s).payloadMember? with
      | some m => w.withPayload request m r
      | none => .error (.failure (.plain .attribute))
    else if w.operation.payloadMembers then do
      let data ← w.encodeMembers request s
      return { r with body := .ofBytes data }.withHeader "Content-Type" w.codec.format.contentType
    else .ok r

/-- The parameters that a Query request begins with. -/
def queryHead (w : RequestWriter g) : List (Value × Value) :=
  [(.str "Action", w.operation.name), (.str "Version", w.apiVersion)]

/-- The request of the Query protocol with its body. -/
def withFormBody (w : RequestWriter g) (request : Value) (r : Http.Request) :
    Except Fault Http.Request := do
  let params ← match w.operation.input with
    | none => pure []
    | some s => FormBody.toParams w.codec g request s (.str "") none
  let text := UrlForm.encode (w.queryHead ++ params.map fun p => (p.1, .str p.2))
  return { r with body := .ofBytes (bytesOf text) }.withHeader "Content-Type"
    w.codec.format.contentType

/-- The request with its body. -/
def withBody (w : RequestWriter g) (request : Value) (r : Http.Request) :
    Except Fault Http.Request :=
  match w.protocol with
  | .json => w.withJsonBody request r
  | .restJson | .restXml => w.withRestBody request r
  | .query => w.withFormBody request r

/-! ### The whole request -/

/-- The request for a value. -/
def build (w : RequestWriter g) (request : Value) : Except Fault Http.Request := do
  if request.isNull then throw (.failure .noRequest)
  let uri ← w.operation.uri.asText.mapError .failure
  let (template, literal) := UriTemplate.split uri
  let b ← (w.bound request).mapError .failure
  let p ← (path template b.labels).mapError .failure
  w.withBody request
    { method := w.operation.method
      path := p
      query := UrlForm.ofTexts literal ++ b.query
      headers := b.headers
      endpoint := w.endpoint }

/-- A fault in writing a request as it is reported. -/
def report (w : RequestWriter g) : Fault → WireError
  | .defect d => .configuration d
  | .failure f => .marshalling w.protocol.label w.operation.name f

/-- Writes the request for a value, and counts it. -/
def write (w : RequestWriter g) (request : Value) :
    Except WireError Http.Request × List Increment :=
  match w.build request with
  | .ok r => (.ok r, [.request w.protocol.label true, .requestTime w.protocol.label])
  | .error e => (.error (w.report e), [.request w.protocol.label false])

end RequestWriter

end ServiceWire
