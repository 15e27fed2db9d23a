import ServiceWire.Operation.RequestWriter

/-!
# Reading responses

A response is read member by member: from its header fields, from its status, from its whole body,
and the members that are left from the document in the body. A body that is blank has no document.
A response that cannot be read is reported as such; a defect of the configuration is found before
the response is looked at and is not counted.
-/

namespace ServiceWire

/-- What reads the responses of an operation, which may be unknown. -/
structure ResponseReader where
  protocol : Protocol
  codec : Codec
  operation : Value := .null
  /-- Whether the root element of a response holds the result itself. -/
  rootElement : Bool := false

namespace ResponseReader

variable (u : ResponseReader) {g : Graph}

/-! ### Members outside the document -/

/-- The value of a header field as a value of a shape. -/
def scalarOf (g : Graph) (r : g.Ref) (v : Value) : Except Failure Value :=
  Scalar.fromValue (g.shape r).name (g.shape r).kind v

/-- A header field as an entry of a map: what follows the beginning of the names is the key. -/
def readPrefixed (value : g.Ref) (start : String) (p : String × Value) :
    Except Failure (Option (String × Value)) :=
  if Text.startsWith (Text.lower p.1).toList start.toList then do
    let v ← scalarOf g value p.2
    return some (String.ofList (p.1.toList.drop start.length), v)
  else .ok none

/-- The value of a member in the header fields, if they have it; its name must be a text. -/
def readHeader (h : Headers) (m : Member g.size) : Except Failure (Option Value) := do
  let name ← Headers.nameOf m.wireName
  let raw? := (h.get? name).filter fun v => !v.isNull
  match (g.shape m.shape).form, raw? with
  | .map _ value, _ => do
    let found ← h.toList.mapM (readPrefixed value (Text.lower name))
    let entries := found.filterMap id
    return if entries.isEmpty then none else some (.ofFields (Entries.ofPairs entries))
  | _, none => return none
  | .list item, some raw => do
    let text ← raw.asText
    let parts := (Text.pieces ',' text.toList).map fun cs => Text.strip (String.ofList cs)
    let vs ← parts.mapM fun part => scalarOf g item (.str part)
    return some (.list vs)
  | _, some raw => (scalarOf g m.shape raw).map some

/-- Whether a body is blank. -/
def isBlank (content : Bytes) : Bool := content.all Text.isBlankByte

/-- The value of a whole document. -/
def readDocument (g : Graph) (content : Bytes) (r : g.Ref) : Reading Value :=
  match u.protocol.responseFormat with
  | .json => do
    let d ← Reading.ofConversion (JsonBody.parse content)
    JsonBody.ofDocument u.codec g d r none
  | _ => do
    let e ← Reading.ofConversion (Xml.parse content)
    XmlBody.ofElement u.codec g e r

/-- The value of the payload member, if the body has it, and the response afterwards. -/
def readPayload (response : Http.Response) (m : Member g.size) :
    Reading (Option Value × Http.Response) :=
  let s := g.shape m.shape
  if s.streaming ∨ s.kind = .scalar .blob then
    pure (if response.body.isNull then none else some response.body, response)
  else do
    let (content?, after) := response.read
    let content ← Reading.ofConversion content?
    if s.kind = .scalar .string then
      let text ← Reading.ofConversion (JsonBody.textOf content)
      return (some (.str text), after)
    else if isBlank content then return (none, after)
    else
      let v ← u.readDocument g content m.shape
      return (some v, after)

/-! ### The document -/

/-- The element that holds the result of a Query response. -/
def resultElement? (root : Xml.Element) : Option Xml.Element :=
  if u.operation.truthy then
    let wrapper := Value.str (u.operation.text ++ "Result")
    if root.isNamed wrapper then some root
    else root.children.find? fun e => e.isNamed wrapper
  else
    root.children.find? fun e =>
      Text.startsWith e.localName.text.toList.reverse "Result".toList.reverse

/-- The values of members from an element: from its children and attributes, or, if the root
element holds the result itself, from the element. -/
def readElement (r : g.Ref) (members : List (Member g.size)) (e : Xml.Element) :
    Reading (List (String × Value)) :=
  if u.rootElement then XmlBody.readSome u.codec g r members [e] []
  else XmlBody.readSome u.codec g r members e.children e.attributes

/-- The values of members from the document in a body. -/
def readBody (content : Bytes) (r : g.Ref) (members : List (Member g.size)) :
    Reading (List (String × Value)) :=
  match u.protocol with
  | .json | .restJson => do
    let d ← Reading.ofConversion (JsonBody.parse content)
    JsonBody.readSome u.codec g d r members
  | .restXml => do
    let root ← Reading.ofConversion (Xml.parse content)
    u.readElement r members root
  | .query => do
    let root ← Reading.ofConversion (Xml.parse content)
    match u.resultElement? root with
    | none => return []
    | some e => u.readElement r members e

/-! ### The whole response -/

/-- What has been read of a response. -/
structure Progress where
  values : List (String × Value) := []
  /-- Whether a member took the whole body. -/
  bodyTaken : Bool := false
  response : Http.Response

/-- Reads a member that is not in the document. -/
def readMember (p : Progress) (m : Member g.size) : Reading Progress :=
  match m.location with
  | .header => do
    let v? ← Reading.ofConversion (readHeader p.response.headers m)
    return match v? with
      | some v => { p with values := Entries.put m.name v p.values }
      | none => p
  | .statusCode =>
    return { p with values := Entries.put m.name p.response.status p.values }
  | .body | .uri | .query =>
    if m.payload || (g.shape m.shape).streaming then do
      let (v?, after) ← u.readPayload p.response m
      let values := match v? with
        | some v => Entries.put m.name v p.values
        | none => p.values
      return { values := values, bodyTaken := true, response := after }
    else pure p

/-- A stream that has been read to its end. -/
def drained : Value → Value
  | .stream _ => .stream []
  | v => v

/-- The values of a response. A stream among them has nothing ahead once the body has been read
for another member. -/
def Progress.settled (p : Progress) (before : Http.Response) : List (String × Value) :=
  match before.body, p.response.body with
  | .stream _, .bytes .. => p.values.map fun q => (q.1, drained q.2)
  | _, _ => p.values

/-- The value of a response. -/
def readStructure (response : Http.Response) (r : g.Ref) : Reading Value := do
  let s := g.shape r
  let p ← s.members.foldlM u.readMember { response := response : Progress }
  let values := p.settled response
  let values ←
    if p.bodyTaken || s.bodyMembers.isEmpty then pure values
    else do
      let content ← Reading.ofConversion p.response.read.1
      if isBlank content then pure values
      else do
        let more ← u.readBody content r s.bodyMembers
        pure (Entries.putAll values more)
  Reading.ofConversion (s.build values)

/-- A fault in reading a response as it is reported. -/
def report (status : Value) : Fault → WireError
  | .defect d => .configuration d
  | .failure f => .unmarshalling u.protocol.label u.operation status f

/-- What comes of a response: a value or an error, what was counted, and the notes. -/
structure Outcome where
  result : Except WireError Value
  increments : List Increment := []
  notes : List String := []

/-- Reads a response into a shape, and counts it. Without a shape there is nothing to read. -/
def read (response : Http.Response) (shape : Option g.Ref) : Outcome :=
  match shape with
  | none => { result := .ok .null }
  | some r =>
    match u.codec.checkReadable g r with
    | .error d => { result := .error (.configuration d) }
    | .ok () =>
      let reading := u.readStructure response r
      match reading.outcome with
      | .ok v => ⟨.ok v, [.response u.protocol.label true], reading.notes⟩
      | .error e =>
        ⟨.error (u.report response.status e), [.response u.protocol.label false], reading.notes⟩

end ResponseReader

end ServiceWire
