import ServiceWire.Operation.ResponseReader

/-!
# Services on the wire

The protocol of a service together with the settings and names that its messages need, and the
codecs of its bodies. Everything that writes and reads messages of the service is made from it.
-/

namespace ServiceWire

/-- What is needed to talk to a service. -/
structure Service where
  protocol : Protocol
  settings : Settings
  targetPrefix : Value
  apiVersion : Value
  jsonVersion : Value
  /-- The codec of documents. -/
  codec : Codec
  /-- The codec of forms, for the Query protocol. -/
  formCodec : Option Codec

namespace Service

/-- The complete codec of a form with the settings of protocols. -/
def codecOf (format : BodyFormat) (s : ProtocolSettings) : Codec :=
  .complete format s.logUnknownFields.truthy s.xmlNamespace

/-- A service with a protocol of a given name. The Query protocol needs a version. -/
def create (protocol : Value) (settings : Settings) (targetPrefix apiVersion jsonVersion : Value) :
    Except Defect Service :=
  let p? := match protocol with
    | .str s => Protocol.ofLabel? s
    | _ => none
  match p? with
  | none => .error (.unsupportedProtocol protocol.text (Protocol.all.map Protocol.label))
  | some p =>
    if p = .query ∧ !apiVersion.truthy then .error .noApiVersion
    else .ok
      { protocol := p
        settings := settings
        targetPrefix := targetPrefix
        apiVersion := apiVersion
        jsonVersion := jsonVersion.orElse settings.protocol.jsonVersion
        codec := codecOf p.responseFormat settings.protocol
        formCodec := if p = .query then some (codecOf .query settings.protocol) else none }

/-- The codec of requests. -/
def requestCodec (s : Service) : Codec := s.formCodec.getD s.codec

/-- A service whose codecs lack some writers for requests and some readers. -/
def without (s : Service) (writers readers : List ShapeKind) : Service :=
  match s.formCodec with
  | some c =>
    { s with
      formCodec := some (c.withoutWriters writers)
      codec := s.codec.withoutReaders readers }
  | none => { s with codec := (s.codec.withoutWriters writers).withoutReaders readers }

/-- What writes the requests of an operation, if its input can be written. -/
def requestWriter {g : Graph} (s : Service) (o : Operation g) (endpoint : Value) :
    Except Defect (RequestWriter g) := do
  let w : RequestWriter g :=
    { protocol := s.protocol
      operation := o
      codec := s.requestCodec
      settings := s.settings.protocol
      endpoint := endpoint
      targetPrefix := s.targetPrefix
      jsonVersion := s.jsonVersion
      apiVersion := s.apiVersion }
  w.check
  return w

/-- What reads the responses of an operation, which may be unknown. -/
def responseReader {g : Graph} (s : Service) (o : Option (Operation g)) : ResponseReader where
  protocol := s.protocol
  codec := s.codec
  operation := (o.map Operation.name).getD .null
  rootElement := o.any Operation.rootElement

/-- A service as a report. -/
def report (s : Service) : Value :=
  .ofFields
    [("protocol", .str s.protocol.label), ("target_prefix", s.targetPrefix),
      ("api_version", s.apiVersion), ("json_version", s.jsonVersion),
      ("codec", .str s.codec.format.label), ("query_codec", .bool s.formCodec.isSome)]

end Service

end ServiceWire
