import ServiceWire.Http.Headers
import ServiceWire.Http.UrlForm
import ServiceWire.Value.Entries

/-!
# HTTP messages

Requests as they are handed to a transport, and responses as they come from one. The body of a
request may be a stream, which the transport reads. The body of a response may be one too: reading
its content leaves the bytes in its place.
-/

namespace ServiceWire

/-- Whether a value can be read from like a stream. -/
def Value.isReadable : Value → Bool
  | .stream _ => true
  | .object attributes => Entries.has attributes "read"
  | _ => false

namespace Http

/-- An endpoint with a scheme: its own, or the one given. -/
def withScheme (endpoint scheme : String) : String :=
  if Text.containsText endpoint "://" then endpoint else s!"{scheme}://{endpoint}"

/-- A request. -/
structure Request where
  method : Value
  path : String := "/"
  query : List (Value × Value) := []
  headers : List (Value × String) := []
  body : Value := .null
  endpoint : Value := .null

namespace Request

/-- The endpoint without slashes at its end and with a scheme, if there is one. -/
def base (r : Request) : Except Failure String := do
  let endpoint ← if r.endpoint.truthy then r.endpoint.asText else .ok ""
  let trimmed := String.ofList ((endpoint.toList.reverse.dropWhile fun c => c == '/').reverse)
  return if trimmed.isEmpty then trimmed else withScheme trimmed "https"

/-- The URL of a request. -/
def url (r : Request) : Except Failure String := do
  let base ← r.base
  return base ++ r.path ++ if r.query.isEmpty then "" else "?" ++ UrlForm.encode r.query

/-- The body of a request as bytes, unless it is left to the transport. -/
def content (r : Request) : Except Failure Bytes :=
  match r.body with
  | .null => .ok []
  | .bytes .fixed data | .bytes .mutable data => .ok data
  | _ => .error .streamedBody

/-- The request with a header field put into it. -/
def withHeader (r : Request) (name value : String) : Request :=
  { r with headers := Entries.put (.str name) value r.headers }

/-- The request with a header field put into it, unless it has one of that name. -/
def withDefaultHeader (r : Request) (name value : String) : Request :=
  { r with headers := Entries.putNew (.str name) value r.headers }

/-- A request as a report. -/
def report (r : Request) : Except Failure Value := do
  let url ← r.url
  return .ofFields
    [("method", r.method), ("path", .str r.path),
      ("query", .list (r.query.map fun p => .list [p.1, p.2])), ("endpoint", r.endpoint),
      ("headers", .list (r.headers.map fun p => .list [p.1, .str p.2])), ("body", r.body),
      ("url", .str url)]

end Request

/-- A response. -/
structure Response where
  status : Value
  headers : Headers := {}
  body : Value := .ofBytes []

namespace Response

/-- Whether the status, which must be a number, says that the request succeeded. -/
def isSuccess (r : Response) : Except Failure Bool :=
  match r.status.numeric? with
  | some n => .ok (!n.lt (.int 200) && n.lt (.int 300))
  | none => .error (.plain .type)

/-- The content of a response, and the response afterwards: a stream has been read. -/
def read (r : Response) : Except Failure Bytes × Response :=
  match r.body with
  | .null => (.ok [], r)
  | .bytes .fixed data | .bytes .mutable data => (.ok data, r)
  | .str s => (.ok (bytesOf s), r)
  | .stream ahead => (.ok ahead, { r with body := .ofBytes ahead })
  | v =>
    if v.isReadable then (.error (.plain .type), r)
    else (.error (.unsupportedBody v.typeName), r)

end Response

end Http

end ServiceWire
