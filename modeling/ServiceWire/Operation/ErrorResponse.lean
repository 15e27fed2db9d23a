import ServiceWire.Operation.ResponseReader

/-!
# Error responses

A response whose status is no success is an error of the service. Its code is looked for in the
body, which may be JSON or XML or neither, then in a header field; the status stands in for a code
that is nowhere. A code is freed of the namespace before it and of what follows a colon.
-/

namespace ServiceWire.ErrorResponse

/-- What the body of an error response says. Texts of a JSON body may be of any type. -/
structure Details where
  code : Value := .null
  text : Value := .null
  request : Value := .null

/-- The first of some values that is not empty, or the last one. -/
def firstOf : List Value → Value
  | [] => .null
  | [v] => v
  | v :: rest => if v.truthy then v else firstOf rest

/-- What a JSON body says. -/
def ofJson (content : Bytes) : Except Failure Details := do
  let d ← JsonBody.parse content
  match d with
  | .dict _ =>
    let get := fun key => (d.get? key).getD .null
    return { code := firstOf [get "__type", get "code", get "Code"]
             text := firstOf [get "message", get "Message", .str ""] }
  | _ => throw .errorNotObject

/-- The text of the last of some elements with a local name. -/
def textOf? (name : String) (elements : List Xml.Element) : Option Value :=
  (elements.reverse.find? fun e => e.isNamed (.str name)).map fun e => .str e.text

/-- What an XML body says: the children of its first error element, or of its root. The number of
the request may stand anywhere. -/
def ofXml (content : Bytes) : Except Failure Details := do
  let root ← Xml.parse content
  let first := fun name => root.descendants.find? fun e => e.isNamed (.str name)
  let fields := ((first "Error").getD root).children
  let request := textOf? "RequestId" fields <|> (first "RequestId").map fun e => .str e.text
  return { code := (textOf? "Code" fields).getD .null
           text := (textOf? "Message" fields).getD (.str "")
           request := request.getD .null }

/-- Whether a body begins like XML. -/
def looksLikeXml (content : Bytes) : Bool :=
  (content.dropWhile Text.isBlankByte).head? == some 0x3C

/-- What a body says; one that cannot be read says nothing. -/
def details (content : Bytes) : Except Failure Details :=
  if ResponseReader.isBlank content then .ok {}
  else
    match (if looksLikeXml content then ofXml content else ofJson content) with
    | .ok d => .ok d
    | .error f =>
      match f.kind with
      | .value | .malformedJson | .undecodable | .malformedXml => .ok {}
      | _ => .error f

/-- A code without the namespace before it and without what follows a colon. An empty code is
none; a code must be a text. -/
def normalizeCode (code : Value) : Except Failure (Option String) :=
  if !code.truthy then .ok none
  else do
    let text ← code.asText
    return some (String.ofList (Text.afterLast '#' (Text.beforeFirst ':' text.toList)))

/-- The header fields that may hold the number of a request. -/
def requestHeaders : List String :=
  ["x-amzn-RequestId", "x-amz-request-id", "x-amzn-requestid"]

/-- The code of an error, given what is said of it; without one it is the status. -/
def codeOf (response : Http.Response) (d : Details) : Except Failure String := do
  let said := if d.code.truthy then d.code
    else (response.headers.get? "x-amzn-ErrorType").getD .null
  let code ← normalizeCode said
  return (code.filter (!·.isEmpty)).getD s!"Http{response.status.text}"

/-- The number of the request, as the body or the header fields give it. -/
def requestOf (response : Http.Response) (d : Details) : Value :=
  if d.request.truthy then d.request
  else (requestHeaders.findSome? response.headers.get?).getD d.request

/-- The error that a response reports. -/
def parse (response : Http.Response) (operation : Value) : Except Failure WireError := do
  let content ← response.read.1
  let d ← details content
  let code ← codeOf response d
  return .service code (if d.text.truthy then d.text else .str "") response.status
    (requestOf response d) operation

/-- Handles a response: reads the value of a successful one, and reports the error of any other. -/
def handle {g : Graph} (u : ResponseReader) (response : Http.Response) (shape : Option g.Ref)
    (operation : Value) : ResponseReader.Outcome :=
  match response.isSuccess with
  | .ok true => u.read response shape
  | .ok false =>
    match parse response operation with
    | .ok e => { result := .error e }
    | .error f => { result := .error (.failure f) }
  | .error f => { result := .error (.failure f) }

end ServiceWire.ErrorResponse
