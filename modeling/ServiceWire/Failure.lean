import ServiceWire.Text.Quoted

/-!
# Failures of conversions

What can go wrong while a single value is converted, and how it is worded. A failure either has a
text that this library words, or only a kind: then its text is the kind between angle brackets.
Faults of whole operations, which wrap these, are in `ServiceWire.Fault`.
-/

namespace ServiceWire

/-- The kinds of failure. -/
inductive FailureKind
  | type
  | value
  | key
  | attribute
  | overflow
  | system
  | fileExists
  | notADirectory
  | isADirectory
  | notImplemented
  | undecodable
  | malformedJson
  | malformedXml
  | malformedBase64
  | malformedPattern
  | malformedYaml
  | index
  | lookup
deriving DecidableEq, Repr

/-- The name a kind has in messages. -/
def FailureKind.label : FailureKind → String
  | .type => "TypeError"
  | .value => "ValueError"
  | .key => "KeyError"
  | .attribute => "AttributeError"
  | .overflow => "OverflowError"
  | .system => "OSError"
  | .fileExists => "FileExistsError"
  | .notADirectory => "NotADirectoryError"
  | .isADirectory => "IsADirectoryError"
  | .notImplemented => "NotImplementedError"
  | .undecodable => "UnicodeDecodeError"
  | .malformedJson => "JSONDecodeError"
  | .malformedXml => "ParseError"
  | .malformedBase64 => "Base64Error"
  | .malformedPattern => "RegexError"
  | .malformedYaml => "YAMLError"
  | .index => "IndexError"
  | .lookup => "LookupError"

/-- Why the conversion of a value failed. `found` is always the name of the type of the value that
was found. -/
inductive Failure
  /-- A conversion failed and says no more. -/
  | plain (kind : FailureKind)
  /-- A mapping has no entry for a key, whose quoted form is given. -/
  | missingKey (quoted : String)
  /-- A value of another type was expected. -/
  | expected (what found : String)
  /-- The value of a container shape has another type. -/
  | expectedFor (what shape found : String)
  /-- The value of a payload member has another type. -/
  | expectedPayload (what member found : String)
  /-- A payload member has a kind that no body carries. -/
  | unsupportedPayload (kind member : String)
  /-- A shape was used as a scalar. -/
  | notScalar (shape kind : String)
  /-- A text is no timestamp. -/
  | unrecognizedTimestamp (quoted : String)
  /-- A text is no truth value. -/
  | invalidBoolean (quoted : String)
  /-- A text is no Base64. -/
  | invalidBlob
  /-- An entry of a map has no key element. -/
  | keylessEntry (shape key : String)
  /-- There is no request. -/
  | noRequest
  /-- A label of the request URI has no value; the quoted label is given. -/
  | unboundLabel (quoted : String)
  /-- The body of a request is a stream. -/
  | streamedBody
  /-- The body of a response is neither text nor bytes nor a stream. -/
  | unsupportedBody (found : String)
  /-- The body of an error response is JSON, but no object. -/
  | errorNotObject
  /-- What was asked for is left undefined. Nothing more is said. -/
  | undefined
deriving DecidableEq, Repr

namespace Failure

/-- The kind of a failure. -/
def kind : Failure → FailureKind
  | plain k => k
  | missingKey _ => .key
  | expected .. | expectedFor .. | expectedPayload .. | unsupportedPayload .. | notScalar ..
  | streamedBody | unsupportedBody _ => .type
  | unrecognizedTimestamp _ | invalidBoolean _ | invalidBlob | keylessEntry .. | noRequest
  | unboundLabel _ | errorNotObject => .value
  | undefined => .notImplemented

/-- The text of a failure that has one of its own. -/
def message? : Failure → Option String
  | plain _ => none
  | missingKey quoted => some quoted
  | expected what found => some s!"Expected {what}, got {found}"
  | expectedFor what shape found => some s!"Expected {what} for '{shape}', got {found}"
  | expectedPayload what member found =>
    some s!"Expected {what} for payload '{member}', got {found}"
  | unsupportedPayload kind member => some s!"Unsupported payload kind {kind} for '{member}'"
  | notScalar shape kind => some s!"'{shape}' is a {kind}, not a scalar"
  | unrecognizedTimestamp quoted => some s!"Unrecognized timestamp: {quoted}"
  | invalidBoolean quoted => some s!"Invalid boolean: {quoted}"
  | invalidBlob => some s!"Invalid base64 blob: <{FailureKind.malformedBase64.label}>"
  | keylessEntry shape key => some s!"Map entry in '{shape}' has no <{key}> element"
  | noRequest => some "Request must not be None"
  | unboundLabel quoted => some s!"No value for URI label {quoted}"
  | streamedBody => some "Request body is a stream; read it through the transport"
  | unsupportedBody found => some s!"Unsupported response body type: {found}"
  | errorNotObject => some "Error body is not a JSON object"
  | undefined => some ""

/-- The text of a failure inside another message. -/
def describe (f : Failure) : String :=
  f.message?.getD s!"<{f.kind.label}>"

/-- The failure of a mapping without an entry for a text key. -/
def noKey (key : String) : Failure := missingKey (Quoted.text key)

end Failure

end ServiceWire
