import ServiceWire.Shape.Graph
import ServiceWire.Text.LetterCase

/-!
# Operations

What a service says about one of its operations: its method and request URI, the shapes of its
input and output, and what follows from the shapes for the bodies of its messages. Name, method and
URI are texts as a rule; a description may give any value for them.
-/

namespace ServiceWire

/-- An operation of a service with the shapes of a graph. -/
structure Operation (g : Graph) where
  name : Value
  method : Value := .str "POST"
  uri : Value := .str "/"
  /-- Whether a member of the input is the whole body. -/
  explicitPayload : Bool := false
  /-- Whether any member of the input is in the body. -/
  payloadMembers : Bool := false
  input : Option g.Ref := none
  output : Option g.Ref := none
  /-- Whether the root element of a response holds the result itself. -/
  rootElement : Bool := false
  /-- Whether a member of the output is a stream. -/
  streamingOutput : Bool := false

namespace Operation

/-- The operation with these shapes, and what follows from them. The method is in capital letters.
Whether the root element holds the result may be said explicitly. -/
def ofShapes (g : Graph) (name : Value) (input output : Option g.Ref) (method : String)
    (uri : Value) (rootElement : Option Bool) : Operation g where
  name := name
  method := .str (Text.upper method)
  uri := uri
  explicitPayload := input.any fun r => (g.shape r).hasPayload
  payloadMembers := input.any fun r =>
    (g.shape r).hasPayload || !(g.shape r).bodyMembers.isEmpty
  input := input
  output := output
  rootElement := rootElement.getD
    (output.any fun r => (g.shape r).hasPayload || (g.shape r).rootElement)
  streamingOutput := output.any fun r => g.hasStreamingMember r

/-- The operation with these shapes, if the method is a text. -/
def forShapes (g : Graph) (name : Value) (input output : Option g.Ref) (method uri : Value)
    (rootElement : Option Bool) : Except Failure (Operation g) :=
  match method with
  | .str m => .ok (ofShapes g name input output m uri rootElement)
  | _ => .error (.plain .attribute)

/-- The name of a shape, if there is one. -/
def shapeName (g : Graph) : Option g.Ref → Value
  | some r => .str (g.shape r).name
  | none => .null

/-- An operation as a report. -/
def report {g : Graph} (o : Operation g) : Value :=
  .ofFields
    [("name", o.name), ("http_method", o.method), ("request_uri", o.uri),
      ("has_explicit_payload_member", .bool o.explicitPayload),
      ("has_payload_members", .bool o.payloadMembers), ("input_shape", shapeName g o.input),
      ("output_shape", shapeName g o.output), ("use_root_element", .bool o.rootElement),
      ("has_streaming_output", .bool o.streamingOutput)]

end Operation

end ServiceWire
