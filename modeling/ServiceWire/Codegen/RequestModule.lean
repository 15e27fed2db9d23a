import ServiceWire.Codegen.Literal
import ServiceWire.Codegen.Module
import ServiceWire.Model.Basic

/-!
# Request modules

The module with a class for each operation of a service. A class holds what binds its operation as
literals, and writes requests by the protocol of the service.
-/

namespace ServiceWire.Codegen.RequestModule

/-- The names of protocols in messages. -/
def displayNames : List (String × String) :=
  [("json", "JSON"), ("rest-json", "JSON"), ("rest-xml", "XML"), ("query", "Query")]

/-- The name of a protocol in messages. -/
def displayName (protocol : Value) : Except Failure String :=
  match protocol with
  | .str s => .ok ((displayNames.lookup s).getD s)
  | v => v.asKey.map Value.text

/-- What binds an operation, beside its name and its input. -/
def bindingLiteral {g : Graph} (o : Operation g) : Value :=
  .ofFields
    [("request_uri", o.uri), ("http_method", o.method),
      ("has_explicit_payload_member", .bool o.explicitPayload),
      ("has_payload_members", .bool o.payloadMembers)]

/-- The name of the input shape of an operation, if there is one. -/
def inputName {g : Graph} (o : Operation g) : Value :=
  optionalText (o.input.map fun r => (g.shape r).name)

/-- What a class holds as literals. -/
structure Literals where
  operationName : String
  inputShape : Value
  binding : Value

/-- The literals of the class of an operation that has a name in the model. -/
def literalsOf {g : Graph} (name : String) (o : Operation g) : Literals :=
  ⟨name, inputName o, bindingLiteral o⟩

/-- The class with some literals. -/
def classText (display : String) (l : Literals) : String :=
  lines
    [s!"class {l.operationName}RequestMarshaller:",
      s!"    \"\"\"Marshaller for the {l.operationName} operation.\"\"\"",
      "",
      s!"    OPERATION_NAME = {Quoted.text l.operationName}",
      s!"    INPUT_SHAPE = {l.inputShape.quoted}",
      s!"    SDK_OPERATION_BINDING = {l.binding.literal 4}",
      "",
      "    def __init__(self, model, factory=None):",
      "        factory = factory or model.create_protocol_factory()",
      "        input_shape = model.shape(self.INPUT_SHAPE) if self.INPUT_SHAPE else None",
      "        binding = OperationBinding(",
      "            name=self.OPERATION_NAME,",
      "            input_shape=input_shape,",
      "            **self.SDK_OPERATION_BINDING,",
      "        )",
      "        self._protocol_marshaller = factory.create_protocol_marshaller(binding)",
      "",
      "    def marshall(self, request):",
      "        if request is None:",
      "            raise MarshallingError(\"request must not be None\", " ++
        "operation=self.OPERATION_NAME)",
      "        try:",
      "            return self._protocol_marshaller.marshall(request)",
      "        except ShapewireException:",
      "            raise",
      "        except Exception as e:",
      "            raise MarshallingError(",
      "                f\"Unable to marshall request to " ++ display ++ ": \x7be\x7d\",",
      "                operation=self.OPERATION_NAME,",
      "            ) from e"]

/-- The class of an operation of a model. -/
def classOf (m : ServiceModel) (name : String) : Except Fault String := do
  let o ← m.operation (.str name)
  let display ← (displayName m.protocol).mapError .failure
  return classText display (literalsOf name o)

/-- The table of the classes. -/
def registry (names : List String) : String :=
  if names.isEmpty then "\x7b\x7d"
  else
    let entry := fun (n : String) => s!"    {Quoted.text n}: {n}RequestMarshaller,\n"
    "\x7b\n" ++ Text.join "" (names.map entry) ++ "\x7d"

/-- The text of the module of a model, with its classes. -/
def render (config : GeneratorConfig) (m : ServiceModel) (module : String)
    (classes : List String) : String :=
  let runtime := config.runtimePackage
  lines
    (introduction config module s!"Request marshallers for {m.serviceName.text}" ++
      [s!"from {runtime}.core.exceptions import MarshallingError, ShapewireException",
        s!"from {runtime}.protocols.shapes import OperationBinding",
        "",
        s!"PROTOCOL = {m.protocol.quoted}",
        "", "",
        Text.join "\n\n" classes,
        "", "",
        s!"MARSHALLERS = {registry m.operationNames}",
        "", "",
        "def create_marshallers(model, factory=None):",
        "    \"\"\"Instantiate every marshaller against a loaded service model.\"\"\"",
        "    factory = factory or model.create_protocol_factory()",
        "    return \x7bname: marshaller(model, factory) " ++
          "for name, marshaller in MARSHALLERS.items()\x7d",
        ""])

/-- The module of a model. -/
def source (config : GeneratorConfig) (m : ServiceModel) : ModuleSource where
  file := do
    let module ← (moduleNameOf m.serviceName "marshallers").mapError .failure
    let classes ← m.operationNames.mapM (classOf m)
    return (fileName module, render config m module classes)

end ServiceWire.Codegen.RequestModule
