import ServiceWire.Json.Document
import ServiceWire.Model.Definitions
import ServiceWire.Operation.Service
import ServiceWire.Shape.Builder

/-!
# Service models

The description of a service: its metadata, its shapes and its operations. Loading a description
builds the graph of its shapes and binds each operation to the shapes of its input and output.
-/

namespace ServiceWire

/-- The entries that an item of a sequence of pairs stands for. -/
def Json.pairOf : Json → Except Failure (Json × Json)
  | .array [k, v] =>
    match k with
    | .array _ | .object _ => .error (.plain .type)
    | _ => .ok (k, v)
  | .array _ => .error (.plain .value)
  | .object [(a, _), (b, _)] => .ok (.str a, .str b)
  | .object _ => .error (.plain .value)
  | .str s =>
    match s.toList with
    | [a, b] => .ok (.str (String.singleton a), .str (String.singleton b))
    | _ => .error (.plain .value)
  | _ => .error (.plain .type)

/-- The fields of an optional mapping, which may also be given as a sequence of pairs. An empty
document is the empty mapping. -/
def Json.mappingOf (d? : Option Json) : Except Failure (List (String × Json)) :=
  let ofItems := fun (items : List Json) => do
    let pairs ← items.mapM Json.pairOf
    return Entries.ofPairs (pairs.filterMap fun p =>
      match p.1 with
      | .str k => some (k, p.2)
      | _ => none)
  match d?.filter Json.truthy with
  | none => .ok []
  | some (.object fields) => .ok fields
  | some (.array items) => ofItems items
  | some (.str s) => ofItems (s.toList.map fun c => .str (String.singleton c))
  | some _ => .error (.plain .type)

/-- The description of a service. -/
structure ServiceModel where
  metadata : List (String × Json)
  graph : Graph
  operations : List (String × Operation graph)

namespace ServiceModel

/-- The field of a document that must be a mapping. -/
def field (d : Json) (key : String) : Except Failure (Option Json) :=
  match d with
  | .object fields => .ok (fields.lookup key)
  | _ => .error (.plain .attribute)

/-- The fields of a section of a model, which must be a mapping unless it is empty. -/
def sectionOf (d? : Option Json) : Except Defect (List (String × Json)) :=
  match d?.filter Json.truthy with
  | none => .ok []
  | some (.object fields) => .ok fields
  | some _ => .error .modelSections

/-- The shape that an operation refers to, if it refers to any. -/
def shapeRef (g : Graph) (operation : String) (d? : Option Json) :
    Except Fault (Option g.Ref) :=
  match d?.filter Json.truthy with
  | none => .ok none
  | some (.object ref) =>
    let target := (ref.lookup "shape").getD .null
    let unknown := Fault.defect (.operationReference operation target.toValue)
    match target with
    | .array _ | .object _ => .error (.failure (.plain .type))
    | .str name =>
      match g.find? name with
      | some r => .ok (some r)
      | none => .error unknown
    | _ => .error unknown
  | some _ => .error (.failure (.plain .attribute))

/-- The value of a field of a definition, or a text if there is none. -/
def fieldOr (fields : List (String × Json)) (key other : String) : Value :=
  ((fields.lookup key).getD (.str other)).toValue

/-- An operation by its definition. The shapes whose root element holds the result are given. -/
def operationOf (g : Graph) (rootOutputs : List String) (p : String × Json) :
    Except Fault (Operation g) := do
  let fields ← (Json.sectionFields (some p.2)).mapError .failure
  let http := ((fields.lookup "http").filter Json.truthy).getD (.object [])
  let input ← shapeRef g p.1 (fields.lookup "input")
  let output ← shapeRef g p.1 (fields.lookup "output")
  let http ← match http with
    | .object h => pure h
    | _ => throw (.failure (.plain .attribute))
  let isRoot := output.any fun r => rootOutputs.contains (g.shape r).name
  (Operation.forShapes g (fieldOr fields "name" p.1) input output (fieldOr http "method" "POST")
    (fieldOr http "requestUri" "/") (if isRoot then some true else none)).mapError .failure

/-- The model that a description gives. -/
def load (d : Json) : Except Fault ServiceModel := do
  let metadata ← (field d "metadata").mapError .failure
  let shapeFields ← (field d "shapes").mapError .failure
  let operationFields ← (field d "operations").mapError .failure
  let customizations ← (field d "customizations").mapError .failure
  let table ← (sectionOf shapeFields).mapError .defect
  let operations ← (sectionOf operationFields).mapError .defect
  let g ← Definitions.graph table
  let metadata ← (Json.mappingOf metadata).mapError .failure
  let customizations ← (Json.mappingOf customizations).mapError .failure
  let rootOutputs ←
    (Json.nameSet (customizations.lookup "useRootXmlElementForResult")).mapError .failure
  let bound ← operations.mapM fun p => do
    let o ← operationOf g rootOutputs p
    return (p.1, o)
  return ⟨metadata, g, bound⟩

variable (m : ServiceModel)

/-- A value of the metadata, or nothing. -/
def metadataValue (key : String) : Value := Json.fieldValue m.metadata key

/-- The protocol of the service. -/
def protocol : Value := fieldOr m.metadata "protocol" "json"

/-- The name of the service: the first of several names that is not empty. -/
def serviceName : Value :=
  let named := ["serviceId", "endpointPrefix", "serviceFullName"].map m.metadataValue
  (named.find? Value.truthy).getD (.str "service")

/-- The names of the operations, sorted. -/
def operationNames : List String := (m.operations.map Prod.fst).mergeSort

/-- The shape of a name. -/
def shape (name : Value) : Except Fault m.graph.Ref := do
  let name ← name.asKey.mapError .failure
  let known := match name with
    | .str s => m.graph.find? s
    | _ => none
  match known with
  | some r => return r
  | none => throw (.defect (.unknownShape name))

/-- The operation of a name. -/
def operation (name : Value) : Except Fault (Operation m.graph) := do
  let name ← name.asKey.mapError .failure
  let known := match name with
    | .str s => m.operations.lookup s
    | _ => none
  match known with
  | some o => return o
  | none => throw (.defect (.unknownOperation name))

/-- The service that a model describes. -/
def service (settings : Settings) : Except Defect Service :=
  Service.create m.protocol settings (m.metadataValue "targetPrefix") (m.metadataValue "apiVersion")
    (m.metadataValue "jsonVersion")

/-- An operation in a graph in which a shape was replaced. -/
def replaced {g : Graph} (r : g.Ref) (s : Shape g.size) (o : Operation g) :
    Operation (g.replace r s) :=
  { name := o.name
    method := o.method
    uri := o.uri
    explicitPayload := o.explicitPayload
    payloadMembers := o.payloadMembers
    input := o.input
    output := o.output
    rootElement := o.rootElement
    streamingOutput := o.streamingOutput }

/-- The model with a constructor of its own for the shape of a name. -/
def withConstructor (name : String) (required : List String) : Except Fault ServiceModel := do
  let r ← m.shape (.str name)
  let s := { m.graph.shape r with construct := some required }
  return ⟨m.metadata, m.graph.replace r s, m.operations.map fun p => (p.1, replaced r s p.2)⟩

/-- A model as a report. -/
def report : Value :=
  .ofFields
    [("service_name", m.serviceName), ("protocol", m.protocol),
      ("endpoint_prefix", m.metadataValue "endpointPrefix"),
      ("target_prefix", m.metadataValue "targetPrefix"),
      ("api_version", m.metadataValue "apiVersion"),
      ("json_version", m.metadataValue "jsonVersion"),
      ("operations", .list (m.operationNames.map .str)),
      ("shapes", .list ((List.finRange m.graph.size).map fun r => .str (m.graph.shape r).name))]

end ServiceModel

end ServiceWire
