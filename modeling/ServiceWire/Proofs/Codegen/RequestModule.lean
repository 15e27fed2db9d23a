import ServiceWire.Codegen.RequestModule
import ServiceWire.Proofs.Model.Load
import ServiceWire.Proofs.Operation.Request

/-!
# Generated classes write the requests of their operations

A generated class binds its operation by the literals that it holds: a name, the name of the input
shape, and a chosen part of what the model knows of the operation. What writes requests uses nothing
else of an operation, and the name of a shape leads back to the shape, so the class writes the same
requests as the model's own operation does. There are two exceptions. A class goes by the name under
which the operation stands in the model, also if its definition gives it another; and an input whose
name is empty is taken for none.
-/

namespace ServiceWire

/-! ### What requests depend on -/

/-- An operation without what is known of its responses. -/
def Operation.requestPart {g : Graph} (o : Operation g) : Operation g where
  name := o.name
  method := o.method
  uri := o.uri
  explicitPayload := o.explicitPayload
  payloadMembers := o.payloadMembers
  input := o.input

namespace Service

variable {g : Graph} (s : Service) (o : Operation g) (endpoint : Value)

theorem write_writerOf_requestPart :
    (s.writerOf o.requestPart endpoint).write = (s.writerOf o endpoint).write := rfl

theorem check_writerOf_requestPart :
    (s.writerOf o.requestPart endpoint).check = (s.writerOf o endpoint).check := rfl

/-- Requests do not depend on what is known of responses. -/
theorem write_requestPart :
    (s.requestWriter o.requestPart endpoint).map RequestWriter.write =
      (s.requestWriter o endpoint).map RequestWriter.write := by
  rw [requestWriter_eq, requestWriter_eq, check_writerOf_requestPart]
  cases (s.writerOf o endpoint).check with
  | error d => rfl
  | ok _ => exact congrArg Except.ok (write_writerOf_requestPart s o endpoint)

end Service

/-! ### Names of shapes -/

namespace ServiceModel

/-- The shapes of a model have different names. -/
theorem unique_of_load {d : Json} {m : ServiceModel} (h : load d = .ok m) (r r' : m.graph.Ref)
    (heq : (m.graph.shape r).name = (m.graph.shape r').name) : r = r' := by
  rw [load] at h
  obtain ⟨_, -, h⟩ := exists_of_bind h
  obtain ⟨_, -, h⟩ := exists_of_bind h
  obtain ⟨_, -, h⟩ := exists_of_bind h
  obtain ⟨_, -, h⟩ := exists_of_bind h
  obtain ⟨table, -, h⟩ := exists_of_bind h
  obtain ⟨_, -, h⟩ := exists_of_bind h
  obtain ⟨g, hg, h⟩ := exists_of_bind h
  obtain ⟨_, -, h⟩ := exists_of_bind h
  obtain ⟨_, -, h⟩ := exists_of_bind h
  obtain ⟨_, -, h⟩ := exists_of_bind h
  obtain ⟨_, -, h⟩ := exists_of_bind h
  cases h
  exact Definitions.unique_of_graph hg r r' heq

end ServiceModel

namespace Codegen.RequestModule

/-! ### What a class makes of its literals -/

/-- A field of the binding of a class, or another value if it has none. -/
def Literals.field (l : Literals) (name : String) (other : Value) : Value :=
  (l.binding.get? name).getD other

/-- The input shape of a class: the one of the model with this name, unless the name is empty. -/
def Literals.input (l : Literals) (m : ServiceModel) : Except Fault (Option m.graph.Ref) :=
  if l.inputShape.truthy then (m.shape l.inputShape).map some else .ok none

/-- The operation that a class binds by its literals. What they do not say is as in any
operation. -/
def Literals.operation (l : Literals) (m : ServiceModel) : Except Fault (Operation m.graph) := do
  let input ← l.input m
  return {
    name := .str l.operationName
    method := l.field "http_method" (.str "POST")
    uri := l.field "request_uri" (.str "/")
    explicitPayload := (l.field "has_explicit_payload_member" (.bool false)).truthy
    payloadMembers := (l.field "has_payload_members" (.bool false)).truthy
    input := input }

/-- An operation as its class knows it: under its name in the model, and with no input if the name
of the input is empty. -/
def asGenerated {g : Graph} (name : String) (o : Operation g) : Operation g :=
  { o with
    name := .str name
    input := o.input.filter fun r => !(g.shape r).name.isEmpty }

theorem asGenerated_eq_self {g : Graph} {name : String} {o : Operation g} (hname : o.name = .str name)
    (named : ∀ r, o.input = some r → (g.shape r).name ≠ "") : asGenerated name o = o := by
  have hinput : o.input.filter (fun r => !(g.shape r).name.isEmpty) = o.input := by
    cases hr : o.input with
    | none => rfl
    | some r =>
      have hne : (g.shape r).name.isEmpty = false := by
        simpa [String.isEmpty_iff] using named r hr
      rw [Option.filter_some, hne]
      rfl
  rw [asGenerated, hinput, ← hname]

/-- The literals of a class bind the operation as the class knows it, but for its responses. -/
theorem operation_literalsOf {m : ServiceModel}
    (unique : ∀ r r', (m.graph.shape r).name = (m.graph.shape r').name → r = r') (name : String)
    (o : Operation m.graph) :
    (literalsOf name o).operation m = .ok (asGenerated name o).requestPart := by
  have hinput : (literalsOf name o).input m =
      .ok (o.input.filter fun r => !(m.graph.shape r).name.isEmpty) := by
    rw [Literals.input, literalsOf]
    dsimp only
    cases hr : o.input with
    | none =>
      rw [inputName, hr]
      rfl
    | some r =>
      have hshape : m.shape (.str (m.graph.shape r).name) = .ok r :=
        (ServiceModel.shape_eq_ok_iff unique).mpr rfl
      rw [inputName, hr, Option.map_some, optionalText, hshape, Option.filter_some]
      cases hempty : (m.graph.shape r).name.isEmpty with
      | true =>
        rw [Value.truthy, hempty]
        rfl
      | false =>
        rw [Value.truthy, hempty]
        rfl
  rw [Literals.operation, hinput]
  rfl

/-- The class of an operation writes what the model's own operation writes, under the name of the
operation in the model and with no input if the name of the input is empty. If the definition gives
no other name and the input has a name, they write the same: for every service and endpoint both are
refused alike, or give the same requests and errors for all values. -/
theorem exists_operation_literalsOf {d : Json} {m : ServiceModel} (hd : ServiceModel.load d = .ok m)
    {name : String} {o : Operation m.graph} (ho : m.operation (.str name) = .ok o) :
    (∀ text, classOf m name = .ok text →
      ∃ display, text = classText display (literalsOf name o)) ∧
    ∃ b, (literalsOf name o).operation m = .ok b ∧
      (∀ (s : Service) (endpoint : Value),
        (s.requestWriter b endpoint).map RequestWriter.write =
          (s.requestWriter (asGenerated name o) endpoint).map RequestWriter.write) ∧
      (o.name = .str name → (∀ r, o.input = some r → (m.graph.shape r).name ≠ "") →
        ∀ (s : Service) (endpoint : Value),
          (s.requestWriter b endpoint).map RequestWriter.write =
            (s.requestWriter o endpoint).map RequestWriter.write) := by
  refine ⟨fun text htext => ?_, _, operation_literalsOf (ServiceModel.unique_of_load hd) name o,
    fun s endpoint => s.write_requestPart _ endpoint, fun hname named s endpoint => ?_⟩
  · rw [classOf, ho, ok_bind] at htext
    obtain ⟨display, -, htext⟩ := exists_of_bind htext
    exact ⟨display, (Except.ok.inj htext).symm⟩
  · rw [s.write_requestPart, asGenerated_eq_self hname named]

/-- The definitions of a service that puts things under a name. -/
def things (name : String) : Json :=
  .object
    [("shapes", .object [("Thing", .object [("type", .str "structure")])]),
      ("operations", .object [("PutThing", .object
        [("name", .str name), ("input", .object [("shape", .str "Thing")])])])]

/-- The graph of things. -/
def thingGraph : Graph := ⟨1, #v[{ name := "Thing", form := .struct [] }]⟩

/-- The operation that puts a thing. -/
def putThing (name : String) : Operation thingGraph where
  name := .str name
  input := some ⟨0, by decide⟩

/-- The model of things. -/
def thingModel (name : String) : ServiceModel := ⟨[], thingGraph, [("PutThing", putThing name)]⟩

theorem load_things (name : String) : ServiceModel.load (things name) = .ok (thingModel name) := by
  rfl

/-- The class of an operation that is named as it stands in the model writes its requests. -/
theorem exists_operation_literalsOf_things :
    ∃ b, (literalsOf "PutThing" (putThing "PutThing")).operation (thingModel "PutThing") = .ok b ∧
      ∀ (s : Service) (endpoint : Value),
        (s.requestWriter b endpoint).map RequestWriter.write =
          (s.requestWriter (putThing "PutThing") endpoint).map RequestWriter.write := by
  obtain ⟨-, b, hb, -, hwrite⟩ := exists_operation_literalsOf (load_things "PutThing")
    (show (thingModel "PutThing").operation (.str "PutThing") = .ok (putThing "PutThing") from rfl)
  refine ⟨b, hb, hwrite rfl fun r hr => ?_⟩
  cases hr
  decide

/-- A JSON service for things. -/
def thingService : Service where
  protocol := .json
  settings := {}
  targetPrefix := .str "T"
  apiVersion := .null
  jsonVersion := .str "1.1"
  codec := Service.codecOf .json {}
  formCodec := none

/-- The header fields of the request that is written for an empty mapping. -/
def headersOf (write : Except Defect (Value → Except WireError Http.Request × List Increment)) :
    Option (List String) := do
  let write ← write.toOption
  let q ← (write (.dict [])).1.toOption
  return q.headers.map Prod.snd

/-- The class of an operation that has another name does not write its requests. -/
theorem operation_literalsOf_renamed :
    ServiceModel.load (things "PutThing2020") = .ok (thingModel "PutThing2020") ∧
    (thingModel "PutThing2020").operation (.str "PutThing") = .ok (putThing "PutThing2020") ∧
    ∃ b, (literalsOf "PutThing" (putThing "PutThing2020")).operation (thingModel "PutThing2020") =
        .ok b ∧
      (thingService.requestWriter b .null).map RequestWriter.write ≠
        (thingService.requestWriter (putThing "PutThing2020") .null).map RequestWriter.write := by
  have hclass : headersOf ((thingService.requestWriter
      (asGenerated "PutThing" (putThing "PutThing2020")).requestPart .null).map
        RequestWriter.write) = some ["T.PutThing", "application/x-amz-json-1.1"] := by
    cbv
  have hmodel : headersOf ((thingService.requestWriter (putThing "PutThing2020") .null).map
      RequestWriter.write) = some ["T.PutThing2020", "application/x-amz-json-1.1"] := by
    cbv
  refine ⟨load_things _, rfl, _, operation_literalsOf
    (ServiceModel.unique_of_load (load_things "PutThing2020")) _ _, fun h => ?_⟩
  exact absurd (hclass.symm.trans ((congrArg headersOf h).trans hmodel)) (by decide)

end Codegen.RequestModule

end ServiceWire
