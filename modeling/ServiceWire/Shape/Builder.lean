import ServiceWire.Defect
import ServiceWire.Shape.Graph

/-!
# Building graphs by hand

A shape is put at the end of a graph and may refer to the shapes before it. What a shape needs is
checked when it is put in. A structure that was put in without members can be given them later,
once; in this way it may refer to itself.
-/

namespace ServiceWire

/-- A member in a graph with one more shape. -/
def Member.lift {n : Nat} (m : Member n) : Member (n + 1) :=
  { m with shape := m.shape.castSucc }

/-- A form in a graph with one more shape. -/
def Form.lift {n : Nat} : Form n → Form (n + 1)
  | .struct ms => .struct (ms.map Member.lift)
  | .list m => .list m.castSucc
  | .map k v => .map k.castSucc v.castSucc
  | .scalar k => .scalar k

/-- A shape in a graph with one more shape. -/
def Shape.lift {n : Nat} (s : Shape n) : Shape (n + 1) :=
  { s.toTraits with name := s.name, form := s.form.lift }

namespace Graph

/-- The graph with a shape put at its end. -/
def push (g : Graph) (s : Shape g.size) : Graph :=
  ⟨g.size + 1, (g.shapes.map Shape.lift).push s.lift⟩

/-- The reference to the last shape of a graph to which one was put. -/
def last (g : Graph) (s : Shape g.size) : (g.push s).Ref := Fin.last g.size

/-- A reference in a graph with one more shape. -/
def liftRef (g : Graph) (s : Shape g.size) (r : g.Ref) : (g.push s).Ref := r.castSucc

/-- What a shape is to be made of. -/
structure Parts (n : Nat) where
  members : List (Member n) := []
  member : Option (Fin n) := none
  key : Option (Fin n) := none
  value : Option (Fin n) := none

/-- The shape of a kind, made of parts that fit the kind. -/
def makeShape (g : Graph) (name : String) (kind : ShapeKind) (parts : Parts g.size)
    (traits : Traits) : Except Defect (Shape g.size) := do
  let form : Form g.size ← match kind with
    | .list =>
      match parts.member with
      | some m => pure (.list m)
      | none => throw (.listWithoutMember name)
    | .map =>
      match parts.key, parts.value with
      | some k, some v =>
        if (g.shape k).kind = .scalar .string then pure (.map k v)
        else throw (.mapKeyNotString name)
      | _, _ => throw (.mapWithoutParts name)
    | .struct => pure (.struct parts.members)
    | .scalar k => pure (.scalar k)
  if kind ≠ .struct && !parts.members.isEmpty then throw (.membersOutsideStructure name kind.label)
  return { traits with name := name, form := form }

/-- The shape of a kind of scalars. -/
def makeScalar (g : Graph) (name : String) (kind : ShapeKind) (traits : Traits) :
    Except Defect (Shape g.size) :=
  if kind.isScalar then g.makeShape name kind {} traits
  else .error (.notScalarKind name kind.label)

/-- The graph with members bound to a structure that has none yet. -/
def assignMembers (g : Graph) (r : g.Ref) (members : List (Member g.size)) :
    Except Defect { h : Graph // h.size = g.size } :=
  let s := g.shape r
  match s.form with
  | .struct [] => .ok ⟨g.replace r { s with form := .struct members }, rfl⟩
  | .struct _ => .error (.membersAlreadyBound s.name)
  | _ => .error (.membersOfOtherKind s.name s.kind.label)

end Graph

/-- A graph that is being built, and its shapes by the names they are built under. -/
structure Registry where
  graph : Graph := .empty
  known : List (String × graph.Ref) := []

namespace Registry

/-- The shape that was built under a name. -/
def find? (r : Registry) (name : String) : Option r.graph.Ref := r.known.lookup name

/-- The registry with a shape built under a name. -/
def put (r : Registry) (name : String) (s : Shape r.graph.size) : Registry where
  graph := r.graph.push s
  known := Entries.put name (r.graph.last s) (r.known.map fun p => (p.1, r.graph.liftRef s p.2))

/-- The registry with members bound to a structure that has none yet. -/
def assignMembers (r : Registry) (ref : r.graph.Ref) (members : List (Member r.graph.size)) :
    Except Defect Registry := do
  let ⟨g, h⟩ ← r.graph.assignMembers ref members
  return ⟨g, r.known.map fun p => (p.1, p.2.cast h.symm)⟩

end Registry

/-! ### Reports -/

namespace Graph

variable (g : Graph)

/-- A member as a report. -/
def memberReport (m : Member g.size) : Value :=
  .ofFields
    [("name", .str m.name), ("shape", .str (g.shape m.shape).name),
      ("location", .str m.location.label), ("wire_name", m.wireName),
      ("payload", .bool m.payload), ("xml_attribute", .bool m.xmlAttribute),
      ("required", .bool m.required)]

/-- The names of the flags that are set. -/
def flagNames (t : Traits) : List String :=
  ([("streaming", t.streaming), ("event_stream", t.eventStream), ("event", t.event),
    ("exception", t.isError), ("flattened", t.flattened),
    ("use_root_xml_element", t.rootElement)].filter Prod.snd).map Prod.fst

/-- An optional text as a value. -/
def nameValue : Option String → Value
  | some s => .str s
  | none => .null

/-- The names of some shapes. -/
def shapeNames (rs : List g.Ref) : Value := .list (rs.map fun r => .str (g.shape r).name)

/-- The short text of a shape. -/
def shortText (s : Shape g.size) : String :=
  s!"Shape(name={Quoted.text s.name}, kind={s.kind.label})"

/-- A shape as a report. -/
def shapeReport (r : g.Ref) : Value :=
  let s := g.shape r
  let refName := fun (q : g.Ref) => Value.str (g.shape q).name
  let refs := match s.form with
    | .list m => [refName m, .null, .null]
    | .map k v => [.null, refName k, refName v]
    | _ => [.null, .null, .null]
  .ofFields
    [("name", .str s.name), ("kind", .str s.kind.label), ("repr", .str (g.shortText s)),
      ("scalar", .bool s.kind.isScalar), ("members", .list (s.members.map g.memberReport)),
      ("refs", .list refs), ("flags", .list ((flagNames s.toTraits).map .str)),
      ("names", .list [s.rootName, s.xmlNamespace, s.itemName, s.keyName, s.valueName]),
      ("payload_member", nameValue (s.payloadMember?.map Member.name)),
      ("has_payload_member", .bool s.hasPayload),
      ("has_streaming_member", .bool (g.hasStreamingMember r)),
      ("body_members", .list (s.bodyMembers.map fun m => .str m.name)),
      ("children", g.shapeNames s.children), ("reachable", g.shapeNames (g.reachable r))]

end Graph

end ServiceWire
