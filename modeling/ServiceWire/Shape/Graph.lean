import ServiceWire.Shape.Kind
import ServiceWire.Value

/-!
# Shape graphs

The shapes of a service refer to each other, also in circles: a structure may contain itself. A
graph therefore numbers its shapes, and a reference is the number of a shape of the same graph, so
that every reference leads somewhere. Two shapes are the same when their numbers are; names need
not differ.

`Graph.reachable` walks everything a shape refers to. Each step of the walk yields one shape that
was not yielded before, so that the number of shapes bounds the walk.

The names that stand for parts on the wire are texts as a rule, but a description may give any
value: an empty one counts as none, and any other is kept as it is, so that each form of bodies can
say what it makes of it.
-/

namespace ServiceWire

/-- A member of a structure in a graph of `n` shapes. -/
structure Member (n : Nat) where
  name : String
  shape : Fin n
  location : Location := .body
  /-- The name that stands for the member's own on the wire, unless it is empty. -/
  locationName : Value := .null
  /-- Whether the member is the whole body. -/
  payload : Bool := false
  /-- Whether the member is an attribute of its XML element. -/
  xmlAttribute : Bool := false
  required : Bool := false

/-- The name of a member on the wire. -/
def Member.wireName {n : Nat} (m : Member n) : Value := m.locationName.orElse (.str m.name)

/-- What a shape consists of. -/
inductive Form (n : Nat)
  | struct (members : List (Member n))
  | list (member : Fin n)
  | map (key value : Fin n)
  | scalar (kind : ScalarKind)

/-- The kind of a form. -/
def Form.kind {n : Nat} : Form n → ShapeKind
  | .struct _ => .struct
  | .list _ => .list
  | .map _ _ => .map
  | .scalar k => .scalar k

/-- What is said of a shape beside its form. -/
structure Traits where
  streaming : Bool := false
  /-- Whether the shape is a union of events. -/
  eventStream : Bool := false
  event : Bool := false
  /-- Whether the shape is an error. -/
  isError : Bool := false
  /-- Whether the items stand in the place of their container. -/
  flattened : Bool := false
  /-- Whether the root element itself holds the result. -/
  rootElement : Bool := false
  rootName : Value := .null
  xmlNamespace : Value := .null
  itemName : Value := .null
  keyName : Value := .null
  valueName : Value := .null
  /-- The members that the shape's own constructor asks for, if it has one. -/
  construct : Option (List String) := none

/-- A shape in a graph of `n` shapes. -/
structure Shape (n : Nat) extends Traits where
  name : String
  form : Form n

namespace Shape

variable {n : Nat}

/-- The kind of a shape. -/
def kind (s : Shape n) : ShapeKind := s.form.kind

/-- The members of a structure; other shapes have none. -/
def members (s : Shape n) : List (Member n) :=
  match s.form with
  | .struct ms => ms
  | _ => []

/-- The member that is the whole body: the first one that says so. -/
def payloadMember? (s : Shape n) : Option (Member n) := s.members.find? fun m => m.payload

/-- Whether a member is the whole body. -/
def hasPayload (s : Shape n) : Bool := s.payloadMember?.isSome

/-- The members that share the body. -/
def bodyMembers (s : Shape n) : List (Member n) :=
  s.members.filter fun m => m.location == .body && !m.payload

/-- The member with a name. -/
def member? (s : Shape n) (name : String) : Option (Member n) :=
  s.members.find? fun m => m.name == name

/-- The shapes that a shape refers to, in order. -/
def children (s : Shape n) : List (Fin n) :=
  match s.form with
  | .struct ms => ms.map fun m => m.shape
  | .list m => [m]
  | .map k v => [k, v]
  | .scalar _ => []

/-- The name of the element of an item. -/
def itemTag (s : Shape n) : Value := s.itemName.orElse (.str "member")

/-- The name of the element of a key. -/
def keyTag (s : Shape n) : Value := s.keyName.orElse (.str "key")

/-- The name of the element of a value. -/
def valueTag (s : Shape n) : Value := s.valueName.orElse (.str "value")

/-- The name of a document's root element, unless another is asked for. -/
def rootTag (s : Shape n) : Value := s.rootName.orElse (.str s.name)

end Shape

/-- A graph of shapes. -/
structure Graph where
  size : Nat
  shapes : Vector (Shape size) size

namespace Graph

/-- The graph without shapes. -/
def empty : Graph := ⟨0, #v[]⟩

/-- A reference to a shape of a graph. -/
abbrev Ref (g : Graph) : Type := Fin g.size

/-- The shape with a number. -/
def shape (g : Graph) (r : g.Ref) : Shape g.size := g.shapes[r]

/-- The graph with one of its shapes replaced. -/
def replace (g : Graph) (r : g.Ref) (s : Shape g.size) : Graph :=
  ⟨g.size, g.shapes.set r.val s r.isLt⟩

/-- The members of a structure in a graph. -/
def members (g : Graph) (r : g.Ref) : List (Member g.size) := (g.shape r).members

/-- Whether a member of a structure is a stream. -/
def hasStreamingMember (g : Graph) (r : g.Ref) : Bool :=
  (g.members r).any fun m => (g.shape m.shape).streaming

/-- Goes on with a walk: `seen` has been yielded, `stack` is to be looked at, first things first.
The count bounds the shapes that are left. -/
def walk (g : Graph) : Nat → List g.Ref → List g.Ref → List g.Ref
  | 0, _, _ => []
  | left + 1, seen, stack =>
    match stack.dropWhile fun r => seen.contains r with
    | [] => []
    | r :: rest => r :: walk g left (r :: seen) ((g.shape r).children ++ rest)

/-- All shapes that can be reached from a shape, itself first, each once: after a shape comes
everything below its first child, then everything below the next. -/
def reachable (g : Graph) (start : g.Ref) : List g.Ref := g.walk g.size [] [start]

/-- The shape with this name that is first in the graph. -/
def find? (g : Graph) (name : String) : Option g.Ref :=
  (List.finRange g.size).find? fun r => (g.shape r).name == name

end Graph

end ServiceWire
