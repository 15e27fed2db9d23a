import ServiceWire.Value.Entries
import ServiceWire.Xml.Name

/-!
# XML trees

The part of an XML document that carries data: elements with their attributes, the text before the
first child, and the children. Names carry their namespace in braces in front. The names and
attribute values of a document are texts; a tree that was made from values may have others in their
place, and then has no text.

A reader goes through a tree by the children of its elements. The result for an element is made
from the element and from the results for its children, as `Element.fold_eq` says.
-/

namespace ServiceWire.Xml

/-- An element. -/
inductive Element where
  | node (tag : Value) (attributes : List (Value × Value)) (text : String)
      (children : List Element)

instance : Inhabited Element := ⟨.node .null [] "" []⟩

namespace Element

/-- The name of an element. -/
def tag : Element → Value
  | node t _ _ _ => t

/-- The attributes of an element, in order. -/
def attributes : Element → List (Value × Value)
  | node _ a _ _ => a

/-- The text of an element before its first child. -/
def text : Element → String
  | node _ _ s _ => s

/-- The child elements, in order. -/
def children : Element → List Element
  | node _ _ _ c => c

/-- The name of an element without its namespace. -/
def localName (e : Element) : Value :=
  match e.tag with
  | .str s => .str (Xml.localName s)
  | v => v

/-- Whether an element has a local name. -/
def isNamed (e : Element) (name : Value) : Bool := e.localName == name

mutual

/-- An element and all elements in it, in document order. -/
def descendants : Element → List Element
  | node t a s c => node t a s c :: descendantsOfAll c

/-- A sequence of elements and all elements in them. -/
def descendantsOfAll : List Element → List Element
  | [] => []
  | e :: rest => descendants e ++ descendantsOfAll rest

end

/-! ### Going through a tree -/

/-- An element with a result for each of its children. -/
structure View (ρ : Type) where
  whole : Element
  children : List (Element × ρ)

/-- An element with the results that a function gives for its children. -/
def view {ρ : Type} (r : Element → ρ) (e : Element) : View ρ :=
  ⟨e, e.children.map fun c => (c, r c)⟩

mutual

/-- The result for an element, made from the results for its children. -/
def fold {ρ : Type} (f : View ρ → ρ) : Element → ρ
  | node tag attributes text children =>
    f ⟨node tag attributes text children, foldAll f children⟩

/-- The results for a sequence of elements. -/
def foldAll {ρ : Type} (f : View ρ → ρ) : List Element → List (Element × ρ)
  | [] => []
  | e :: rest => (e, fold f e) :: foldAll f rest

end

variable {ρ : Type} (f : View ρ → ρ)

theorem foldAll_eq (es : List Element) : foldAll f es = es.map fun e => (e, fold f e) := by
  induction es with
  | nil => simp [foldAll]
  | cons e rest ih => simp [foldAll, ih]

theorem fold_eq (e : Element) : fold f e = f (e.view (fold f)) := by
  cases e
  simp [fold, view, children, foldAll_eq]

end Element

end ServiceWire.Xml
