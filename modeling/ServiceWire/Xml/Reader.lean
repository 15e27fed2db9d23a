import ServiceWire.Xml.Element
import ServiceWire.Xml.Markup

/-!
# Reading XML

A tree is read from the bytes of a document. Tags are matched, prefixes are resolved in the scope
of their element, and of the texts of an element only the one before its first child is kept.
-/

namespace ServiceWire.Xml

/-- The namespaces in scope, by prefix; the empty prefix is the default. -/
abbrev Scope := List (String × String)

/-- The namespace of the `xml` prefix. -/
def xmlUri : String := "http://www.w3.org/XML/1998/namespace"

/-- The namespace of declarations. -/
def xmlnsUri : String := "http://www.w3.org/2000/xmlns/"

/-- The scope outside the root. -/
def Scope.initial : Scope := [("xml", xmlUri)]

/-- The prefix an attribute declares a namespace for, if it does. -/
def declaredPrefix? : QName → Option String
  | ⟨none, "xmlns"⟩ => some ""
  | ⟨some "xmlns", name⟩ => some name
  | _ => none

/-- The scope with a declaration. Prefixes are not undeclared, `xml` keeps its namespace, which no
other prefix gets, and `xmlns` is not declared at all. -/
def Scope.declare? (scope : Scope) (name uri : String) : Option Scope :=
  if name == "xmlns" || uri == xmlnsUri then none
  else if (name == "xml") != (uri == xmlUri) then none
  else if !name.isEmpty && uri.isEmpty then none
  else if Text.containsText uri "\x7d" then none
  else some ((name, uri) :: scope)

/-- The scope inside an element with the given attributes. -/
def Scope.enter? (scope : Scope) (attributes : List (QName × String)) : Option Scope :=
  attributes.foldlM (fun scope p => match declaredPrefix? p.1 with
    | some name => scope.declare? name p.2
    | none => some scope) scope

/-- The name of an element in its scope. -/
def Scope.elementName? (scope : Scope) (name : QName) : Option String :=
  match name.space with
  | none => some (expandedName ((scope.lookup "").getD "") name.local_)
  | some space => (scope.lookup space).map fun uri => expandedName uri name.local_

/-- The name of an attribute in its scope; the default namespace is not for attributes. -/
def Scope.attributeName? (scope : Scope) (name : QName) : Option String :=
  match name.space with
  | none => some name.local_
  | some space => (scope.lookup space).map fun uri => expandedName uri name.local_

/-- The attributes of an element in its scope, without declarations; no name occurs twice. -/
def Scope.attributes? (scope : Scope) (attributes : List (QName × String)) :
    Option (List (String × String)) :=
  (attributes.filter fun p => (declaredPrefix? p.1).isNone).foldlM (fun acc p => do
    let name ← scope.attributeName? p.1
    if Entries.has acc name then none else return acc ++ [(name, p.2)]) []

/-- An element whose closing tag has not come yet; its children are kept last first. -/
structure Frame where
  name : QName
  tag : String
  attributes : List (String × String)
  text : List Char
  children : List Element
  scope : Scope

/-- The element a frame becomes. -/
def Frame.close (f : Frame) : Element :=
  .node (.str f.tag) (f.attributes.map fun p => (.str p.1, .str p.2)) (String.ofList f.text)
    f.children.reverse

/-- Builds the tree of a sequence of tags and texts, given the open elements, innermost first, and
the root, once it is closed. -/
def build? : List Frame → Option Element → List Markup → Option Element
  | [], root, [] => root
  | _ :: _, _, [] => none
  | [], root, .text literal cs :: rest =>
    if literal && cs.all isSpaceChar then build? [] root rest else none
  | f :: open_, root, .text _ cs :: rest =>
    let f := if f.children.isEmpty then { f with text := f.text ++ cs } else f
    build? (f :: open_) root rest
  | open_, root, .opening name attributes :: rest => do
    let outer := match open_ with
      | f :: _ => f.scope
      | [] => .initial
    if open_.isEmpty && root.isSome then none
    else
      let scope ← outer.enter? attributes
      let tag ← scope.elementName? name
      let attributes ← scope.attributes? attributes
      build? (⟨name, tag, attributes, [], [], scope⟩ :: open_) root rest
  | [], _, .closing _ :: _ => none
  | f :: open_, root, .closing name :: rest =>
    if f.name = name then
      match open_ with
      | [] => build? [] (some f.close) rest
      | g :: open_ => build? ({ g with children := f.close :: g.children } :: open_) root rest
    else none

/-- The tree of a document. -/
def Source.tree (source : Source) : Except Failure Element :=
  match (markup? source).bind (build? [] none) with
  | some e => .ok e
  | none => .error (.plain .malformedXml)

/-- The tree of a document in bytes. -/
def parse (bs : Bytes) : Except Failure Element := do (← Source.ofBytes bs).tree

/-- The tree of a document that is a text. -/
def parseText (s : String) : Except Failure Element := do (← Source.ofText s).tree

/-- The tree of the document that a value is, a text or bytes. -/
def parseValue : Value → Except Failure Element
  | .str s => parseText s
  | .bytes _ data => parse data
  | _ => .error (.plain .type)

end ServiceWire.Xml
