import ServiceWire.Codec.JsonBody
import ServiceWire.Xml.Reader
import ServiceWire.Xml.Element
import ServiceWire.Xml.Writer

/-!
# XML bodies

Values as XML trees. A structure is an element with a child or an attribute for each member, a list
an element with a child for each item, a map an element with an entry for each key. A flattened
container has no element of its own: its items stand where it would stand. Reading finds members
by the local names of the children, whatever their order, and notes children that no member
stands for. A wire name that cannot be a key is refused where a name is looked up or put.
-/

namespace ServiceWire.XmlBody

open ServiceWire.Xml (Element)

variable (c : Codec) (g : Graph)

/-- What writes a value as elements, given its shape and the name of its element. -/
structure Writing where
  /-- The element of the value. -/
  element : g.Ref → Value → Except Fault Element
  /-- What stands for the value inside a structure. -/
  inside : g.Ref → Value → Except Fault (List Element)

/-- What reads an element, given its shape. -/
structure Reader where
  /-- The value of the element. -/
  value : g.Ref → Reading Value
  /-- The key and value of the element as an entry of a map. -/
  entry : g.Ref → Reading (String × Value)

/-! ### Writing -/

/-- An element that holds a text alone. -/
def textElement (tag : Value) (text : String) : Element := .node tag [] text []

/-- An element that holds children alone. -/
def parentElement (tag : Value) (children : List Element) : Element := .node tag [] "" children

/-- What stands for a member of a structure: attributes and children. -/
def writeMember (w : View (Writing g)) (acc : List (Value × Value) × List Element)
    (m : Member g.size) : Except Fault (List (Value × Value) × List Element) :=
  match w.member? m.name with
  | none => .ok acc
  | some (v, write) =>
    let s := g.shape m.shape
    if m.xmlAttribute then do
      let text ← (Scalar.toText .iso8601 s.name s.kind v).mapError .failure
      let name ← m.wireName.asKey.mapError .failure
      return (Entries.put name (.str text) acc.1, acc.2)
    else do
      let es ← write.inside m.shape m.wireName
      return (acc.1, acc.2 ++ es)

/-- The members of a structure as an element. -/
def writeMembers (members : List (Member g.size)) (tag : Value) (w : View (Writing g)) :
    Except Fault Element :=
  (members.foldlM (writeMember g w) ([], [])).map fun p => .node tag p.1 "" p.2

/-- The items of a sequence. -/
def itemsFor (s : Shape g.size) (w : View (Writing g)) : Except Fault (List (Value × Writing g)) :=
  match w.items? with
  | none => .error (.failure (.expectedFor "list" s.name w.whole.typeName))
  | some items => .ok items

/-- The entries of a mapping. -/
def entriesFor (s : Shape g.size) (w : View (Writing g)) :
    Except Fault (List (Value × Value × Writing g)) :=
  match w.entries? with
  | none => .error (.failure (.expectedFor "mapping" s.name w.whole.typeName))
  | some entries => .ok entries

/-- An entry of a map as an element. -/
def writeEntry (s : Shape g.size) (value : g.Ref) (tag : Value) (p : Value × Value × Writing g) :
    Except Fault Element := do
  let key ← (Scalar.string p.1).mapError .failure
  c.needWriter (g.shape value)
  let e ← p.2.2.element value s.valueTag
  return parentElement tag [textElement s.keyTag key, e]

/-- The element of a value, from the elements of its parts. -/
def writeElement (w : View (Writing g)) (r : g.Ref) (tag : Value) : Except Fault Element :=
  let s := g.shape r
  match s.form with
  | .struct members => writeMembers g members tag w
  | .list item => do
    let items ← itemsFor g s w
    c.needWriter (g.shape item)
    let es ← items.mapM fun p => p.2.element item s.itemTag
    return parentElement tag es
  | .map _ value => do
    let entries ← entriesFor g s w
    let es ← entries.mapM (writeEntry c g s value (.str "entry"))
    return parentElement tag es
  | .scalar k => ((Scalar.textOf .iso8601 k w.whole).mapError .failure).map (textElement tag)

/-- What stands for a value inside a structure, from the elements of its parts. -/
def writeInside (w : View (Writing g)) (r : g.Ref) (tag : Value) :
    Except Fault (List Element) :=
  let s := g.shape r
  match s.flattened, s.form with
  | true, .list item => do
    let items ← itemsFor g s w
    items.mapM fun p => do
      c.needWriter (g.shape item)
      p.2.element item tag
  | true, .map _ value => do
    let entries ← entriesFor g s w
    entries.mapM (writeEntry c g s value tag)
  | _, _ => do
    c.needWriter s
    let e ← writeElement c g w r tag
    return [e]

/-- What writes a value, from what writes its parts. -/
def writeView (w : View (Writing g)) : Writing g := ⟨writeElement c g w, writeInside c g w⟩

/-- What writes a value. -/
def write (v : Value) : Writing g := v.fold (writeView c g)

theorem write_eq (v : Value) : write c g v = writeView c g (v.view (write c g)) :=
  Value.fold_eq _ v

theorem element_eq {g : Graph} (v : Value) (r : g.Ref) (tag : Value) :
    (write c g v).element r tag = writeElement c g (v.view (write c g)) r tag :=
  congrArg (fun w => w.element r tag) (write_eq c g v)

theorem inside_eq {g : Graph} (v : Value) (r : g.Ref) (tag : Value) :
    (write c g v).inside r tag = writeInside c g (v.view (write c g)) r tag :=
  congrArg (fun w => w.inside r tag) (write_eq c g v)

/-- The element of a whole value; of a structure, only some members may be asked for. -/
def toElement (v : Value) (r : g.Ref) (tag : Value) (members : Option (List (Member g.size))) :
    Except Fault Element :=
  match (g.shape r).form with
  | .struct all => writeMembers g (members.getD all) tag (v.view (write c g))
  | _ => do
    c.needWriter (g.shape r)
    (write c g v).element r tag

/-- The element with a namespace declared for the names without one, unless it is empty. -/
def declare (ns : Value) (e : Element) : Element :=
  if ns.truthy then .node e.tag (Entries.put (.str "xmlns") ns e.attributes) e.text e.children
  else e

/-- The namespace of a document: that of its shape, else that of the settings. -/
def namespaceFor (s : Shape g.size) : Value := s.xmlNamespace.orElse c.xmlNamespace

/-- The text of a whole value, as bytes. The root element has the name that is asked for, else that
of the shape. -/
def encode (v : Value) (r : g.Ref) (root : Value) (members : Option (List (Member g.size))) :
    Except Fault Bytes := do
  let s := g.shape r
  let e ← toElement c g v r (root.orElse s.rootTag) members
  let text ← (Xml.render (declare (namespaceFor c g s) e)).mapError .failure
  return bytesOf text

/-! ### Reading -/

/-- The elements with a local name. -/
def named {α : Type} (name : Value) (elements : List (Element × α)) : List (Element × α) :=
  elements.filter fun p => p.1.isNamed name

/-- The children that no member stands for, given the names of those that members stand for. -/
def untaken {α : Type} (taken : List Value) (elements : List (Element × α)) :
    List (Element × α) :=
  elements.filter fun p => !taken.any p.1.isNamed

/-- The children that are left for a member with a name. -/
theorem named_untaken {α : Type} (name : Value) (taken : List Value)
    (elements : List (Element × α)) : named name (untaken taken elements) =
      elements.filter fun p => p.1.isNamed name && !taken.any p.1.isNamed :=
  List.filter_filter ..

/-- The value of a member of a structure, from the children that stand for it, if there are any. -/
def readBlock (r : g.Ref) : List (Element × Reader g) → Reading (Option Value)
  | [] => pure none
  | first :: rest =>
    let s := g.shape r
    match s.flattened, s.form with
    | true, .list item => do
      Reading.ofOutcome (c.needReader (g.shape item))
      let vs ← (first :: rest).mapM fun p => p.2.value item
      return some (.list vs)
    | true, .map _ _ => do
      let entries ← (first :: rest).mapM fun p => p.2.entry r
      return some (.ofFields (Entries.ofPairs entries))
    | _, _ => do
      Reading.ofOutcome (c.needReader s)
      let v ← first.2.value r
      return some v

/-- The value of a member of a structure, if the element has it. The names of the children that
earlier members stand for are given. -/
def readMember (elements : List (Element × Reader g)) (attributes : List (Value × Value))
    (taken : List Value) (m : Member g.size) : Reading (Option Value) :=
  if m.xmlAttribute then do
    let s := g.shape m.shape
    let name ← Reading.ofConversion m.wireName.asKey
    match attributes.lookup name with
    | none => pure none
    | some raw => Reading.ofConversion ((Scalar.fromValue s.name s.kind raw).map some)
  else do
    let left := untaken taken elements
    let name ← Reading.ofConversion (if left.isEmpty then .ok m.wireName else m.wireName.asKey)
    readBlock c g m.shape (named name left)

/-- The names of the children that a member stands for. -/
def takenBy (m : Member g.size) : List Value := if m.xmlAttribute then [] else [m.wireName]

/-- The values of the members of a structure, in their order. -/
def readEach (elements : List (Element × Reader g)) (attributes : List (Value × Value)) :
    List (Member g.size) → List Value → List (String × Value) → Reading (List (String × Value))
  | [], _, values => pure values
  | m :: rest, taken, values => do
    let v? ← readMember c g elements attributes taken m
    let values := match v? with
      | some v => Entries.put m.name v values
      | none => values
    readEach elements attributes rest (takenBy g m ++ taken) values

/-- A list with only the first of each equal items. -/
def distinct (names : List Value) : List Value :=
  names.foldl (fun acc v => if acc.contains v then acc else acc ++ [v]) []

/-- The values of members of a structure, from elements and attributes. -/
def readMembers (s : Shape g.size) (members : List (Member g.size))
    (elements : List (Element × Reader g)) (attributes : List (Value × Value)) :
    Reading (List (String × Value)) := do
  let values ← readEach c g elements attributes members [] []
  let left := untaken (members.flatMap (takenBy g)) elements
  JsonBody.noteUnknown c s.name (distinct (left.map fun p => p.1.localName))
  return values

/-- The key of an entry: the text of its last key element. -/
def entryKey? (s : Shape g.size) (children : List (Element × Reader g)) : Option String :=
  (named s.keyTag children).getLast?.map fun p => p.1.text

/-- The value element of an entry: its last one. An element with the name of the key is none. -/
def entryValue? (s : Shape g.size) (children : List (Element × Reader g)) :
    Option (Element × Reader g) :=
  if s.keyTag == s.valueTag then none else (named s.valueTag children).getLast?

/-- The key and value of an element as an entry of a map. -/
def readEntry (w : Element.View (Reader g)) (r : g.Ref) : Reading (String × Value) :=
  let s := g.shape r
  match entryKey? g s w.children with
  | none => .fail (.failure (.keylessEntry s.name s.keyTag.text))
  | some key =>
    match entryValue? g s w.children, s.form with
    | some (_, read), .map _ value => do
      Reading.ofOutcome (c.needReader (g.shape value))
      let v ← read.value value
      return (key, v)
    | _, _ => return (key, .null)

/-- The value of an element, from the values of its parts. -/
def readValue (w : Element.View (Reader g)) (r : g.Ref) : Reading Value :=
  let s := g.shape r
  match s.form with
  | .struct members => do
    let values ← readMembers c g s members w.children w.whole.attributes
    Reading.ofConversion (s.build values)
  | .list item => do
    Reading.ofOutcome (c.needReader (g.shape item))
    let vs ← w.children.mapM fun p => p.2.value item
    return .list vs
  | .map _ _ => do
    let entries ← w.children.mapM fun p => p.2.entry r
    return .ofFields (Entries.ofPairs entries)
  | .scalar k => Reading.ofConversion (Scalar.ofText k w.whole.text)

/-- What reads an element, from what reads its parts. -/
def readView (w : Element.View (Reader g)) : Reader g := ⟨readValue c g w, readEntry c g w⟩

/-- What reads an element. -/
def read (e : Element) : Reader g := e.fold (readView c g)

theorem read_eq (e : Element) : read c g e = readView c g (e.view (read c g)) :=
  Element.fold_eq _ e

theorem value_eq {g : Graph} (e : Element) (r : g.Ref) :
    (read c g e).value r = readValue c g (e.view (read c g)) r :=
  congrArg (fun w => w.value r) (read_eq c g e)

theorem entry_eq {g : Graph} (e : Element) (r : g.Ref) :
    (read c g e).entry r = readEntry c g (e.view (read c g)) r :=
  congrArg (fun w => w.entry r) (read_eq c g e)

/-- The elements with what reads them. -/
def readers (es : List Element) : List (Element × Reader g) := es.map fun e => (e, read c g e)

/-- The values of some members of a structure, from elements and attributes. -/
def readSome (r : g.Ref) (members : List (Member g.size)) (elements : List Element)
    (attributes : List (Value × Value)) : Reading (List (String × Value)) :=
  readMembers c g (g.shape r) members (readers c g elements) attributes

/-- The value of a whole tree. -/
def ofElement (e : Element) (r : g.Ref) : Reading Value := do
  Reading.ofOutcome (c.needReader (g.shape r))
  (read c g e).value r

end ServiceWire.XmlBody
