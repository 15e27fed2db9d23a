import ServiceWire.Fault
import ServiceWire.Json.Document
import ServiceWire.Shape.Graph

/-!
# Shape definitions

The shapes of a service are given as a mapping from names to definitions that refer to each other
by name. They are made into a graph in two passes. The first takes the definitions in order and
follows the references of lists and maps, so that what a shape refers to comes before it; a shape
that refers to itself in this way has no form. The second binds the members of the structures,
which may refer to any shape.
-/

namespace ServiceWire

/-- The items that a document yields when they are collected, as far as they can be. -/
def Json.collected : Json → Except Failure (List Json)
  | .array items =>
    if items.any fun d => match d with
      | .array _ | .object _ => true
      | _ => false
    then .error (.plain .type)
    else .ok items
  | .object fields => .ok (fields.map fun p => .str p.1)
  | .str s => .ok (s.toList.map fun c => .str (String.singleton c))
  | _ => .error (.plain .type)

/-- The texts that an optional collection of names holds. -/
def Json.nameSet (d? : Option Json) : Except Failure (List String) :=
  match d?.filter Json.truthy with
  | none => .ok []
  | some d => d.collected.map fun items => items.filterMap fun e =>
    match e with
    | .str s => some s
    | _ => none

namespace Definitions

/-- The shape definitions of a service. -/
abbrev Table : Type := List (String × Json)

/-- The form of a shape whose members are not bound yet, with names for references. -/
inductive DraftForm
  | struct
  | list (member : String)
  | map (key value : String)
  | scalar (kind : ScalarKind)
deriving DecidableEq, Repr

/-- A shape whose members are not bound yet. -/
structure Draft extends Traits where
  name : String
  form : DraftForm

/-- The fields of the definition of a shape. A null stands for no definition. -/
def definition (table : Table) (name : String) (source : Option String) :
    Except Defect (List (String × Json)) :=
  match table.lookup name with
  | none | some .null => .error (.danglingReference source (.str name))
  | some (.object fields) => .ok fields
  | some _ => .error (.definitionNotMapping name)

/-- Whether a field is set. -/
def flag (fields : List (String × Json)) (key : String) : Bool :=
  (fields.lookup key).any Json.truthy

/-- The kind that a definition names. -/
def kindOf (name : String) (fields : List (String × Json)) : Except Fault ShapeKind :=
  match (fields.lookup "type").getD .null with
  | .array _ | .object _ => .error (.failure (.plain .type))
  | .str s =>
    match ShapeKind.ofLabel? s with
    | some k => .ok k
    | none => .error (.defect (.unsupportedType name s))
  | d => .error (.defect (.unsupportedType name d.text))

/-- The fields of a reference, and the name it refers to. -/
def reference (name : String) (fields : List (String × Json)) (role : String) :
    Except Defect (Json × List (String × Json)) :=
  match fields.lookup role with
  | some (.object ref) =>
    match ref.lookup "shape" with
    | some target => .ok (target, ref)
    | none => .error (.missingReference name role)
  | _ => .error (.missingReference name role)

/-- The traits that any shape has. -/
def commonTraits (fields : List (String × Json)) : Traits :=
  { streaming := flag fields "streaming", flattened := flag fields "flattened" }

/-- The namespace of a structure: a text, or the `uri` of a mapping. -/
def namespaceOf (fields : List (String × Json)) : Value :=
  match fields.lookup "xmlNamespace" with
  | some (.object ns) => Json.fieldValue ns "uri"
  | _ => Json.fieldValue fields "xmlNamespace"

/-- The traits of a structure. -/
def structTraits (fields : List (String × Json)) : Traits :=
  { commonTraits fields with
    eventStream := flag fields "eventstream"
    event := flag fields "event"
    isError := flag fields "exception"
    rootName := Json.fieldValue fields "locationName"
    xmlNamespace := namespaceOf fields }

/-- The draft of a name among those made so far. -/
def draft? (done : List Draft) (name : String) : Option Draft :=
  done.find? fun d => d.name == name

/-- The drafts after the one of a name has been made, with those it refers to. The names in
`entered` are being made; the count bounds how many more can be. -/
def resolve (table : Table) : Nat → List String → List Draft → Json → Option String →
    Except Fault (String × List Draft)
  | left, entered, done, target, source =>
    match target with
    | .array _ | .object _ => .error (.failure (.plain .type))
    | .str name =>
      if (draft? done name).isSome then .ok (name, done)
      else do
        let fields ← (definition table name source).mapError .defect
        let kind ← kindOf name fields
        match left, entered.contains name with
        | left + 1, false =>
          let inside := name :: entered
          match kind with
          | .struct =>
            return (name, done ++ [{ structTraits fields with name := name, form := .struct }])
          | .list => do
            let (item, ref) ← (reference name fields "member").mapError .defect
            let (member, done) ← resolve table left inside done item (some name)
            let traits := { commonTraits fields with
              itemName := Json.fieldValue ref "locationName" }
            return (name, done ++ [{ traits with name := name, form := .list member }])
          | .map => do
            let (keyTarget, keyRef) ← (reference name fields "key").mapError .defect
            let (valueTarget, valueRef) ← (reference name fields "value").mapError .defect
            let (key, done) ← resolve table left inside done keyTarget (some name)
            let (value, done) ← resolve table left inside done valueTarget (some name)
            if (draft? done key).any fun d => d.form == .scalar .string then
              let traits := { commonTraits fields with
                keyName := Json.fieldValue keyRef "locationName"
                valueName := Json.fieldValue valueRef "locationName" }
              return (name, done ++ [{ traits with name := name, form := .map key value }])
            else throw (.defect (.mapKeyNotString name))
          | .scalar k =>
            return (name, done ++ [{ commonTraits fields with name := name, form := .scalar k }])
        | _, _ => throw (.defect (.selfContained name))
    | _ => .error (.defect (.danglingReference source target.toValue))

/-- The drafts of all definitions: what a list or map refers to comes before it. -/
def drafts (table : Table) : Except Fault (List Draft) :=
  table.foldlM (fun done p =>
    (resolve table table.length [] done (.str p.1) none).map Prod.snd) []

/-! ### Members -/

/-- The number of a shape among drafts. -/
def refOf (all : List Draft) (n : Nat) (target : Json) (source : String) :
    Except Fault (Fin n) :=
  match target with
  | .array _ | .object _ => .error (.failure (.plain .type))
  | .str name =>
    match (List.finRange n).find? fun i => (all[i.val]?).any fun d => d.name == name with
    | some i => .ok i
    | none => .error (.defect (.danglingReference (some source) target.toValue))
  | _ => .error (.defect (.danglingReference (some source) target.toValue))

/-- Whether the members of a definition, whatever they are, include a name. -/
def includes (members : Json) (name : Json) : Except Failure Bool :=
  match members, name with
  | .object fields, .str s => .ok (Entries.has fields s)
  | .object _, .array _ | .object _, .object _ => .error (.plain .type)
  | .object _, _ => .ok false
  | .array items, d => .ok (items.any d.same)
  | .str t, .str s => .ok (Text.containsText t s)
  | _, _ => .error (.plain .type)

/-- The location that a reference names. -/
def locationOf (shape member : String) (ref : List (String × Json)) : Except Defect Location :=
  match ref.lookup "location" with
  | none => .ok .body
  | some d =>
    let known := match d with
      | .str s => Location.ofLabel? s
      | _ => none
    match known with
    | some l => .ok l
    | none => .error (.unknownLocation shape member d.text)

/-- A member of a structure by its reference. -/
def memberOf (all : List Draft) (n : Nat) (shape : String) (payload : Json)
    (required : List String) (p : String × Json) : Except Fault (Member n) :=
  match p.2 with
  | .object ref =>
    match ref.lookup "shape" with
    | none => .error (.defect (.memberWithoutShape shape p.1))
    | some target => do
      let location ← (locationOf shape p.1 ref).mapError .defect
      let r ← refOf all n target shape
      let isPayload := match payload with
        | .str s => s == p.1
        | _ => false
      return { name := p.1
               shape := r
               location := location
               locationName := Json.fieldValue ref "locationName"
               payload := isPayload
               xmlAttribute := flag ref "xmlAttribute"
               required := required.contains p.1 }
  | _ => .error (.defect (.memberWithoutShape shape p.1))

/-- The members of a structure by its definition. A payload must be one of them. -/
def membersOf (all : List Draft) (n : Nat) (shape : String) (fields : List (String × Json)) :
    Except Fault (List (Member n)) := do
  let payload := (fields.lookup "payload").getD .null
  let required ← (Json.nameSet (fields.lookup "required")).mapError .failure
  let members := ((fields.lookup "members").filter Json.truthy).getD (.object [])
  if payload.truthy then
    unless ← (includes members payload).mapError .failure do
      throw (.defect (.payloadNotMember shape payload.text))
  match members with
  | .object refs => refs.mapM (memberOf all n shape payload required)
  | _ => throw (.failure (.plain .attribute))

/-- The members of all structures, in the order of the definitions. -/
def allMembers (table : Table) (all : List Draft) (n : Nat) :
    Except Fault (List (String × List (Member n))) :=
  (table.filter fun p => (draft? all p.1).any fun d => d.form == .struct).mapM fun p =>
    match p.2 with
    | .object fields => do
      let ms ← membersOf all n p.1 fields
      return (p.1, ms)
    | _ => return (p.1, [])

/-- The shape of a draft, with the members of structures bound. -/
def shapeOf (all : List Draft) (n : Nat) (members : List (String × List (Member n)))
    (d : Draft) : Except Fault (Shape n) :=
  match d.form with
  | .struct =>
    .ok { d.toTraits with name := d.name, form := .struct ((members.lookup d.name).getD []) }
  | .list member => do
    let m ← refOf all n (.str member) d.name
    return { d.toTraits with name := d.name, form := .list m }
  | .map key value => do
    let k ← refOf all n (.str key) d.name
    let v ← refOf all n (.str value) d.name
    return { d.toTraits with name := d.name, form := .map k v }
  | .scalar k => .ok { d.toTraits with name := d.name, form := .scalar k }

/-- The graph of shape definitions. -/
def graph (table : Table) : Except Fault Graph := do
  let all ← drafts table
  let members ← allMembers table all all.length
  let shapes ← all.mapM (shapeOf all all.length members)
  if h : shapes.length = all.length then
    return ⟨all.length, ⟨shapes.toArray, by simpa using h⟩⟩
  else throw (.defect .modelSections)

end Definitions

end ServiceWire
