import ServiceWire.Codec.Reading
import ServiceWire.Codec.Scalar
import ServiceWire.Codec.Table
import ServiceWire.Json.OfValue
import ServiceWire.Json.Reader
import ServiceWire.Json.Writer
import ServiceWire.Value.Entries
import ServiceWire.Value.View

/-!
# JSON bodies

Values as documents, which have the form of JSON. A structure is a mapping keyed by the wire names
of its members, in the order of the members; members without a value are left out. Timestamps are
epoch seconds, byte strings are Base64, and numbers without digits are written by name. Reading
takes the entries in the order of the document, skips nulls and notes entries that no member stands
for. The text of a document is JSON, whose names are texts.
-/

namespace ServiceWire.JsonBody

variable (c : Codec) (g : Graph)

/-- What writes a value as a document, given its shape. -/
abbrev Writing : Type := g.Ref → Except Fault Value

/-- What reads a document, given its shape. -/
abbrev Reader : Type := g.Ref → Reading Value

/-! ### Writing -/

/-- A mapping with one more member of a structure. -/
def writeMember (w : View (Writing g)) (entries : List (Value × Value)) (m : Member g.size) :
    Except Fault (List (Value × Value)) :=
  match w.member? m.name with
  | none => .ok entries
  | some (_, write) => do
    c.needWriter (g.shape m.shape)
    let d ← write m.shape
    let name ← m.wireName.asKey.mapError .failure
    return Entries.put name d entries

/-- The members of a structure as a mapping. -/
def writeMembers (members : List (Member g.size)) (w : View (Writing g)) : Except Fault Value :=
  (members.foldlM (writeMember c g w) []).map .dict

/-- An entry of a mapping as an entry of a document. -/
def writeEntry (value : g.Ref) (p : Value × Value × Writing g) :
    Except Fault (Value × Value) := do
  let key ← (Scalar.string p.1).mapError .failure
  let d ← p.2.2 value
  return (.str key, d)

/-- The document of a value, from the documents of its parts. -/
def writeView (w : View (Writing g)) : Writing g := fun r =>
  let s := g.shape r
  match s.form with
  | .struct members => writeMembers c g members w
  | .list item =>
    match w.items? with
    | none => .error (.failure (.expectedFor "list" s.name w.whole.typeName))
    | some items => do
      c.needWriter (g.shape item)
      let ds ← items.mapM fun p => p.2 item
      return .list ds
  | .map _ value =>
    match w.entries? with
    | none => .error (.failure (.expectedFor "mapping" s.name w.whole.typeName))
    | some entries => do
      c.needWriter (g.shape value)
      let ds ← (entries.filter fun p => !p.2.1.isNull).mapM (writeEntry g value)
      return .dict ds
  | .scalar k => (Scalar.toDocument k w.whole).mapError .failure

/-- The document of a value of a shape. -/
def write (v : Value) : Writing g := v.fold (writeView c g)

theorem write_eq (v : Value) : write c g v = writeView c g (v.view (write c g)) :=
  Value.fold_eq _ v

/-- The document of a whole value; of a structure, only some members may be asked for. -/
def toDocument (v : Value) (r : g.Ref) (members : Option (List (Member g.size))) :
    Except Fault Value :=
  match (g.shape r).form with
  | .struct all => writeMembers c g (members.getD all) (v.view (write c g))
  | _ => do
    c.needWriter (g.shape r)
    write c g v r

/-- The text of a whole value, as bytes. -/
def encode (v : Value) (r : g.Ref) (members : Option (List (Member g.size))) :
    Except Fault Bytes := do
  let document ← toDocument c g v r members
  let d ← (Json.ofValue document).mapError .failure
  return bytesOf d.render

/-! ### Reading -/

/-- The member that an entry stands for; of several with one wire name, the last. -/
def memberOf (members : List (Member g.size)) (key : Value) : Option (Member g.size) :=
  members.reverse.find? fun m => m.wireName == key

/-- The values of members, with the entries of a mapping read into them. -/
def readFields (members : List (Member g.size)) :
    List (Value × Value × Reader g) → List (String × Value) → Reading (List (String × Value))
  | [], values => pure values
  | (key, raw, read) :: rest, values =>
    match memberOf g members key with
    | none => readFields members rest values
    | some m =>
      if raw.isNull then readFields members rest values
      else do
        Reading.ofOutcome (c.needReader (g.shape m.shape))
        let v ← read m.shape
        readFields members rest (Entries.put m.name v values)

/-- The note on an entry that no member stands for. -/
def unknownNote (shape : String) (key : Value) : String :=
  s!"Ignoring unknown field '{key.text}' in {shape}"

/-- Makes the notes on entries that no member stands for, if the codec makes any. -/
def noteUnknown (shape : String) (keys : List Value) : Reading Unit :=
  if c.notesUnknown then Reading.note (keys.map (unknownNote shape)) else pure ()

theorem outcome_noteUnknown (shape : String) (keys : List Value) :
    (noteUnknown c shape keys).outcome = .ok () := by
  rw [noteUnknown]
  split
  · rfl
  · rfl

/-- Refuses wire names that cannot be keys. -/
def checkNames (members : List (Member g.size)) : Except Failure Unit :=
  if members.all fun m => m.wireName.isKey then .ok () else .error (.plain .type)

/-- The values of members of a structure, from a mapping. -/
def readMembers (s : Shape g.size) (members : List (Member g.size)) (w : View (Reader g)) :
    Reading (List (String × Value)) :=
  match w.entries? with
  | none => .fail (.failure (.expectedFor "JSON object" s.name w.whole.typeName))
  | some entries => do
    Reading.ofConversion (checkNames g members)
    let values ← readFields c g members entries []
    noteUnknown c s.name
      ((entries.map Prod.fst).filter fun key => (memberOf g members key).isNone)
    return values

/-- The value of a document, from the values of its parts. -/
def readView (w : View (Reader g)) : Reader g := fun r =>
  let s := g.shape r
  match s.form with
  | .struct members => do
    let values ← readMembers c g s members w
    Reading.ofConversion (s.build values)
  | .list item =>
    match w.listItems? with
    | none => .fail (.failure (.expectedFor "JSON array" s.name w.whole.typeName))
    | some items => do
      Reading.ofOutcome (c.needReader (g.shape item))
      let vs ← (items.filter fun p => !p.1.isNull).mapM fun p => p.2 item
      return .list vs
  | .map _ value =>
    match w.entries? with
    | none => .fail (.failure (.expectedFor "JSON object" s.name w.whole.typeName))
    | some entries => do
      Reading.ofOutcome (c.needReader (g.shape value))
      let vs ← (entries.filter fun p => !p.2.1.isNull).mapM fun p => do
        let v ← p.2.2 value
        return (p.1, v)
      return .dict vs
  | .scalar k => Reading.ofConversion (Scalar.ofDocument k w.whole)

/-- The value of a document of a shape. -/
def read (d : Value) : Reader g := d.fold (readView c g)

theorem read_eq (d : Value) : read c g d = readView c g (d.view (read c g)) :=
  Value.fold_eq _ d

/-- The values of some members of a structure, from a whole document. -/
def readSome (d : Value) (r : g.Ref) (members : List (Member g.size)) :
    Reading (List (String × Value)) :=
  readMembers c g (g.shape r) members (d.view (read c g))

/-- The value of a whole document; of a structure, only some members may be asked for. -/
def ofDocument (d : Value) (r : g.Ref) (members : Option (List (Member g.size))) :
    Reading Value :=
  match (g.shape r).form with
  | .struct all => do
    let values ← readSome c g d r (members.getD all)
    Reading.ofConversion ((g.shape r).build values)
  | _ => do
    Reading.ofOutcome (c.needReader (g.shape r))
    read c g d r

/-! ### Texts of documents -/

/-- The document that a text holds. -/
def parseText (text : String) : Except Failure Value :=
  match Json.parse? text with
  | some d => .ok d.toValue
  | none => .error (.plain .malformedJson)

/-- The text of bytes. -/
def textOf (data : Bytes) : Except Failure String :=
  match Utf8.decode? data with
  | some s => .ok s
  | none => .error (.plain .undecodable)

/-- The document that bytes hold. -/
def parse (data : Bytes) : Except Failure Value := textOf data >>= parseText

/-- The text of a body, which must be bytes. -/
def bodyText : Value → Except Failure String
  | .bytes .fixed data | .bytes .mutable data => textOf data
  | _ => .error (.plain .attribute)

/-- The value of a body; an empty or blank one is an empty object. -/
def decode (body : Value) (r : g.Ref) (members : Option (List (Member g.size))) :
    Reading Value := do
  let text ← Reading.ofConversion (if body.truthy then bodyText body else .ok "")
  let d ← if (Text.strip text).isEmpty then pure (.dict [])
    else Reading.ofConversion (parseText text)
  ofDocument c g d r members

end ServiceWire.JsonBody
