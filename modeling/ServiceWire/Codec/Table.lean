import ServiceWire.Fault
import ServiceWire.Shape.Graph

/-!
# Codecs

A codec writes and reads values of the kinds of shapes that its tables list. A shape can be used
with a codec only if the kinds of all shapes it leads to are listed; this is checked when a
component is built, before any value is touched.
-/

namespace ServiceWire

/-- The forms of bodies. -/
inductive BodyFormat
  | json
  | xml
  | query
deriving DecidableEq, Repr

/-- The name of a form. -/
def BodyFormat.label : BodyFormat → String
  | .json => "json"
  | .xml => "xml"
  | .query => "query"

/-- The form of a name. -/
def BodyFormat.ofLabel? (s : String) : Option BodyFormat :=
  [json, xml, query].find? fun f => f.label == s

/-- The content type of a form. -/
def BodyFormat.contentType : BodyFormat → String
  | .json => "application/json"
  | .xml => "application/xml"
  | .query => "application/x-www-form-urlencoded; charset=utf-8"

/-- A codec: the form it writes and reads, the kinds it handles, and its settings. -/
structure Codec where
  format : BodyFormat
  writers : List ShapeKind
  readers : List ShapeKind
  /-- Whether fields that no member stands for are noted. -/
  notesUnknown : Bool := false
  /-- The namespace of documents whose shape has none. -/
  xmlNamespace : Value := .null

namespace Codec

/-- The codec of a form that handles all kinds. Forms are written only. -/
def complete (format : BodyFormat) (notesUnknown : Bool) (xmlNamespace : Value) : Codec where
  format := format
  writers := ShapeKind.all
  readers := if format = .query then [] else ShapeKind.all
  notesUnknown := notesUnknown
  xmlNamespace := xmlNamespace

/-- A codec without the writers of some kinds. -/
def withoutWriters (c : Codec) (kinds : List ShapeKind) : Codec :=
  { c with writers := c.writers.filter fun k => !kinds.contains k }

/-- A codec without the readers of some kinds. -/
def withoutReaders (c : Codec) (kinds : List ShapeKind) : Codec :=
  { c with readers := c.readers.filter fun k => !kinds.contains k }

/-- The kinds that a codec both writes and reads. -/
def supportedKinds (c : Codec) : List ShapeKind :=
  c.writers.filter fun k => c.readers.contains k

/-- The name of what writes values, in messages. -/
def writerRole : String := "marshaller"

/-- The name of what reads values, in messages. -/
def readerRole : String := "unmarshaller"

/-- The defect of a shape whose kind is not in a table. -/
def missing (c : Codec) {n : Nat} (role : String) (s : Shape n) : Defect :=
  .unsupportedShape c.format.label role s.kind.label s.name

/-- Checks that a table has the kinds of all shapes that a shape leads to. -/
def check (c : Codec) (g : Graph) (table : List ShapeKind) (role : String) (r : g.Ref) :
    Except Defect Unit :=
  match (g.reachable r).find? fun q => !table.contains (g.shape q).kind with
  | none => .ok ()
  | some q => .error (c.missing role (g.shape q))

/-- Checks that values of a shape can be written. -/
def checkWritable (c : Codec) (g : Graph) (r : g.Ref) : Except Defect Unit :=
  c.check g c.writers writerRole r

/-- Checks that values of a shape can be read. -/
def checkReadable (c : Codec) (g : Graph) (r : g.Ref) : Except Defect Unit :=
  c.check g c.readers readerRole r

/-- Checks that values of a shape can be written, and read if the codec reads at all. -/
def checkShape (c : Codec) (g : Graph) (r : g.Ref) : Except Defect Unit := do
  c.checkWritable g r
  unless c.readers.isEmpty do c.checkReadable g r

/-- Refuses to write a shape whose kind the codec does not handle. -/
def needWriter (c : Codec) {n : Nat} (s : Shape n) : Except Fault Unit :=
  if c.writers.contains s.kind then .ok ()
  else .error (.defect (.unsupportedKind c.format.label writerRole s.kind.label s.name))

/-- Refuses to read a shape whose kind the codec does not handle. -/
def needReader (c : Codec) {n : Nat} (s : Shape n) : Except Fault Unit :=
  if c.readers.contains s.kind then .ok ()
  else .error (.defect (.unsupportedKind c.format.label readerRole s.kind.label s.name))

end Codec

/-- The structure that a shape makes of its members: a mapping, or what its own constructor makes
of them. -/
def Shape.build {n : Nat} (s : Shape n) (values : List (String × Value)) :
    Except Failure Value :=
  match s.construct with
  | none => .ok (.ofFields values)
  | some required =>
    if required.all (Entries.has values) then .ok (.typed s.name values)
    else .error (.plain .type)

end ServiceWire
