import ServiceWire.Number.Reading
import ServiceWire.Shape.Kind
import ServiceWire.Text.Base64
import ServiceWire.Text.LetterCase
import ServiceWire.Time.Iso8601
import ServiceWire.Time.Rfc822
import ServiceWire.Value

/-!
# Scalars

The conversion of single values to and from text and documents. A value must have the type that its
kind asks for: a truth value is no integer, and a text is neither a number nor a byte string.
Timestamps are written in one of three formats and read in any of them.
-/

namespace ServiceWire.Scalar

/-- The formats of timestamps. -/
inductive TimestampFormat
  | iso8601
  | epochSeconds
  | rfc822
deriving DecidableEq, Repr

/-- The format of a name; an unknown one means the standard format. -/
def TimestampFormat.ofLabel : String → TimestampFormat
  | "unixTimestamp" => .epochSeconds
  | "rfc822" => .rfc822
  | _ => .iso8601

/-- A value that must be a text. -/
def string : Value → Except Failure String
  | .str s => .ok s
  | v => .error (.expected "string" v.typeName)

/-- A value that must be an integer. -/
def integer : Value → Except Failure Int
  | .int i => .ok i
  | v => .error (.expected "integer" v.typeName)

/-- An integer as a number, if it is not too large for one. -/
def numberOfInt (i : Int) : Except Failure Double := (Numeric.int i).toDouble

/-- A value that must be a number. -/
def number : Value → Except Failure Double
  | .int i => numberOfInt i
  | .float x => .ok x
  | v => .error (.expected "number" v.typeName)

/-- A value that must be a truth value. -/
def boolean : Value → Except Failure Bool
  | .bool b => .ok b
  | v => .error (.expected "boolean" v.typeName)

/-- A value that must be a byte string. -/
def byteString : Value → Except Failure Bytes
  | .bytes _ data => .ok data
  | v => .error (.expected "bytes" v.typeName)

/-- A moment of the UTC clock, from a moment or from epoch seconds. -/
def moment : Value → Except Failure DateTime
  | .datetime t => t.toUtc
  | .int i => DateTime.ofEpochInt i
  | .float x => DateTime.ofEpochDouble x
  | v => .error (.expected "datetime or epoch seconds" v.typeName)

/-- A number of seconds: an integer if it is one. -/
def secondsDocument (seconds : Double) : Value :=
  match seconds.toInt? with
  | some i => .int i
  | none => .float seconds

/-- The epoch seconds of a moment. -/
def epochDocument (t : DateTime) : Value := secondsDocument t.epochSeconds

/-- A moment of the UTC clock in a format. -/
def momentDocument (format : TimestampFormat) (t : DateTime) : Value :=
  match format with
  | .epochSeconds => epochDocument t
  | .rfc822 => .str (Rfc822.render t)
  | .iso8601 => .str (Iso8601.render t)

/-- A timestamp in a format. -/
def timestampDocument (format : TimestampFormat) (v : Value) : Except Failure Value :=
  (moment v).map (momentDocument format)

/-- The moment a text names by its epoch seconds. A text that is no number, or a number that is no
moment, names none; a number that is far out of range is refused. -/
def epochMoment? (text : String) : Except Failure (Option DateTime) :=
  match Number.readDouble? text with
  | none => .ok none
  | some x =>
    match DateTime.ofEpochDouble x with
    | .ok t => .ok (some t)
    | .error (.plain .value) => .ok none
    | .error f => .error f

/-- The standard format with a final `Z` for UTC spelled out. -/
def withOffset (text : String) : String :=
  match text.toList.reverse with
  | 'Z' :: rest => String.ofList (rest.reverse ++ "+00:00".toList)
  | _ => text

/-- The moment of a text that is no epoch seconds. A text that begins with a digit is in the
standard format, any other in that of mail headers. -/
def writtenMoment (raw text : String) : Except Failure DateTime :=
  if text.toList.head?.any Text.isDigitLike then
    match Iso8601.parse? (withOffset text) with
    | some t => t.toUtc
    | none => .error (.plain .value)
  else
    match Rfc822.parse text >>= DateTime.toUtc with
    | .ok t => .ok t
    | .error (.plain .value) | .error (.plain .type) =>
      .error (.unrecognizedTimestamp (Quoted.text raw))
    | .error f => .error f

/-- The moment of a text: epoch seconds if it is a number, else a written date. -/
def momentOfText (raw : String) : Except Failure DateTime := do
  let text := Text.strip raw
  match ← epochMoment? text with
  | some t => return t
  | none => writtenMoment raw text

/-- The moment of a value that was read. -/
def readMoment : Value → Except Failure DateTime
  | .int i => DateTime.ofEpochInt i
  | .float x => DateTime.ofEpochDouble x
  | .str s => momentOfText s
  | v => .error (.expected "string" v.typeName)

/-- The names of the numbers that have no digits. -/
def specialName? : Double → Option String
  | .nan => some "NaN"
  | .infinite negative => some (if negative then "-Infinity" else "Infinity")
  | .finite .. => none

/-- The number of a name. -/
def specialOfName? : String → Option Double
  | "NaN" => some .nan
  | "Infinity" => some (.infinite false)
  | "-Infinity" => some (.infinite true)
  | _ => none

/-- A number in a document: as itself, or by its name. -/
def numberDocument (x : Double) : Value :=
  match specialName? x with
  | some name => .str name
  | none => .float x

/-- The number of a text. -/
def numberOfText (s : String) : Except Failure Double :=
  match specialOfName? s <|> Number.readDouble? s with
  | some x => .ok x
  | none => .error (.plain .value)

/-- The number of a value that was read: a number, or a text that names one. -/
def readNumber : Value → Except Failure Double
  | .str s => numberOfText s
  | v => number v

/-- The byte string of a text. -/
def blobOfText (s : String) : Except Failure Bytes :=
  if s.toList.any fun c => 127 < c.toNat then .error (.plain .value)
  else match Base64.decode? s with
    | some data => .ok data
    | none => .error .invalidBlob

/-- The byte string of a value that was read. -/
def readBlob (v : Value) : Except Failure Bytes := string v >>= blobOfText

/-- The truth value of a text, in any case and with spaces around it. -/
def booleanOfText (s : String) : Except Failure Bool :=
  match Text.lower (Text.strip s) with
  | "true" => .ok true
  | "false" => .ok false
  | _ => .error (.invalidBoolean (Quoted.text s))

/-- The integer of a text. -/
def integerOfText (s : String) : Except Failure Int :=
  match Number.readInt? s with
  | some i => .ok i
  | none => .error (.plain .value)

/-- A value as the text of a scalar kind. -/
def textOf (format : TimestampFormat) (kind : ScalarKind) (v : Value) : Except Failure String :=
  match kind with
  | .string => string v
  | .integer | .long => (integer v).map toString
  | .float | .double => (number v).map fun x => (numberDocument x).text
  | .boolean => (boolean v).map fun b => if b then "true" else "false"
  | .timestamp => (timestampDocument format v).map Value.text
  | .blob => (byteString v).map Base64.encode

/-- A text as a value of a scalar kind. -/
def ofText (kind : ScalarKind) (s : String) : Except Failure Value :=
  match kind with
  | .string => .ok (.str s)
  | .integer | .long => (integerOfText (Text.strip s)).map .int
  | .float | .double => (numberOfText (Text.strip s)).map .float
  | .boolean => (booleanOfText s).map .bool
  | .timestamp => (momentOfText s).map .datetime
  | .blob => (blobOfText (Text.strip s)).map .ofBytes

/-- A text or byte string without the blanks around it. -/
def stripped : Value → Except Failure Value
  | .str s => .ok (.str (Text.strip s))
  | .bytes .fixed data => .ok (.bytes .fixed (Text.stripBytes data))
  | .bytes .mutable data => .ok (.bytes .mutable (Text.stripBytes data))
  | _ => .error (.plain .attribute)

/-- The integer of a text or of a byte string of visible ASCII characters. -/
def integerOfStripped : Value → Except Failure Int
  | .str s => integerOfText s
  | .bytes _ data =>
    if data.all fun b => 0x20 < b && b < 0x7F then
      integerOfText (String.ofList (data.map fun b => Char.ofNat b.toNat))
    else .error (.plain .value)
  | v => .error (.expected "integer" v.typeName)

/-- What stands in the place of a text as a value of a scalar kind. What is empty counts as an
empty text. -/
def ofValue (kind : ScalarKind) (v : Value) : Except Failure Value :=
  match v with
  | .str s => ofText kind s
  | v =>
    if !v.truthy then ofText kind ""
    else
      match kind with
      | .string => .ok v
      | .integer | .long => (stripped v >>= integerOfStripped).map .int
      | .float | .double => (stripped v >>= readNumber).map .float
      | .boolean => stripped v >>= fun _ => .error (.invalidBoolean v.quoted)
      | .timestamp => (readMoment v).map .datetime
      | .blob => (stripped v >>= readBlob).map .ofBytes

/-- A value as the text of a shape, which must be a scalar. -/
def toText (format : TimestampFormat) (name : String) (kind : ShapeKind) (v : Value) :
    Except Failure String :=
  match kind with
  | .scalar k => textOf format k v
  | _ => .error (.notScalar name kind.label)

/-- What stands in the place of a text as a value of a shape, which must be a scalar. -/
def fromValue (name : String) (kind : ShapeKind) (v : Value) : Except Failure Value :=
  match kind with
  | .scalar k => ofValue k v
  | _ => .error (.notScalar name kind.label)

/-- A value as a document of a scalar kind. -/
def toDocument (kind : ScalarKind) (v : Value) : Except Failure Value :=
  match kind with
  | .string => (string v).map .str
  | .integer | .long => (integer v).map .int
  | .float | .double => (number v).map numberDocument
  | .boolean => (boolean v).map .bool
  | .timestamp => timestampDocument .epochSeconds v
  | .blob => (byteString v).map fun data => .str (Base64.encode data)

/-- A document as a value of a scalar kind. -/
def ofDocument (kind : ScalarKind) (d : Value) : Except Failure Value :=
  match kind with
  | .string => (string d).map .str
  | .integer | .long => (integer d).map .int
  | .float | .double => (readNumber d).map .float
  | .boolean => (boolean d).map .bool
  | .timestamp => (readMoment d).map .datetime
  | .blob => (readBlob d).map .ofBytes

end ServiceWire.Scalar
