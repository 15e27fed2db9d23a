import ServiceWire.Entries
import ServiceWire.Text.Digit
import ServiceWire.Xml.Encoding
import ServiceWire.Xml.Name

/-!
# References and entities

A reference stands for a character, by its number or as one of five entities that every document
has, or for an entity that the document declares. The text of an attribute value is what is left
when all references in it are replaced; an entity is not available inside itself.
-/

namespace ServiceWire.Xml

/-- The entities every document has. -/
def predefined : List (String × Char) :=
  [("amp", '&'), ("lt", '<'), ("gt", '>'), ("quot", '"'), ("apos", '\'')]

/-- Whether a number is that of a character XML allows. -/
def isCharNumber (n : Nat) : Bool :=
  n == 0x9 || n == 0xA || n == 0xD || (0x20 ≤ n && n < 0xD800) || (0xE000 ≤ n && n < 0xFFFE) ||
    (0x10000 ≤ n && n < 0x110000)

/-- The number written in digits of a base. -/
def numberIn? (base : Nat) (digit? : Char → Option Nat) (cs : List Char) : Option Nat :=
  if cs.isEmpty then none else cs.foldlM (fun n c => (digit? c).map fun d => n * base + d) 0

/-- What a reference stands for: a character, or an entity by name. -/
inductive Reference
  | char (c : Char)
  | entity (name : String)

/-- Reads a reference after its ampersand. -/
def reference? : List Char → Option (Reference × List Char)
  | '#' :: 'x' :: rest => do
    let (digits, rest) ← Text.cut? ';' rest
    let n ← numberIn? 16 Text.hexDigit? digits
    if isCharNumber n then return (.char (Char.ofNat n), rest) else none
  | '#' :: rest => do
    let (digits, rest) ← Text.cut? ';' rest
    let n ← numberIn? 10 Text.asciiDigit? digits
    if isCharNumber n then return (.char (Char.ofNat n), rest) else none
  | cs => do
    let (name, rest) ← simpleName? cs
    match rest with
    | ';' :: rest =>
      match predefined.lookup name with
      | some c => return (.char c, rest)
      | none => return (.entity name, rest)
    | _ => none

/-- What a document declares an entity to be. -/
inductive Entity
  /-- A text that takes the place of each reference. -/
  | text (value : List Char)
  /-- Something outside of the document, which is not read. -/
  | external

/-- The entities of a document. -/
structure Entities where
  declared : List (String × Entity) := []
  /-- Whether declarations outside of the document may add to them. -/
  mayHaveMore : Bool := false

/-- The entities with one more; the first declaration of a name counts. -/
def Entities.declare (es : Entities) (name : String) (e : Entity) : Entities :=
  { es with declared := Entries.putNew name e es.declared }

/-- The text of an attribute value. Each white space character becomes a space; `expand` gives the
text of an entity, already treated. -/
def attributeText? (expand : String → Option (List Char)) : Nat → List Char → Option (List Char)
  | 0, _ => none
  | _ + 1, [] => some []
  | fuel + 1, c :: rest =>
    if c == '<' then none
    else if c == '&' then
      match reference? rest with
      | some (.char c, rest) => (attributeText? expand fuel rest).map (c :: ·)
      | some (.entity name, rest) => do
        let inner ← expand name
        let more ← attributeText? expand fuel rest
        return inner ++ more
      | none => none
    else (attributeText? expand fuel rest).map ((if isSpaceChar c then ' ' else c) :: ·)

/-- The attribute text of an entity that is not one of those being replaced. An entity that may
be declared elsewhere has none. -/
def Entities.textOf? (es : Entities) : Nat → List String → String → Option (List Char)
  | 0, _, _ => none
  | depth + 1, active, name =>
    if active.contains name then none
    else
      match es.declared.lookup name with
      | some (.text value) =>
        attributeText? (es.textOf? depth (name :: active)) (value.length + 1) value
      | some .external => none
      | none => if es.mayHaveMore then some [] else none

/-- The text of an attribute value, where the `active` entities are being replaced. -/
def Entities.attributeText? (es : Entities) (active : List String) (raw : List Char) :
    Option (List Char) :=
  Xml.attributeText? (es.textOf? (es.declared.length + 1) active) (raw.length + 1) raw

/-- The declared text of an entity: character references are replaced, others are kept. -/
def declaredText? : Nat → List Char → Option (List Char)
  | 0, _ => none
  | _ + 1, [] => some []
  | fuel + 1, '&' :: rest => do
    match ← reference? rest with
    | (.char c, after) =>
      if rest.head? == some '#' then return c :: (← declaredText? fuel after)
      else
        let name := rest.take (rest.length - after.length)
        return '&' :: name ++ (← declaredText? fuel after)
    | (.entity name, after) => return '&' :: name.toList ++ ';' :: (← declaredText? fuel after)
  | fuel + 1, c :: rest => if c == '%' then none else (declaredText? fuel rest).map (c :: ·)

/-- The entity declared with a text between quotes. -/
def Entity.ofText? (raw : List Char) : Option Entity :=
  (declaredText? (raw.length + 1) raw).map .text

end ServiceWire.Xml
