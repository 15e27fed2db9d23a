import ServiceWire.Failure
import ServiceWire.Text.Charset.Table

/-!
# The characters of an XML document

A document is bytes: UTF-8 unless a mark at its start or its declaration says otherwise. Two-byte
encodings are told by the first bytes, single-byte ones by name. A document that is a text already
is read as it is, whatever encoding it declares. Line ends become line feeds, and a character that
XML does not allow makes the document malformed.
-/

namespace ServiceWire.Xml

/-- Pairs of bytes as numbers. -/
def doubleBytes (bigEndian : Bool) : Bytes → Option (List Nat)
  | [] => some []
  | a :: b :: rest =>
    (doubleBytes bigEndian rest).map fun ns =>
      (if bigEndian then a.toNat * 256 + b.toNat else b.toNat * 256 + a.toNat) :: ns
  | [_] => none

/-- The characters of UTF-16 units. -/
def ofUnits : List Nat → Option (List Char)
  | [] => some []
  | h :: rest =>
    if 0xD800 ≤ h ∧ h < 0xDC00 then
      match rest with
      | l :: rest =>
        if 0xDC00 ≤ l ∧ l < 0xE000 then
          (ofUnits rest).map (Char.ofNat (0x10000 + (h - 0xD800) * 0x400 + (l - 0xDC00)) :: ·)
        else none
      | [] => none
    else if 0xDC00 ≤ h ∧ h < 0xE000 then none
    else (ofUnits rest).map (Char.ofNat h :: ·)

/-- The characters of a two-byte document. -/
def decodeUtf16? (bigEndian : Bool) (bs : Bytes) : Option (List Char) :=
  (doubleBytes bigEndian bs).bind ofUnits

/-- White space in markup. -/
def isSpaceChar (c : Char) : Bool := c == ' ' || c == '\t' || c == '\n' || c == '\r'

/-- The pseudo-attribute `name = 'value'` after white space, and what follows it. -/
def pseudoAttribute? (name : String) (cs : List Char) : Option (String × List Char) := do
  let body := cs.dropWhile isSpaceChar
  if body.length = cs.length then none
  else
    match (← Text.dropStart? body name.toList).dropWhile isSpaceChar with
    | '=' :: rest =>
      match rest.dropWhile isSpaceChar with
      | quote :: rest =>
        if quote == '"' || quote == '\'' then
          let (value, rest) ← Text.cut? quote rest
          return (String.ofList value, rest)
        else none
      | [] => none
    | _ => none

/-- A pseudo-attribute that may be left out. -/
def optionalAttribute (name : String) (cs : List Char) : Option String × List Char :=
  match pseudoAttribute? name cs with
  | some (value, rest) => (some value, rest)
  | none => (none, cs)

/-- Whether a character may occur in the name of an encoding or a version. -/
def isDeclarationChar (c : Char) : Bool :=
  c.isAlphanum || c == '.' || c == '_' || c == '-'

/-- Whether a declaration may name an encoding so: a letter comes first. -/
def isEncodingName (name : String) : Bool :=
  name.toList.all isDeclarationChar && (name.toList.head?.map Char.isAlpha).getD false

/-- What the declaration of a document says: the name of its encoding, and whether no declaration
outside of the document matters to it. -/
structure Declaration where
  encoding : Option String := none
  standsAlone : Bool := false

/-- The declaration at the start of a document and what follows it. A version comes first, then
the encoding, then whether the document stands alone. -/
def declaration? (cs : List Char) : Option (Declaration × List Char) := do
  let (version, rest) ← pseudoAttribute? "version" cs
  let (encoding, rest) := optionalAttribute "encoding" rest
  let (standalone, rest) := optionalAttribute "standalone" rest
  if version.toList.all isDeclarationChar && (encoding.map isEncodingName).getD true &&
      ["yes", "no"].contains (standalone.getD "no") then
    match rest.dropWhile isSpaceChar with
    | '?' :: '>' :: rest => return (⟨encoding, standalone == some "yes"⟩, rest)
    | _ => none
  else none

/-- Whether XML allows a character. -/
def isAllowed (c : Char) : Bool :=
  0x20 ≤ c.toNat && c.toNat != 0xFFFE && c.toNat != 0xFFFF || c == '\t' || c == '\n' || c == '\r'

/-- A text whose line ends are all line feeds. -/
def unifyLineEnds : List Char → List Char
  | '\r' :: '\n' :: rest => '\n' :: unifyLineEnds rest
  | '\r' :: rest => '\n' :: unifyLineEnds rest
  | c :: rest => c :: unifyLineEnds rest
  | [] => []

/-- How the characters of a document are to be read, by the name of its encoding. -/
inductive NamedEncoding
  | utf8
  | utf16
  | utf16LE
  | utf16BE
  | bytewise (set : Charset)
  /-- The encoding is known, but its markup is not ASCII. -/
  | foreign
  /-- The encoding is known, but its characters have several bytes. -/
  | multiByte
  | unknown

/-- The encoding with a name. -/
def NamedEncoding.ofName (name : String) : NamedEncoding :=
  let plain := String.ofList (name.toList.map Char.toLower)
  if plain == "utf-8" then .utf8
  else if plain == "utf-16" then .utf16
  else if plain == "utf-16le" then .utf16LE
  else if plain == "utf-16be" then .utf16BE
  else match Charset.find? name with
    | some set => .bytewise set
    | none =>
      if Charset.isNamed Charset.multiByteNames name then .multiByte
      else if Charset.isNamed Charset.foreignNames name then .foreign
      else .unknown

/-- Whether an encoding is the two-byte one with the given order of bytes. -/
def NamedEncoding.isWide (bigEndian : Bool) : NamedEncoding → Bool
  | .utf16 => true
  | .utf16BE => bigEndian
  | .utf16LE => !bigEndian
  | _ => false

/-- The failure of a document whose declaration names an encoding it does not have. -/
def NamedEncoding.failure : NamedEncoding → Failure
  | .unknown => .plain .lookup
  | .multiByte => .plain .value
  | _ => .plain .malformedXml

/-- The declaration of a document and the document without it. -/
def splitDeclaration (cs : List Char) : Except Failure (Declaration × List Char) :=
  match Text.dropStart? cs "<?xml".toList with
  | some (c :: rest) =>
    if isSpaceChar c then
      match declaration? (c :: rest) with
      | some r => .ok r
      | none => .error (.plain .malformedXml)
    else .ok ({}, cs)
  | _ => .ok ({}, cs)

/-- The characters that were read, or the failure of a malformed document. -/
def orMalformed (cs? : Option (List Char)) : Except Failure (List Char) :=
  cs?.elim (.error (.plain .malformedXml)) .ok

/-- Splits bytes whose encoding only their declaration tells. -/
def splitNamed (bs : Bytes) : Except Failure (Declaration × List Char) := do
  let (declaration, _) ← splitDeclaration ((Charset.latin1.decode? bs).getD [])
  let cs ← match declaration.encoding.elim NamedEncoding.utf8 NamedEncoding.ofName with
    | .utf8 => orMalformed ((Utf8.decode? bs).map String.toList)
    | .bytewise set => orMalformed (set.decode? bs)
    | e => throw e.failure
  splitDeclaration cs

/-- Splits two-byte units; their declaration may only name the same encoding. -/
def splitWide (bigEndian : Bool) (bs : Bytes) : Except Failure (Declaration × List Char) := do
  let (declaration, rest) ← splitDeclaration (← orMalformed (decodeUtf16? bigEndian bs))
  let named := declaration.encoding.elim NamedEncoding.utf16 NamedEncoding.ofName
  if named.isWide bigEndian then return (declaration, rest) else throw named.failure

/-- The source of a document: its characters after the declaration, and whether it stands alone. -/
structure Source where
  chars : List Char
  standsAlone : Bool

/-- The source of a document that was split, if XML allows all its characters. -/
def Source.ofSplit (p : Declaration × List Char) : Except Failure Source :=
  if p.2.all isAllowed then .ok ⟨unifyLineEnds p.2, p.1.standsAlone⟩
  else .error (.plain .malformedXml)

/-- The source of a document in bytes. -/
def Source.ofBytes (bs : Bytes) : Except Failure Source := do
  let split ← match bs with
    | 0xEF :: 0xBB :: 0xBF :: rest => splitNamed rest
    | 0xFF :: 0xFE :: rest => splitWide false rest
    | 0xFE :: 0xFF :: rest => splitWide true rest
    | 0x3C :: 0x00 :: _ => splitWide false bs
    | 0x00 :: 0x3C :: _ => splitWide true bs
    | _ => splitNamed bs
  Source.ofSplit split

/-- The source of a document that is a text; it is that of two-byte units if its bytes begin as
such a document does. -/
def Source.ofText (s : String) : Except Failure Source := do
  let cs ← match bytesOf s with
    | 0x3C :: 0x00 :: rest => orMalformed (decodeUtf16? false (0x3C :: 0x00 :: rest))
    | 0x00 :: 0x3C :: rest => orMalformed (decodeUtf16? true (0x00 :: 0x3C :: rest))
    | _ => pure ((Text.dropStart? s.toList ['\ufeff']).getD s.toList)
  Source.ofSplit (← splitDeclaration cs)

end ServiceWire.Xml
