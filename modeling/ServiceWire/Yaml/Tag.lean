import ServiceWire.Text.Digit
import ServiceWire.Text.Utf8
import ServiceWire.Yaml.Blank

/-!
# Tags, anchors and directives of YAML

A tag names the type of a node: by a handle and what follows it, or in full between angle brackets.
An anchor names a node, and an alias stands for the node of its name. Directives come before a
document and may give handles a meaning.
-/

namespace ServiceWire.Yaml

/-- Whether a character may stand in a name. -/
def isNameChar (c : Char) : Bool :=
  ('0' ≤ c && c ≤ '9') || ('A' ≤ c && c ≤ 'Z') || ('a' ≤ c && c ≤ 'z') || c == '-' || c == '_'

/-- The name at the start of a text, if there is one. -/
def name? (cs : List Char) : Option (String × List Char) :=
  let name := cs.takeWhile isNameChar
  if name.isEmpty then none else some (String.ofList name, cs.drop name.length)

/-- Whether a character may follow an anchor. -/
def mayFollowAnchor (c : Char) : Bool :=
  isBlank c || isLineEnd c || ['?', ':', ',', ']', '\x7d', '%', '@', '\x60'].contains c

/-- The name of an anchor or alias, after the character that begins it. -/
def anchorName? (cs : List Char) : Option (String × List Char) := do
  let (name, rest) ← name? cs
  if rest.head?.all mayFollowAnchor then some (name, rest) else none

/-! ### Tags -/

/-- A tag as it is written: without a handle it is in full. -/
structure Tag where
  handle? : Option String
  suffix : String
deriving DecidableEq, Repr

/-- Whether a character may stand in the rest of a tag. -/
def isTagChar (c : Char) : Bool :=
  isNameChar c || [';', '/', '?', ':', '@', '&', '=', '+', '$', ',', '.', '!', '~', '*', '\'',
    '(', ')', '[', ']', '%'].contains c

/-- The byte that two hexadecimal digits write. -/
def hexByte? (a b : Char) : Option UInt8 := do
  let high ← Text.hexDigit? a
  let low ← Text.hexDigit? b
  return UInt8.ofNat (high * 16 + low)

/-- The bytes that a run of percent escapes writes, and what follows it. -/
def escapedBytes? : List Char → Option (List UInt8 × List Char)
  | '%' :: a :: b :: rest => do
    let byte ← hexByte? a b
    let (bytes, rest) ← escapedBytes? rest
    return (byte :: bytes, rest)
  | '%' :: _ => none
  | rest => some ([], rest)

/-- The characters of a tag with its percent escapes replaced. The bound is more than the number
of characters. -/
def unescaped? : Nat → List Char → Option (List Char)
  | 0, _ => none
  | _ + 1, [] => some []
  | bound + 1, c :: rest =>
    if c == '%' then do
      let (bytes, rest) ← escapedBytes? (c :: rest)
      let text : String ← Utf8.decode? bytes
      let more ← unescaped? bound rest
      return text.toList ++ more
    else (unescaped? bound rest).map (c :: ·)

/-- The rest of a tag after its handle, and what follows the tag. -/
def tagSuffix? (cs : List Char) : Option (String × List Char) := do
  let raw := cs.takeWhile isTagChar
  if raw.isEmpty then none
  else
    let chars ← unescaped? (raw.length + 1) raw
    return (String.ofList chars, cs.drop raw.length)

/-- The handle at the start of a text: an exclamation mark, or a name between two. -/
def handle? (cs : List Char) : Option (String × List Char) :=
  match cs with
  | '!' :: rest =>
    let name := rest.takeWhile isNameChar
    match rest.drop name.length with
    | '!' :: after => some (String.ofList ('!' :: name ++ ['!']), after)
    | after => if rest.head? == some ' ' then some ("!", after) else none
  | _ => none

/-- The tag at the start of a text, of which an exclamation mark is the first character. -/
def tag? (cs : List Char) : Option (Tag × List Char) := do
  let body := cs.drop 1
  let (tag, rest) ←
    if body.head? == some '<' then do
      let (suffix, rest) ← tagSuffix? (body.drop 1)
      if rest.head? == some '>' then some (⟨none, suffix⟩, rest.drop 1) else none
    else if endsWord body then some (⟨none, "!"⟩, body)
    else do
      let word := body.takeWhile fun c => c != ' ' && !isLineEnd c
      let (handle, rest) ← if word.contains '!' then handle? cs else some ("!", body)
      let (suffix, rest) ← tagSuffix? rest
      return (⟨some handle, suffix⟩, rest)
  if endsField rest then some (tag, rest) else none

/-! ### Directives -/

/-- A directive. -/
inductive Directive
  /-- The version of the language, of which only the first number matters. -/
  | version (major : Nat)
  /-- What a handle stands for. -/
  | handle (handle : String) (uri : String)
  /-- A directive without meaning. -/
  | other
deriving DecidableEq, Repr

/-- The number at the start of a text, and what follows it. -/
def number? (cs : List Char) : Option (Nat × List Char) :=
  let digits := cs.takeWhile Char.isDigit
  if digits.isEmpty then none
  else some (digits.foldl (fun n c => n * 10 + (c.toNat - '0'.toNat)) 0, cs.drop digits.length)

/-- A directive after its percent sign, and what follows its line. -/
def directive? (cs : List Char) : Option (Directive × List Char) := do
  let (name, rest) ← name? cs
  if !endsField rest then none
  else
    let body := rest.dropWhile (· == ' ')
    let (directive, rest) ←
      if name == "YAML" then do
        let (major, rest) ← number? body
        if rest.head? != some '.' then none
        else
          let (_, rest) ← number? (rest.drop 1)
          if endsField rest then some (Directive.version major, rest) else none
      else if name == "TAG" then do
        let (handle, rest) ← handle? body
        if rest.head? != some ' ' then none
        else
          let (uri, rest) ← tagSuffix? (rest.dropWhile (· == ' '))
          if endsField rest then some (Directive.handle handle uri, rest) else none
      else some (Directive.other, rest.dropWhile fun c => !isLineEnd c)
    let below ← nextLine? rest
    return (directive, below)

end ServiceWire.Yaml
