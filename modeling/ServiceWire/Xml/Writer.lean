import ServiceWire.Xml.Element

/-!
# Writing XML

The text of a tree without a declaration. Names in a namespace get a prefix: a well-known one for
a few namespaces, else `ns` with the number of prefixes before it, in the order in which names are
first used. All prefixes are declared on the root, sorted, before its attributes. A name that is no
text cannot be written; of attribute values only sequences and mappings can be beside texts.
-/

namespace ServiceWire.Xml

/-- The prefixes of well-known namespaces. -/
def wellKnownPrefixes : List (String × String) :=
  [("http://www.w3.org/XML/1998/namespace", "xml"),
    ("http://www.w3.org/1999/xhtml", "html"),
    ("http://www.w3.org/1999/02/22-rdf-syntax-ns#", "rdf"),
    ("http://schemas.xmlsoap.org/wsdl/", "wsdl"),
    ("http://www.w3.org/2001/XMLSchema", "xs"),
    ("http://www.w3.org/2001/XMLSchema-instance", "xsi"),
    ("http://purl.org/dc/elements/1.1/", "dc")]

/-- The names of a tree as they are written, and the namespaces that need a declaration with their
prefixes. -/
structure Naming where
  written : List (String × String) := []
  declared : List (String × String) := []

/-- The namespace and local name of a name in a tree; the brace of the namespace must be closed. -/
def splitName (name : String) : Except Failure (Option (String × String)) :=
  match name.toList with
  | '\x7b' :: rest =>
    match Text.cut? '\x7d' rest.reverse with
    | some (tail, head) =>
      .ok (some (String.ofList head.reverse, String.ofList tail.reverse))
    | none => .error (.plain .value)
  | _ => .ok none

/-- The naming with one more name. -/
def Naming.addText (n : Naming) (name : String) : Except Failure Naming :=
  if Entries.has n.written name then .ok n
  else do
    match ← splitName name with
    | none => return { n with written := n.written ++ [(name, name)] }
    | some (uri, tail) =>
      let known := (n.declared.lookup uri) <|> (wellKnownPrefixes.lookup uri)
      let pre := known.getD s!"ns{n.declared.length}"
      let declared := if pre == "xml" then n.declared else Entries.put uri pre n.declared
      return ⟨n.written ++ [(name, pre ++ ":" ++ tail)], declared⟩

/-- The naming with one more name, which must be a text. -/
def Naming.add (n : Naming) : Value → Except Failure Naming
  | .str name => n.addText name
  | _ => .error (.plain .type)

/-- The naming with several more names. -/
def Naming.addAll (n : Naming) (names : List Value) : Except Failure Naming :=
  names.foldlM Naming.add n

mutual

/-- The names of a tree in the order of their first use: an element's own, its attributes', those
of its children. -/
def namesOf : Element → List Value
  | .node t a _ c => t :: a.map Prod.fst ++ namesOfAll c

/-- The names of a sequence of trees. -/
def namesOfAll : List Element → List Value
  | [] => []
  | e :: rest => namesOf e ++ namesOfAll rest

end

/-- A character of text content as it is written. -/
def escapeText (c : Char) : List Char :=
  if c == '&' then "&amp;".toList
  else if c == '<' then "&lt;".toList
  else if c == '>' then "&gt;".toList
  else [c]

/-- A character of an attribute value as it is written. -/
def escapeAttribute (c : Char) : List Char :=
  if c == '"' then "&quot;".toList
  else if c == '\r' then "&#13;".toList
  else if c == '\n' then "&#10;".toList
  else if c == '\t' then "&#09;".toList
  else escapeText c

/-- The characters that are escaped in attribute values, as texts. -/
def escapedTexts : List Value := ["&", "<", ">", "\"", "\r", "\n", "\t"].map .str

/-- An attribute value as it is written. A sequence or mapping in which nothing is to be escaped
stands for its plain text. -/
def valueChars : Value → Except Failure (List Char)
  | .str s => .ok (s.toList.flatMap escapeAttribute)
  | v =>
    match v with
    | .list _ | .tuple _ | .dict _ =>
      if (v.items?.getD []).any fun item => escapedTexts.contains item then
        .error (.plain .type)
      else .ok v.text.toList
    | _ => .error (.plain .type)

/-- An attribute as it is written, with the space before it. -/
def attributeChars (name : String) (value : List Char) : List Char :=
  ' ' :: name.toList ++ ['=', '"'] ++ value ++ ['"']

/-- A name as it is written. -/
def Naming.render (n : Naming) (name : Value) : String :=
  (n.written.lookup name.text).getD name.text

/-- The attributes of an element as they are written. -/
def attributesChars (n : Naming) : List (Value × Value) → Except Failure (List Char)
  | [] => .ok []
  | (name, value) :: rest => do
    let cs ← valueChars value
    let more ← attributesChars n rest
    return attributeChars (n.render name) cs ++ more

mutual

/-- An element as it is written; `declarations` stand before its attributes. -/
def elementChars (n : Naming) (declarations : List Char) : Element → Except Failure (List Char)
  | .node t a s c => do
    let attributes ← attributesChars n a
    let inner ← elementsChars n c
    let head := '<' :: (n.render t).toList ++ declarations ++ attributes
    match s.toList, c with
    | [], [] => return head ++ [' ', '/', '>']
    | cs, _ =>
      return head ++ ['>'] ++ cs.flatMap escapeText ++ inner ++
        ['<', '/'] ++ (n.render t).toList ++ ['>']

/-- A sequence of elements as they are written. -/
def elementsChars (n : Naming) : List Element → Except Failure (List Char)
  | [] => .ok []
  | e :: rest => do
    let first ← elementChars n [] e
    let more ← elementsChars n rest
    return first ++ more

end

/-- Inserts a declaration where its prefix belongs in a sorted list. -/
def insertDeclaration (d : String × String) : List (String × String) → List (String × String)
  | [] => [d]
  | e :: rest => if d.2 < e.2 then d :: e :: rest else e :: insertDeclaration d rest

/-- The declarations of prefixes, sorted by prefix. -/
def declarationChars (declared : List (String × String)) : List Char :=
  (declared.foldl (fun acc d => insertDeclaration d acc) []).flatMap fun d =>
    attributeChars ("xmlns:" ++ d.2) (d.1.toList.flatMap escapeAttribute)

/-- The text of a tree. -/
def render (e : Element) : Except Failure String := do
  let n ← ({} : Naming).addAll (namesOf e)
  let cs ← elementChars n (declarationChars n.declared) e
  return String.ofList cs

end ServiceWire.Xml
