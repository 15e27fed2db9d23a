import ServiceWire.Xml.DocumentType

/-!
# XML markup

A document as the sequence of its tags and texts. Comments and processing instructions leave no
trace, references are replaced by what they stand for, and the entities a document declares for
itself are expanded. Tags are not yet matched with each other and prefixes not yet resolved.
-/

namespace ServiceWire.Xml

/-- A tag or a text. A text is literal if it stands in the document as it is. -/
inductive Markup
  | opening (name : QName) (attributes : List (QName × String))
  | closing (name : QName)
  | text (literal : Bool) (content : List Char)

/-- Reads the attributes of a tag up to its end, and whether the tag is that of an empty element.
Each attribute follows white space, and no name occurs twice. -/
def attributes? (value? : QName → List Char → Option (List Char)) :
    Nat → List (QName × String) → List Char → Option (List (QName × String) × Bool × List Char)
  | 0, _, _ => none
  | fuel + 1, acc, cs =>
    match skipSpace cs with
    | '>' :: rest => some (acc, false, rest)
    | '/' :: '>' :: rest => some (acc, true, rest)
    | body =>
      if body.length = cs.length then none
      else do
        let (name, rest) ← qname? body
        match skipSpace rest with
        | '=' :: rest =>
          match skipSpace rest with
          | quote :: rest =>
            if quote != '"' && quote != '\'' then none
            else
              let (raw, rest) ← Text.cut? quote rest
              let value ← value? name raw
              if acc.any fun p => p.1 == name then none
              else attributes? value? fuel (acc ++ [(name, String.ofList value)]) rest
          | [] => none
        | _ => none

/-- The attributes of an element with those that are not given but have a default value. -/
def withDefaults (rules : List AttributeRule) (given : List (QName × String)) :
    List (QName × String) :=
  given ++ rules.filterMap fun r =>
    if given.any fun p => p.1 = r.name then none
    else r.default?.map fun value => (r.name, String.ofList value)

/-- Reads a tag after its opening bracket: its name, its attributes, and whether it is that of an
empty element. The `active` entities are being replaced. -/
def openingTag? (d : DocumentType) (active : List String) (cs : List Char) :
    Option (QName × List (QName × String) × Bool × List Char) := do
  let (name, rest) ← qname? cs
  let rules := d.rulesFor name
  let value? := fun name raw =>
    d.valueText? active ((rules.find? fun r => r.name = name).any (·.isWords)) raw
  let (given, isEmpty, rest) ← attributes? value? (rest.length + 1) [] rest
  return (name, withDefaults rules given, isEmpty, rest)

/-- Reads tags and texts to the end of the characters; `expand` gives the markup of an entity. -/
def content? (d : DocumentType) (active : List String) (expand : String → Option (List Markup)) :
    Nat → List Char → Option (List Markup)
  | 0, _ => none
  | _ + 1, [] => some []
  | fuel + 1, '<' :: rest =>
    match rest with
    | '!' :: '-' :: '-' :: rest => do content? d active expand fuel (← afterComment? rest)
    | '!' :: rest => do
      let rest ← Text.dropStart? rest "[CDATA[".toList
      let (raw, rest) ← upTo? "]]>".toList rest
      return .text false raw :: (← content? d active expand fuel rest)
    | '?' :: rest => do content? d active expand fuel (← afterInstruction? rest)
    | '/' :: rest => do
      let (name, rest) ← qname? rest
      match skipSpace rest with
      | '>' :: rest => return .closing name :: (← content? d active expand fuel rest)
      | _ => none
    | rest => do
      let (name, attributes, isEmpty, rest) ← openingTag? d active rest
      let more ← content? d active expand fuel rest
      return .opening name attributes :: (if isEmpty then .closing name :: more else more)
  | fuel + 1, '&' :: rest => do
    match ← reference? rest with
    | (.char c, rest) => return .text false [c] :: (← content? d active expand fuel rest)
    | (.entity name, rest) => do
      let inner ← expand name
      return .text false [] :: inner ++ (← content? d active expand fuel rest)
  | fuel + 1, c :: rest =>
    let raw := (c :: rest).takeWhile fun c => c != '<' && c != '&'
    if Text.occursIn "]]>".toList raw then none
    else do
      let more ← content? d active expand fuel ((c :: rest).dropWhile fun c => c != '<' && c != '&')
      return .text true raw :: more

/-- Whether each closing tag of a sequence follows an opening one of the sequence, and the other
way round. -/
def isBalanced : Nat → List Markup → Bool
  | depth, [] => depth == 0
  | depth, .opening .. :: rest => isBalanced (depth + 1) rest
  | 0, .closing _ :: _ => false
  | depth + 1, .closing _ :: rest => isBalanced depth rest
  | depth, .text .. :: rest => isBalanced depth rest

/-- The markup of an entity, which is declared with a text and is not one of those being
replaced. -/
def entityMarkup? (d : DocumentType) : Nat → List String → String → Option (List Markup)
  | 0, _, _ => none
  | depth + 1, active, name =>
    if active.contains name then none
    else
      match d.entities.declared.lookup name with
      | some (.text value) => do
        let active := name :: active
        let inner ← content? d active (entityMarkup? d depth active) (value.length + 1) value
        if isBalanced 0 inner then return inner else none
      | _ => none

/-- The tags and texts of a document. -/
def markup? (source : Source) : Option (List Markup) := do
  let (d, rest) ← prolog? source.standsAlone (source.chars.length + 1) none source.chars
  content? d [] (entityMarkup? d d.entities.declared.length []) (rest.length + 1) rest

end ServiceWire.Xml
