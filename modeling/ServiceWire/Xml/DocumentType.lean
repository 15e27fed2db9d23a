import ServiceWire.Xml.Entity

/-!
# Document types

The declarations that a document has for itself. They give entities their texts and attributes
their default values, and say which attribute values are sequences of words; what they say about
the contents of elements is read and not used. Each declaration is a sequence of tokens, between
which white space may stand.
-/

namespace ServiceWire.Xml

/-- Drops white space. -/
def skipSpace (cs : List Char) : List Char := cs.dropWhile isSpaceChar

/-- The text before the first occurrence of `stop` and the text after it. -/
def upTo? (stop : List Char) : List Char → Option (List Char × List Char)
  | [] => none
  | c :: rest =>
    match Text.dropStart? (c :: rest) stop with
    | some after => some ([], after)
    | none => (upTo? stop rest).map fun p => (c :: p.1, p.2)

/-- Reads a comment after its `<!--`; two hyphens end it. -/
def afterComment? (cs : List Char) : Option (List Char) :=
  match upTo? ['-', '-'] cs with
  | some (_, '>' :: rest) => some rest
  | _ => none

/-- Reads a processing instruction after its `<?`; its target is no form of `xml`. -/
def afterInstruction? (cs : List Char) : Option (List Char) := do
  let (target, rest) ← simpleName? cs
  if target.toList.map Char.toLower == ['x', 'm', 'l'] then none
  else
    match rest with
    | '?' :: '>' :: rest => return rest
    | c :: rest => if isSpaceChar c then (upTo? ['?', '>'] rest).map Prod.snd else none
    | [] => none

/-! ### Tokens -/

/-- The forms of words in declarations. -/
inductive WordForm
  /-- A name without a colon. -/
  | simple
  /-- A name with one colon inside. -/
  | qualified
  /-- Any other sequence of name characters and colons. -/
  | other
deriving DecidableEq, Repr

/-- A token of a declaration. A mark says how often something occurs: `?`, `*` or `+`. -/
inductive Token
  | word (name : QName) (form : WordForm) (mark : Option Char)
  | hash (word : String)
  | literal (raw : List Char)
  | percent
  | bar
  | comma
  | parenOpen
  | parenClose (mark : Option Char)
  | bracketOpen
  | closing

/-- The word made of given characters, and its form. -/
def wordOf (cs : List Char) : QName × WordForm :=
  match (Text.pieces ':' cs).map String.ofList, (cs.head?.map isNameStart).getD false with
  | [a], true => (⟨none, a⟩, .simple)
  | [_, ""], true => (⟨none, String.ofList cs⟩, .other)
  | [a, b], true => (⟨some a, b⟩, .qualified)
  | _, _ => (⟨none, String.ofList cs⟩, .other)

/-- Whether one of the given characters or white space follows. -/
def isFollowedBy (allowed : List Char) (cs : List Char) : Bool :=
  (cs.head?.map fun c => isSpaceChar c || allowed.contains c).getD false

/-- Reads a word of name characters and colons. A mark may follow, unless the word is no name. -/
def word? (cs : List Char) : Option (Token × List Char) :=
  let isPart := fun c => isNameChar c || c == ':'
  let (name, form) := wordOf (cs.takeWhile isPart)
  match cs.dropWhile isPart with
  | [] => none
  | c :: rest =>
    if cs.head?.map isPart != some true then none
    else if ['?', '*', '+'].contains c then
      if form = .other then none else some (.word name form (some c), rest)
    else if isFollowedBy ['>', ')', ',', '|', '[', '%'] (c :: rest) then
      some (.word name form none, c :: rest)
    else none

/-- Reads a token. -/
def token? : List Char → Option (Token × List Char)
  | [] => none
  | '>' :: rest => some (.closing, rest)
  | '[' :: rest => some (.bracketOpen, rest)
  | '|' :: rest => some (.bar, rest)
  | ',' :: rest => some (.comma, rest)
  | '(' :: rest => some (.parenOpen, rest)
  | ')' :: rest =>
    match rest with
    | [] => none
    | c :: after =>
      if ['?', '*', '+'].contains c then some (.parenClose (some c), after)
      else if isFollowedBy ['>', ',', '|', ')'] rest then some (.parenClose none, rest)
      else none
  | '%' :: rest => if isFollowedBy ['%'] rest then some (.percent, rest) else none
  | '#' :: rest => do
    let (name, rest) ← simpleName? rest
    if isFollowedBy [')', '>', '%', '|'] rest then some (.hash name, rest) else none
  | c :: rest =>
    if c == '"' || c == '\'' then do
      let (raw, rest) ← Text.cut? c rest
      if isFollowedBy ['>', '%', '['] rest then some (.literal raw, rest) else none
    else word? (c :: rest)

/-- Reads the tokens of a declaration up to its end or an opening bracket, which comes last. -/
def tokens? : Nat → List Char → Option (List Token × Token × List Char)
  | 0, _ => none
  | fuel + 1, cs => do
    match ← token? (skipSpace cs) with
    | (.closing, rest) => return ([], .closing, rest)
    | (.bracketOpen, rest) => return ([], .bracketOpen, rest)
    | (t, rest) =>
      let (ts, last, rest) ← tokens? fuel rest
      return (t :: ts, last, rest)

/-! ### Declarations -/

/-- Whether a character may occur in a public identifier. -/
def isPublicChar (c : Char) : Bool :=
  c.isAlphanum || " \r\n-'()+,./:=?;!*#@$_%".toList.contains c

/-- Reads an external identifier: that of a system, or a public one and that of a system. -/
def afterExternalId? : List Token → Option (List Token)
  | .word ⟨none, "SYSTEM"⟩ _ none :: .literal _ :: rest => some rest
  | .word ⟨none, "PUBLIC"⟩ _ none :: .literal p :: .literal _ :: rest =>
    if p.all isPublicChar then some rest else none
  | _ => none

/-- Whether tokens declare something that is no text: a name and an identifier, of which a public
one suffices. -/
def isNotationDeclaration : List Token → Bool
  | [.word _ .simple none, .word ⟨none, "SYSTEM"⟩ _ none, .literal _] => true
  | [.word _ .simple none, .word ⟨none, "PUBLIC"⟩ _ none, .literal p] => p.all isPublicChar
  | [.word _ .simple none, .word ⟨none, "PUBLIC"⟩ _ none, .literal p, .literal _] =>
    p.all isPublicChar
  | _ => false

/-- Whether tokens end the open groups of a content model. Of each group, innermost first, the
separator it has used so far is given: a group has bars or commas, not both. -/
def endsGroups : Bool → List (Option Token) → List Token → Bool
  | true, groups, .parenOpen :: rest => endsGroups true (none :: groups) rest
  | true, groups, .word _ form _ :: rest => form != .other && endsGroups false groups rest
  | false, _ :: groups, .parenClose _ :: rest =>
    if groups.isEmpty then rest.isEmpty else endsGroups false groups rest
  | false, g :: groups, .bar :: rest =>
    (g matches none | some .bar) && endsGroups true (some .bar :: groups) rest
  | false, g :: groups, .comma :: rest =>
    (g matches none | some .comma) && endsGroups true (some .comma :: groups) rest
  | _, _, _ => false

/-- Whether tokens end a group that began with text: alternatives by name, then a star. -/
def endsMixedGroup : List Token → Bool
  | [.parenClose (some '*')] => true
  | .bar :: .word _ form none :: rest => form != .other && endsMixedGroup rest
  | _ => false

/-- Whether tokens declare an element: its name and its content model. -/
def isElementDeclaration : List Token → Bool
  | .word _ form none :: model =>
    form != .other && match model with
      | [.word ⟨none, "EMPTY"⟩ _ none] => true
      | [.word ⟨none, "ANY"⟩ _ none] => true
      | [.parenOpen, .hash "PCDATA", .parenClose none] => true
      | .parenOpen :: .hash "PCDATA" :: rest => endsMixedGroup rest
      | .parenOpen :: rest => endsGroups true [none] rest
      | _ => false
  | _ => false

/-- What is declared of an attribute: whether its value is a sequence of words, and the value it has
where none is given. -/
structure AttributeRule where
  element : QName
  name : QName
  isWords : Bool
  default? : Option (List Char)

/-- What a document type says. -/
structure DocumentType where
  entities : Entities := {}
  attributes : List AttributeRule := []
  /-- Whether further declarations count. -/
  isReading : Bool := true

namespace DocumentType

/-- The document type with a rule; the first rule for an attribute of an element counts. -/
def addRule (d : DocumentType) (r : AttributeRule) : DocumentType :=
  if d.attributes.any fun s => s.element = r.element ∧ s.name = r.name then d
  else { d with attributes := d.attributes ++ [r] }

/-- The rules for the attributes of an element. -/
def rulesFor (d : DocumentType) (element : QName) : List AttributeRule :=
  d.attributes.filter fun r => r.element = element

end DocumentType

/-- A sequence of words with single spaces between them. -/
def joinWords (cs : List Char) : List Char :=
  [' '].intercalate ((Text.pieces ' ' cs).filter (! ·.isEmpty))

/-- The text of an attribute value that may have to be a sequence of words. -/
def DocumentType.valueText? (d : DocumentType) (active : List String) (isWords : Bool)
    (raw : List Char) : Option (List Char) :=
  (d.entities.attributeText? active raw).map fun cs => if isWords then joinWords cs else cs

/-- The types of attributes whose values are sequences of words. -/
def wordTypes : List String :=
  ["ID", "IDREF", "IDREFS", "ENTITY", "ENTITIES", "NMTOKEN", "NMTOKENS"]

/-- Reads alternatives up to their closing parenthesis; `isAllowed` tells which forms they have. -/
def afterChoices? (isAllowed : WordForm → Bool) : List Token → Option (List Token)
  | .word _ form none :: .bar :: rest =>
    if isAllowed form then afterChoices? isAllowed rest else none
  | .word _ form none :: .parenClose none :: rest => if isAllowed form then some rest else none
  | _ => none

/-- Reads the type of an attribute, and whether its values are sequences of words. -/
def attributeType? : List Token → Option (Bool × List Token)
  | .parenOpen :: rest => (afterChoices? (fun _ => true) rest).map fun rest => (true, rest)
  | .word ⟨none, "NOTATION"⟩ _ none :: .parenOpen :: rest =>
    (afterChoices? (· = .simple) rest).map fun rest => (true, rest)
  | .word ⟨none, "CDATA"⟩ _ none :: rest => some (false, rest)
  | .word ⟨none, name⟩ _ none :: rest => if wordTypes.contains name then some (true, rest) else none
  | _ => none

/-- Reads what holds where an attribute is not given: a default value, or nothing. -/
def attributeDefault? : List Token → Option (Option (List Char) × List Token)
  | .hash "IMPLIED" :: rest => some (none, rest)
  | .hash "REQUIRED" :: rest => some (none, rest)
  | .hash "FIXED" :: .literal raw :: rest => some (some raw, rest)
  | .literal raw :: rest => some (some raw, rest)
  | _ => none

/-- The document type with the rules for an element that tokens declare. A default value has the
text it has where it is declared. -/
def DocumentType.addRules? (element : QName) : Nat → DocumentType → List Token → Option DocumentType
  | _, d, [] => some d
  | fuel + 1, d, .word name form none :: rest => do
    if form = .other then none
    else
      let (isWords, rest) ← attributeType? rest
      let (raw?, rest) ← attributeDefault? rest
      if d.isReading then
        let default? ← match raw? with
          | some raw => (d.valueText? [] isWords raw).map some
          | none => some none
        addRules? element fuel (d.addRule ⟨element, name, isWords, default?⟩) rest
      else addRules? element fuel d rest
  | _, _, _ => none

/-- Reads what an entity is declared to be; nothing is said of a text that does not count. -/
def DocumentType.entity? (d : DocumentType) (isParameter : Bool) :
    List Token → Option (Option Entity)
  | [.literal raw] => if d.isReading then (Entity.ofText? raw).map some else some none
  | ts => do
    match ← afterExternalId? ts with
    | [] => return some .external
    | [.word ⟨none, "NDATA"⟩ _ none, .word _ .simple none] =>
      if isParameter then none else return some .external
    | _ => none

/-- The document type with a declaration. Entities that every document has are not declared
again, and those for use in declarations are not kept. -/
def DocumentType.declare? (d : DocumentType) (keyword : String) (ts : List Token) :
    Option DocumentType :=
  match keyword, ts with
  | "ELEMENT", ts => if isElementDeclaration ts then some d else none
  | "NOTATION", ts => if isNotationDeclaration ts then some d else none
  | "ATTLIST", .word element form none :: rest =>
    if form = .other then none else d.addRules? element rest.length rest
  | "ENTITY", .percent :: .word _ .simple none :: rest => (d.entity? true rest).map fun _ => d
  | "ENTITY", .word name .simple none :: rest => do
    match ← d.entity? false rest with
    | some e =>
      if d.isReading && (predefined.lookup name.local_).isNone then
        return { d with entities := d.entities.declare name.local_ e }
      else return d
    | none => return d
  | _, _ => none

/-- The document type after a reference to declarations that are not read: in a document that does
not stand alone, they may say anything, so what follows does not count. -/
def DocumentType.skipped (d : DocumentType) (standsAlone : Bool) : DocumentType :=
  if standsAlone then d
  else { d with entities.mayHaveMore := true, isReading := false }

/-- Reads the declarations inside a document type, up to its closing bracket. -/
def internalSubset? (standsAlone : Bool) :
    Nat → DocumentType → List Char → Option (DocumentType × List Char)
  | 0, _, _ => none
  | fuel + 1, d, cs =>
    match skipSpace cs with
    | ']' :: rest => some (d, rest)
    | '%' :: rest => do
      let (_, rest) ← simpleName? rest
      match rest with
      | ';' :: rest => internalSubset? standsAlone fuel (d.skipped standsAlone) rest
      | _ => none
    | '<' :: '!' :: '-' :: '-' :: rest => do
      internalSubset? standsAlone fuel d (← afterComment? rest)
    | '<' :: '?' :: rest => do internalSubset? standsAlone fuel d (← afterInstruction? rest)
    | '<' :: '!' :: rest => do
      let keyword := rest.takeWhile Char.isAlpha
      let rest := rest.dropWhile Char.isAlpha
      if isFollowedBy [] rest then
        match ← tokens? (rest.length + 1) rest with
        | (ts, .closing, rest) =>
          internalSubset? standsAlone fuel (← d.declare? (String.ofList keyword) ts) rest
        | _ => none
      else none
    | _ => none

/-- Reads a document type after its keyword: a name, an external identifier and declarations, both
of which may be missing. -/
def documentType? (standsAlone : Bool) (cs : List Char) : Option (DocumentType × List Char) := do
  if !isFollowedBy [] cs then none
  else
    match ← tokens? (cs.length + 1) cs with
    | (.word _ form none :: identifier, last, rest) =>
      let isExternal := !identifier.isEmpty
      let isComplete := (afterExternalId? identifier).any fun left => left.isEmpty
      if form = .other || isExternal && !isComplete then none
      else
        let d : DocumentType := { entities.mayHaveMore := isExternal && !standsAlone }
        match last with
        | .closing => return (d, rest)
        | _ =>
          let (d, rest) ← internalSubset? standsAlone (rest.length + 1) d rest
          match skipSpace rest with
          | '>' :: rest => return (d, rest)
          | _ => none
    | _ => none

/-- Reads what stands before the root: the document type, and the rest. -/
def prolog? (standsAlone : Bool) :
    Nat → Option DocumentType → List Char → Option (DocumentType × List Char)
  | 0, _, _ => none
  | fuel + 1, d?, cs =>
    match skipSpace cs with
    | '<' :: '!' :: '-' :: '-' :: rest => do prolog? standsAlone fuel d? (← afterComment? rest)
    | '<' :: '?' :: rest => do prolog? standsAlone fuel d? (← afterInstruction? rest)
    | '<' :: '!' :: rest => do
      if d?.isSome then none
      else
        let rest ← Text.dropStart? rest "DOCTYPE".toList
        let (d, rest) ← documentType? standsAlone rest
        prolog? standsAlone fuel (some d) rest
    | rest => some (d?.getD {}, rest)

end ServiceWire.Xml
