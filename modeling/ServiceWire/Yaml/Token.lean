import ServiceWire.Yaml.Block
import ServiceWire.Yaml.Plain
import ServiceWire.Yaml.Quoted
import ServiceWire.Yaml.Tag

/-!
# Tokens of YAML

A document as the sequence of its tokens. Outside of brackets the column where a token stands says
which collection it belongs to: a token further to the left closes the collections that begin to
the right of it. That a node is a key shows only at the colon after it, so the places where a key
may have begun are remembered; such a key stands in one line and has at most 1024 characters.
-/

namespace ServiceWire.Yaml

/-- A token. -/
inductive Token
  | directive (d : Directive)
  | documentStart
  | documentEnd
  /-- A collection that its indentation holds together begins. -/
  | blockSequence
  | blockMapping
  | blockEnd
  /-- A collection in brackets or braces begins or ends. -/
  | openBracket
  | closeBracket
  | openBrace
  | closeBrace
  | comma
  /-- What begins an item, a key or a value. -/
  | item
  | key
  | value
  | reference (name : String)
  | anchor (name : String)
  | tag (t : Tag)
  | scalar (text : String) (isPlain : Bool)
deriving DecidableEq, Repr

/-- A place in a text: what follows it, and where it stands. -/
structure Place where
  rest : List Char
  index : Nat := 0
  line : Nat := 0
  column : Nat := 0
deriving DecidableEq, Repr

/-- The place after characters that are passed over. -/
def Place.pass (p : Place) : List Char → Place
  | [] => p
  | c :: more =>
    let next := { p with rest := p.rest.drop 1, index := p.index + 1 }
    if isLineEnd c then { next with line := p.line + 1, column := 0 }.pass more
    else if c == '\uFEFF' then next.pass more
    else { next with column := p.column + 1 }.pass more

/-- The place at the rest of what follows. -/
def Place.moveTo (p : Place) (rest : List Char) : Place :=
  p.pass (p.rest.take (p.rest.length - rest.length))

/-- The place where a key may have begun. -/
structure KeyPlace where
  /-- The number of tokens before it. -/
  before : Nat
  /-- Whether nothing but a key may stand there. -/
  required : Bool
  index : Nat
  line : Nat
  column : Nat
deriving DecidableEq, Repr

/-- What has been read so far. -/
structure Progress where
  place : Place
  /-- The tokens, the last one first, and their number. -/
  tokens : List Token := []
  count : Nat := 0
  /-- The columns of the open collections outside of brackets, the innermost first. -/
  columns : List Nat := []
  /-- The place where a key may have begun within the innermost bracket, and within those
  around it. -/
  keyPlace : Option KeyPlace := none
  outer : List (Option KeyPlace) := []
  /-- Whether a key may begin here. -/
  keyAllowed : Bool := true
deriving DecidableEq, Repr

namespace Progress

variable (s : Progress)

/-- Whether a collection in brackets is open. -/
def inFlow : Bool := !s.outer.isEmpty

/-- The least column that is to the right of the innermost collection. -/
def least : Nat := (s.columns.head?.map (· + 1)).getD 0

/-- One more token. -/
def add (t : Token) : Progress := { s with tokens := t :: s.tokens, count := s.count + 1 }

/-- One more token before those after a place. -/
def insert (before : Nat) (t : Token) : Progress :=
  let after := s.count - before
  { s with tokens := s.tokens.take after ++ t :: s.tokens.drop after, count := s.count + 1 }

/-- Goes on at the rest of what follows. -/
def moveTo (rest : List Char) : Progress := { s with place := s.place.moveTo rest }

/-- Whether a key may begin after this. -/
def allowKeys (allowed : Bool) : Progress := { s with keyAllowed := allowed }

/-- Closes the collections to the right of a column: those of which `closes` holds. -/
def closeWhile (closes : Nat → Bool) : List Nat → Progress → Progress
  | [], s => { s with columns := [] }
  | column :: rest, s =>
    if closes column then closeWhile closes rest (s.add .blockEnd)
    else { s with columns := column :: rest }

/-- Closes the collections to the right of the place. -/
def closeRight : Progress :=
  if s.inFlow then s else closeWhile (s.place.column < ·) s.columns s

/-- Closes all collections. -/
def closeAll : Progress :=
  if s.inFlow then s else closeWhile (fun _ => true) s.columns s

/-- Forgets the place where a key may have begun, unless a key is required there. -/
def forgetKey? : Option Progress :=
  if s.keyPlace.any (·.required) then none else some { s with keyPlace := none }

/-- Whether a key that began at a place can no longer end here. -/
def isStale (k : KeyPlace) : Bool :=
  k.line != s.place.line || k.index + 1024 < s.place.index

/-- Forgets the places of keys that can no longer end here. -/
def forgetStale? : Option Progress :=
  let drop := fun (k : Option KeyPlace) => k.filter fun k => !s.isStale k
  if (s.keyPlace :: s.outer).any (·.any fun k => k.required && s.isStale k) then none
  else some { s with keyPlace := drop s.keyPlace, outer := s.outer.map drop }

/-- Remembers that a key may begin here. -/
def rememberKey? : Option Progress :=
  if s.keyAllowed then do
    let required := !s.inFlow && s.columns.head? == some s.place.column
    let s ← s.forgetKey?
    let k : KeyPlace := ⟨s.count, required, s.place.index, s.place.line, s.place.column⟩
    return { s with keyPlace := some k }
  else some s

/-- Begins a collection at a column, unless one has begun there already. -/
def begin (column before : Nat) (t : Token) : Progress :=
  if column < s.least then s
  else { s.insert before t with columns := column :: s.columns }

/-- Begins a collection at the place, where a key or an item must be allowed. Within brackets none
begins. -/
def beginHere? (t : Token) : Option Progress :=
  if s.inFlow then some s
  else if s.keyAllowed then some (s.begin s.place.column s.count t)
  else none

/-! ### Kinds of tokens -/

/-- A directive or a mark of documents. -/
def addMark? (t : Token) (rest : List Char) : Option Progress := do
  let s ← s.closeAll.forgetKey?
  return ((s.allowKeys false).add t).moveTo rest

/-- An opening bracket or brace. -/
def addOpening? (t : Token) (rest : List Char) : Option Progress := do
  let s ← s.rememberKey?
  let s := { s with keyPlace := none, outer := s.keyPlace :: s.outer }
  return ((s.allowKeys true).add t).moveTo rest

/-- A closing bracket or brace. -/
def addClosing? (t : Token) (rest : List Char) : Option Progress :=
  match s.outer with
  | [] => none
  | k :: outer => some ((({ s with keyPlace := k, outer }.allowKeys false).add t).moveTo rest)

/-- A comma. -/
def addComma? (rest : List Char) : Option Progress := do
  let s ← s.forgetKey?
  return ((s.allowKeys true).add .comma).moveTo rest

/-- A dash that begins an item. -/
def addItem? (rest : List Char) : Option Progress := do
  let s ← s.beginHere? .blockSequence
  let s ← s.forgetKey?
  return ((s.allowKeys true).add .item).moveTo rest

/-- A question mark that begins a key. -/
def addKey? (rest : List Char) : Option Progress := do
  let s ← s.beginHere? .blockMapping
  let s ← s.forgetKey?
  return ((s.allowKeys !s.inFlow).add .key).moveTo rest

/-- A colon that begins a value. What stands at the remembered place is its key. -/
def addValue? (rest : List Char) : Option Progress :=
  match s.keyPlace with
  | some k =>
    let s := ({ s with keyPlace := none }.insert k.before .key).allowKeys false
    let s := if s.inFlow then s else s.begin k.column k.before .blockMapping
    some ((s.add .value).moveTo rest)
  | none => do
    let s ← s.beginHere? .blockMapping
    return ((s.allowKeys !s.inFlow).add .value).moveTo rest

/-- A token that a key may begin with. -/
def addNode? (t : Token) (rest : List Char) : Option Progress := do
  let s ← s.rememberKey?
  return ((s.allowKeys false).add t).moveTo rest

/-- A block scalar. -/
def addBlock? (folded : Bool) (cs : List Char) : Option Progress := do
  let (text, rest) ← block? folded s.least cs
  let s ← s.forgetKey?
  return ((s.allowKeys true).add (.scalar text false)).moveTo rest

/-- A plain scalar. -/
def addPlain? : Option Progress := do
  let p := plain s.inFlow s.least s.place.rest
  let s ← s.addNode? (.scalar (String.ofList p.text) true) p.rest
  return s.allowKeys p.endsLine

/-! ### The sequence -/

/-- Skips spaces, comments and line ends. After a line end a key may begin. -/
def skip : Nat → Progress → Progress
  | 0, s => s
  | bound + 1, s =>
    match afterComment (s.place.rest.dropWhile (· == ' ')) with
    | [] => s.moveTo []
    | c :: rest =>
      if isLineEnd c then skip bound ((s.moveTo rest).allowKeys (s.keyAllowed || !s.inFlow))
      else s.moveTo (c :: rest)

/-- Adds the token that begins with a character. -/
def addToken? (c : Char) (rest : List Char) : Option Progress :=
  let cs := c :: rest
  if c == '%' && s.place.column == 0 then do
    let (d, rest) ← directive? rest
    s.addMark? (.directive d) rest
  else if s.place.column == 0 && beginsDocument cs then s.addMark? .documentStart (cs.drop 3)
  else if s.place.column == 0 && endsDocument cs then s.addMark? .documentEnd (cs.drop 3)
  else if c == '[' then s.addOpening? .openBracket rest
  else if c == '\x7b' then s.addOpening? .openBrace rest
  else if c == ']' then s.addClosing? .closeBracket rest
  else if c == '\x7d' then s.addClosing? .closeBrace rest
  else if c == ',' then s.addComma? rest
  else if c == '-' && endsWord rest then s.addItem? rest
  else if c == '?' && (s.inFlow || endsWord rest) then s.addKey? rest
  else if c == ':' && (s.inFlow || endsWord rest) then s.addValue? rest
  else if c == '*' then do
    let (name, rest) ← anchorName? rest
    s.addNode? (.reference name) rest
  else if c == '&' then do
    let (name, rest) ← anchorName? rest
    s.addNode? (.anchor name) rest
  else if c == '!' then do
    let (t, rest) ← tag? cs
    s.addNode? (.tag t) rest
  else if (c == '|' || c == '>') && !s.inFlow then s.addBlock? (c == '>') rest
  else if c == '\'' || c == '"' then do
    let (text, rest) ← quoted? c rest
    s.addNode? (.scalar text false) rest
  else if beginsPlain s.inFlow cs then s.addPlain?
  else none

/-- Reads the tokens to the end of the text. The bound is more than the number of characters. -/
def run? : Nat → Progress → Option (List Token)
  | 0, _ => none
  | bound + 1, s => do
    let s ← (skip bound s).forgetStale?
    let s := s.closeRight
    match s.place.rest with
    | [] =>
      let s ← s.closeAll.forgetKey?
      return s.tokens.reverse
    | c :: rest =>
      let s ← s.addToken? c rest
      run? bound s

end Progress

/-- The tokens of a text. A byte order mark may stand before them. -/
def tokens? (cs : List Char) : Option (List Token) :=
  if !cs.all isPrintable then none
  else
    let start : Place := ⟨cs, 0, 0, 0⟩
    let start := if cs.head? == some '\uFEFF' then start.moveTo (cs.drop 1) else start
    Progress.run? (cs.length + 2) { place := start }

end ServiceWire.Yaml
