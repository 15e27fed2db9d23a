import ServiceWire.Yaml.Blank

/-!
# Plain scalars of YAML

A plain scalar has no quotes. It ends where a character has a meaning of its own: at a colon that
ends a word, at a comment, within brackets also at a comma, a question mark or a bracket. It may go
on over lines that are indented deeply enough.
-/

namespace ServiceWire.Yaml

/-- The characters that have a meaning at the start of a scalar. -/
def indicators : List Char :=
  ['-', '?', ':', ',', '[', ']', '\x7b', '\x7d', '#', '&', '*', '!', '|', '>', '\'', '"', '%',
    '@', '\x60']

/-- The characters that divide collections in brackets. -/
def flowMarks : List Char := [',', '[', ']', '\x7b', '\x7d']

/-- Whether a plain scalar begins here. -/
def beginsPlain (inFlow : Bool) : List Char → Bool
  | [] => false
  | c :: rest =>
    (!indicators.contains c && !endsWord (c :: rest)) ||
      (!endsWord rest && (c == '-' || (!inFlow && (c == '?' || c == ':'))))

/-- Whether a word of a plain scalar ends before a character and what follows it. -/
def endsPlain (inFlow : Bool) (c : Char) (rest : List Char) : Bool :=
  isBlank c || isLineEnd c ||
    (c == ':' && (endsWord rest || (inFlow && rest.head?.any flowMarks.contains))) ||
    (inFlow && (c == '?' || flowMarks.contains c))

/-- A word of a plain scalar, and what follows it. -/
def plainWord (inFlow : Bool) : List Char → List Char × List Char
  | [] => ([], [])
  | c :: rest =>
    if endsPlain inFlow c rest then ([], c :: rest)
    else
      let (word, after) := plainWord inFlow rest
      (c :: word, after)

/-- The line ends and spaces at the start of a text, up to a mark of documents: the line ends, the
column after them, and what follows. -/
def lineEnds (column : Nat) : List Char → List Char × Nat × List Char
  | [] => ([], column, [])
  | c :: rest =>
    if column == 0 && isMark (c :: rest) then ([], 0, c :: rest)
    else if c == ' ' then lineEnds (column + 1) rest
    else if isLineEnd c then
      let (ends, column, after) := lineEnds 0 rest
      (lineEndText c :: ends, column, after)
    else ([], column, c :: rest)

/-- What stands between two words of a plain scalar. -/
structure Gap where
  text : List Char
  /-- The column after the gap, if a line ended in it. -/
  column? : Option Nat
  rest : List Char
deriving DecidableEq, Repr

/-- The gap at the start of a text. -/
def Gap.ofChars (cs : List Char) : Gap :=
  let spaces := cs.takeWhile (· == ' ')
  match cs.drop spaces.length with
  | [] => ⟨spaces, none, []⟩
  | c :: rest =>
    if isLineEnd c then
      let (ends, column, after) := lineEnds 0 rest
      ⟨fold (lineEndText c :: ends), some column, after⟩
    else ⟨spaces, none, c :: rest⟩

/-- Whether a plain scalar cannot go on after a gap, when it must be indented by some columns. -/
def Gap.endsScalar (inFlow : Bool) (indent : Nat) (g : Gap) : Bool :=
  g.text.isEmpty || g.rest.head? == some '#' ||
    g.column?.any fun column =>
      (!inFlow && column < indent) || (column == 0 && isMark g.rest)

/-- A plain scalar as it is read. -/
structure Plain where
  text : List Char
  /-- Whether a line ended after its last word. -/
  endsLine : Bool
  rest : List Char
deriving DecidableEq, Repr

/-- Reads the words of a plain scalar after the first. The text so far is reversed; the bound is
more than the length of the characters. -/
def plainFrom (inFlow : Bool) (indent : Nat) : Nat → List Char → List Char → Plain
  | 0, acc, cs => ⟨acc.reverse, false, cs⟩
  | bound + 1, acc, cs =>
    let gap := Gap.ofChars cs
    let (word, rest) := plainWord inFlow gap.rest
    if word.isEmpty || gap.endsScalar inFlow indent then
      ⟨acc.reverse, gap.column?.isSome, gap.rest⟩
    else plainFrom inFlow indent bound (word.reverse ++ gap.text.reverse ++ acc) rest

/-- The plain scalar at the start of a text. -/
def plain (inFlow : Bool) (indent : Nat) (cs : List Char) : Plain :=
  let (word, rest) := plainWord inFlow cs
  plainFrom inFlow indent (rest.length + 1) word.reverse rest

end ServiceWire.Yaml
