import ServiceWire.Text.Digit
import ServiceWire.Yaml.Blank

/-!
# Block scalars of YAML

A block scalar is the indented lines below its header. After a bar the line ends stay; after an
angle bracket they fold, except around lines that begin with a blank. The header says what becomes
of the line ends after the last line, and may say how deep the lines are indented.
-/

namespace ServiceWire.Yaml

/-- What becomes of the line ends after the last line of a block. -/
inductive Chomping
  | strip
  | clip
  | keep
deriving DecidableEq, Repr

/-- The header of a block. -/
structure BlockHeader where
  chomping : Chomping := .clip
  /-- By how many columns the lines are indented, if the header says so. -/
  indent? : Option Nat := none
deriving DecidableEq, Repr

/-- What a sign in a header says about the line ends after the last line. -/
def Chomping.ofSign? (c : Char) : Option Chomping :=
  if c == '+' then some .keep else if c == '-' then some .strip else none

/-- The indentation that a digit in a header gives. -/
def indentDigit? (cs : List Char) : Option Nat := cs.head?.bind Text.asciiDigit?

/-- Reads a header up to the line below it: a sign and a digit in either order. -/
def blockHeader? (cs : List Char) : Option (BlockHeader × List Char) :=
  let sign := cs.head?.bind Chomping.ofSign?
  let afterSign := if sign.isSome then cs.drop 1 else cs
  let digit := indentDigit? afterSign
  let afterDigit := if digit.isSome then afterSign.drop 1 else afterSign
  let lateSign :=
    if sign.isNone && digit.isSome then afterDigit.head?.bind Chomping.ofSign? else none
  let rest := if lateSign.isSome then afterDigit.drop 1 else afterDigit
  if digit == some 0 || !endsField rest then none
  else (nextLine? rest).map fun below => (⟨((sign <|> lateSign).getD .clip), digit⟩, below)

/-- Where the lines of a block begin: the line ends before them, the column, and what follows. -/
structure BlockPlace where
  ends : List Char
  column : Nat
  rest : List Char
deriving DecidableEq, Repr

/-- The place with a line end before it. -/
def BlockPlace.after (c : Char) (p : BlockPlace) : BlockPlace :=
  { p with ends := lineEndText c :: p.ends }

/-- Skips blank lines and up to `indent` spaces. -/
def blockPlace (indent column : Nat) : List Char → BlockPlace
  | [] => ⟨[], column, []⟩
  | c :: rest =>
    if c == ' ' && column < indent then blockPlace indent (column + 1) rest
    else if isLineEnd c then (blockPlace indent 0 rest).after c
    else ⟨[], column, c :: rest⟩

/-- Skips blank lines and all spaces; also the widest column that the spaces reach. -/
def widestPlace (widest column : Nat) : List Char → Nat × BlockPlace
  | [] => (widest, ⟨[], column, []⟩)
  | c :: rest =>
    if c == ' ' then widestPlace (max widest (column + 1)) (column + 1) rest
    else if isLineEnd c then
      let (widest, p) := widestPlace widest 0 rest
      (widest, p.after c)
    else (widest, ⟨[], column, c :: rest⟩)

/-- Whether a blank comes next. -/
def startsBlank (cs : List Char) : Bool := cs.head?.any isBlank

/-- What stands between two lines of a block: the end of the first, and the ends of the blank lines
after it. -/
def betweenLines (folded : Bool) (first second lineEnd ends : List Char) : List Char :=
  if folded && lineEnd == ['\n'] && !startsBlank first && !startsBlank second then
    if ends.isEmpty then [' '] else ends
  else lineEnd ++ ends

/-- The text of a block as it is read: without the end of its last line. -/
structure Block where
  text : List Char
  lineEnd : List Char
  ends : List Char
  rest : List Char
deriving DecidableEq, Repr

/-- Reads the lines of a block from one of them on. The text so far is reversed; the bound is more
than the length of the characters. -/
def blockLines (folded : Bool) (indent : Nat) : Nat → List Char → List Char → Block
  | 0, acc, cs => ⟨acc.reverse, [], [], cs⟩
  | bound + 1, acc, cs =>
    let line := cs.takeWhile fun c => !isLineEnd c
    let acc := line.reverse ++ acc
    match cs.drop line.length with
    | [] => ⟨acc.reverse, [], [], []⟩
    | c :: rest =>
      let lineEnd := [lineEndText c]
      let next := blockPlace indent 0 rest
      if next.column == indent && !next.rest.isEmpty then
        let between := betweenLines folded cs next.rest lineEnd next.ends
        blockLines folded indent bound (between.reverse ++ acc) next.rest
      else ⟨acc.reverse, lineEnd, next.ends, next.rest⟩

/-- The characters of a block with the line ends after its last line that it keeps. -/
def Block.chars (chomping : Chomping) (b : Block) : List Char :=
  match chomping with
  | .strip => b.text
  | .clip => b.text ++ b.lineEnd
  | .keep => b.text ++ b.lineEnd ++ b.ends

/-- Reads a block scalar after its first character. Its lines are indented by `least` columns or
more. -/
def block? (folded : Bool) (least : Nat) (cs : List Char) : Option (String × List Char) := do
  let (header, below) ← blockHeader? cs
  let least := max least 1
  let (indent, start) := match header.indent? with
    | some n => (least + n - 1, blockPlace (least + n - 1) 0 below)
    | none =>
      let (widest, p) := widestPlace 0 0 below
      (max least widest, p)
  let b :=
    if start.column == indent && !start.rest.isEmpty then
      blockLines folded indent (start.rest.length + 1) start.ends.reverse start.rest
    else ⟨[], [], start.ends, start.rest⟩
  return (String.ofList (b.chars header.chomping), b.rest)

end ServiceWire.Yaml
