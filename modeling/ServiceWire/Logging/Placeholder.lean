import ServiceWire.Number.Places
import ServiceWire.Number.Word
import ServiceWire.Text.LetterCase
import ServiceWire.Value

/-!
# Placeholders in messages

A message may hold placeholders for its arguments. A placeholder begins with `%`; then come, each
of which may be left out, the name of an argument in parentheses, flags, a width, a point with a
precision, and a letter for the size, which says nothing. It ends with the letter of a conversion.
A width or precision that is a star is an argument of its own. `%%` is a percent sign.

Arguments are a sequence, which must be used up, or a mapping. A placeholder is read as a whole
before it is filled, but filling it takes the arguments and finds the faults from left to right.
-/

namespace ServiceWire

/-- The name of an argument in a placeholder. -/
inductive ArgumentName
  | none
  | name (s : String)
  /-- The parenthesis is not closed. -/
  | unclosed
deriving DecidableEq, Repr

/-- A width or a precision. -/
inductive Measure
  | none
  | written (n : Nat)
  /-- It is given by an argument. -/
  | argument
deriving DecidableEq, Repr

/-- A placeholder. -/
structure Placeholder where
  name : ArgumentName := .none
  flags : List Char := []
  width : Measure := .none
  precision : Measure := .none
  /-- The letter of the conversion, unless the text ends before it. -/
  conversion? : Option Char := none
deriving DecidableEq, Repr

namespace Placeholder

/-! ### Reading -/

/-- The text up to the parenthesis that closes as many open ones, and what follows it. -/
def upToClosing : Nat → List Char → Option (List Char × List Char)
  | _, [] => none
  | depth, c :: rest =>
    if c == ')' && depth == 0 then some ([], rest)
    else
      let depth := if c == '(' then depth + 1 else if c == ')' then depth - 1 else depth
      (upToClosing depth rest).map fun p => (c :: p.1, p.2)

/-- Reads the name of an argument. -/
def readName : List Char → ArgumentName × List Char
  | '(' :: rest =>
    match upToClosing 0 rest with
    | some (name, rest) => (.name (String.ofList name), rest)
    | none => (.unclosed, [])
  | cs => (.none, cs)

/-- Reads a width or a precision. -/
def readMeasure : List Char → Measure × List Char
  | '*' :: rest => (.argument, rest)
  | cs =>
    let digits := cs.takeWhile fun c => (Text.asciiDigit? c).isSome
    let n := (digits.filterMap Text.asciiDigit?).foldl (fun n d => n * 10 + d) 0
    (if digits.isEmpty then .none else .written n, cs.drop digits.length)

/-- Reads a precision with its point. A point alone means no places. -/
def readPrecision : List Char → Measure × List Char
  | '.' :: rest =>
    match readMeasure rest with
    | (.none, rest) => (.written 0, rest)
    | p => p
  | cs => (.none, cs)

/-- Leaves out the letter of a size. -/
def skipSize : List Char → List Char
  | 'h' :: rest | 'l' :: rest | 'L' :: rest => rest
  | cs => cs

/-- Whether a character is a flag. -/
def isFlag (c : Char) : Bool := ['-', '+', ' ', '#', '0'].contains c

/-- Reads a placeholder after its percent sign. -/
def read (cs : List Char) : Placeholder × List Char :=
  let (name, cs) := readName cs
  let flags := cs.takeWhile isFlag
  let (width, cs) := readMeasure (cs.dropWhile isFlag)
  let (precision, cs) := readPrecision cs
  let cs := skipSize cs
  (⟨name, flags, width, precision, cs.head?⟩, cs.tail)

/-! ### Filling -/

/-- The arguments that are left. -/
structure Arguments where
  /-- The mapping that names refer to. -/
  entries? : Option (List (Value × Value)) := none
  left : List Value

/-- What takes its arguments one after the other, and may fail. -/
abbrev Filling : Type → Type := StateT Arguments (Except Failure)

/-- The next argument. -/
def next : Filling Value := do
  let a ← get
  match a.left with
  | v :: rest =>
    set { a with left := rest }
    return v
  | [] => throw (.plain .type)

/-- Makes a named argument the next one, and the only one. -/
def choose (name : ArgumentName) : Filling Unit := do
  let a ← get
  match name, a.entries? with
  | .none, _ => return
  | _, none => throw (.plain .type)
  | .unclosed, some _ => throw (.plain .value)
  | .name s, some entries =>
    match Value.lookupText s entries with
    | some v => set { a with left := [v] }
    | none => throw (Failure.noKey s)

/-- An argument that must be an integer within a number of bits. -/
def nextInt (bits : Nat) : Filling Int := do
  match ← next with
  | .int i => if fitsWord bits i then return i else throw (.plain .overflow)
  | .bool b => return if b then 1 else 0
  | _ => throw (.plain .type)

/-- A width or a precision, within a number of bits. -/
def measure (bits : Nat) : Measure → Filling (Option Int)
  | .none => return none
  | .written n => if fitsWord bits n then return some n else throw (.plain .value)
  | .argument => do return some (← nextInt bits)

/-- What a conversion makes of an argument. -/
structure Shown where
  sign : List Char := []
  /-- The mark of a base. -/
  mark : List Char := []
  body : List Char
  /-- Whether zeros may fill the width. -/
  isNumber : Bool := false

/-- The sign of a number. -/
def signOf (flags : List Char) (negative : Bool) : List Char :=
  if negative then ['-'] else if flags.contains '+' then ['+']
  else if flags.contains ' ' then [' '] else []

/-- A text, cut to the precision. -/
def showText (precision : Option Nat) (s : String) : Shown :=
  { body := match precision with
    | some n => s.toList.take n
    | none => s.toList }

/-- A quoted text with escapes for all characters beyond ASCII. -/
def asciiText (s : String) : String :=
  String.ofList (s.toList.flatMap fun c =>
    if c.toNat < 0x80 then [c] else Quoted.escapeNumber c.toNat)

/-- An integer in a base; the precision is the least number of digits. -/
def showInt (flags : List Char) (precision : Option Nat) (base : Nat) (mark : List Char)
    (i : Int) : Shown :=
  let digits := Nat.toDigits base i.natAbs
  { sign := signOf flags (i < 0)
    mark := if flags.contains '#' then mark else []
    body := List.replicate (precision.getD 0 - digits.length) '0' ++ digits
    isNumber := true }

/-- A number with the digits that a style asks for. -/
def showDouble (flags : List Char) (precision : Option Nat) (style : PlacesStyle) (x : Double) :
    Shown :=
  { sign := signOf flags x.isNegative
    body := x.places style (precision.getD 6) (flags.contains '#')
    isNumber := true }

/-- The character that a text is or a number stands for. -/
def charOf : Value → Except Failure Char
  | .str s =>
    match s.toList with
    | [c] => .ok c
    | _ => .error (.plain .type)
  | .bool b => .ok (if b then '\x01' else '\x00')
  | .int i =>
    if 0 ≤ i ∧ i < 0x110000 then .ok (Char.ofNat i.toNat) else .error (.plain .overflow)
  | _ => .error (.plain .type)

/-- An argument that must be a number. -/
def numberOf (v : Value) : Except Failure Numeric :=
  (v.numeric?.map .ok).getD (.error (.plain .type))

/-- An argument that must be an integer. -/
def integerOf (v : Value) : Except Failure Int := do
  match ← numberOf v with
  | .int i => return i
  | .real _ => throw (.plain .type)

/-- An argument as a conversion shows it. -/
def convert (flags : List Char) (precision : Option Nat) (c : Char) (v : Value) :
    Except Failure Shown := do
  let decimal : Except Failure Shown := do
    let x ← numberOf v
    let i ← x.truncate
    return showInt flags precision 10 [] i
  let inBase := fun (base : Nat) (mark : List Char) => do
    let i ← integerOf v
    return showInt flags precision base mark i
  let real := fun (style : PlacesStyle) => do
    let x ← numberOf v
    let x ← x.toDouble
    return showDouble flags precision style x
  let upper := fun (s : Shown) =>
    { s with mark := s.mark.map Char.toUpper, body := s.body.map Char.toUpper }
  match c with
  | 's' => return showText precision v.text
  | 'r' => return showText precision v.quoted
  | 'a' => return showText precision (asciiText v.quoted)
  | 'd' | 'i' | 'u' => decimal
  | 'o' => inBase 8 ['0', 'o']
  | 'x' => inBase 16 ['0', 'x']
  | 'X' => upper <$> inBase 16 ['0', 'x']
  | 'e' => real .scientific
  | 'E' => upper <$> real .scientific
  | 'f' => real .fixed
  | 'F' => upper <$> real .fixed
  | 'g' => real .general
  | 'G' => upper <$> real .general
  | 'c' => do
    let x ← charOf v
    return { body := [x] }
  | _ => throw (.plain .value)

/-- What is shown, filled up to a width. -/
def layOut (flags : List Char) (width : Nat) (left : Bool) (s : Shown) : List Char :=
  let gap := width - (s.sign.length + s.mark.length + s.body.length)
  if left then s.sign ++ s.mark ++ s.body ++ List.replicate gap ' '
  else if s.isNumber && flags.contains '0' then
    s.sign ++ s.mark ++ List.replicate gap '0' ++ s.body
  else List.replicate gap ' ' ++ s.sign ++ s.mark ++ s.body

/-- The text of a placeholder. A width below zero means its size, at the left. -/
def fill (p : Placeholder) : Filling (List Char) := do
  choose p.name
  let width ← measure 63 p.width
  let precision ← measure 31 p.precision
  match p.conversion? with
  | none => throw (.plain .value)
  | some c =>
    let v ← next
    let s ← convert p.flags (precision.map Int.toNat) c v
    let width := width.getD 0
    return layOut p.flags width.natAbs (width < 0 || p.flags.contains '-') s

/-- Fills the placeholders of a message. The count bounds the characters that are left. -/
def fillFrom : Nat → List Char → Filling (List Char)
  | _, [] => return []
  | 0, _ => return []
  | left + 1, '%' :: '%' :: rest => do
    let more ← fillFrom left rest
    return '%' :: more
  | left + 1, '%' :: rest => do
    let (p, rest) := read rest
    let start ← p.fill
    let more ← fillFrom left rest
    return start ++ more
  | left + 1, c :: rest => do
    let more ← fillFrom left rest
    return c :: more

/-- A message with its placeholders filled. -/
def fillAll (message : String) (arguments : Arguments) : Except Failure String := do
  let cs := message.toList
  let (text, rest) ← (fillFrom cs.length cs).run arguments
  if rest.entries?.isNone && !rest.left.isEmpty then throw (.plain .type)
  return String.ofList text

end Placeholder

/-- The text of a message with arguments. Without arguments the message is its own text; a single
mapping gives the arguments their names. -/
def messageText (message : Value) (arguments : List Value) : Except Failure String :=
  match arguments with
  | [] => .ok message.text
  | [.dict (e :: entries)] =>
    Placeholder.fillAll message.text ⟨some (e :: entries), [.dict (e :: entries)]⟩
  | _ => Placeholder.fillAll message.text ⟨none, arguments⟩

end ServiceWire
