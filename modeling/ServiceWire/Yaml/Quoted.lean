import ServiceWire.Text.Digit
import ServiceWire.Yaml.Blank

/-!
# Quoted scalars of YAML

A scalar in single quotes writes a quote twice; one in double quotes has escapes. In both a line
end folds, the blanks around it say nothing, and no mark of a document may begin a line.
-/

namespace ServiceWire.Yaml

/-- The characters that escapes of one letter stand for. -/
def escapes : List (Char × Nat) :=
  [('0', 0), ('a', 7), ('b', 8), ('t', 9), ('\t', 9), ('n', 10), ('v', 11), ('f', 12), ('r', 13),
    ('e', 27), (' ', 32), ('"', 34), ('\\', 92), ('/', 47), ('N', 0x85), ('_', 0xA0),
    ('L', 0x2028), ('P', 0x2029)]

/-- The numbers of hexadecimal digits after the letters that announce them. -/
def codeEscapes : List (Char × Nat) := [('x', 2), ('u', 4), ('U', 8)]

/-- The number that hexadecimal digits write. -/
def hexNumber? (cs : List Char) : Option Nat :=
  (cs.mapM Text.hexDigit?).map fun ds => ds.foldl (fun n d => n * 16 + d) 0

/-- The character that an escape stands for, after its backslash. -/
def escape? : List Char → Option (Char × List Char)
  | [] => none
  | c :: rest =>
    match escapes.lookup c, codeEscapes.lookup c with
    | some n, _ => some (Char.ofNat n, rest)
    | none, some width =>
      if rest.length < width then none
      else (hexNumber? (rest.take width)).map fun n => (Char.ofNat n, rest.drop width)
    | none, none => none

/-- The line ends after a first one, and what follows the blanks after them. `starts` says whether
a line starts here. -/
def moreLineEnds? (starts : Bool) : List Char → Option (List Char × List Char)
  | [] => some ([], [])
  | c :: rest =>
    if starts && isMark (c :: rest) then none
    else if isBlank c then moreLineEnds? false rest
    else if isLineEnd c then
      (moreLineEnds? true rest).map fun p => (lineEndText c :: p.1, p.2)
    else some ([], c :: rest)

/-- What the blanks and line ends at the start of a text stand for within quotes, and what
follows them. -/
def quotedGap? (cs : List Char) : Option (List Char × List Char) :=
  let blanks := cs.takeWhile isBlank
  match cs.drop blanks.length with
  | [] => none
  | c :: rest =>
    if isLineEnd c then
      (moreLineEnds? true rest).map fun p => (fold (lineEndText c :: p.1), p.2)
    else some (blanks, c :: rest)

/-- What an escape stands for, after its backslash; an escaped line end stands for nothing. -/
def escaped? : List Char → Option (List Char × List Char)
  | [] => none
  | c :: rest =>
    if isLineEnd c then moreLineEnds? true rest
    else (escape? (c :: rest)).map fun p => ([p.1], p.2)

/-- The text up to the closing quote, and what follows it. The bound is more than the length of
the characters. -/
def quotedText? (quote : Char) : Nat → List Char → List Char → Option (List Char × List Char)
  | 0, _, _ => none
  | _ + 1, _, [] => none
  | bound + 1, acc, c :: rest =>
    if c == quote then
      if c == '\'' && rest.head? == some '\'' then quotedText? quote bound (c :: acc) (rest.drop 1)
      else some (acc.reverse, rest)
    else if c == '\\' && quote == '"' then
      match escaped? rest with
      | some (text, rest) => quotedText? quote bound (text.reverse ++ acc) rest
      | none => none
    else if isBlank c || isLineEnd c then
      match quotedGap? (c :: rest) with
      | some (text, rest) => quotedText? quote bound (text.reverse ++ acc) rest
      | none => none
    else quotedText? quote bound (c :: acc) rest

/-- The text of a quoted scalar after its opening quote, and what follows it. -/
def quoted? (quote : Char) (cs : List Char) : Option (String × List Char) :=
  (quotedText? quote (cs.length + 1) [] cs).map fun p => (String.ofList p.1, p.2)

end ServiceWire.Yaml
