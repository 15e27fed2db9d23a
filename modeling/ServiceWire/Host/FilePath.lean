import ServiceWire.Text.Cut

/-!
# File paths

A path is a list of names, from the root or from the current folder. Empty names and single points
say nothing and are left out.
-/

namespace ServiceWire

/-- A path to a file or a folder. -/
structure FilePath where
  fromRoot : Bool := false
  parts : List String
deriving DecidableEq, Repr

namespace FilePath

/-- The path that a text writes. -/
def ofText (s : String) : FilePath where
  fromRoot := s.toList.head? == some '/'
  parts := ((Text.pieces '/' s.toList).map String.ofList).filter fun n => n != "" && n != "."

/-- The text of a path. -/
def text (p : FilePath) : String :=
  if p.fromRoot then "/" ++ Text.join "/" p.parts
  else if p.parts.isEmpty then "." else Text.join "/" p.parts

/-- A path within a folder. A path from the root stays as it is. -/
def join (p q : FilePath) : FilePath :=
  if q.fromRoot then q else { p with parts := p.parts ++ q.parts }

/-- The folder of a path. -/
def parent (p : FilePath) : FilePath := { p with parts := p.parts.dropLast }

/-- The last name of a path. -/
def name (p : FilePath) : String := p.parts.getLast?.getD ""

/-- The ending of the last name, from its last point on. A point at either end of the name begins
no ending. -/
def ending (p : FilePath) : String :=
  let tail := p.name.toList.reverse.takeWhile (· != '.')
  let rest := p.name.toList.reverse.dropWhile (· != '.')
  if tail.isEmpty || rest.length ≤ 1 then "" else "." ++ String.ofList tail.reverse

/-- The folders on the way to a path, the path included. -/
def ancestors (p : FilePath) : List FilePath :=
  (List.range p.parts.length).map fun n => { p with parts := p.parts.take (n + 1) }

end FilePath

end ServiceWire
