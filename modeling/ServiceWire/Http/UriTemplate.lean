import ServiceWire.Text.Cut
import ServiceWire.Text.Percent
import ServiceWire.Value

/-!
# Request URIs

A request URI is a template for a path, with labels between braces, and literal query parameters.
A label is replaced by its percent-encoded value; the value of a greedy label, one with a plus sign
at its end, keeps its slashes.
-/

namespace ServiceWire.UriTemplate

/-- The parameter of a piece of a literal query. -/
def literalPair (cs : List Char) : String × String :=
  match Text.cut? '=' cs with
  | some (name, value) => (String.ofList name, String.ofList value)
  | none => (String.ofList cs, "")

/-- The template of the path and the literal query parameters of a request URI. -/
def split (uri : String) : String × List (String × String) :=
  let (path, query) := (Text.cut? '?' uri.toList).getD (uri.toList, [])
  let pairs := ((Text.pieces '&' query).filter fun cs => !cs.isEmpty).map literalPair
  (if path.isEmpty then "/" else String.ofList path, pairs)

/-- A piece of a template. -/
inductive Piece
  /-- A character that stands for itself. -/
  | literal (c : Char)
  /-- The text between two braces. -/
  | label (text : List Char)
deriving DecidableEq, Repr

/-- The pieces of a template, from the left. After an opening brace the characters up to the
closing one are kept: they are a label, unless there are none. A brace that opens no label stands
for itself. -/
def piecesFrom : Option (List Char) → List Char → List Piece
  | none, [] => []
  | some kept, [] => .literal '\x7b' :: kept.reverse.map .literal
  | none, c :: rest =>
    if c = '\x7b' then piecesFrom (some []) rest else .literal c :: piecesFrom none rest
  | some kept, c :: rest =>
    if c = '\x7d' then
      if kept.isEmpty then .literal '\x7b' :: .literal c :: piecesFrom none rest
      else .label kept.reverse :: piecesFrom none rest
    else piecesFrom (some (c :: kept)) rest

/-- The pieces of a template. -/
def pieces (template : String) : List Piece := piecesFrom none template.toList

/-- The name of a label and whether it is greedy. -/
def labelName (text : List Char) : List Char × Bool :=
  match text.reverse with
  | '+' :: rest => (rest.reverse, true)
  | _ => (text, false)

/-- A text as it stands in a path for a label. -/
def encodeText (greedy : Bool) (value : String) : String :=
  if greedy then
    Text.join "/" ((Text.pieces '/' value.toList).map fun cs => Percent.encode (String.ofList cs))
  else Percent.encode value

/-- The value of a label as it stands in a path: a text, or unless the label is greedy a byte
string. -/
def encodeLabel (greedy : Bool) : Value → Except Failure String
  | .str value => .ok (encodeText greedy value)
  | .bytes .fixed data | .bytes .mutable data =>
    if greedy then .error (.plain .type) else .ok (String.ofList (Percent.encodeBytes data))
  | _ => .error (.plain (if greedy then .attribute else .type))

/-- What stands for a piece of a template. -/
def expandPiece (labels : List (String × Value)) : Piece → Except Failure String
  | .literal c => .ok (String.singleton c)
  | .label text =>
    let (name, greedy) := labelName text
    match labels.lookup (String.ofList name) with
    | some value => encodeLabel greedy value
    | none => .error (.noKey (String.ofList name))

/-- The path of a template, with the values of its labels. -/
def expand (template : String) (labels : List (String × Value)) : Except Failure String := do
  let parts ← (pieces template).mapM (expandPiece labels)
  return String.join parts

end ServiceWire.UriTemplate
