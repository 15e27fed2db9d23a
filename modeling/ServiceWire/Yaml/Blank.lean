import ServiceWire.Text.Cut

/-!
# Blanks and line ends in YAML

What separates words and lines, and what line ends within a scalar stand for. A single line end
folds into a space; of several, the first one says nothing. A line of three dashes or three points
marks where a document begins or ends.
-/

namespace ServiceWire.Yaml

/-- Whether a character separates words. -/
def isBlank (c : Char) : Bool := c == ' ' || c == '\t'

/-- Whether a character ends a line. -/
def isLineEnd (c : Char) : Bool :=
  c == '\n' || c == '\u0085' || c == '\u2028' || c == '\u2029'

/-- What a line end stands for in a text: the next-line character is a line feed. -/
def lineEndText (c : Char) : Char := if c == '\u0085' then '\n' else c

/-- Whether nothing, a blank or a line end comes next. -/
def endsWord (cs : List Char) : Bool :=
  match cs with
  | [] => true
  | c :: _ => isBlank c || isLineEnd c

/-- Whether nothing, a space or a line end comes next. -/
def endsField (cs : List Char) : Bool :=
  match cs with
  | [] => true
  | c :: _ => c == ' ' || isLineEnd c

/-- What the line ends between two words stand for. -/
def fold : List Char → List Char
  | ['\n'] => [' ']
  | '\n' :: more => more
  | all => all

/-- Whether a line begins a document, which three dashes do. -/
def beginsDocument (cs : List Char) : Bool :=
  Text.startsWith cs ['-', '-', '-'] && endsWord (cs.drop 3)

/-- Whether a line ends a document, which three points do. -/
def endsDocument (cs : List Char) : Bool :=
  Text.startsWith cs ['.', '.', '.'] && endsWord (cs.drop 3)

/-- Whether a line is a mark of documents. -/
def isMark (cs : List Char) : Bool := beginsDocument cs || endsDocument cs

/-- The rest of a line from a comment on, without its end. -/
def afterComment (cs : List Char) : List Char :=
  if cs.head? == some '#' then cs.dropWhile fun c => !isLineEnd c else cs

/-- What follows the rest of a line that says nothing: spaces and a comment. -/
def nextLine? (cs : List Char) : Option (List Char) :=
  match afterComment (cs.dropWhile (· == ' ')) with
  | [] => some []
  | c :: rest => if isLineEnd c then some rest else none

/-- Whether a character may stand in a document. -/
def isPrintable (c : Char) : Bool :=
  c == '\t' || c == '\n' || (' ' ≤ c && c ≤ '~') || c == '\u0085' ||
    ('\u00A0' ≤ c && c != '\uFFFE' && c != '\uFFFF')

/-- The characters of a text in which a line feed ends each line. -/
def withLineFeeds : List Char → List Char
  | [] => []
  | '\r' :: '\n' :: rest => '\n' :: withLineFeeds rest
  | c :: rest => (if c == '\r' then '\n' else c) :: withLineFeeds rest

end ServiceWire.Yaml
