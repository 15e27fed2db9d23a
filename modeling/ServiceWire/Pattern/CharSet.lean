import ServiceWire.Text.Alphanumeric
import ServiceWire.Text.Blank
import ServiceWire.Text.Digit
import ServiceWire.Text.LetterCase

/-!
# Characters and places in patterns

A pattern names characters by classes: ranges of code points, and properties such as being a digit.
It may look at characters without regard to their case, and may take only ASCII letters, digits and
blanks for such. It also names places between characters.
-/

namespace ServiceWire

/-- The properties of characters that patterns can name. -/
inductive CharKind
  | digit
  | blank
  | word
deriving DecidableEq, Repr

/-- How the characters of a text are looked at. -/
structure CharRules where
  ignoresCase : Bool := false
  /-- Whether case, letters, digits and blanks are those of ASCII. -/
  asciiOnly : Bool := false
deriving DecidableEq, Repr

namespace CharRules

/-- Whether a character has a property. -/
def hasKind (r : CharRules) (c : Char) : CharKind → Bool
  | .digit => if r.asciiOnly then c.isDigit else CharClass.decimalDigit.contains c
  | .blank =>
    if r.asciiOnly then c == ' ' || (0x09 ≤ c.toNat && c.toNat ≤ 0x0D) else Text.isBlank c
  | .word => if r.asciiOnly then c == '_' || c.isAlphanum else Text.isWordChar c

/-- The characters that a character may stand for. -/
def variants (r : CharRules) (c : Char) : List Char :=
  if !r.ignoresCase then [c]
  else if r.asciiOnly then [c, c.toLower, c.toUpper]
  else Text.caseVariants c

/-- Whether a character repeats another. -/
def same (r : CharRules) (c d : Char) : Bool :=
  if !r.ignoresCase then c == d
  else if r.asciiOnly then c.toLower == d.toLower
  else Text.lowerOne c == Text.lowerOne d

end CharRules

/-- A part of a class of characters. -/
inductive CharItem
  /-- The characters between two code points. -/
  | range (first last : Nat)
  /-- The characters that have a property, or that have it not. -/
  | kind (kind : CharKind) (inside : Bool)
deriving DecidableEq, Repr

/-- Whether a character belongs to a part of a class. -/
def CharItem.contains (r : CharRules) (c : Char) : CharItem → Bool
  | range first last => (r.variants c).any fun d => first ≤ d.toNat && d.toNat ≤ last
  | kind k inside => r.hasKind c k == inside

/-- A class of characters: those in some of its parts, or those in none. -/
structure CharSet where
  items : List CharItem
  negated : Bool := false
  rules : CharRules := {}
deriving DecidableEq, Repr

/-- Whether a character belongs to a class. -/
def CharSet.contains (s : CharSet) (c : Char) : Bool :=
  (s.items.any fun i => i.contains s.rules c) != s.negated

/-- A place in a text. -/
inductive Anchor
  /-- The start of the text. -/
  | first
  /-- The start of a line. -/
  | lineFirst
  /-- The end of the text, or the place before a line feed that ends it. -/
  | last
  /-- The end of a line. -/
  | lineLast
  /-- The very end of the text. -/
  | veryLast
  /-- A place between a word and no word, or another place. -/
  | wordEdge (rules : CharRules) (wanted : Bool)
deriving DecidableEq, Repr

/-- Whether the character at a position belongs to a word. -/
def CharRules.wordAt (r : CharRules) (text : Array Char) (i : Nat) : Bool :=
  (text[i]?).any fun c => r.hasKind c .word

/-- Whether a position is such a place. A text without characters has no edges of words, nor
places between such edges. -/
def Anchor.holds (text : Array Char) (i : Nat) : Anchor → Bool
  | first => i == 0
  | lineFirst => i == 0 || text[i - 1]? == some '\n'
  | last => i == text.size || (i + 1 == text.size && text[i]? == some '\n')
  | lineLast => i == text.size || text[i]? == some '\n'
  | veryLast => i == text.size
  | wordEdge r wanted =>
    text.size != 0 && ((i != 0 && r.wordAt text (i - 1)) != r.wordAt text i) == wanted

end ServiceWire
