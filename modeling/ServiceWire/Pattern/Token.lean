import ServiceWire.Failure
import ServiceWire.Number.Reading
import ServiceWire.Pattern.Basic
import ServiceWire.Text.Percent

/-!
# Tokens of patterns

The pieces that the written form of a pattern is made of: characters and classes in brackets,
escapes, anchors, repetition counts, and the beginnings and ends of groups. What a token is depends
on the characters alone; what it means may depend on the options and groups before it.
-/

namespace ServiceWire.Pattern

/-- A text is no pattern. -/
def malformed {α : Type} : Except Failure α := .error (.plain .malformedPattern)

/-- How a pattern asks for a group. -/
inductive GroupName
  | number (n : Nat)
  | name (s : String)
deriving DecidableEq, Repr

/-- What a group is for. -/
inductive GroupForm
  /-- It holds together what is in it. -/
  | plain
  /-- Its text is kept, and may have a name. -/
  | kept (name : Option String)
  /-- It does not give way. -/
  | atomic
  | ahead (wanted : Bool)
  | behind (wanted : Bool)
  /-- It is a choice by whether a group has matched. -/
  | given (group : GroupName)
deriving DecidableEq, Repr

/-- A token of a pattern. -/
inductive Token
  | set (items : List CharItem) (negated : Bool)
  | dot
  | caret
  | dollar
  | place (a : Anchor)
  | again (group : GroupName)
  | count (least : Nat) (most : Option Nat) (eagerness : Eagerness)
  | opening (form : GroupForm) (on off : List Char)
  | closing
  | bar
  /-- Options for the whole pattern. -/
  | options (on : List Char)
  | comment
deriving DecidableEq, Repr

/-! ### Characters and escapes -/

/-- What an escape stands for. -/
inductive Escaped
  | code (n : Nat)
  | kind (k : CharKind) (inside : Bool)
  | place (a : Anchor)
  | again (number : Nat)
deriving DecidableEq, Repr

/-- The part of a class that an escape stands for. -/
def Escaped.item? : Escaped → Option CharItem
  | .code n => some (.range n n)
  | .kind k inside => some (.kind k inside)
  | .place _ | .again _ => none

/-- The number of a digit. -/
def digitOf (c : Char) : Nat := c.toNat - '0'.toNat

/-- Whether a character is an octal digit. -/
def isOctal (c : Char) : Bool := '0' ≤ c && c ≤ '7'

/-- The number that octal digits write. -/
def octalNumber (cs : List Char) : Nat :=
  cs.foldl (fun n c => n * 8 + digitOf c) 0

/-- The control characters with a letter of their own. -/
def controlLetters : List (Char × Nat) :=
  [('a', 7), ('f', 12), ('n', 10), ('r', 13), ('t', 9), ('v', 11)]

/-- The properties with a letter of their own. -/
def kindLetters : List (Char × Escaped) :=
  [('d', .kind .digit true), ('D', .kind .digit false), ('s', .kind .blank true),
    ('S', .kind .blank false), ('w', .kind .word true), ('W', .kind .word false)]

/-- The places with a letter of their own. -/
def placeLetters : List (Char × Escaped) :=
  [('A', .place .first), ('b', .place (.wordEdge {} true)), ('B', .place (.wordEdge {} false)),
    ('Z', .place .veryLast)]

/-- The numbers of hexadecimal digits after the letters that announce them. -/
def hexLetters : List (Char × Nat) := [('x', 2), ('u', 4), ('U', 8)]

/-- A code point written with a fixed number of hexadecimal digits. -/
def readHex (width : Nat) (cs : List Char) : Except Failure (Escaped × List Char) :=
  match (cs.take width).mapM Text.hexDigit? with
  | some digits =>
    let n := digits.foldl (fun n d => n * 16 + d) 0
    if digits.length = width ∧ n ≤ 0x10FFFF then .ok (.code n, cs.drop width) else malformed
  | none => malformed

/-- A code point written with up to three octal digits, of which the first is given. -/
def readOctal (c : Char) (cs : List Char) : Except Failure (Escaped × List Char) :=
  let more := (cs.take 2).takeWhile isOctal
  let n := octalNumber (c :: more)
  if isOctal c ∧ n ≤ 0o377 then .ok (.code n, cs.drop more.length) else malformed

/-- An escape that a digit begins, outside of brackets: the number of a group, which has one digit
or two. A leading zero or three octal digits make it a code point. -/
def readNumber (c : Char) (cs : List Char) : Except Failure (Escaped × List Char) :=
  match cs with
  | d :: rest =>
    if c == '0' || (isOctal c && isOctal d && (rest.head?.any isOctal)) then readOctal c cs
    else if d.isDigit then .ok (.again (digitOf c * 10 + digitOf d), rest)
    else .ok (.again (digitOf c), cs)
  | [] => .ok (if c == '0' then .code 0 else .again (digitOf c), [])

/-- What follows a backslash. -/
def readEscape (inSet : Bool) : List Char → Except Failure (Escaped × List Char)
  | [] => malformed
  | c :: cs =>
    match kindLetters.lookup c, controlLetters.lookup c, hexLetters.lookup c,
        placeLetters.lookup c with
    | some e, _, _, _ => .ok (e, cs)
    | _, some n, _, _ => .ok (.code n, cs)
    | _, _, some width, _ => readHex width cs
    | _, _, _, some e =>
      if !inSet then .ok (e, cs) else if c == 'b' then .ok (.code 8, cs) else malformed
    | _, _, _, _ =>
      if c.isDigit then if inSet then readOctal c cs else readNumber c cs
      else if c.isAlpha then malformed
      else .ok (.code c.toNat, cs)

/-! ### Classes in brackets -/

/-- One end of a range, or a part of a class. -/
def readSetItem (c : Char) (cs : List Char) : Except Failure (Escaped × List Char) :=
  if c == '\\' then readEscape true cs else .ok (.code c.toNat, cs)

/-- A part of a class, after it has been read: as it is, or as the beginning of a range. The flag
says whether the class ends here. -/
def readRange (start : Escaped) (cs : List Char) :
    Except Failure (List CharItem × Bool × List Char) :=
  let alone := start.item?.toList
  match cs with
  | '-' :: ']' :: rest => .ok (alone ++ [.range '-'.toNat '-'.toNat], true, rest)
  | '-' :: c :: rest => do
    let (stop, rest) ← readSetItem c rest
    match start, stop with
    | .code first, .code last =>
      if first ≤ last then return ([.range first last], false, rest) else malformed
    | _, _ => malformed
  | ['-'] => malformed
  | _ => .ok (alone, false, cs)

/-- The parts of a class up to its closing bracket. The bound is the length of the text. -/
def readSet : Nat → List CharItem → List Char → Except Failure (List CharItem × List Char)
  | 0, _, _ => malformed
  | _ + 1, _, [] => malformed
  | bound + 1, items, c :: cs =>
    if c == ']' && !items.isEmpty then .ok (items, cs)
    else do
      let (start, rest) ← readSetItem c cs
      let (more, isLast, rest) ← readRange start rest
      if isLast then return (items ++ more, rest) else readSet bound (items ++ more) rest

/-! ### Repetition counts -/

/-- A count is less than this. -/
def countLimit : Nat := 4294967295

/-- The digits at the start of a text, and what follows them. -/
def takeDigits (cs : List Char) : List Char × List Char :=
  (cs.takeWhile Char.isDigit, cs.dropWhile Char.isDigit)

/-- The number that digits write, if there are any. -/
def number? (digits : List Char) : Option Nat :=
  if digits.isEmpty then none
  else some (digits.foldl (fun n c => n * 10 + digitOf c) 0)

/-- Refuses a count that is too large or less than another. -/
def checkCount (least : Nat) (most : Option Nat) : Except Failure Unit :=
  if least ≥ countLimit ∨ most.any (· ≥ countLimit) then .error (.plain .overflow)
  else if most.any (· < least) then malformed
  else .ok ()

/-- How a repetition goes about its optional rounds, as the character after its count says. -/
def readEagerness : List Char → Eagerness × List Char
  | '?' :: cs => (.reluctant, cs)
  | '+' :: cs => (.possessive, cs)
  | cs => (.greedy, cs)

/-- The count with a given text behind it. -/
def countToken (least : Nat) (most : Option Nat) (cs : List Char) : Token × List Char :=
  let (eagerness, rest) := readEagerness cs
  (.count least most eagerness, rest)

/-- The count between braces. If there is none the brace stands for itself. -/
def readBraces (cs : List Char) : Except Failure (Token × List Char) :=
  let brace : Token := .set [.range '\x7b'.toNat '\x7b'.toNat] false
  let (low, rest) := takeDigits cs
  let (high, rest) := match rest with
    | ',' :: rest => takeDigits rest
    | _ => (low, rest)
  match cs, rest with
  | '\x7d' :: _, _ => .ok (brace, cs)
  | _, '\x7d' :: rest => do
    let least := (number? low).getD 0
    let most := number? high
    checkCount least most
    return countToken least most rest
  | _, _ => .ok (brace, cs)

/-! ### Groups -/

/-- The letters of options. -/
def optionLetters : List Char := ['a', 'i', 'm', 's', 'u', 'x']

/-- The letters of options that can be switched off. -/
def switchLetters : List Char := ['i', 'm', 's', 'x']

/-- Whether a text can be the name of a group. -/
def isGroupName (cs : List Char) : Bool :=
  let isWord := fun c => Text.isWordChar c
  match cs with
  | [] => false
  | c :: rest => isWord c && (Text.decimalDigit? c).isNone && rest.all isWord

/-- Options for a group or for the whole pattern. Taking characters as those of ASCII and taking
them as those of Unicode exclude each other. -/
def readOptions (cs : List Char) : Except Failure (Token × List Char) :=
  let on := cs.takeWhile optionLetters.contains
  if on.contains 'a' && on.contains 'u' then malformed
  else
    match cs.dropWhile optionLetters.contains with
    | ')' :: rest => if on.isEmpty then malformed else .ok (.options on, rest)
    | ':' :: rest => if on.isEmpty then malformed else .ok (.opening .plain on [], rest)
    | '-' :: rest =>
      let off := rest.takeWhile switchLetters.contains
      match rest.dropWhile switchLetters.contains with
      | ':' :: rest =>
        if off.isEmpty || off.any on.contains then malformed
        else .ok (.opening .plain on off, rest)
      | _ => malformed
    | _ => malformed

/-- What follows the first occurrence of a character, if there is one. A backslash and the character
after it belong together. -/
def after? (stop : Char) : List Char → Except Failure (Option (List Char))
  | [] => .ok none
  | ['\\'] => malformed
  | '\\' :: _ :: rest => after? stop rest
  | c :: rest => if c == stop then .ok (some rest) else after? stop rest

/-- A name up to a given character. -/
def readName (stop : Char) (cs : List Char) : Except Failure (List Char × List Char) :=
  match cs.dropWhile (· != stop) with
  | [] => malformed
  | _ :: rest => .ok (cs.takeWhile (· != stop), rest)

/-- The name or number of the group that a choice is about. -/
def readCondition (cs : List Char) : Except Failure GroupName :=
  if isGroupName cs then .ok (.name (String.ofList cs))
  else
    match Number.readInt? (String.ofList cs) with
    | some n => if 0 < n ∧ n < 1073741823 then .ok (.number n.toNat) else malformed
    | none => malformed

/-- What follows an opening parenthesis and a question mark. -/
def readGroup : List Char → Except Failure (Token × List Char)
  | ':' :: cs => .ok (.opening .plain [] [], cs)
  | '=' :: cs => .ok (.opening (.ahead true) [] [], cs)
  | '!' :: cs => .ok (.opening (.ahead false) [] [], cs)
  | '<' :: '=' :: cs => .ok (.opening (.behind true) [] [], cs)
  | '<' :: '!' :: cs => .ok (.opening (.behind false) [] [], cs)
  | '>' :: cs => .ok (.opening .atomic [] [], cs)
  | '#' :: cs => do
    match ← after? ')' cs with
    | some rest => return (.comment, rest)
    | none => malformed
  | '(' :: cs => do
    let (name, rest) ← readName ')' cs
    let group ← readCondition name
    return (.opening (.given group) [] [], rest)
  | 'P' :: '<' :: cs => do
    let (name, rest) ← readName '>' cs
    if isGroupName name then return (.opening (.kept (some (String.ofList name))) [] [], rest)
    else malformed
  | 'P' :: '=' :: cs => do
    let (name, rest) ← readName ')' cs
    if isGroupName name then return (.again (.name (String.ofList name)), rest) else malformed
  | cs => readOptions cs

/-! ### Tokens -/

/-- The token that a character begins. -/
def readToken (c : Char) (cs : List Char) : Except Failure (Token × List Char) :=
  match c with
  | '\\' => do
    let (e, rest) ← readEscape false cs
    match e with
    | .place a => return (.place a, rest)
    | .again n => return (.again (.number n), rest)
    | .code n => return (.set [.range n n] false, rest)
    | .kind k inside => return (.set [.kind k inside] false, rest)
  | '[' =>
    match cs with
    | '^' :: rest => (readSet rest.length [] rest).map fun p => (.set p.1 true, p.2)
    | _ => (readSet cs.length [] cs).map fun p => (.set p.1 false, p.2)
  | '.' => .ok (.dot, cs)
  | '^' => .ok (.caret, cs)
  | '$' => .ok (.dollar, cs)
  | '|' => .ok (.bar, cs)
  | ')' => .ok (.closing, cs)
  | '(' =>
    match cs with
    | '?' :: rest => readGroup rest
    | _ => .ok (.opening (.kept none) [] [], cs)
  | '*' => .ok (countToken 0 none cs)
  | '+' => .ok (countToken 1 none cs)
  | '?' => .ok (countToken 0 (some 1) cs)
  | '\x7b' => readBraces cs
  | c => .ok (.set [.range c.toNat c.toNat] false, cs)

end ServiceWire.Pattern
