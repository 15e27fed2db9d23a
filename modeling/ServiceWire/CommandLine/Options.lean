import ServiceWire.Entries
import ServiceWire.Text.Cut
import ServiceWire.Text.Digit

/-!
# Options

How the words of a command line are read. A word that begins with a dash is an option, unless it is
a dash alone, a negative number or a text with a space; after a word `--` there are no more options.
The name of an option may be cut short as long as only one option begins like that. Its value
follows an equals sign, or is the next word.

All words are looked at before the first one is acted upon, so that an ambiguous name anywhere is a
misuse; help is given as soon as its option is reached.
-/

namespace ServiceWire.CommandLine

/-- Why reading the words ended early. -/
inductive Stop
  /-- Help was asked for. -/
  | help
  /-- The words are not what the command asks for. -/
  | misuse
deriving DecidableEq, Repr

/-- An option with a value. -/
structure OptionRule where
  name : String
  required : Bool := false
  /-- The values that are allowed; if there are none, any is. -/
  choices : List String := []
deriving DecidableEq, Repr

/-- What a word is. -/
inductive Word
  | argument
  /-- The word after which there are no more options. -/
  | separator
  /-- An option with its full name, if it is known, and the value after an equals sign. -/
  | option (name? : Option String) (value? : Option String)
deriving DecidableEq, Repr

/-- The names of the option that asks for help. -/
def helpNames : List String := ["-h", "--help"]

/-- The names of all options. -/
def optionNames (rules : List OptionRule) : List String :=
  helpNames ++ rules.map fun r => r.name

/-! ### What a word is -/

/-- Whether a word is a negative number: digits, or a point with digits after it. -/
def isNegativeNumber (cs : List Char) : Bool :=
  let isDigit := fun c => (Text.decimalDigit? c).isSome
  match cs with
  | '-' :: rest =>
    let whole := rest.takeWhile isDigit
    match rest.drop whole.length with
    | [] => !whole.isEmpty
    | ['\n'] => !whole.isEmpty
    | '.' :: part =>
      let part := if part.getLast? == some '\n' then part.dropLast else part
      !part.isEmpty && part.all isDigit
    | _ => false
  | _ => false

/-- A word cut at its first equals sign. -/
def cutValue (s : String) : String × Option String :=
  match Text.cut? '=' s.toList with
  | some (name, value) => (String.ofList name, some (String.ofList value))
  | none => (s, none)

/-- The options whose names begin like a word. A word with one dash is a one-letter option with
its value behind it, or the beginning of a name as a whole. -/
def begunBy (names : List String) (s : String) : List (String × Option String) :=
  match s.toList with
  | '-' :: '-' :: _ =>
    let (start, value?) := cutValue s
    (names.filter fun n => Text.startsWith n.toList start.toList).map fun n => (n, value?)
  | a :: b :: rest =>
    names.filterMap fun n =>
      if n == String.ofList [a, b] then some (n, some (String.ofList rest))
      else if Text.startsWith n.toList s.toList then some (n, none) else none
  | _ => []

/-- What a word is that begins with a dash and is longer than that. -/
def classifyDashed (names : List String) (s : String) : Except Stop Word :=
  let (name, value?) := cutValue s
  if names.contains s then .ok (.option (some s) none)
  else if value?.isSome && names.contains name then .ok (.option (some name) value?)
  else
    match begunBy names s with
    | [(name, value?)] => .ok (.option (some name) value?)
    | _ :: _ :: _ => .error .misuse
    | [] =>
      if isNegativeNumber s.toList || s.toList.contains ' ' then .ok .argument
      else .ok (.option none none)

/-- What a word is. -/
def classify (names : List String) (s : String) : Except Stop Word :=
  match s.toList with
  | '-' :: _ :: _ => classifyDashed names s
  | _ => .ok .argument

/-- What each of several words is. -/
def classifyAll (names : List String) : List String → Except Stop (List (String × Word))
  | [] => .ok []
  | "--" :: rest => .ok (("--", .separator) :: rest.map fun s => (s, .argument))
  | s :: rest => do
    let w ← classify names s
    let ws ← classifyAll names rest
    return (s, w) :: ws

/-! ### Acting upon the words -/

/-- What was read: the values of options, whether there were words that nobody asked for, and the
words from the first argument on. -/
structure Reading where
  values : List (String × String) := []
  hasExtra : Bool := false
  rest : List String := []
deriving DecidableEq, Repr

/-- The value that is taken for an option. -/
def takeValue (rules : List OptionRule) (name value : String) : Except Stop (String × String) :=
  match rules.find? fun r => r.name == name with
  | none => .error .misuse
  | some r =>
    if r.choices.isEmpty || r.choices.contains value then .ok (name, value) else .error .misuse

/-- Whether what follows the short name of help is a sequence of letters. They are looked at one by
one, up to the first that is not that of help. -/
def areHelpLetters : List Char → Bool
  | [] => true
  | 'h' :: rest => areHelpLetters rest
  | c :: _ => c != '-' && c != '='

/-- Help is asked for by a word with more letters, but not by one that gives it a value. -/
def helpWith (word : String) : Stop :=
  match word.toList with
  | '-' :: 'h' :: rest => if areHelpLetters rest then .help else .misuse
  | _ => .misuse

/-- Acts upon words in order. An argument where no option asks for one ends the reading, or is one
that nobody asked for. -/
def act (rules : List OptionRule) (stopAtArgument : Bool) :
    List (String × Word) → Except Stop Reading
  | [] => .ok {}
  | (s, .argument) :: rest | (s, .separator) :: rest =>
    if stopAtArgument then .ok { rest := s :: rest.map Prod.fst }
    else (act rules stopAtArgument rest).map fun r => { r with hasExtra := true }
  | (_, .option none _) :: rest =>
    (act rules stopAtArgument rest).map fun r => { r with hasExtra := true }
  | (word, .option (some name) (some value)) :: rest =>
    if helpNames.contains name then .error (helpWith word)
    else do
      let p ← takeValue rules name value
      let r ← act rules stopAtArgument rest
      return { r with values := p :: r.values }
  | (_, .option (some name) none) :: rest =>
    if helpNames.contains name then .error .help
    else
      match rest with
      | (value, .argument) :: rest => do
        let p ← takeValue rules name value
        let r ← act rules stopAtArgument rest
        return { r with values := p :: r.values }
      | _ => .error .misuse

/-- Reads words by the rules for options. -/
def readWords (rules : List OptionRule) (stopAtArgument : Bool) (words : List String) :
    Except Stop Reading := do
  let ws ← classifyAll (optionNames rules) words
  let r ← act rules stopAtArgument ws
  if rules.all fun o => !o.required || Entries.has r.values o.name then return r
  else throw .misuse

namespace Reading

/-- The values of an option, in order. -/
def all (r : Reading) (name : String) : List String :=
  (r.values.filter fun p => p.1 == name).map Prod.snd

/-- The value of an option: the last one that was given. -/
def last? (r : Reading) (name : String) : Option String := (r.all name).getLast?

/-- The value of an option, or another. -/
def lastOr (r : Reading) (name other : String) : String := (r.last? name).getD other

end Reading

end ServiceWire.CommandLine
