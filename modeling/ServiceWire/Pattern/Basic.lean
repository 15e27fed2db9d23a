import ServiceWire.Entries
import ServiceWire.Pattern.CharSet

/-!
# Patterns

A pattern describes texts by classes of characters, sequences, choices, repetitions and places. The
text that a group matches is kept under its number, so that the pattern can ask for it again. A
pattern also looks ahead and behind.

A pattern may match in several ways, and prefers some to others: the earlier of two choices, more
rounds of a repetition or fewer. `Pattern.run` takes the first way after which the rest succeeds,
and parts of a pattern that do not give way, such as what lies ahead, take the first way of all. A
text matches if a match begins at its start, wherever it ends.

A repetition needs no more optional rounds than the text has characters, and one: after a round
that consumes nothing there is no further one.
-/

namespace ServiceWire

/-- How a repetition goes about its optional rounds. -/
inductive Eagerness
  /-- It prefers more rounds. -/
  | greedy
  /-- It prefers fewer rounds. -/
  | reluctant
  /-- It takes as many rounds as there can be and does not give way. -/
  | possessive
deriving DecidableEq, Repr

/-- A pattern. -/
inductive Pattern
  | empty
  | one (set : CharSet)
  | place (a : Anchor)
  | seq (p q : Pattern)
  | alt (p q : Pattern)
  /-- A pattern a number of times, at least and at most. -/
  | repeated (p : Pattern) (least : Nat) (most : Option Nat) (eagerness : Eagerness)
  /-- A pattern whose text is kept under a number. -/
  | group (number : Nat) (p : Pattern)
  /-- The text that is kept under a number, once more. -/
  | again (number : Nat) (rules : CharRules)
  /-- A pattern in its first way only. -/
  | atomic (p : Pattern)
  /-- The pattern matches, or does not, from a number of characters before. Nothing is consumed. -/
  | look (p : Pattern) (back : Nat) (wanted : Bool)
  /-- A pattern for when a text is kept under a number, and one for when none is. -/
  | given (number : Nat) (p q : Pattern)
deriving Repr

/-- How far a match has got: a position, and the texts that are kept, each from its first position
to the one after its last. -/
structure Progress where
  position : Nat := 0
  groups : List (Nat × Nat × Nat) := []
deriving Repr

namespace Pattern

/-- A number of rounds of a step, and then the rest. -/
def rounds (step : (Progress → Option Progress) → Progress → Option Progress)
    (rest : Progress → Option Progress) : Nat → Progress → Option Progress
  | 0, s => rest s
  | n + 1, s => step (rounds step rest n) s

/-- Optional rounds of a step, at most a number, and then the rest. The position before the last
round tells whether that round has consumed anything. -/
def optionalRounds (step : (Progress → Option Progress) → Progress → Option Progress)
    (prefersMore : Bool) (rest : Progress → Option Progress) :
    Nat → Option Nat → Progress → Option Progress
  | 0, _, s => rest s
  | n + 1, before, s =>
    let further := fun (_ : Unit) =>
      if before = some s.position then none
      else step (optionalRounds step prefersMore rest n (some s.position)) s
    if prefersMore then (further ()).orElse fun _ => rest s else (rest s).orElse further

/-- As many rounds as there can be, at most a number, each in its first way. -/
def allRounds (once : Progress → Option Progress) : Nat → Option Nat → Progress → Progress
  | 0, _, s => s
  | n + 1, before, s =>
    if before = some s.position then s
    else
      match once s with
      | some t => allRounds once n (some s.position) t
      | none => s

/-- A repetition of a step and then the rest; `bound` rounds of each sort are enough. -/
def repeatStep (step : (Progress → Option Progress) → Progress → Option Progress)
    (bound least : Nat) (most : Option Nat) (eagerness : Eagerness)
    (rest : Progress → Option Progress) (s : Progress) : Option Progress :=
  let needed := min least bound
  let optional := match most with
    | some n => min (n - least) bound
    | none => bound
  match eagerness with
  | .greedy => rounds step (optionalRounds step true rest optional none) needed s
  | .reluctant => rounds step (optionalRounds step false rest optional none) needed s
  | .possessive =>
    let once := step some
    (rounds (fun k s => (once s).bind k) some needed s).bind fun s =>
      rest (allRounds once optional none s)

/-- The end of a text like the one between two positions that begins at a third. -/
def endOfRepeat? (rules : CharRules) (text : Array Char) (first stop start : Nat) : Option Nat :=
  let part := (text.extract first stop).toList
  let found := (text.extract start (start + part.length)).toList
  if found.length = part.length ∧ (part.zip found).all (fun p => rules.same p.1 p.2) then
    some (start + part.length)
  else none

/-- How far the first match of a pattern gets after which the rest succeeds, together with the
rest. -/
def run (text : Array Char) : Pattern → (Progress → Option Progress) → Progress → Option Progress
  | empty, rest, s => rest s
  | one set, rest, s =>
    match text[s.position]? with
    | some c => if set.contains c then rest { s with position := s.position + 1 } else none
    | none => none
  | place a, rest, s => if a.holds text s.position then rest s else none
  | seq p q, rest, s => run text p (fun t => run text q rest t) s
  | alt p q, rest, s => (run text p rest s).orElse fun _ => run text q rest s
  | repeated p least most eagerness, rest, s =>
    repeatStep (fun k t => run text p k t) (text.size + 1) least most eagerness rest s
  | group n p, rest, s =>
    run text p (fun t => rest { t with
      groups := Entries.put n (s.position, t.position) t.groups }) s
  | again n rules, rest, s => do
    let (first, stop) ← s.groups.lookup n
    let i ← endOfRepeat? rules text first stop s.position
    rest { s with position := i }
  | atomic p, rest, s => (run text p some s).bind rest
  | look p back wanted, rest, s =>
    let found := if s.position < back then none
      else run text p some { s with position := s.position - back }
    match found, wanted with
    | some t, true => rest { t with position := s.position }
    | none, false => rest s
    | _, _ => none
  | given n p q, rest, s =>
    if Entries.has s.groups n then run text p rest s else run text q rest s

/-- Whether a match begins at the start of a text. -/
def matchesStart (p : Pattern) (s : String) : Bool :=
  (p.run s.toList.toArray some {}).isSome

/-- The patterns one after the other. -/
def sequence (ps : List Pattern) : Pattern := ps.foldr seq empty

/-- The choice between patterns; there is at least one. -/
def choice (p : Pattern) (others : List Pattern) : Pattern :=
  match others with
  | [] => p
  | q :: others => alt p (choice q others)

/-- How many characters a match has: at least, and at most if that is bounded. -/
structure Width where
  least : Nat
  most : Option Nat
deriving DecidableEq, Repr

/-- How many characters the matches of a pattern have, given the same for the groups before it. -/
def width (groups : List (Nat × Width)) : Pattern → Width
  | empty | place _ | look .. => ⟨0, some 0⟩
  | one _ => ⟨1, some 1⟩
  | seq p q =>
    let (a, b) := (width groups p, width groups q)
    ⟨a.least + b.least, a.most.bind fun m => b.most.map (m + ·)⟩
  | alt p q | given _ p q =>
    let (a, b) := (width groups p, width groups q)
    ⟨min a.least b.least, a.most.bind fun m => b.most.map (max m)⟩
  | repeated p least most _ =>
    let w := width groups p
    let full := match most, w.most with
      | some n, some m => some (m * n)
      | some 0, none | none, some 0 => some 0
      | _, _ => none
    ⟨w.least * least, full⟩
  | group _ p | atomic p => width groups p
  | again n _ => (groups.lookup n).getD ⟨0, some 0⟩

/-- The number of characters that all matches of a pattern have, if there is one. -/
def exactWidth? (groups : List (Nat × Width)) (p : Pattern) : Option Nat :=
  let w := p.width groups
  if w.most = some w.least then some w.least else none

end Pattern

end ServiceWire
