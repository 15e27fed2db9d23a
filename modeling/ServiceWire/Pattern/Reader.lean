import ServiceWire.Pattern.Token

/-!
# Reading patterns

The written form of a pattern is read one token after the other, and the groups that are open form
a stack. A text that breaks the rules is no pattern: a repetition needs something to repeat,
brackets and parentheses have to be closed, a range must not go backwards, the text of a group can
be asked for when the group is closed, and what is looked for behind has a fixed width.
-/

namespace ServiceWire.Pattern

/-- The options that change how a pattern is read. -/
structure Options extends CharRules where
  /-- Whether the line anchors hold in every line. -/
  multiline : Bool := false
  /-- Whether the point stands for a line feed too. -/
  dotAll : Bool := false
  /-- Whether blanks, and remarks from a hash sign to the end of the line, say nothing. -/
  verbose : Bool := false
deriving DecidableEq, Repr

/-- The options with those of some letters switched on or off. -/
def Options.switch (o : Options) (letters : List Char) (value : Bool) : Options where
  ignoresCase := if letters.contains 'i' then value else o.ignoresCase
  asciiOnly := if letters.contains 'a' then value
    else if letters.contains 'u' then !value else o.asciiOnly
  multiline := if letters.contains 'm' then value else o.multiline
  dotAll := if letters.contains 's' then value else o.dotAll
  verbose := if letters.contains 'x' then value else o.verbose

/-- What has been read last in a branch of a group. -/
inductive ItemKind
  | ordinary
  | place
  | repetition
deriving DecidableEq, Repr

/-- What an open group is for. -/
inductive GroupKind
  | plain
  | kept (number : Nat)
  | atomic
  | ahead (wanted : Bool)
  | behind (wanted : Bool)
  | given (number : Nat)
deriving DecidableEq, Repr

/-- A group that is open. -/
structure Level where
  kind : GroupKind := .plain
  /-- The options outside of the group. -/
  outside : Options := {}
  /-- The limit outside of the group. -/
  limitOutside : Option Nat := none
  /-- The branches that are complete, the last one first. -/
  branches : List Pattern := []
  /-- The items of the branch that is not complete, the last one first. -/
  items : List (Pattern × ItemKind) := []

/-- The pattern of the items of a branch. -/
def Level.branch (l : Level) : Pattern := sequence (l.items.reverse.map Prod.fst)

/-- The branches of a group: the first one and the others. -/
def Level.allBranches (l : Level) : Pattern × List Pattern :=
  match (l.branch :: l.branches).reverse with
  | [] => (.empty, [])
  | p :: others => (p, others)

/-- The choice between the branches of a group. -/
def Level.body (l : Level) : Pattern := choice l.allBranches.1 l.allBranches.2

/-- Where reading has got to. -/
structure State where
  options : Options := {}
  level : Level := {}
  /-- The groups around the innermost open one. -/
  outer : List Level := []
  /-- The numbers of the groups that have a name. -/
  names : List (String × Nat) := []
  /-- How many groups keep their text, as far as they are open. -/
  groups : Nat := 0
  /-- The groups that are closed and keep their text, with their widths. -/
  closed : List (Nat × Width) := []
  /-- While something is looked for behind: how many groups there were before. Only these can be
  asked for. -/
  limit : Option Nat := none
  /-- The largest number of a group that some choice is about. -/
  asked : Nat := 0
  /-- The letters of the options for the whole pattern. -/
  letters : List Char := []

namespace State

/-- Adds an item to the branch that is not complete. -/
def push (s : State) (p : Pattern) (kind : ItemKind) : State :=
  { s with level := { s.level with items := (p, kind) :: s.level.items } }

/-- Repeats the last item. -/
def count (s : State) (least : Nat) (most : Option Nat) (eagerness : Eagerness) :
    Except Failure State :=
  match s.level.items with
  | (p, .ordinary) :: rest =>
    .ok { s with level :=
      { s.level with items := (.repeated p least most eagerness, .repetition) :: rest } }
  | _ => malformed

/-- The number of a group that is asked for; a name must have been given to one. -/
def numberOf (s : State) : GroupName → Except Failure Nat
  | .number n => .ok n
  | .name name =>
    match s.names.lookup name with
    | some n => .ok n
    | none => malformed

/-- Whether the text of a group can be asked for. -/
def canAsk (s : State) (n : Nat) : Bool := Entries.has s.closed n && s.limit.all (n ≤ ·)

/-- Opens a group. -/
def enter (s : State) (form : GroupForm) (on off : List Char) : Except Failure State := do
  let inside : State :=
    { s with
      options := (s.options.switch on true).switch off false
      level := { outside := s.options, limitOutside := s.limit }
      outer := s.level :: s.outer }
  let withKind := fun (s : State) (kind : GroupKind) =>
    { s with level := { s.level with kind := kind } }
  match form with
  | .plain => return inside
  | .atomic => return withKind inside .atomic
  | .ahead wanted => return withKind inside (.ahead wanted)
  | .behind wanted =>
    return withKind { inside with limit := some (s.limit.getD s.groups) } (.behind wanted)
  | .kept name =>
    if name.any (Entries.has s.names) then malformed
    else
      let n := s.groups + 1
      return withKind { inside with
        groups := n, names := (name.map (·, n)).toList ++ s.names } (.kept n)
  | .given name =>
    let n ← s.numberOf name
    if s.limit.isSome && !s.canAsk n then malformed
    else return withKind { inside with asked := max s.asked n } (.given n)

/-- The pattern of the innermost open group. -/
def groupPattern (s : State) : Except Failure Pattern :=
  let body := s.level.body
  match s.level.kind with
  | .plain => .ok body
  | .kept n => .ok (.group n body)
  | .atomic => .ok (.atomic body)
  | .ahead wanted => .ok (.look body 0 wanted)
  | .behind wanted =>
    match body.exactWidth? s.closed with
    | some n => .ok (.look body n wanted)
    | none => malformed
  | .given n =>
    match s.level.allBranches with
    | (p, []) => .ok (.given n p .empty)
    | (p, [q]) => .ok (.given n p q)
    | _ => malformed

/-- Closes the innermost open group. -/
def leave (s : State) : Except Failure State :=
  match s.outer with
  | [] => malformed
  | l :: outer => do
    let p ← s.groupPattern
    let closed := match s.level.kind with
      | .kept n => (n, p.width s.closed) :: s.closed
      | _ => s.closed
    return { s with
      options := s.level.outside, limit := s.level.limitOutside, level := l, outer := outer
      closed := closed }.push p .ordinary

/-- Goes on with a token. -/
def step (s : State) : Token → Except Failure State
  | .set items negated => .ok (s.push (.one ⟨items, negated, s.options.toCharRules⟩) .ordinary)
  | .dot =>
    let items := if s.options.dotAll then [] else [CharItem.range 10 10]
    .ok (s.push (.one ⟨items, true, {}⟩) .ordinary)
  | .caret =>
    .ok (s.push (.place (if s.options.multiline then .lineFirst else .first)) .place)
  | .dollar => .ok (s.push (.place (if s.options.multiline then .lineLast else .last)) .place)
  | .place (.wordEdge _ wanted) =>
    .ok (s.push (.place (.wordEdge s.options.toCharRules wanted)) .place)
  | .place a => .ok (s.push (.place a) .place)
  | .again name => do
    let n ← s.numberOf name
    if s.canAsk n then return s.push (.again n s.options.toCharRules) .ordinary else malformed
  | .count least most eagerness => s.count least most eagerness
  | .opening form on off => s.enter form on off
  | .closing => s.leave
  | .bar =>
    .ok { s with level :=
      { s.level with branches := s.level.branch :: s.level.branches, items := [] } }
  | .options on =>
    if s.outer.isEmpty && s.level.branches.isEmpty && s.level.items.isEmpty then
      .ok { s with options := s.options.switch on true, letters := s.letters ++ on }
    else malformed
  | .comment => .ok s

/-- The pattern that has been read, if all groups are closed. -/
def finish (s : State) : Except Failure Pattern :=
  if !s.outer.isEmpty then malformed
  else if s.letters.contains 'a' && s.letters.contains 'u' then .error (.plain .value)
  else if s.groups < s.asked then malformed
  else .ok s.level.body

end State

/-- Whether a character says nothing where blanks say nothing. -/
def isVerboseBlank (c : Char) : Bool := c == ' ' || (0x09 ≤ c.toNat && c.toNat ≤ 0x0D)

/-- Goes on with a text. The bound is its length. -/
def readFrom : Nat → State → List Char → Except Failure Pattern
  | _, s, [] => s.finish
  | 0, _, _ :: _ => malformed
  | bound + 1, s, c :: cs =>
    if s.options.verbose && isVerboseBlank c then readFrom bound s cs
    else if s.options.verbose && c == '#' then do
      let rest ← after? '\n' cs
      readFrom bound s (rest.getD [])
    else do
      let (t, rest) ← readToken c cs
      let s ← s.step t
      readFrom bound s rest

/-- The pattern that a text writes. -/
def read (text : String) : Except Failure Pattern :=
  readFrom text.toList.length {} text.toList

end ServiceWire.Pattern
