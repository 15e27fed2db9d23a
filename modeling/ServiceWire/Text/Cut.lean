/-!
# Cutting texts

Cutting a text at a character, at the first or at each occurrence, and testing for a contained
text. All of it is stated on lists of characters, whose concatenation undoes each cut.
-/

namespace ServiceWire.Text

variable {α : Type} [BEq α]

/-- The items before the first occurrence of `sep` and those after it, if it occurs. -/
def cut? (sep : α) : List α → Option (List α × List α)
  | [] => none
  | c :: rest =>
    if c == sep then some ([], rest) else (cut? sep rest).map fun p => (c :: p.1, p.2)

/-- The items before the first occurrence of `sep`, or all of them. -/
def beforeFirst (sep : α) (cs : List α) : List α :=
  cs.takeWhile fun c => !(c == sep)

/-- The items after the last occurrence of `sep`, or all of them. -/
def afterLast (sep : α) (cs : List α) : List α :=
  (beforeFirst sep cs.reverse).reverse

/-- The pieces between the occurrences of `sep`; there is always at least one. -/
def pieces (sep : α) : List α → List (List α)
  | [] => [[]]
  | c :: rest =>
    if c == sep then [] :: pieces sep rest
    else match pieces sep rest with
      | [] => [[c]]
      | p :: ps => (c :: p) :: ps

/-- Whether one text begins with another. -/
def startsWith : List α → List α → Bool
  | _, [] => true
  | [], _ :: _ => false
  | c :: cs, p :: ps => c == p && startsWith cs ps

/-- What follows a given beginning, if the text has that beginning. -/
def dropStart? : List α → List α → Option (List α)
  | cs, [] => some cs
  | [], _ :: _ => none
  | c :: cs, p :: ps => if c == p then dropStart? cs ps else none

/-- Whether one text occurs in another. -/
def occursIn (part : List α) : List α → Bool
  | [] => part.isEmpty
  | c :: rest => startsWith (c :: rest) part || occursIn part rest

/-- Whether a text contains another. -/
def containsText (s part : String) : Bool :=
  occursIn part.toList s.toList

/-- The texts with `sep` between each two. -/
def join (sep : String) : List String → String
  | [] => ""
  | [s] => s
  | s :: rest => s ++ sep ++ join sep rest

theorem pieces_ne_nil (sep : α) (cs : List α) : pieces sep cs ≠ [] := by
  cases cs with
  | nil => simp [pieces]
  | cons c rest =>
    unfold pieces
    split
    · simp
    · split <;> simp

end ServiceWire.Text
