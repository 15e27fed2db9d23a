/-!
# Classes of characters given by ranges

A class of characters is a list of closed ranges of code points. The tables of the
Unicode properties this library needs (white space, decimal digits, printable and
alphanumeric characters) are all values of this one type, so membership is decided in one place.
-/

namespace ServiceWire

/-- A class of characters: the code points that lie in one of its closed ranges. -/
structure CharClass where
  ranges : List (Nat × Nat)

namespace CharClass

/-- Whether a character lies in the class. -/
def contains (k : CharClass) (c : Char) : Bool :=
  k.ranges.any fun r => r.1 ≤ c.toNat && c.toNat ≤ r.2

/-- The distance of a character from the start of the range that holds it. -/
def offset? (k : CharClass) (c : Char) : Option Nat :=
  (k.ranges.find? fun r => r.1 ≤ c.toNat && c.toNat ≤ r.2).map fun r => c.toNat - r.1

theorem contains_eq_true_iff {k : CharClass} {c : Char} :
    k.contains c = true ↔ ∃ r ∈ k.ranges, r.1 ≤ c.toNat ∧ c.toNat ≤ r.2 := by
  simp [contains]

end CharClass

end ServiceWire
