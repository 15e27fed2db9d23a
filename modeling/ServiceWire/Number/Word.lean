/-!
# Signed words

The integers that a machine word holds: as many below zero as there are from zero on.
-/

namespace ServiceWire

/-- Whether an integer fits a signed word with a number of bits beside its sign. -/
def fitsWord (bits : Nat) (i : Int) : Bool :=
  let size : Nat := 1 <<< bits
  i < size && -(size : Int) ≤ i

theorem fitsWord_eq_true_iff {bits : Nat} {i : Int} :
    fitsWord bits i = true ↔ i < (1 <<< bits : Nat) ∧ -((1 <<< bits : Nat) : Int) ≤ i := by
  simp only [fitsWord, Bool.and_eq_true, decide_eq_true_eq]

/-- The integers that fit a word of 64 bits. -/
theorem fitsWord_63_iff {i : Int} :
    fitsWord 63 i = true ↔ -9223372036854775808 ≤ i ∧ i < 9223372036854775808 := by
  have hsize : ((1 <<< 63 : Nat) : Int) = 9223372036854775808 := by decide
  rw [fitsWord_eq_true_iff, hsize]
  exact and_comm

end ServiceWire
