/-!
# Double-precision numbers

The numbers of the IEEE 754 binary64 format, as exact values: a finite one is a whole number of
units of `2 ^ -1074`, written as a mantissa of at most 53 bits and a shift. The two zeros are kept
apart and there is one NaN. Conversions from exact quotients round to the nearest number, a tie to
the even mantissa.
-/

namespace ServiceWire

/-! ### Rounding quotients

The one rounding rule of this library: to the nearest integer, a half to the even neighbour. -/

/-- The integer nearest to `n / d`; of two equally near ones the even one. -/
def roundDiv (n d : Nat) : Nat :=
  let q := n / d
  let r := n % d
  if d < 2 * r ∨ (2 * r = d ∧ q % 2 = 1) then q + 1 else q

theorem roundDiv_of_dvd {n d : Nat} (hd : 0 < d) (h : d ∣ n) : roundDiv n d = n / d := by
  have hr : n % d = 0 := Nat.mod_eq_zero_of_dvd h
  simp [roundDiv, hr]
  omega

/-- The integer nearest to `n / d` for a signed numerator. -/
def roundDivInt (n : Int) (d : Nat) : Int :=
  if n < 0 then -(roundDiv n.natAbs d : Int) else (roundDiv n.natAbs d : Int)

/-! ### Numbers -/

/-- The pairs of mantissa and shift that represent a finite number, one pair for each magnitude. -/
def CanonicalDouble (mantissa shift : Nat) : Prop :=
  mantissa < 1 <<< 53 ∧ shift ≤ 2045 ∧ (shift = 0 ∨ 1 <<< 52 ≤ mantissa)

instance (mantissa shift : Nat) : Decidable (CanonicalDouble mantissa shift) := by
  unfold CanonicalDouble
  infer_instance

/-- A double-precision number. -/
inductive Double where
  /-- Not a number. -/
  | nan
  /-- An infinity. -/
  | infinite (negative : Bool)
  /-- The number `± mantissa · 2 ^ shift` units of `2 ^ -1074`. -/
  | finite (negative : Bool) (mantissa shift : Nat) (canonical : CanonicalDouble mantissa shift)
deriving DecidableEq

namespace Double

/-- The number of units in one. -/
def unitsInOne : Nat := 1 <<< 1074

/-- The number with a given mantissa and shift; a mantissa of `2 ^ 53` is halved once, and a
magnitude beyond the largest finite one is infinite. -/
def ofMantissa (negative : Bool) (mantissa shift : Nat) : Double :=
  if h : CanonicalDouble mantissa shift then .finite negative mantissa shift h
  else if h : CanonicalDouble (mantissa / 2) (shift + 1) then
    .finite negative (mantissa / 2) (shift + 1) h
  else .infinite negative

/-- The shift at which a magnitude of the given number of whole units has 53 bits. -/
def shiftFor (units : Nat) : Nat := units.log2 - 52

/-- The number nearest to `± n / d`. -/
def ofRatio (negative : Bool) (n d : Nat) : Double :=
  let shift := shiftFor (n * unitsInOne / d)
  ofMantissa negative (roundDiv (n * unitsInOne) (d <<< shift)) shift

/-- The zero of a sign. -/
def signedZero (negative : Bool) : Double := .finite negative 0 0 (by decide)

/-- Positive zero. -/
def zero : Double := signedZero false

/-- The number nearest to an integer. -/
def ofInt (i : Int) : Double := ofRatio (i < 0) i.natAbs 1

/-- The magnitude of a finite number in units of `2 ^ -1074`. -/
def units (mantissa shift : Nat) : Nat := mantissa <<< shift

/-- The signed number of units of `2 ^ -1074`, for a finite number. -/
def signedUnits? : Double → Option Int
  | .finite negative m s _ => some (if negative then -(units m s : Int) else (units m s : Int))
  | _ => none

/-- The number nearest to an exact number of units. -/
def ofUnits (i : Int) : Double := ofRatio (i < 0) i.natAbs unitsInOne

/-- The integer a number is, if it is one. -/
def toInt? (x : Double) : Option Int :=
  match x.signedUnits? with
  | some u => if u % unitsInOne = 0 then some (u / unitsInOne) else none
  | none => none

/-- Whether a number is zero, of either sign. -/
def isZero : Double → Bool
  | .finite _ m _ _ => m == 0
  | _ => false

/-- The sum, rounded; the sum of two finite numbers is zero with a minus sign only if both are. -/
def add : Double → Double → Double
  | .nan, _ => .nan
  | _, .nan => .nan
  | .infinite a, .infinite b => if a = b then .infinite a else .nan
  | .infinite a, .finite .. => .infinite a
  | .finite .., .infinite b => .infinite b
  | .finite a m s h, .finite b n t k =>
    match signedUnits? (.finite a m s h), signedUnits? (.finite b n t k) with
    | some u, some v =>
      if u + v = 0 then signedZero (a && b && m == 0 && n == 0) else ofUnits (u + v)
    | _, _ => .nan

/-- The quotient by a positive integer, rounded. -/
def divNat (x : Double) (d : Nat) : Double :=
  match x with
  | .finite negative m s _ => ofRatio negative (units m s) (unitsInOne * d)
  | _ => x

/-- Whether one number is less than another; false if either is not a number. -/
def lt : Double → Double → Bool
  | .nan, _ => false
  | _, .nan => false
  | .infinite a, .infinite b => a && !b
  | .infinite a, .finite .. => a
  | .finite .., .infinite b => !b
  | .finite a m s h, .finite b n t k =>
    match signedUnits? (.finite a m s h), signedUnits? (.finite b n t k) with
    | some u, some v => u < v
    | _, _ => false

/-- Whether two numbers are equal as numbers: the zeros are, a NaN equals nothing. -/
def numericEq : Double → Double → Bool
  | .nan, _ => false
  | _, .nan => false
  | x, y => x == y || (x.isZero && y.isZero)

end Double

end ServiceWire
