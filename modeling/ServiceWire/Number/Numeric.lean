import ServiceWire.Failure
import ServiceWire.Number.Double

/-!
# Numbers of two types

An integer of any size or a double-precision number. Comparisons are exact; arithmetic on integers
alone is exact too, and as soon as a double-precision number takes part the result is one.
-/

namespace ServiceWire

/-- A number of either type. -/
inductive Numeric where
  | int (i : Int)
  | real (x : Double)
deriving DecidableEq

namespace Numeric

/-- A number as a finite number of units of `2 ^ -1074`, if it is finite. -/
def units? : Numeric → Option Int
  | int i => some (i * Double.unitsInOne)
  | real x => x.signedUnits?

/-- Whether one number is less than another. -/
def lt (a b : Numeric) : Bool :=
  match a.units?, b.units? with
  | some u, some v => u < v
  | _, _ =>
    match a, b with
    | int _, real x => Double.lt .zero x
    | real x, int _ => Double.lt x .zero
    | real x, real y => x.lt y
    | int _, int _ => false

/-- Whether two numbers are equal. A NaN equals nothing. -/
def same (a b : Numeric) : Bool :=
  match a.units?, b.units? with
  | some u, some v => u == v
  | _, _ =>
    match a, b with
    | real x, real y => x.numericEq y
    | _, _ => false

/-- A double-precision number that stands for a finite result. -/
def finite (x : Double) : Except Failure Double :=
  match x with
  | .infinite _ => .error (.plain .overflow)
  | x => .ok x

/-- A number as a double-precision number; an integer may be too large. -/
def toDouble : Numeric → Except Failure Double
  | int i => finite (Double.ofInt i)
  | real x => .ok x

/-- The integer part of a number. -/
def truncate : Numeric → Except Failure Int
  | int i => .ok i
  | real .nan => .error (.plain .value)
  | real (.infinite _) => .error (.plain .overflow)
  | real x => .ok ((x.signedUnits?.getD 0).tdiv Double.unitsInOne)

/-- The sum of two numbers. -/
def add : Numeric → Numeric → Except Failure Numeric
  | int i, int j => .ok (int (i + j))
  | a, b => do
    let x ← a.toDouble
    let y ← b.toDouble
    return real (x.add y)

/-- The quotient by a positive integer. -/
def divNat (a : Numeric) (d : Nat) : Except Failure Double :=
  match a with
  | int i => finite (Double.ofRatio (i < 0) i.natAbs d)
  | real x => .ok (x.divNat d)

/-- The sum of several numbers, from the first to the last. -/
def sum (xs : List Numeric) : Except Failure Numeric := xs.foldlM add (int 0)

end Numeric

end ServiceWire
