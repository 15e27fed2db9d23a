import ServiceWire.Number.Shortest
import ServiceWire.Text.Digit

/-!
# Decimal texts with a given number of places

Three ways to write a number with as many digits as asked for: with a fixed number of places after
the point, with an exponent, and the general way, which takes the one that suits the size of the
number. The digits are those of the nearest decimal; of two equally near ones the even.
-/

namespace ServiceWire

/-- The ways to write a number with a given number of digits. -/
inductive PlacesStyle
  /-- The precision is the number of places. -/
  | fixed
  /-- The precision is the number of places before the exponent. -/
  | scientific
  /-- The precision is the number of digits, of which trailing zeros are left out. -/
  | general
deriving DecidableEq, Repr

namespace Double

/-- A whole part and its places, with a point between them if there are any or if it is kept. -/
def withPoint (keepPoint : Bool) (whole places : List Char) : List Char :=
  if places.isEmpty && !keepPoint then whole else whole ++ '.' :: places

/-- The number `n / 10 ^ places` as whole part and places. -/
def splitPlaces (n places : Nat) : List Char × List Char :=
  ((Nat.repr (n / Nat.pow 10 places)).toList, Text.fixedDigits 10 places n)

/-- The magnitude `n / d` with a number of places. -/
def fixedParts (n d places : Nat) : List Char × List Char :=
  splitPlaces (roundDiv (n * Nat.pow 10 places) d) places

/-- The magnitude `n / d` as a decimal of `places + 1` digits and the exponent of its first
digit. -/
def scientificDigits (n d places : Nat) : Nat × Int :=
  if n = 0 then (0, 0)
  else
    let e := decimalExponent n d
    let k : Int := e - places
    let digits :=
      if k < 0 then roundDiv (n * Nat.pow 10 k.natAbs) d else roundDiv n (d * Nat.pow 10 k.toNat)
    if digits = Nat.pow 10 (places + 1) then (Nat.pow 10 places, e + 1) else (digits, e)

/-- An exponent with its sign and at least two digits. -/
def exponentText (e : Int) : List Char :=
  'e' :: (if e < 0 then '-' else '+') :: (Text.padded 2 e.natAbs).toList

/-- Places without the zeros at their end. -/
def trimZeros (places : List Char) : List Char :=
  (places.reverse.dropWhile (· == '0')).reverse

/-- The magnitude `n / d` in a style with a precision. If the point is kept, so are zeros at the
end. -/
def magnitudePlaces (style : PlacesStyle) (precision : Nat) (keepPoint : Bool) (n d : Nat) :
    List Char :=
  let scientific := fun (places : Nat) (trim : List Char → List Char) =>
    let (digits, e) := scientificDigits n d places
    let (whole, part) := splitPlaces digits places
    withPoint keepPoint whole (trim part) ++ exponentText e
  match style with
  | .fixed =>
    let (whole, part) := fixedParts n d precision
    withPoint keepPoint whole part
  | .scientific => scientific precision id
  | .general =>
    let trim := if keepPoint then id else trimZeros
    let places := precision - 1
    let e := (scientificDigits n d places).2
    if -4 ≤ e ∧ e ≤ places then
      let (whole, part) := fixedParts n d (places - e).toNat
      withPoint keepPoint whole (trim part)
    else scientific places trim

/-- Whether a number has a minus sign. -/
def isNegative : Double → Bool
  | .nan => false
  | .infinite negative | .finite negative .. => negative

/-- The digits of a number without its sign. -/
def places (style : PlacesStyle) (precision : Nat) (keepPoint : Bool) : Double → List Char
  | .nan => "nan".toList
  | .infinite _ => "inf".toList
  | .finite _ m s _ => magnitudePlaces style precision keepPoint (units m s) unitsInOne

end Double

end ServiceWire
