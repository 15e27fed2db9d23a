import ServiceWire.Number.Double

/-!
# Shortest decimal texts of numbers

The text of a finite number has the fewest digits that read back as the number and, of those, the
ones nearest to it. Magnitudes from `10 ^ -4` up to `10 ^ 16` are written positionally, all others
with an exponent of at least two digits.
-/

namespace ServiceWire

/-- A positive decimal `digits · 10 ^ exponent`. -/
structure Decimal where
  digits : Nat
  exponent : Int
deriving DecidableEq, Repr

namespace Decimal

/-- The decimal as a quotient. -/
def ratio (d : Decimal) : Nat × Nat :=
  if d.exponent < 0 then (d.digits, Nat.pow 10 d.exponent.natAbs)
  else (d.digits * Nat.pow 10 d.exponent.toNat, 1)

/-- The number nearest to a decimal. Beyond the ends of the range it is infinite or zero. -/
def toDouble (negative : Bool) (d : Decimal) : Double :=
  if d.digits = 0 then .signedZero negative
  else
    let magnitude : Int := d.exponent + (Nat.repr d.digits).length
    if 400 < magnitude then .infinite negative
    else if magnitude < -400 then .signedZero negative
    else Double.ofRatio negative d.ratio.1 d.ratio.2

/-- Drops trailing zeros from the digits, at most `fuel` of them. -/
def trimmed : Nat → Decimal → Decimal
  | 0, d => d
  | fuel + 1, d =>
    if d.digits % 10 = 0 ∧ d.digits ≠ 0 then trimmed fuel ⟨d.digits / 10, d.exponent + 1⟩ else d

end Decimal

namespace Double

/-- The number of decimal digits of a positive integer. -/
def decimalLength (n : Nat) : Nat := (Nat.repr n).length

/-- The exponent of ten that a positive quotient `n / d` has in scientific form. -/
def decimalExponent (n d : Nat) : Int :=
  if d ≤ n then decimalLength (n / d) - 1 else -(decimalLength ((d - 1) / n))

/-- The points of the decimal grid with `count` digits around the positive quotient `n / d`, whose
scientific exponent is `e`, that read back as the given number; the nearer comes first, and of two
equally near the even one. -/
def gridHits (mantissa shift : Nat) (n d : Nat) (e : Int) (count : Nat) : List Decimal :=
  let k : Int := e - (count - 1)
  let p := if k < 0 then n * Nat.pow 10 k.natAbs else n
  let q := if k < 0 then d else d * Nat.pow 10 k.toNat
  let below := p / q
  let rest := p % q
  let candidates :=
    if 2 * rest < q ∨ (2 * rest = q ∧ below % 2 = 0) then [below, below + 1] else [below + 1, below]
  (candidates.map fun c => (⟨c, k⟩ : Decimal)).filter fun c =>
    c.digits ≠ 0 && match c.toDouble false with
      | .finite _ m s _ => m == mantissa && s == shift
      | _ => false

/-- The first hit on the grids with `count` digits and more, up to seventeen. -/
def firstHit (mantissa shift : Nat) (n d : Nat) (e : Int) : Nat → Nat → Decimal
  | 0, count => ⟨n * Nat.pow 10 (count - 1) / d, 1 - count⟩
  | fuel + 1, count =>
    match gridHits mantissa shift n d e count with
    | c :: _ => c
    | [] => firstHit mantissa shift n d e fuel (count + 1)

/-- The shortest decimal that reads back as a positive finite magnitude. -/
def shortest (mantissa shift : Nat) : Decimal :=
  let n := units mantissa shift
  let e := decimalExponent n unitsInOne
  (firstHit mantissa shift n unitsInOne e 17 1).trimmed 20

/-- A positive decimal in positional or scientific form. -/
def renderDecimal (c : Decimal) : String :=
  let digits := (Nat.repr c.digits).toList
  let point : Int := digits.length + c.exponent
  if -4 < point ∧ point ≤ 16 then
    if point ≤ 0 then
      String.ofList (['0', '.'] ++ List.replicate point.natAbs '0' ++ digits)
    else if point < digits.length then
      String.ofList (digits.take point.toNat ++ ['.'] ++ digits.drop point.toNat)
    else
      String.ofList (digits ++ List.replicate (point.toNat - digits.length) '0' ++ ['.', '0'])
  else
    let e := point - 1
    let size := (Nat.repr e.natAbs).toList
    let exponent := (if e < 0 then '-' else '+') :: (if size.length < 2 then '0' :: size else size)
    match digits with
    | [] => ""
    | [a] => String.ofList (a :: 'e' :: exponent)
    | a :: rest => String.ofList (a :: '.' :: rest ++ 'e' :: exponent)

/-- The text of a number. -/
def render : Double → String
  | .nan => "nan"
  | .infinite negative => if negative then "-inf" else "inf"
  | .finite negative m s _ =>
    let body := if m = 0 then "0.0" else renderDecimal (shortest m s)
    if negative then "-" ++ body else body

end Double

end ServiceWire
