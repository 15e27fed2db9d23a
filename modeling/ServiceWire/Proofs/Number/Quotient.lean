import ServiceWire.Proofs.Number.Nearest

/-!
# Quotients as numbers

Every quotient that is not too large becomes a finite number, a multiple of the place that its 53
bits end at. It is off by half of that place at most, and no other number is nearer: a number
between its multiples is below the binade of the quotient, whose first number is nearer already.
-/

namespace ServiceWire

/-- No integer is nearer to a quotient than the rounded one. -/
theorem roundDiv_nearest (n : Nat) {d : Nat} (hd : 0 < d) (k : Int) :
    |(roundDiv n d * d : Int) - n| ≤ |k * d - n| := by
  obtain ⟨hlow, hhigh⟩ := roundDiv_error n hd
  zify at hlow hhigh hd
  generalize (roundDiv n d : Int) = q at hlow hhigh ⊢
  rcases lt_trichotomy k q with hlt | rfl | hlt
  · have hstep : k * d ≤ (q - 1) * d := mul_le_mul_of_nonneg_right (by omega) hd.le
    rw [abs_le]
    have := neg_abs_le (k * d - n : Int)
    constructor <;> nlinarith
  · exact le_rfl
  · have hstep : (q + 1) * d ≤ k * d := mul_le_mul_of_nonneg_right (by omega) hd.le
    have := le_abs_self (k * d - n : Int)
    rw [abs_le]
    constructor <;> nlinarith

namespace Double

/-! ### The place of a magnitude -/

theorem lt_shiftFor (u : Nat) : u < 2 ^ (53 + shiftFor u) := by
  refine Nat.lt_of_lt_of_le Nat.lt_log2_self (Nat.pow_le_pow_right (by decide) ?_)
  rw [shiftFor]
  omega

theorem shiftFor_le {u s : Nat} (h : u < 2 ^ (53 + s)) : shiftFor u ≤ s := by
  rcases Nat.eq_zero_or_pos u with rfl | hu
  · rw [shiftFor, Nat.log2_zero]
    omega
  · have hlog : u.log2 < 53 + s := (Nat.log2_lt (by omega)).mpr h
    rw [shiftFor]
    omega

theorem le_shiftFor {u s : Nat} (h : 2 ^ (52 + s) ≤ u) : s ≤ shiftFor u := by
  have hu : u ≠ 0 := by
    have := Nat.two_pow_pos (52 + s)
    omega
  have hlog : 52 + s ≤ u.log2 := (Nat.le_log2 hu).mpr h
  rw [shiftFor]
  omega

theorem le_of_shiftFor_pos {u : Nat} (h : 0 < shiftFor u) : 2 ^ (52 + shiftFor u) ≤ u := by
  have hlog : 52 + shiftFor u = u.log2 := by
    rw [shiftFor] at h ⊢
    omega
  rw [hlog]
  refine Nat.log2_self_le ?_
  rintro rfl
  rw [shiftFor, Nat.log2_zero] at h
  omega

/-! ### Rounded quotients -/

/-- The place that the bits of a quotient end at. -/
def placeOf (n d : Nat) : Nat := shiftFor (n * unitsInOne / d)

/-- The units of the number that a quotient is rounded to. -/
def unitsOf (n d : Nat) : Nat := roundDiv (n * unitsInOne) (d * 2 ^ placeOf n d) * 2 ^ placeOf n d

section

variable {n d : Nat} (hd : 0 < d)

include hd

/-- A quotient that is not too large is rounded to a finite number. -/
theorem exists_ofRatio (negative : Bool) (h : placeOf n d ≤ 2044) :
    ∃ m s hc, ofRatio negative n d = .finite negative m s hc ∧ units m s = unitsOf n d := by
  have hp : 0 < d * 2 ^ placeOf n d := Nat.mul_pos hd (Nat.two_pow_pos _)
  have hratio : ofRatio negative n d =
      ofMantissa negative (roundDiv (n * unitsInOne) (d * 2 ^ placeOf n d)) (placeOf n d) := by
    rw [ofRatio, ← placeOf, Nat.shiftLeft_eq]
  have hupper : roundDiv (n * unitsInOne) (d * 2 ^ placeOf n d) ≤ 2 ^ 53 := by
    have hlt := lt_shiftFor (n * unitsInOne / d)
    rw [← placeOf, Nat.div_lt_iff_lt_mul hd, Nat.pow_add] at hlt
    exact roundDiv_le_of_lt (by nlinarith)
  have hlower : placeOf n d = 0 ∨
      2 ^ 52 ≤ roundDiv (n * unitsInOne) (d * 2 ^ placeOf n d) := by
    refine (Nat.eq_zero_or_pos _).imp_right fun hpos => le_roundDiv_of_lt hp ?_
    have hle := le_of_shiftFor_pos hpos
    rw [← placeOf, Nat.le_div_iff_mul_le hd, Nat.pow_add] at hle
    nlinarith
  rw [hratio, unitsOf]
  generalize roundDiv (n * unitsInOne) (d * 2 ^ placeOf n d) = q at hupper hlower
  rcases Nat.lt_or_eq_of_le hupper with hlt | rfl
  · have hc : CanonicalDouble q (placeOf n d) := canonicalDouble_iff.mpr ⟨hlt, by omega, hlower⟩
    exact ⟨q, _, hc, ofMantissa_of_canonical hc, units_eq ..⟩
  · have hc : CanonicalDouble (2 ^ 52) (placeOf n d + 1) :=
      canonicalDouble_iff.mpr ⟨by norm_num, by omega, .inr le_rfl⟩
    refine ⟨_, _, hc, ofMantissa_carry hc, ?_⟩
    rw [units_eq, Nat.pow_succ]
    ring

/-- A rounded quotient is off by half of its place at most. -/
theorem unitsOf_error {s : Nat} (h : placeOf n d ≤ s) :
    2 * (n * unitsInOne) ≤ 2 * (unitsOf n d * d) + d * 2 ^ s ∧
      2 * (unitsOf n d * d) ≤ 2 * (n * unitsInOne) + d * 2 ^ s := by
  have hp : 0 < d * 2 ^ placeOf n d := Nat.mul_pos hd (Nat.two_pow_pos _)
  have herror := roundDiv_error (n * unitsInOne) hp
  have hplace : d * 2 ^ placeOf n d ≤ d * 2 ^ s :=
    Nat.mul_le_mul_left d (Nat.pow_le_pow_right (by decide) h)
  rw [unitsOf]
  constructor <;> nlinarith

/-- No other number is nearer to a quotient than the one that it is rounded to. -/
theorem unitsOf_nearest {m s : Nat} (hc : CanonicalDouble m s) :
    |(unitsOf n d * d : Int) - n * unitsInOne| ≤ |(units m s * d : Int) - n * unitsInOne| := by
  have hp : 0 < d * 2 ^ placeOf n d := Nat.mul_pos hd (Nat.two_pow_pos _)
  have hmultiple (k : Nat) : |(unitsOf n d * d : Int) - n * unitsInOne| ≤
      |((k * 2 ^ placeOf n d : Nat) * d : Int) - n * unitsInOne| := by
    have h := roundDiv_nearest (n * unitsInOne) hp k
    rw [unitsOf]
    push_cast at h ⊢
    convert h using 3 <;> ring
  obtain ⟨hm, -, -⟩ := canonicalDouble_iff.mp hc
  rw [units_eq]
  by_cases hs : placeOf n d ≤ s
  · have hk := hmultiple (m * 2 ^ (s - placeOf n d))
    rwa [Nat.mul_assoc, ← Nat.pow_add, Nat.sub_add_cancel hs] at hk
  · -- the number is below the binade of the quotient, and its first number is in between
    have hfirst := hmultiple (2 ^ 52)
    have hle := le_of_shiftFor_pos (u := n * unitsInOne / d) (Nat.zero_lt_of_lt (Nat.not_le.mp hs))
    rw [← placeOf, Nat.le_div_iff_mul_le hd, Nat.pow_add] at hle
    have hbelow : m * 2 ^ s ≤ 2 ^ 52 * 2 ^ placeOf n d := by
      calc m * 2 ^ s ≤ 2 ^ 53 * 2 ^ s := Nat.mul_le_mul_right _ hm.le
        _ = 2 ^ (53 + s) := (Nat.pow_add ..).symm
        _ ≤ 2 ^ (52 + placeOf n d) := Nat.pow_le_pow_right (by decide) (by omega)
        _ = 2 ^ 52 * 2 ^ placeOf n d := Nat.pow_add ..
    refine hfirst.trans ?_
    have hmul : m * 2 ^ s * d ≤ 2 ^ 52 * 2 ^ placeOf n d * d := Nat.mul_le_mul_right d hbelow
    zify at hle hmul
    push_cast
    rw [abs_of_nonpos (by linarith), abs_of_nonpos (by linarith)]
    linarith

/-- A quotient that is at most a multiple of its place is rounded to that at most. -/
theorem unitsOf_le {k : Nat} (hk : 2 ^ placeOf n d ∣ k) (h : n * unitsInOne ≤ k * d) :
    unitsOf n d ≤ k := by
  have hp : 0 < d * 2 ^ placeOf n d := Nat.mul_pos hd (Nat.two_pow_pos _)
  obtain ⟨q, rfl⟩ := hk
  rw [unitsOf, Nat.mul_comm _ q]
  refine Nat.mul_le_mul_right _ (roundDiv_le_of_lt ?_)
  nlinarith

/-- A quotient that is below a multiple of its place by less than half of that is rounded to the
multiple at least. -/
theorem le_unitsOf {k : Nat} (hk : 2 ^ placeOf n d ∣ k)
    (h : 2 * (k * d) < 2 * (n * unitsInOne) + d * 2 ^ placeOf n d) : k ≤ unitsOf n d := by
  have hp : 0 < d * 2 ^ placeOf n d := Nat.mul_pos hd (Nat.two_pow_pos _)
  obtain ⟨q, rfl⟩ := hk
  rw [unitsOf, Nat.mul_comm _ q]
  refine Nat.mul_le_mul_right _ (le_roundDiv_of_lt hp ?_)
  nlinarith

end

/-- No number is nearer to a quotient than a given one. -/
def IsNearest (x : Double) (n : Int) (d : Nat) : Prop :=
  ∃ u, x.signedUnits? = some u ∧ ∀ y v, signedUnits? y = some v →
    |u * d - n * unitsInOne| ≤ |v * d - n * unitsInOne|

/-- A number with a sign. -/
def withSign (negative : Bool) (n : Nat) : Int := if negative then -(n : Int) else n

theorem signedUnits?_finite {negative : Bool} {m s : Nat} (hc : CanonicalDouble m s) :
    signedUnits? (.finite negative m s hc) = some (withSign negative (units m s)) := rfl

theorem abs_withSign (negative : Bool) (n : Nat) : |withSign negative n| = n := by
  rw [withSign]
  split
  · rw [abs_neg, Nat.abs_cast]
  · rw [Nat.abs_cast]

theorem natAbs_withSign (negative : Bool) (n : Nat) : (withSign negative n).natAbs = n := by
  rw [withSign]
  split <;> omega

theorem withSign_mul (negative : Bool) (a b : Nat) :
    withSign negative (a * b) = a * withSign negative b := by
  rw [withSign, withSign, Nat.cast_mul]
  split
  · exact (Int.mul_neg ..).symm
  · rfl

theorem roundDivInt_withSign (negative : Bool) (n : Nat) {d : Nat} (hd : 0 < d) :
    roundDivInt (withSign negative n) d = withSign negative (roundDiv n d) := by
  rw [roundDivInt, natAbs_withSign]
  cases negative with
  | false => exact if_neg (Int.not_lt.mpr (Int.natCast_nonneg n))
  | true =>
    rcases Nat.eq_zero_or_pos n with rfl | hn
    · rw [roundDiv_of_dvd hd (Nat.dvd_zero d), Nat.zero_div]
      rfl
    · exact if_pos (Int.neg_neg_of_pos (Int.natCast_pos.mpr hn))

theorem withSign_natAbs (n : Int) : withSign (n < 0) n.natAbs = n := by
  rw [withSign]
  simp only [decide_eq_true_eq]
  omega

theorem abs_withSign_sub (negative : Bool) (a b c d : Nat) :
    |withSign negative a * c - withSign negative b * d| = |(a * c : Int) - b * d| := by
  cases negative with
  | false => rfl
  | true =>
    have hneg : (-(a : Int)) * c - (-(b : Int)) * d = -((a * c : Int) - b * d) := by ring
    exact (congrArg _ hneg).trans (abs_neg _)

theorem isNearest_ofRatio {n : Int} {d : Nat} (hd : 0 < d) (h : placeOf n.natAbs d ≤ 2044) :
    (ofRatio (n < 0) n.natAbs d).IsNearest n d := by
  obtain ⟨m, s, hc, hratio, hunits⟩ := exists_ofRatio hd (n < 0) h
  rw [hratio]
  refine ⟨_, signedUnits?_finite hc, fun y v hy => ?_⟩
  obtain ⟨m', s', hc', hv⟩ : ∃ m' s', CanonicalDouble m' s' ∧ |v| = units m' s' := by
    cases y with
    | nan => cases hy
    | infinite negative => cases hy
    | finite negative m' s' hc' =>
      obtain rfl := Option.some.inj hy
      exact ⟨m', s', hc', abs_withSign ..⟩
  -- The number has the sign of the quotient, so only the magnitudes count.
  have hsame := abs_withSign_sub (n < 0) (units m s) n.natAbs d unitsInOne
  rw [withSign_natAbs] at hsame
  calc |withSign (n < 0) (units m s) * d - n * unitsInOne|
      = |(units m s * d : Int) - n.natAbs * unitsInOne| := hsame
    _ ≤ |(units m' s' * d : Int) - n.natAbs * unitsInOne| := by
      rw [hunits]
      exact unitsOf_nearest hd hc'
    _ = |(|v * d| - |n * unitsInOne|)| := by
      rw [abs_mul, abs_mul, hv, Nat.abs_cast, Nat.abs_cast, Int.natCast_natAbs]
    _ ≤ |v * d - n * unitsInOne| := abs_abs_sub_abs_le _ _

theorem dvd_unitsOf {n d s : Nat} (h : s ≤ placeOf n d) : 2 ^ s ∣ unitsOf n d :=
  Nat.dvd_mul_left_of_dvd (pow_dvd_pow 2 h) _

end Double

end ServiceWire
