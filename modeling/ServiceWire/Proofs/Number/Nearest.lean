import ServiceWire.Number.Double
import Mathlib

/-!
# The number nearest to a quotient

A double-precision number is `m · 2 ^ s` units. A quotient that lies within half a unit in the last
place of it, on either side, is rounded to it. Below a power of two the places are half as wide,
and so is the margin. In particular a quotient that is a number exactly is rounded to itself, and
every integer of at most 53 bits is such a number.
-/

namespace ServiceWire

/-! ### Rounding quotients -/

section

variable {n d q : Nat}

/-- A rounded quotient is off by half of the divisor at most. -/
theorem roundDiv_error (n : Nat) (hd : 0 < d) :
    2 * n ≤ (2 * roundDiv n d + 1) * d ∧ 2 * roundDiv n d * d ≤ 2 * n + d := by
  have hn : d * (n / d) + n % d = n := Nat.div_add_mod n d
  have hr : n % d < d := Nat.mod_lt n hd
  simp only [roundDiv]
  generalize n / d = q at hn ⊢
  generalize n % d = r at hn hr ⊢
  subst hn
  split
  · have hhalf : d ≤ 2 * r := by omega
    constructor <;> nlinarith
  · have hhalf : 2 * r ≤ d := by omega
    constructor <;> nlinarith

theorem den_pos_of_lt (h : n < q * d) : 0 < d := by
  rcases Nat.eq_zero_or_pos d with rfl | hd
  · simp at h
  · exact hd

theorem roundDiv_le_of_lt (h : 2 * n < (2 * q + 1) * d) : roundDiv n d ≤ q := by
  have herror := (roundDiv_error n (den_pos_of_lt h)).2
  by_contra hlt
  have hmul : (q + 1) * d ≤ roundDiv n d * d := Nat.mul_le_mul_right d (by omega)
  nlinarith

theorem le_roundDiv_of_lt (hd : 0 < d) (h : 2 * q * d < 2 * n + d) : q ≤ roundDiv n d := by
  have herror := (roundDiv_error n hd).1
  by_contra hlt
  have hmul : (roundDiv n d + 1) * d ≤ q * d := Nat.mul_le_mul_right d (by omega)
  nlinarith

theorem roundDiv_eq_of_near (upper : 2 * n < (2 * q + 1) * d) (lower : 2 * q * d < 2 * n + d) :
    roundDiv n d = q :=
  Nat.le_antisymm (roundDiv_le_of_lt upper) (le_roundDiv_of_lt (den_pos_of_lt upper) lower)

end

namespace Double

/-! ### Canonical pairs -/

theorem canonicalDouble_iff {m s : Nat} :
    CanonicalDouble m s ↔ m < 2 ^ 53 ∧ s ≤ 2045 ∧ (s = 0 ∨ 2 ^ 52 ≤ m) := by
  simp only [CanonicalDouble, Nat.one_shiftLeft]

theorem units_eq (m s : Nat) : units m s = m * 2 ^ s := Nat.shiftLeft_eq m s

theorem unitsInOne_eq : unitsInOne = 2 ^ 1074 := by
  have h : ∀ e : Nat, 1 <<< e = 2 ^ e := Nat.one_shiftLeft
  exact h _

theorem unitsInOne_pos : 0 < unitsInOne := by
  simp only [unitsInOne, Nat.one_shiftLeft, Nat.two_pow_pos]

theorem ofMantissa_of_canonical {negative : Bool} {m s : Nat} (h : CanonicalDouble m s) :
    ofMantissa negative m s = .finite negative m s h := by
  rw [ofMantissa, dif_pos h]

/-- A mantissa of `2 ^ 53` is halved. -/
theorem ofMantissa_carry {negative : Bool} {s : Nat} (h : CanonicalDouble (2 ^ 52) (s + 1)) :
    ofMantissa negative (2 ^ 53) s = .finite negative (2 ^ 52) (s + 1) h := by
  have hn : ¬ CanonicalDouble (2 ^ 53) s := fun hc => by
    have := (canonicalDouble_iff.mp hc).1
    omega
  have hhalf : 2 ^ 53 / 2 = 2 ^ 52 := by norm_num
  rw [ofMantissa, dif_neg hn, dif_pos (by rw [hhalf]; exact h)]
  simp only [hhalf]

theorem shiftFor_eq {u s : Nat} (lower : 2 ^ (52 + s) ≤ u) (upper : u < 2 ^ (53 + s)) :
    shiftFor u = s := by
  have hu : u ≠ 0 := by
    have := Nat.two_pow_pos (52 + s)
    omega
  have hlog : u.log2 = 52 + s :=
    (Nat.log2_eq_iff hu).mpr ⟨lower, by rwa [show 52 + s + 1 = 53 + s by omega]⟩
  rw [shiftFor, hlog]
  omega

theorem shiftFor_eq_zero {u : Nat} (h : u < 2 ^ 53) : shiftFor u = 0 := by
  rw [shiftFor]
  rcases Nat.eq_zero_or_pos u with rfl | hu
  · rw [Nat.log2_zero]
  · have : u.log2 < 53 := (Nat.log2_lt (by omega)).mpr h
    omega

/-! ### Quotients near a number -/

/-- A quotient `n / d`, in units, lies within half a unit in the last place of `m · 2 ^ s`. The
margin below a power of two is a quarter. -/
structure Near (n d m s : Nat) : Prop where
  upper : 2 * n < (2 * m + 1) * (d * 2 ^ s)
  lower : 2 * m * (d * 2 ^ s) < 2 * n + d * 2 ^ s
  lower_of_pow : 0 < s → m = 2 ^ 52 → 4 * m * (d * 2 ^ s) < 4 * n + d * 2 ^ s

theorem Near.roundDiv_eq {n d m s : Nat} (h : Near n d m s) : roundDiv n (d <<< s) = m := by
  rw [Nat.shiftLeft_eq]
  exact roundDiv_eq_of_near h.upper h.lower

theorem Near.den_pos {n d m s : Nat} (h : Near n d m s) : 0 < d := by
  rcases Nat.eq_zero_or_pos d with rfl | hd
  · have := h.upper
    simp at this
  · exact hd

theorem Near.of_eq {n d m s : Nat} (hd : 0 < d) (h : n = m * (d * 2 ^ s)) : Near n d m s := by
  have hp : 0 < d * 2 ^ s := Nat.mul_pos hd (Nat.two_pow_pos s)
  subst h
  exact ⟨by nlinarith, by nlinarith, fun _ _ => by nlinarith⟩

/-- The numerator stays below the next binade. -/
theorem Near.lt_next {n d m s : Nat} (h : Near n d m s) (hm : m < 2 ^ 53) :
    n / d < 2 ^ (53 + s) := by
  rw [Nat.div_lt_iff_lt_mul h.den_pos, Nat.pow_add]
  have h1 := h.upper
  have h2 : (2 * m + 1) * (d * 2 ^ s) ≤ (2 * 2 ^ 53 - 1) * (d * 2 ^ s) :=
    Nat.mul_le_mul_right _ (by omega)
  have hp : 0 < d * 2 ^ s := Nat.mul_pos h.den_pos (Nat.two_pow_pos s)
  nlinarith

theorem ofMantissa_roundDiv_of_near {negative : Bool} {n d m s : Nat} (hc : CanonicalDouble m s)
    (h : Near n d m s) :
    ofMantissa negative (roundDiv n (d <<< shiftFor (n / d))) (shiftFor (n / d)) =
      .finite negative m s hc := by
  obtain ⟨hm, hs, hn⟩ := canonicalDouble_iff.mp hc
  have hlt := h.lt_next hm
  rcases Nat.eq_zero_or_pos s with rfl | hpos
  · -- subnormal numbers and the first binade: no shift at all
    have hz : shiftFor (n / d) = 0 := shiftFor_eq_zero (by simpa using hlt)
    rw [hz, h.roundDiv_eq, ofMantissa_of_canonical hc]
  have hm52 : 2 ^ 52 ≤ m := by omega
  by_cases hge : 2 ^ (52 + s) ≤ n / d
  · -- the quotient lies in the binade of the number
    rw [shiftFor_eq hge hlt, h.roundDiv_eq, ofMantissa_of_canonical hc]
  · -- the number is the power of two above the quotient's binade
    have hpow : m = 2 ^ 52 := by
      rw [Nat.le_div_iff_mul_le h.den_pos, Nat.pow_add] at hge
      by_contra hne
      have h53 : (2 ^ 52 + 1) * (d * 2 ^ s) ≤ m * (d * 2 ^ s) :=
        Nat.mul_le_mul_right _ (by omega)
      have := h.lower
      nlinarith
    obtain ⟨k, rfl⟩ := Nat.exists_eq_succ_of_ne_zero (Nat.pos_iff_ne_zero.mp hpos)
    have hl := h.lower_of_pow hpos hpow
    subst hpow
    have hd := h.den_pos
    have hp : 0 < d * 2 ^ k := Nat.mul_pos hd (Nat.two_pow_pos k)
    have hup : n < 2 ^ 53 * (d * 2 ^ k) := by
      rw [Nat.not_le, Nat.div_lt_iff_lt_mul hd] at hge
      calc n < 2 ^ (52 + (k + 1)) * d := hge
        _ = 2 ^ 53 * (d * 2 ^ k) := by ring
    rw [Nat.succ_eq_add_one, show 2 ^ (k + 1) = 2 * 2 ^ k from Nat.pow_succ'] at hl
    have hshift : shiftFor (n / d) = k := by
      refine shiftFor_eq ?_ ?_
      · rw [Nat.le_div_iff_mul_le hd, Nat.pow_add]
        nlinarith
      · rw [Nat.div_lt_iff_lt_mul hd, Nat.pow_add]
        nlinarith
    have hround : roundDiv n (d <<< k) = 2 ^ 53 := by
      rw [Nat.shiftLeft_eq]
      refine roundDiv_eq_of_near ?_ ?_
      · nlinarith
      · nlinarith
    rw [hshift, hround, ofMantissa_carry]

/-- A quotient near a number is rounded to it. -/
theorem ofRatio_of_near {negative : Bool} {n d m s : Nat} (hc : CanonicalDouble m s)
    (h : Near (n * unitsInOne) d m s) : ofRatio negative n d = .finite negative m s hc := by
  rw [ofRatio]
  exact ofMantissa_roundDiv_of_near hc h

/-! ### Integers -/

/-- At most 53 bits, in places that are not too high, are a number. -/
theorem exists_canonical {k e : Nat} (hk : k < 2 ^ 53) (he : e ≤ 2045) :
    ∃ m s, CanonicalDouble m s ∧ m * 2 ^ s = k * 2 ^ e := by
  induction e generalizing k with
  | zero => exact ⟨k, 0, canonicalDouble_iff.mpr ⟨hk, by omega, .inl rfl⟩, rfl⟩
  | succ e ih =>
    by_cases hlow : 2 ^ 52 ≤ k
    · exact ⟨k, e + 1, canonicalDouble_iff.mpr ⟨hk, he, .inr hlow⟩, rfl⟩
    · -- one more bit moves from the places into the mantissa
      obtain ⟨m, s, hc, hms⟩ := ih (k := 2 * k) (by omega) (by omega)
      exact ⟨m, s, hc, by rw [hms, Nat.pow_succ']; ring⟩

/-- An integer of at most 53 bits is a number. -/
theorem exists_canonical_of_lt {k : Nat} (h : k < 2 ^ 53) :
    ∃ m s, CanonicalDouble m s ∧ m * 2 ^ s = k * unitsInOne := by
  rw [unitsInOne_eq]
  exact exists_canonical h (by norm_num)

/-- The quotient of a multiple of an integer by the same multiple of one is the integer. -/
theorem toInt?_ofRatio_mul {negative : Bool} {k d : Nat} (hk : k < 2 ^ 53) (hd : 0 < d) :
    (ofRatio negative (k * d) d).toInt? = some (if negative then -(k : Int) else (k : Int)) := by
  obtain ⟨m, s, hc, hms⟩ := exists_canonical_of_lt hk
  have hnear : Near (k * d * unitsInOne) d m s :=
    .of_eq hd (by rw [Nat.mul_left_comm, hms]; ring)
  have hU : (unitsInOne : Int) ≠ 0 := by
    have := unitsInOne_pos
    omega
  rw [ofRatio_of_near hc hnear]
  simp only [toInt?, signedUnits?, units_eq, hms]
  generalize unitsInOne = U at hU
  cases negative with
  | false => simp [Int.mul_ediv_cancel _ hU]
  | true => simp [Int.neg_ediv_of_dvd, Int.mul_ediv_cancel _ hU]

end Double

end ServiceWire
