import ServiceWire.Proofs.Number.Quotient
import ServiceWire.Proofs.Time.Clock

/-!
# Moments from doubles

A number of seconds is taken apart into whole seconds and a fraction, whose product with a million
is rounded twice. For the seconds of moments this comes to one rounding of the number itself: within
`2 ^ 33` seconds of the epoch all roundings together are off by less than half a microsecond, and
beyond that the fraction has so few bits that its product is exact.
-/

namespace ServiceWire

/-- A multiple of the divisor by an even number does not change how a quotient is rounded. -/
theorem roundDiv_mul_add {q n d : Nat} (hd : 0 < d) (hq : q % 2 = 0) :
    roundDiv (q * d + n) d = q + roundDiv n d := by
  have hdiv : (q * d + n) / d = q + n / d := by
    rw [Nat.add_comm, Nat.add_mul_div_right _ _ hd, Nat.add_comm]
  have hmod : (q * d + n) % d = n % d := Nat.mul_add_mod_self_right ..
  have hodd : (q + n / d) % 2 = 1 ↔ n / d % 2 = 1 := by omega
  simp only [roundDiv, hdiv, hmod, hodd]
  split <;> omega

namespace DateTime

open Double

/-- The microseconds of a number of seconds in units: those of the whole seconds, and those that
the fraction is rounded to, first with a million to a number and then to an integer. -/
def microsOfUnits (u : Nat) : Nat :=
  u / unitsInOne * 1000000 +
    match ofRatio false (u % unitsInOne * 1000000) unitsInOne with
    | .finite _ m s _ => roundDiv (units m s) unitsInOne
    | _ => 0

/-! ### Rounding errors -/

section

variable {n k : Nat}

/-- A place in units, from the first one on that is a power of two of them. -/
theorem two_pow_place (k : Nat) : 2 ^ 53 * 2 ^ (1021 + k) = 2 ^ k * unitsInOne := by
  have hsum : 53 + (1021 + k) = k + 1074 := by omega
  rw [unitsInOne_eq, ← Nat.pow_add, ← Nat.pow_add, hsum]

theorem placeOf_le (h : n < 2 ^ k * 1000000) : placeOf n 1000000 ≤ 1021 + k := by
  refine shiftFor_le ?_
  rw [Nat.div_lt_iff_lt_mul (by decide), Nat.pow_add, two_pow_place]
  have hmul := Nat.mul_lt_mul_of_pos_right h unitsInOne_pos
  linarith

theorem le_placeOf (h : 2 ^ k * 1000000 ≤ n) : 1022 + k ≤ placeOf n 1000000 := by
  have hsum : 52 + (1022 + k) = 53 + (1021 + k) := by omega
  refine le_shiftFor ?_
  rw [Nat.le_div_iff_mul_le (by decide), hsum, Nat.pow_add, two_pow_place]
  have hmul := Nat.mul_le_mul_right unitsInOne h
  linarith

/-- How far a number of seconds is off, compared with one unit. -/
theorem unitsOf_error_of_lt (h : n < 2 ^ k * 1000000) :
    2 ^ 54 * (n * unitsInOne) ≤
        2 ^ 54 * (unitsOf n 1000000 * 1000000) + 1000000 * (2 ^ k * unitsInOne) ∧
      2 ^ 54 * (unitsOf n 1000000 * 1000000) ≤
        2 ^ 54 * (n * unitsInOne) + 1000000 * (2 ^ k * unitsInOne) := by
  obtain ⟨hlow, hhigh⟩ := unitsOf_error (by decide) (placeOf_le h)
  rw [← two_pow_place]
  constructor <;> omega

/-- A fraction of a second, times a million, is rounded to a number that is off by far less. -/
theorem exists_product {f : Nat} (h : f < unitsInOne) :
    ∃ m s hc, ofRatio false (f * 1000000) unitsInOne = .finite false m s hc ∧
      2 ^ 54 * (f * 1000000) ≤ 2 ^ 54 * units m s + 2 ^ 20 * unitsInOne ∧
      2 ^ 54 * units m s ≤ 2 ^ 54 * (f * 1000000) + 2 ^ 20 * unitsInOne := by
  have hU := unitsInOne_pos
  obtain ⟨k, hk⟩ : ∃ k, k = 20 := ⟨20, rfl⟩
  have hpow := two_pow_place k
  have hplace : placeOf (f * 1000000) unitsInOne ≤ 1021 + k := by
    rw [placeOf, Nat.mul_div_cancel _ hU]
    refine shiftFor_le ?_
    rw [Nat.pow_add, hpow, hk]
    omega
  obtain ⟨m, s, hc, hratio, hunits⟩ :=
    exists_ofRatio (n := f * 1000000) hU false (by omega)
  obtain ⟨hlow, hhigh⟩ := unitsOf_error hU hplace
  rw [← hunits] at hlow hhigh
  generalize 2 ^ (1021 + k) = place at hlow hhigh hpow
  rw [hk] at hpow
  have hlow' : 2 * (f * 1000000) ≤ 2 * units m s + place :=
    Nat.le_of_mul_le_mul_right (by linarith) hU
  have hhigh' : 2 * units m s ≤ 2 * (f * 1000000) + place :=
    Nat.le_of_mul_le_mul_right (by linarith) hU
  exact ⟨m, s, hc, hratio, by omega, by omega⟩

/-! ### Microseconds -/

/-- Near the epoch, microseconds are read back from the number of seconds that they are rounded
to. -/
theorem micros_near (h : n < 2 ^ 33 * 1000000) :
    roundDiv (unitsOf n 1000000 * 1000000) unitsInOne = n ∧
      microsOfUnits (unitsOf n 1000000) = n := by
  obtain ⟨hlow, hhigh⟩ := unitsOf_error_of_lt h
  have hpos := unitsInOne_pos
  refine ⟨roundDiv_eq_of_near (by linarith) (by linarith), ?_⟩
  rw [microsOfUnits]
  have hsplit := Nat.div_add_mod' (unitsOf n 1000000) unitsInOne
  obtain ⟨m, s, hc, hratio, hlow', hhigh'⟩ :=
    exists_product (Nat.mod_lt (unitsOf n 1000000) hpos)
  simp only [hratio]
  generalize unitsOf n 1000000 / unitsInOne = whole at hsplit ⊢
  generalize unitsOf n 1000000 % unitsInOne = f at hsplit hlow' hhigh'
  rw [← hsplit] at hlow hhigh
  have hwhole : whole * 1000000 ≤ n := by
    have hmul : (2 * (whole * 1000000)) * unitsInOne < (2 * n + 1) * unitsInOne := by linarith
    have hlt := Nat.lt_of_mul_lt_mul_right hmul
    omega
  obtain ⟨q, rfl⟩ := Nat.exists_eq_add_of_le hwhole
  rw [roundDiv_eq_of_near (q := q) (by linarith) (by linarith)]

/-- Far from the epoch, the product of the fraction with a million is exact. -/
theorem microsOfUnits_of_dvd {u : Nat} (hk : k = 33) (h : 2 ^ (1022 + k) ∣ u) :
    microsOfUnits u = roundDiv (u * 1000000) unitsInOne := by
  have hU := unitsInOne_pos
  have hone : unitsInOne = 2 ^ (1022 + k) * 2 ^ 19 := by
    have hplace := two_pow_place (k + 1)
    have hsum : 1021 + (k + 1) = 1022 + k := by omega
    have hpow : 2 ^ (k + 1) = 2 ^ 34 := by rw [hk]
    rw [hsum, hpow] at hplace
    omega
  have hplaces : ∀ q < 2 ^ 53, ∃ m s, CanonicalDouble m s ∧
      m * 2 ^ s = q * (2 ^ (1022 + k) * 2 ^ 6) := fun q hq => by
    rw [← Nat.pow_add]
    exact exists_canonical hq (by omega)
  generalize 2 ^ (1022 + k) = place at h hone hplaces
  obtain ⟨q, hq⟩ := (Nat.dvd_mod_iff ⟨_, hone⟩).mpr h
  have hlt : q < 2 ^ 19 := by
    have hmod := Nat.mod_lt u hU
    rw [hq, hone] at hmod
    exact Nat.lt_of_mul_lt_mul_left hmod
  obtain ⟨m, s, hc, hms⟩ := hplaces (q * 15625) (by omega)
  have hproduct : u % unitsInOne * 1000000 = m * 2 ^ s := by
    rw [hms, hq]
    ring
  have hnear : Near (u % unitsInOne * 1000000 * unitsInOne) unitsInOne m s :=
    .of_eq hU (by rw [hproduct]; ring)
  have hsplit : u / unitsInOne * 1000000 * unitsInOne + u % unitsInOne * 1000000 =
      u * 1000000 := by
    have hu := Nat.div_add_mod' u unitsInOne
    linarith
  rw [microsOfUnits, ofRatio_of_near hc hnear]
  dsimp only
  rw [units_eq, ← hproduct, ← roundDiv_mul_add hU (by omega), hsplit]

/-- The microseconds that the rounded number of seconds of a number of microseconds is rounded to. -/
def rereadMicros (n : Nat) : Nat := roundDiv (unitsOf n 1000000 * 1000000) unitsInOne

theorem microsOfUnits_unitsOf (n : Nat) : microsOfUnits (unitsOf n 1000000) = rereadMicros n := by
  rw [rereadMicros]
  rcases Nat.lt_or_ge n (2 ^ 33 * 1000000) with h | h
  · rw [(micros_near h).1, (micros_near h).2]
  · exact microsOfUnits_of_dvd rfl (dvd_unitsOf (le_placeOf h))

theorem rereadMicros_near (h : n < 2 ^ 33 * 1000000) : rereadMicros n = n := (micros_near h).1

/-- Before the year 10000 microseconds are off by 15 at most. -/
theorem rereadMicros_calendar (h : n < 2 ^ 38 * 1000000) :
    rereadMicros n ≤ n + 15 ∧ n ≤ rereadMicros n + 15 := by
  obtain ⟨hlow, hhigh⟩ := unitsOf_error_of_lt h
  have hpos := unitsInOne_pos
  refine ⟨roundDiv_le_of_lt (by linarith), ?_⟩
  rcases Nat.lt_or_ge n 15 with hn | hn
  · omega
  · obtain ⟨q, rfl⟩ := Nat.exists_eq_add_of_le' hn
    exact Nat.add_le_add_right (le_roundDiv_of_lt hpos (by linarith)) 15

theorem dvd_seconds (h : n < 2 ^ 38 * 1000000) (q : Nat) :
    2 ^ placeOf n 1000000 ∣ q * unitsInOne := by
  have hplace := placeOf_le h
  rw [unitsInOne_eq]
  exact Nat.dvd_mul_left_of_dvd (pow_dvd_pow 2 (by omega)) q

/-- A number of microseconds that is at most a number of whole seconds stays so. -/
theorem rereadMicros_le (h : n < 2 ^ 38 * 1000000) {q : Nat} (hq : n ≤ q * 1000000) :
    rereadMicros n ≤ q * 1000000 := by
  have hpos := unitsInOne_pos
  have hunits : unitsOf n 1000000 ≤ q * unitsInOne := by
    refine unitsOf_le (by decide) (dvd_seconds h q) ?_
    have hmul := Nat.mul_le_mul_right unitsInOne hq
    linarith
  exact roundDiv_le_of_lt (by linarith)

/-- Beyond `2 ^ 37` seconds, the last 15 microseconds of a second are rounded to its end. -/
theorem le_rereadMicros (hk : k = 37) (hlow : 2 ^ k * 1000000 ≤ n) (hhigh : n < 2 ^ 38 * 1000000)
    {q : Nat} (hq : q * 1000000 ≤ n + 15) : q * 1000000 ≤ rereadMicros n := by
  have hpos := unitsInOne_pos
  have hplace := le_placeOf hlow
  have hunits : q * unitsInOne ≤ unitsOf n 1000000 := by
    refine le_unitsOf (by decide) (dvd_seconds hhigh q) ?_
    have hle : 2 ^ (1021 + (k + 1)) ≤ 2 ^ placeOf n 1000000 :=
      Nat.pow_le_pow_right (by decide) (by omega)
    have hpow := two_pow_place (k + 1)
    have hmul := Nat.mul_le_mul_right unitsInOne hq
    generalize 2 ^ (1021 + (k + 1)) = place at hle hpow
    rw [show 2 ^ (k + 1) = 2 ^ 38 by rw [hk]] at hpow
    linarith
  exact le_roundDiv_of_lt hpos (by linarith)

end

/-! ### Moments -/

/-- The moment a number of microseconds after the epoch. -/
def ofMicros (total : Int) : Except Failure DateTime :=
  if !fitsWord 63 (total / 1000000) then .error (.plain .overflow)
  else ofEpoch (total / 1000000) (total % 1000000).toNat

theorem ofMicros_eq {total : Int} (h : |total| ≤ 2 ^ 39 * 1000000) :
    ofMicros total =
      match ofWall? (epochWall + total) with
      | some t => .ok t
      | none => .error (.plain .value) := by
  rw [abs_le] at h
  have hfits : fitsWord 63 (total / 1000000) = true := fitsWord_63_iff.mpr (by omega)
  have hwall : (epochWall : Int) + total / 1000000 * microsPerSecond +
      (total % 1000000).toNat = epochWall + total := by
    rw [microsPerSecond]
    omega
  have hrange : ¬(total / 1000000 < earliestSecond ∨ farthestSecond < total / 1000000) := by
    simp only [earliestSecond, farthestSecond]
    omega
  have hepoch : ofMicros total = ofEpoch (total / 1000000) (total % 1000000).toNat := by
    rw [ofMicros, hfits, Bool.not_true, if_neg Bool.false_ne_true]
  cases hofWall : ofWall? (epochWall + total) <;>
    rw [hepoch, ofEpoch, if_neg hrange, hwall, hofWall]

theorem ofEpochInt_eq (i : Int) : ofEpochInt i = ofMicros (i * 1000000) := by
  have hdiv : i * 1000000 / 1000000 = i := by omega
  have hmod : (i * 1000000 % 1000000).toNat = 0 := by omega
  rw [ofMicros, hdiv, hmod]
  rfl

theorem ofEpochDouble_eq {negative : Bool} {m s : Nat} (hc : CanonicalDouble m s) :
    ofEpochDouble (.finite negative m s hc) =
      ofMicros (withSign negative (microsOfUnits (units m s))) := by
  rw [ofEpochDouble, microsOfUnits]
  generalize ofRatio false (units m s % unitsInOne * 1000000) unitsInOne = product
  cases product <;> rfl

/-- A whole number of seconds has no fraction to round. -/
theorem microsOfUnits_mul (k : Nat) : microsOfUnits (k * unitsInOne) = k * 1000000 := by
  have hU := unitsInOne_pos
  have hnear : Near (0 * 1000000 * unitsInOne) unitsInOne 0 0 :=
    .of_eq hU (by simp only [Nat.zero_mul])
  rw [microsOfUnits, Nat.mul_div_cancel _ hU, Nat.mul_mod_left,
    ofRatio_of_near (by decide) hnear]
  simp only [units_eq, Nat.zero_mul, roundDiv_of_dvd hU (Nat.dvd_zero _), Nat.zero_div,
    Nat.add_zero]

/-- The units of a number that is an integer are those of that many ones. -/
theorem exists_of_toInt? {negative : Bool} {m s : Nat} {hc : CanonicalDouble m s} {i : Int}
    (h : toInt? (.finite negative m s hc) = some i) :
    ∃ k, units m s = k * unitsInOne ∧ i = withSign negative k := by
  have hU : (unitsInOne : Int) ≠ 0 := by
    have := unitsInOne_pos
    omega
  have hsigned : toInt? (.finite negative m s hc) =
      if withSign negative (units m s) % unitsInOne = 0 then
        some (withSign negative (units m s) / unitsInOne)
      else none := rfl
  rw [hsigned, Option.ite_none_right_eq_some] at h
  obtain ⟨hmod, hdiv⟩ := h
  generalize units m s = u at hmod hdiv ⊢
  obtain ⟨k, rfl⟩ : unitsInOne ∣ u := by
    have hdvd := Int.natAbs_dvd_natAbs.mpr (Int.dvd_of_emod_eq_zero hmod)
    rwa [Int.natAbs_natCast, natAbs_withSign] at hdvd
  refine ⟨k, Nat.mul_comm .., ?_⟩
  rw [← Option.some.inj hdiv, withSign_mul]
  exact Int.mul_ediv_cancel_left _ hU

/-- A number of seconds that is an integer means the same moment as the integer. -/
theorem ofEpochDouble_of_toInt? {x : Double} {i : Int} (h : x.toInt? = some i) :
    ofEpochDouble x = ofEpochInt i := by
  cases x with
  | nan => cases h
  | infinite negative => cases h
  | finite negative m s hc =>
    obtain ⟨k, hk, rfl⟩ := exists_of_toInt? h
    rw [ofEpochDouble_eq, hk, microsOfUnits_mul, ofEpochInt_eq, Nat.mul_comm, withSign_mul,
      Int.mul_comm]
    rfl

/-- The microseconds that a number of seconds is rounded to, a half to the even one. -/
def micros? (x : Double) : Option Int :=
  x.signedUnits?.map fun u => roundDivInt (u * 1000000) unitsInOne

/-- The microseconds from the epoch that the seconds of a moment are read as. -/
def rereadSinceEpoch (t : DateTime) : Int :=
  withSign (t.sinceEpoch < 0) (rereadMicros t.sinceEpoch.natAbs)

section

variable (u : DateTime)

theorem natAbs_sinceEpoch_lt : u.sinceEpoch.natAbs < 2 ^ 38 * 1000000 := by
  have hwall := u.wall_lt_wallLimit
  simp only [sinceEpoch, epochWall, microsPerDay]
  omega

theorem placeOf_epochSeconds : placeOf u.sinceEpoch.natAbs microsPerSecond ≤ 2044 :=
  (placeOf_le u.natAbs_sinceEpoch_lt).trans (by decide)

theorem micros?_epochSeconds : micros? u.epochSeconds = some u.rereadSinceEpoch := by
  obtain ⟨m, s, hc, hratio, hunits⟩ :=
    exists_ofRatio (d := microsPerSecond) (by decide) (u.sinceEpoch < 0) u.placeOf_epochSeconds
  rw [microsPerSecond] at hunits
  rw [micros?, epochSeconds, hratio, signedUnits?_finite, hunits, Option.map_some,
    rereadSinceEpoch, rereadMicros, ← roundDivInt_withSign _ _ unitsInOne_pos, Nat.mul_comm,
    withSign_mul, Int.mul_comm]
  rfl

theorem ofEpochDouble_epochSeconds :
    ofEpochDouble u.epochSeconds =
      match ofWall? (epochWall + u.rereadSinceEpoch) with
      | some t => .ok t
      | none => .error (.plain .value) := by
  obtain ⟨m, s, hc, hratio, hunits⟩ :=
    exists_ofRatio (d := microsPerSecond) (by decide) (u.sinceEpoch < 0) u.placeOf_epochSeconds
  have hmicros := microsOfUnits_unitsOf u.sinceEpoch.natAbs
  have hbound := (rereadMicros_calendar u.natAbs_sinceEpoch_lt).1
  have hlt := u.natAbs_sinceEpoch_lt
  rw [microsPerSecond] at hunits
  rw [epochSeconds, hratio, ofEpochDouble_eq, hunits, hmicros, ofMicros_eq]
  · rfl
  · rw [abs_withSign]
    omega

/-! ### Moments read back -/

theorem rereadSinceEpoch_near (h : u.sinceEpoch.natAbs < 2 ^ 33 * 1000000) :
    u.rereadSinceEpoch = u.sinceEpoch := by
  rw [rereadSinceEpoch, rereadMicros_near h, withSign_natAbs]

theorem rereadSinceEpoch_calendar :
    u.rereadSinceEpoch ≤ u.sinceEpoch + 15 ∧ u.sinceEpoch ≤ u.rereadSinceEpoch + 15 := by
  have hmicros := rereadMicros_calendar u.natAbs_sinceEpoch_lt
  rw [rereadSinceEpoch, withSign]
  simp only [decide_eq_true_eq]
  split <;> omega

/-- No moment is read as one before the year 1. -/
theorem le_rereadSinceEpoch : -(epochWall : Int) ≤ u.rereadSinceEpoch := by
  rw [rereadSinceEpoch, withSign]
  simp only [decide_eq_true_eq, epochWall, microsPerDay]
  split
  · rename_i hneg
    have hfirst : u.sinceEpoch.natAbs ≤ 62135596800 * 1000000 := by
      simp only [sinceEpoch, epochWall, microsPerDay] at hneg ⊢
      omega
    have hmicros := rereadMicros_le u.natAbs_sinceEpoch_lt hfirst
    omega
  · omega

/-- The last moments of the year 9999 are read as the first one of the next year. -/
theorem wallLimit_le_rereadSinceEpoch (h : wallLimit ≤ u.wall + 15) :
    (wallLimit : Int) ≤ epochWall + u.rereadSinceEpoch := by
  have hlimit : wallLimit = 315537897600000000 := by decide
  have hsince : 253402300800 * 1000000 ≤ u.sinceEpoch + 15 := by
    simp only [sinceEpoch, epochWall, microsPerDay]
    omega
  have hmicros := le_rereadMicros (n := u.sinceEpoch.natAbs) (q := 253402300800) rfl (by omega)
    u.natAbs_sinceEpoch_lt (by omega)
  rw [rereadSinceEpoch, withSign, if_neg (by simp; omega), hlimit]
  simp only [epochWall, microsPerDay]
  omega

end

end DateTime

end ServiceWire
