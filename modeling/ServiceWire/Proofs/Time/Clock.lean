import ServiceWire.Proofs.Number.Nearest
import ServiceWire.Time.DateTime

/-!
# Moments of the UTC clock

A moment can be read on a clock that is ahead of UTC or behind it, or on one of unknown offset,
which is taken to be the UTC clock. It is a moment of the UTC clock exactly if that clock reads a
year from 1 to 9999, and then what the clock reads says which one. On a whole second it is an
integer number of seconds from the epoch, small enough to be a double-precision number exactly, and
the moment that many seconds after the epoch is the moment itself.
-/

namespace ServiceWire.DateTime

/-- A moment of the UTC clock. -/
def IsUtc (t : DateTime) : Prop := t.offset = some 0

theorem wall_lt_wallLimit (t : DateTime) : t.wall < 315537897600000000 := t.wall_lt

theorem ofWall?_wall {t : DateTime} (h : t.IsUtc) : ofWall? t.wall = some t := by
  obtain ⟨wall, offset, hw⟩ := t
  simp only [IsUtc] at h
  subst h
  simp [ofWall?, hw]

theorem toUtc_of_isUtc {t : DateTime} (h : t.IsUtc) : t.toUtc = .ok t := by
  rw [toUtc]
  split
  · rename_i hn
    rw [IsUtc, hn] at h
    cases h
  · rename_i offset ho
    obtain rfl : offset = 0 := by
      rw [IsUtc, ho] at h
      exact Option.some.inj h
    rw [Int.sub_zero, ofWall?_wall h]

theorem isUtc_of_ofWall? {w : Int} {t : DateTime} (h : ofWall? w = some t) : t.IsUtc := by
  unfold ofWall? at h
  split at h
  · rw [← Option.some.inj h, IsUtc]
  · cases h

theorem isUtc_of_toUtc {t u : DateTime} (h : t.toUtc = .ok u) : u.IsUtc := by
  unfold toUtc at h
  split at h
  · rw [← Except.ok.inj h, IsUtc]
  · split at h
    · rename_i hw
      exact Except.ok.inj h ▸ isUtc_of_ofWall? hw
    · cases h

variable {t u : DateTime}

/-- What the UTC clock reads at a moment, in microseconds since the start of year 1. -/
def utcWall (t : DateTime) : Int := t.wall - t.offset.getD 0

/-- The UTC clock reads a year from 1 to 9999 at the moment. -/
def OnCalendar (t : DateTime) : Prop := 0 ≤ t.utcWall ∧ t.utcWall < wallLimit

instance (t : DateTime) : Decidable t.OnCalendar := inferInstanceAs (Decidable (_ ∧ _))

theorem exists_ofWall? {w : Int} (h : 0 ≤ w ∧ w < wallLimit) :
    ∃ u, ofWall? w = some u ∧ u.IsUtc ∧ (u.wall : Int) = w := by
  have hlt : 0 ≤ w ∧ w.toNat < wallLimit := ⟨h.1, by omega⟩
  exact ⟨⟨w.toNat, some 0, hlt.2⟩, dif_pos hlt, rfl, Int.toNat_of_nonneg h.1⟩

theorem ofWall?_eq_none {w : Int} (h : wallLimit ≤ w) : ofWall? w = none := by
  rw [ofWall?, dif_neg]
  omega

theorem exists_toUtc (h : t.OnCalendar) :
    ∃ u, t.toUtc = .ok u ∧ u.IsUtc ∧ (u.wall : Int) = t.utcWall := by
  rw [OnCalendar, utcWall] at h
  rw [toUtc, utcWall]
  cases hoffset : t.offset with
  | none => exact ⟨_, rfl, rfl, by rw [Option.getD_none, Int.sub_zero]⟩
  | some offset =>
    rw [hoffset, Option.getD_some] at h
    obtain ⟨u, hu, hutc, hwall⟩ := exists_ofWall? h
    exact ⟨u, by simp only [hu], hutc, hwall⟩

/-- A moment of the UTC clock is known by what the clock reads. -/
theorem eq_of_wall (ht : t.IsUtc) (hu : u.IsUtc) (h : t.wall = u.wall) : t = u := by
  obtain ⟨wall, offset, hlt⟩ := t
  obtain ⟨wall', offset', hlt'⟩ := u
  obtain rfl : wall = wall' := h
  rw [IsUtc] at ht hu
  obtain rfl : offset = offset' := ht.trans hu.symm
  rfl

/-! ### Whole seconds -/

/-- A moment on a whole second. -/
def OnSecond (t : DateTime) : Prop := t.micro = 0

/-- The moment at which the second of a moment began. -/
def wholeSecond (t : DateTime) : DateTime where
  wall := t.wall - t.micro
  offset := t.offset
  wall_lt := Nat.lt_of_le_of_lt (Nat.sub_le ..) t.wall_lt

theorem onSecond_wholeSecond (t : DateTime) : t.wholeSecond.OnSecond :=
  Nat.mod_eq_zero_of_dvd (Nat.dvd_sub_mod t.wall)

/-- At the start of a second all fields are those of the second, but for the microseconds. -/
theorem fields_wholeSecond (t : DateTime) : t.wholeSecond.fields = { t.fields with micro := 0 } := by
  have hday : (t.wall - t.wall % 1000000) / 86400000000 = t.wall / 86400000000 := by omega
  have hseconds : (t.wall - t.wall % 1000000) % 86400000000 / 1000000 =
      t.wall % 86400000000 / 1000000 := by omega
  have hmicro : (t.wall - t.wall % 1000000) % 86400000000 % 1000000 = 0 := by omega
  simp only [fields, wholeSecond, micro, ClockFields.ofWall, microsPerDay, microsPerSecond, hday,
    hseconds, hmicro]

/-! ### Seconds from the epoch -/

/-- The seconds of a moment on a whole second. -/
theorem exists_seconds {t : DateTime} (h : t.OnSecond) :
    ∃ k : Int, t.sinceEpoch = k * microsPerSecond ∧ k.natAbs < 2 ^ 53 ∧ earliestSecond ≤ k ∧
      k ≤ farthestSecond := by
  have hw := t.wall_lt_wallLimit
  simp only [OnSecond, micro, microsPerSecond] at h
  refine ⟨((t.wall / 1000000 : Nat) : Int) - 62135596800, ?_, ?_, ?_, ?_⟩
  · simp only [sinceEpoch, epochWall, microsPerDay, microsPerSecond]
    omega
  · omega
  · simp only [earliestSecond]
    omega
  · simp only [farthestSecond]
    omega

theorem toInt?_epochSeconds {t : DateTime} {k : Int} (h : t.sinceEpoch = k * microsPerSecond)
    (hk : k.natAbs < 2 ^ 53) : t.epochSeconds.toInt? = some k := by
  have habs : t.sinceEpoch.natAbs = k.natAbs * microsPerSecond := by
    rw [h, Int.natAbs_mul]
    rfl
  have hneg : (decide (t.sinceEpoch < 0)) = decide (k < 0) := by
    simp only [h, microsPerSecond]
    congr 1
    exact propext ⟨fun _ => by omega, fun _ => by omega⟩
  rw [epochSeconds, habs, hneg, Double.toInt?_ofRatio_mul hk (by decide)]
  simp only [decide_eq_true_eq, Option.some.injEq]
  split <;> omega

theorem ofEpochInt_seconds {t : DateTime} {k : Int} (hu : t.IsUtc)
    (h : t.sinceEpoch = k * microsPerSecond) (hlo : earliestSecond ≤ k) (hhi : k ≤ farthestSecond) :
    ofEpochInt k = .ok t := by
  have hfits : fitsWord 63 k = true := by
    simp only [earliestSecond, farthestSecond] at hlo hhi
    exact fitsWord_63_iff.mpr (by omega)
  have hwall : (epochWall : Int) + k * microsPerSecond + (0 : Nat) = t.wall := by
    rw [← h, sinceEpoch]
    omega
  simp only [ofEpochInt, hfits, Bool.not_true, Bool.false_eq_true, if_false]
  rw [ofEpoch, if_neg (by omega), hwall, ofWall?_wall hu]

theorem isUtc_of_ofEpoch {seconds : Int} {micros : Nat} {t : DateTime}
    (h : ofEpoch seconds micros = .ok t) : t.IsUtc := by
  rw [ofEpoch] at h
  split at h
  · cases h
  · split at h
    · rename_i hw
      cases h
      exact isUtc_of_ofWall? hw
    · cases h

/-- Seconds that do not fit a machine word name no moment. -/
theorem isUtc_of_fitting {seconds : Int} {micros : Nat} {t : DateTime}
    (h : (if !fitsWord 63 seconds then .error (.plain .overflow)
      else ofEpoch seconds micros) = Except.ok t) : t.IsUtc := by
  split at h
  · cases h
  · exact isUtc_of_ofEpoch h

theorem isUtc_of_ofEpochInt {seconds : Int} {t : DateTime} (h : ofEpochInt seconds = .ok t) :
    t.IsUtc :=
  isUtc_of_fitting h

theorem isUtc_of_ofEpochDouble {x : Double} {t : DateTime} (h : ofEpochDouble x = .ok t) :
    t.IsUtc := by
  cases x with
  | nan => cases h
  | infinite => cases h
  | finite negative mantissa shift canonical =>
    unfold ofEpochDouble at h
    exact isUtc_of_fitting h

end ServiceWire.DateTime
