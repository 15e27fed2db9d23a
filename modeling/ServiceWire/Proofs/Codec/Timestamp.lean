import ServiceWire.Proofs.Codec.Scalar
import ServiceWire.Proofs.Time.EpochDouble

/-!
# Timestamps read back

A timestamp is moved to the UTC clock and written there, so what is read back is a moment of that
clock.
-/

namespace ServiceWire

/-!
## Timestamps written as texts

In the standard format the moment itself is read back, and in the format of mail headers, which has
no place for less, the start of its second. Either text begins as no number does, so that a reader
that first tries epoch seconds goes on to the date.
-/

/-- The text of mail headers says the second of a moment and no more. -/
theorem Rfc822.render_wholeSecond (t : DateTime) :
    Rfc822.render t.wholeSecond = Rfc822.render t := by
  have hday : t.wholeSecond.wall / microsPerDay = t.wall / microsPerDay := by
    simp only [DateTime.wholeSecond, DateTime.micro, microsPerSecond, microsPerDay]
    omega
  rw [Rfc822.render, Rfc822.render, DateTime.fields_wholeSecond, hday]
  rfl

namespace Scalar

/-- A timestamp is written in a format as a text that is no number and is read as a moment. -/
def ReadsBackAs (format : TimestampFormat) (t read : DateTime) : Prop :=
  ∃ s, timestampDocument format (.datetime t) = .ok (.str s) ∧
    Number.readDouble? (Text.strip s) = none ∧ readMoment (.str s) = .ok read

section

variable {t u : DateTime}

theorem readsBackAs_iso8601 (h : t.toUtc = .ok u) : ReadsBackAs .iso8601 t u := by
  refine ⟨Iso8601.render u, timestampDocument_datetime h .iso8601, ?_,
    momentOfText_render (DateTime.isUtc_of_toUtc h)⟩
  rw [Text.strip_eq_self fun _ hc => Iso8601.isVisibleChar_of_mem_render hc]
  exact Iso8601.readDouble?_render u

theorem readsBackAs_rfc822 (h : t.toUtc = .ok u) (hyear : 100 ≤ u.fields.date.year) :
    ReadsBackAs .rfc822 t u.wholeSecond := by
  have hutc : u.IsUtc := DateTime.isUtc_of_toUtc h
  have hyear' : 100 ≤ u.wholeSecond.fields.date.year := by
    rwa [DateTime.fields_wholeSecond]
  refine ⟨Rfc822.render u, timestampDocument_datetime h .rfc822, ?_, ?_⟩
  · rw [Rfc822.strip_render]
    exact Rfc822.readDouble?_render u
  · rw [readMoment, ← Rfc822.render_wholeSecond]
    exact momentOfText_rfc822 hutc u.onSecond_wholeSecond hyear'

end

/-- A timestamp on any clock is the moment that the UTC clock reads then; its text in the standard
format is read as that moment, and from the year 100 on its text in the format of mail headers is
read as the start of that moment's second. -/
theorem exists_moment_readsBackAs {t : DateTime} (h : t.OnCalendar) :
    ∃ u, moment (.datetime t) = .ok u ∧ u.IsUtc ∧ (u.wall : Int) = t.utcWall ∧
      ReadsBackAs .iso8601 t u ∧
      (100 ≤ u.fields.date.year → ReadsBackAs .rfc822 t u.wholeSecond) := by
  obtain ⟨u, hu, hutc, hwall⟩ := DateTime.exists_toUtc h
  exact ⟨u, hu, hutc, hwall, readsBackAs_iso8601 hu, readsBackAs_rfc822 hu⟩

/-- Half past midnight on the first day of 2024, and 250 microseconds, on a clock an hour ahead. -/
def newYearsNight : DateTime := ⟨63839665800000250, some 3600000000, by decide⟩

/-- On the UTC clock it is still the last day of 2023. -/
theorem newYearsNight_readsBackAs :
    newYearsNight.OnCalendar ∧ ∃ u, moment (.datetime newYearsNight) = .ok u ∧
      u.fields = ⟨⟨2023, 12, 31⟩, 23, 30, 0, 250⟩ ∧ ReadsBackAs .iso8601 newYearsNight u ∧
      ReadsBackAs .rfc822 newYearsNight u.wholeSecond := by
  have h : newYearsNight.OnCalendar := by decide
  obtain ⟨u, hu, -, hwall, hiso, hrfc⟩ := exists_moment_readsBackAs h
  have hfields : u.fields = ⟨⟨2023, 12, 31⟩, 23, 30, 0, 250⟩ := by
    rw [DateTime.fields, show u.wall = 63839662200000250 from Int.ofNat.inj hwall]
    decide
  exact ⟨h, u, hu, hfields, hiso, hrfc (by rw [hfields]; decide)⟩

/-!
## Timestamps written as epoch seconds

A timestamp is written as the number nearest to its epoch seconds, and the number is read as the
microsecond nearest to it. Near the epoch, for some 272 years, this is the moment itself; beyond
that it may be some microseconds off, and the last moments of the year 9999 become the first one of
the next year, which there is none of.
-/

open DateTime

/-- A number of seconds is read alike as a number and as the integer that it is. -/
theorem readMoment_secondsDocument (x : Double) :
    readMoment (secondsDocument x) = ofEpochDouble x := by
  rw [secondsDocument]
  cases h : x.toInt? with
  | none => rfl
  | some i => exact (ofEpochDouble_of_toInt? h).symm

theorem readMoment_epochDocument (u : DateTime) :
    readMoment (epochDocument u) =
      match ofWall? (epochWall + u.rereadSinceEpoch) with
      | some t => .ok t
      | none => .error (.plain .value) :=
  (readMoment_secondsDocument _).trans u.ofEpochDouble_epochSeconds

/-- A moment on a whole second is read back, however far it is from the epoch. -/
theorem readMoment_of_onSecond {u : DateTime} (hu : u.IsUtc) (hs : u.OnSecond) :
    readMoment (epochDocument u) = .ok u := by
  obtain ⟨k, hk, hread⟩ := exists_epochDocument hu hs
  rw [hk]
  exact hread

/-- The last 15 microseconds of the calendar are not read. -/
theorem readMoment_of_last {u : DateTime} (h : wallLimit ≤ u.wall + 15) :
    readMoment (epochDocument u) = .error (.plain .value) := by
  rw [readMoment_epochDocument, ofWall?_eq_none (u.wallLimit_le_rereadSinceEpoch h)]

/-- Every other moment is read as one that is at most 15 microseconds off. -/
theorem exists_readMoment {u : DateTime} (h : u.wall + 15 < wallLimit) :
    ∃ v, readMoment (epochDocument u) = .ok v ∧ v.IsUtc ∧
      (v.wall : Int) = epochWall + u.rereadSinceEpoch := by
  have hlow := u.le_rereadSinceEpoch
  have hhigh := u.rereadSinceEpoch_calendar.1
  have hsince : u.sinceEpoch = u.wall - epochWall := rfl
  obtain ⟨v, hv, hutc, hwall⟩ :=
    exists_ofWall? (w := epochWall + u.rereadSinceEpoch) ⟨by omega, by omega⟩
  exact ⟨v, by rw [readMoment_epochDocument, hv], hutc, hwall⟩

/-- A timestamp on any clock is the moment that the UTC clock reads then, and is written as the
number nearest to its epoch seconds. That is read as the microsecond nearest to the number: never
more than 15 microseconds off, and exactly within `2 ^ 33` seconds of the epoch or on a whole
second. Only the last 15 microseconds of the year 9999 are refused. -/
theorem exists_moment_readSeconds {t : DateTime} (h : t.OnCalendar) :
    ∃ u, moment (.datetime t) = .ok u ∧ u.IsUtc ∧ (u.wall : Int) = t.utcWall ∧
      timestampDocument .epochSeconds (.datetime t) = .ok (secondsDocument u.epochSeconds) ∧
      u.epochSeconds.IsNearest u.sinceEpoch microsPerSecond ∧
      (wallLimit ≤ u.wall + 15 →
        readMoment (secondsDocument u.epochSeconds) = .error (.plain .value)) ∧
      (u.wall + 15 < wallLimit →
        ∃ v, readMoment (secondsDocument u.epochSeconds) = .ok v ∧ v.IsUtc ∧
          micros? u.epochSeconds = some v.sinceEpoch ∧ |(v.wall : Int) - u.wall| ≤ 15 ∧
          (|u.sinceEpoch| < 2 ^ 33 * 1000000 ∨ u.OnSecond → v = u)) := by
  obtain ⟨u, hu, hutc, hwall⟩ := exists_toUtc h
  have hnearest : u.epochSeconds.IsNearest u.sinceEpoch microsPerSecond :=
    Double.isNearest_ofRatio (by decide) u.placeOf_epochSeconds
  refine ⟨u, hu, hutc, hwall, timestampDocument_datetime hu .epochSeconds, hnearest,
    readMoment_of_last, fun hlt => ?_⟩
  obtain ⟨v, hv, hvutc, hvwall⟩ := exists_readMoment hlt
  have hsince : u.sinceEpoch = u.wall - epochWall := rfl
  have hvsince : v.sinceEpoch = u.rereadSinceEpoch := by
    rw [sinceEpoch]
    omega
  refine ⟨v, hv, hvutc, ?_, ?_, fun hexact => ?_⟩
  · rw [micros?_epochSeconds, hvsince]
  · have hcalendar := u.rereadSinceEpoch_calendar
    rw [abs_le]
    omega
  · rcases hexact with hnear | hs
    · rw [Int.abs_eq_natAbs] at hnear
      have hreread := u.rereadSinceEpoch_near (by omega)
      exact eq_of_wall hvutc hutc (by omega)
    · exact Except.ok.inj (hv.symm.trans (readMoment_of_onSecond hutc hs))

/-- Noon at midsummer of 2024, and 250 microseconds, on a clock four hours behind. -/
def midsummer : DateTime := ⟨63854568000000250, some (-14400000000), by decide⟩

/-- It is read back to the microsecond. -/
theorem midsummer_readSeconds :
    midsummer.OnCalendar ∧ ∃ u, moment (.datetime midsummer) = .ok u ∧
      u.fields = ⟨⟨2024, 6, 21⟩, 16, 0, 0, 250⟩ ∧
      readMoment (secondsDocument u.epochSeconds) = .ok u := by
  have h : midsummer.OnCalendar := by decide
  obtain ⟨u, hu, -, hwall, -, -, -, hread⟩ := exists_moment_readSeconds h
  have hutc : midsummer.utcWall = (63854582400000250 : Nat) := by decide
  have hvalue : u.wall = 63854582400000250 := Int.ofNat.inj (hwall.trans hutc)
  have hfields : u.fields = ⟨⟨2024, 6, 21⟩, 16, 0, 0, 250⟩ := by
    rw [DateTime.fields, hvalue]
    decide
  obtain ⟨v, hv, -, -, -, hexact⟩ := hread (by rw [hvalue]; decide)
  have hnear : |u.sinceEpoch| < 2 ^ 33 * 1000000 := by
    rw [sinceEpoch, hvalue]
    decide
  rw [hexact (.inl hnear)] at hv
  exact ⟨h, u, hu, hfields, hv⟩

/-- The first microsecond of the year 2500. -/
def farMicrosecond : DateTime := ⟨78860822400000001, some 0, by decide⟩

/-- The last microsecond of the year 9999. -/
def lastMicrosecond : DateTime := ⟨315537897599999999, some 0, by decide⟩

/-- The first is read as the second microsecond of its year, and the last not at all. -/
theorem readSeconds_far :
    (timestampDocument .epochSeconds (.datetime farMicrosecond) >>= readMoment) =
        .ok ⟨78860822400000002, some 0, by decide⟩ ∧
      (timestampDocument .epochSeconds (.datetime lastMicrosecond) >>= readMoment) =
        .error (.plain .value) := by
  constructor
  · decide +kernel
  · decide +kernel

end Scalar

end ServiceWire
