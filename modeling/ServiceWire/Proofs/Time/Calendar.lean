import ServiceWire.Time.DateTime
import Mathlib

/-!
# Days and dates

The date of a day exists and has the number of the day; the reading of a clock has the fields it is
read by. A year is found by taking whole cycles off a day's number, a month by taking whole months
off what is left, so each of the two is a lemma of its own.
-/

namespace ServiceWire

namespace Calendar

/-! ### Years -/

/-- The length of a year. -/
def yearLength (year : Nat) : Nat := if isLeap year then 366 else 365

theorem isLeap_iff {year : Nat} :
    isLeap year = true ↔ year % 4 = 0 ∧ (year % 100 ≠ 0 ∨ year % 400 = 0) := by
  simp [isLeap]

/-- A day is as far into its year as its number says, and within the year. -/
theorem yearAndDay_eq (n : Nat) :
    daysBeforeYear (yearAndDay n).1 + (yearAndDay n).2 = n ∧
      (yearAndDay n).2 < yearLength (yearAndDay n).1 ∧ 1 ≤ (yearAndDay n).1 := by
  simp only [yearAndDay]
  generalize ha : n / 146097 = a
  generalize hr : n % 146097 = r
  generalize hb : min (r / 36524) 3 = b
  generalize hc : (r - b * 36524) / 1461 = c
  generalize hs : (r - b * 36524) % 1461 = s
  generalize hd : min (s / 365) 3 = d
  have hn : n = 146097 * a + r := by omega
  have hr' : r = 36524 * b + (1461 * c + s) := by omega
  have hb3 : b ≤ 3 := by omega
  have hd3 : d ≤ 3 := by omega
  have hc24 : c ≤ 24 := by omega
  have hs' : s < 1461 := by omega
  refine ⟨?_, ?_, by omega⟩
  · have h4 : (a * 400 + b * 100 + c * 4 + d) / 4 = 100 * a + 25 * b + c := by omega
    have h100 : (a * 400 + b * 100 + c * 4 + d) / 100 = 4 * a + b := by omega
    have h400 : (a * 400 + b * 100 + c * 4 + d) / 400 = a := by omega
    simp only [daysBeforeYear, Nat.add_sub_cancel, h4, h100, h400]
    omega
  · by_cases hleap : isLeap (a * 400 + b * 100 + c * 4 + d + 1) = true
    · rw [yearLength, if_pos hleap]
      omega
    · rw [yearLength, if_neg hleap]
      rw [isLeap_iff] at hleap
      omega

theorem yearAndDay_le {n : Nat} (h : n < dayLimit) : (yearAndDay n).1 ≤ 9999 := by
  obtain ⟨h1, -, -⟩ := yearAndDay_eq n
  by_contra hlt
  have hmono : 3652059 ≤ daysBeforeYear (yearAndDay n).1 := by
    simp only [daysBeforeYear]
    omega
  rw [dayLimit] at h
  omega

/-! ### Months -/

/-- A day within some months lies in one of them, as many days into it as are left. -/
theorem monthAndDay_eq {lengths : List Nat} {n : Nat} (month : Nat) (h : n < lengths.sum) :
    ∃ i d, monthAndDay month lengths n = (month + i, d + 1) ∧ (lengths.take i).sum + d = n ∧
      d < lengths[i]?.getD 0 := by
  induction lengths generalizing month n with
  | nil => simp at h
  | cons length rest ih =>
    by_cases hlt : n < length
    · exact ⟨0, n, by simp [monthAndDay, hlt], by simp, by simpa using hlt⟩
    · rw [List.sum_cons] at h
      obtain ⟨i, d, he, hs, hd⟩ := ih (month + 1) (n := n - length) (by omega)
      refine ⟨i + 1, d, ?_, ?_, by simpa using hd⟩
      · rw [monthAndDay, if_neg hlt, he, Nat.add_assoc, Nat.add_comm 1 i]
      · rw [List.take_succ_cons, List.sum_cons]
        omega

theorem sum_monthLengths (year : Nat) : (monthLengths (isLeap year)).sum = yearLength year := by
  cases h : isLeap year with
  | false => rw [yearLength, h]; decide
  | true => rw [yearLength, h]; decide

theorem length_monthLengths (leap : Bool) : (monthLengths leap).length = 12 := rfl

/-- The month and the day of a day of a year. -/
theorem monthAndDay_yearAndDay (n : Nat) :
    ∃ i d,
      monthAndDay 1 (monthLengths (isLeap (yearAndDay n).1)) (yearAndDay n).2 = (1 + i, d + 1) ∧
      ((monthLengths (isLeap (yearAndDay n).1)).take i).sum + d = (yearAndDay n).2 ∧
        d < (monthLengths (isLeap (yearAndDay n).1))[i]?.getD 0 := by
  obtain ⟨-, h, -⟩ := yearAndDay_eq n
  exact monthAndDay_eq 1 (by rwa [sum_monthLengths])

theorem daysBeforeMonth_eq (leap : Bool) (i : Nat) :
    daysBeforeMonth leap (1 + i) = ((monthLengths leap).take i).sum := by
  rw [daysBeforeMonth, Nat.add_sub_cancel_left, List.sum_eq_foldl_nat]

/-! ### Dates -/

theorem dayNumber_ofDayNumber (n : Nat) : (Date.ofDayNumber n).dayNumber = n := by
  obtain ⟨h1, -, -⟩ := yearAndDay_eq n
  obtain ⟨i, d, he, hs, -⟩ := monthAndDay_yearAndDay n
  simp only [Date.ofDayNumber, he, Date.dayNumber, daysBeforeMonth_eq, Nat.add_sub_cancel]
  omega

theorem isValid_ofDayNumber {n : Nat} (h : n < dayLimit) : (Date.ofDayNumber n).isValid = true := by
  obtain ⟨-, -, h1⟩ := yearAndDay_eq n
  have h2 := yearAndDay_le h
  obtain ⟨i, d, he, -, hd⟩ := monthAndDay_yearAndDay n
  have hi : i < 12 := by
    by_contra hge
    rw [List.getElem?_eq_none (by rw [length_monthLengths]; omega)] at hd
    simp at hd
  simp only [Date.ofDayNumber, he, Date.isValid, monthLength, Nat.add_sub_cancel_left,
    Bool.and_eq_true, decide_eq_true_eq]
  refine ⟨⟨⟨⟨⟨h1, h2⟩, by omega⟩, by omega⟩, by omega⟩, by omega⟩

end Calendar

namespace ClockFields

theorem wall_ofWall (w : Nat) : (ofWall w).wall = w := by
  simp only [wall, ofWall, Calendar.dayNumber_ofDayNumber, microsPerDay, microsPerSecond]
  omega

theorem isValid_iff {f : ClockFields} :
    f.isValid = true ↔ f.date.isValid = true ∧ f.hour < 24 ∧ f.minute < 60 ∧ f.second < 60 ∧
      f.micro < 1000000 := by
  simp only [isValid, Bool.and_eq_true, decide_eq_true_eq, and_assoc]

theorem isValid_ofWall {w : Nat} (h : w < wallLimit) : (ofWall w).isValid = true := by
  have hday : w / microsPerDay < Calendar.dayLimit := by
    rw [Nat.div_lt_iff_lt_mul (by decide)]
    exact h
  have hrest : w % microsPerDay < 86400000000 := Nat.mod_lt _ (by decide)
  rw [isValid_iff]
  simp only [ofWall, microsPerSecond]
  refine ⟨Calendar.isValid_ofDayNumber hday, ?_, ?_, ?_, ?_⟩
  · omega
  · omega
  · omega
  · omega

end ClockFields

namespace DateTime

/-- A moment is the one with its own fields. -/
theorem ofFields?_fields (t : DateTime) : ofFields? t.fields t.offset = some t := by
  simp only [ofFields?, fields, ClockFields.isValid_ofWall t.wall_lt, ClockFields.wall_ofWall,
    t.wall_lt, if_true, dite_true]

end DateTime

end ServiceWire
