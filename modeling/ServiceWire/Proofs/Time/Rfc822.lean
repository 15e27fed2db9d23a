import ServiceWire.Codec.Scalar
import ServiceWire.Proofs.Text.Cut
import ServiceWire.Proofs.Number.Digits
import ServiceWire.Proofs.Text.Ascii
import ServiceWire.Proofs.Time.Iso8601

/-!
# RFC 822 dates read back

The text of a moment of the UTC clock on a whole second is read as the moment, from the year 100 on:
a year of two digits would be taken for one of the twentieth or twenty-first century. The text falls
into six words at its spaces. Each of them is read on its own, the digits of fixed width by
`Number.readInt?_fixedDigits`, and the words that are names by the tables of names. The first word
alone, the name of a weekday, is no date.
-/

namespace ServiceWire

open ServiceWire.Text (IsVisibleChar fixedDigits digitChar isBlank)

/-! ### Digits of fixed width -/

namespace Number

theorem ofDigits_append_singleton (cs : List Char) (c : Char) :
    ofDigits (cs ++ [c]) = ofDigits cs * 10 + (c.toNat - '0'.toNat) := by
  rw [ofDigits, List.foldl_append]
  rfl

theorem toNat_digitChar {n : Nat} (h : n < 10) : (digitChar n).toNat - '0'.toNat = n := by
  have all : ∀ m : Fin 10, (digitChar m.val).toNat - '0'.toNat = m.val := by decide
  exact all ⟨n, h⟩

theorem ofDigits_fixedDigits {w n : Nat} (h : n < 10 ^ w) : ofDigits (fixedDigits 10 w n) = n := by
  induction w generalizing n with
  | zero =>
    obtain rfl : n = 0 := by simpa using h
    rfl
  | succ w ih =>
    have hdiv : n / 10 < 10 ^ w := by
      rw [Nat.div_lt_iff_lt_mul (by decide)]
      rwa [Nat.pow_succ] at h
    rw [fixedDigits, ofDigits_append_singleton, ih hdiv, toNat_digitChar (Nat.mod_lt _ (by decide))]
    omega

theorem length_fixedDigits (w n : Nat) : (fixedDigits 10 w n).length = w := by
  induction w generalizing n with
  | zero => rfl
  | succ w ih => rw [fixedDigits, List.length_append, ih, List.length_singleton]

theorem readInt?_fixedDigits {w n : Nat} (h : n < 10 ^ (w + 1)) :
    readInt? (String.ofList (fixedDigits 10 (w + 1) n)) = some (n : Int) := by
  have hdigits : ∀ c ∈ fixedDigits 10 (w + 1) n, isDigit c = true :=
    fun c hc => Text.isDigit_of_mem_fixedDigits hc
  have hall : (fixedDigits 10 (w + 1) n).all isDigit = true := List.all_eq_true.mpr hdigits
  have hcore : core (String.ofList (fixedDigits 10 (w + 1) n)) = fixedDigits 10 (w + 1) n := by
    rw [core_eq_toList, String.toList_ofList]
    rw [String.toList_ofList]
    exact fun c hc => isVisibleChar_of_isDigit (hdigits c hc)
  have hunderscore : '_' ∉ fixedDigits 10 (w + 1) n := by
    intro hmem
    have hdigit := hdigits '_' hmem
    revert hdigit
    decide
  have hsigned : signed (fixedDigits 10 (w + 1) n) = (false, fixedDigits 10 (w + 1) n) := by
    cases hcs : fixedDigits 10 (w + 1) n with
    | nil => rfl
    | cons c rest => exact signed_cons (hdigits c (hcs ▸ List.mem_cons_self ..)) rest
  have hnonempty : (fixedDigits 10 (w + 1) n).isEmpty = false := by
    rw [List.isEmpty_eq_false_iff, ← List.length_pos_iff, length_fixedDigits]
    exact Nat.succ_pos w
  simp only [readInt?, hcore, hsigned, withoutUnderscores_eq_some hunderscore, Option.bind_eq_bind,
    Option.bind_some, hnonempty, hall, Bool.not_true, Bool.or_self, Bool.false_eq_true, if_false,
    ofDigits_fixedDigits h]
  rfl

/-- A text that begins with no digit, sign or point is no number, unless it is the name of one. -/
theorem readDouble?_name {s : String} {c : Char} {cs : List Char} (hcore : core s = c :: cs)
    (hunderscore : '_' ∉ c :: cs) (hdigit : isDigit c = false) (hsign : c ∉ ['-', '+', '.'])
    (hname : (c :: cs).map Char.toLower ∉ ["inf", "infinity", "nan"].map String.toList) :
    readDouble? s = none := by
  have hsigned : signed (c :: cs) = (false, c :: cs) := by
    rw [signed]
    · rintro rest heq
      exact hsign (by simp [(List.cons.inj heq).1])
    · rintro rest heq
      exact hsign (by simp [(List.cons.inj heq).1])
  have hne {name : String} (h : name ∈ ["inf", "infinity", "nan"]) :
      (String.ofList ((c :: cs).map Char.toLower) == name) = false := by
    refine beq_false_of_ne fun heq => hname (List.mem_map.mpr ⟨name, h, ?_⟩)
    rw [← heq, String.toList_ofList]
  have hdecimal : decimal? (c :: cs) = none := by
    have hfraction : fraction (c :: cs) = ([], c :: cs) := by
      rw [fraction]
      rintro rest heq
      exact hsign (by simp [(List.cons.inj heq).1])
    rw [decimal?, List.takeWhile_cons_of_neg (by simp [hdigit]),
      List.dropWhile_cons_of_neg (by simp [hdigit]), hfraction]
    rfl
  rw [readDouble?, hcore, withoutUnderscores_eq_some hunderscore]
  simp only [Option.bind_eq_bind, Option.bind_some, hsigned, hne (by simp : "inf" ∈ _),
    hne (by simp : "infinity" ∈ _), hne (by simp : "nan" ∈ _), Bool.or_self, Bool.false_eq_true,
    if_false, hdecimal, Option.bind_none]

end Number

namespace Rfc822

/-! ### Words -/

theorem wordsFrom_space {word before : List Char} (hword : ∀ c ∈ word, isBlank c = false)
    (hne : before ≠ [] ∨ word ≠ []) (rest : List Char) :
    wordsFrom before (word ++ ' ' :: rest) = (before.reverse ++ word) :: wordsFrom [] rest := by
  have hspace : isBlank ' ' = true := by decide
  induction word generalizing before with
  | nil =>
    have hbefore : before.isEmpty = false := by simpa using hne
    rw [List.nil_append, wordsFrom, hspace, if_pos rfl, hbefore, if_neg Bool.false_ne_true,
      List.append_nil]
  | cons c cs ih =>
    rw [List.cons_append, wordsFrom, hword c (List.mem_cons_self ..), if_neg Bool.false_ne_true,
      ih (fun c hc => hword c (List.mem_cons_of_mem _ hc)) (.inl (List.cons_ne_nil _ _)),
      List.reverse_cons, List.append_assoc, List.singleton_append]

theorem wordsFrom_end {word before : List Char} (hword : ∀ c ∈ word, isBlank c = false)
    (hne : before ≠ [] ∨ word ≠ []) : wordsFrom before word = [before.reverse ++ word] := by
  induction word generalizing before with
  | nil =>
    have hbefore : before.isEmpty = false := by simpa using hne
    rw [wordsFrom, hbefore, if_neg Bool.false_ne_true, List.append_nil]
  | cons c cs ih =>
    rw [wordsFrom, hword c (List.mem_cons_self ..), if_neg Bool.false_ne_true,
      ih (fun c hc => hword c (List.mem_cons_of_mem _ hc)) (.inl (List.cons_ne_nil _ _)),
      List.reverse_cons, List.append_assoc, List.singleton_append]

/-! ### Texts -/

/-- The name of the weekday of a moment. -/
def weekdayChars (t : DateTime) : List Char :=
  ((Calendar.weekdayNames[Calendar.weekday (t.wall / microsPerDay)]?).getD "").toList

/-- The name of a month. -/
def monthChars (month : Nat) : List Char := ((Calendar.monthNames[month - 1]?).getD "").toList

/-- The characters of a time of day, with colons. -/
def clockChars (f : ClockFields) : List Char :=
  fixedDigits 10 2 f.hour ++ ':' :: (fixedDigits 10 2 f.minute ++ ':' :: fixedDigits 10 2 f.second)

/-- The words of a moment after the weekday. -/
def dateChars (f : ClockFields) : List Char :=
  fixedDigits 10 2 f.date.day ++ ' ' :: (monthChars f.date.month ++
    ' ' :: (fixedDigits 10 4 f.date.year ++ ' ' :: (clockChars f ++ ' ' :: ['G', 'M', 'T'])))

/-- The fields of a moment as far as its text has them: each fits its place. -/
structure Fits (f : ClockFields) : Prop where
  year : f.date.year < 10 ^ 4
  month : f.date.month - 1 < 12 ∧ 1 ≤ f.date.month
  day : f.date.day < 10 ^ 2
  hour : f.hour < 10 ^ 2
  minute : f.minute < 10 ^ 2
  second : f.second < 10 ^ 2

theorem fits_fields (t : DateTime) : Fits t.fields := by
  have hf : t.fields.isValid = true := ClockFields.isValid_ofWall t.wall_lt
  obtain ⟨hd, hh, hm, hs, -⟩ := ClockFields.isValid_iff.mp hf
  have hlength := Iso8601.monthLength_le t.fields.date.year t.fields.date.month
  simp only [Calendar.Date.isValid, Bool.and_eq_true, decide_eq_true_eq] at hd
  constructor
  all_goals omega

theorem toList_render (t : DateTime) :
    (render t).toList = weekdayChars t ++ ',' :: ' ' :: dateChars t.fields := by
  obtain ⟨hy, -, hd, hh, hm, hs⟩ := fits_fields t
  have hcomma : ", ".toList = [',', ' '] := rfl
  have hspace : " ".toList = [' '] := rfl
  have hcolon : ":".toList = [':'] := rfl
  have hgmt : " GMT".toList = [' ', 'G', 'M', 'T'] := rfl
  -- Steps that hold by definition get proofs too: to check one, the fields would be computed.
  simp -implicitDefEqProofs only [render, String.toList_append, ClockFields.timeText, toString, hcomma, hspace, hcolon,
    hgmt, Text.toList_padded hy, Text.toList_padded hd, Text.toList_padded hh,
    Text.toList_padded hm, Text.toList_padded hs, weekdayChars, dateChars, monthChars, clockChars,
    List.append_assoc, List.cons_append, List.nil_append]

/-! ### Names -/

/-- The names of weekdays are three letters each, the first of which is no digit of any script. -/
theorem weekdayNames_letters : ∀ word ∈ Calendar.weekdayNames.map String.toList,
    word.length = 3 ∧ word.all Char.isAlpha = true ∧ word.head?.any Text.isDigitLike = false := by
  decide

theorem monthNames_letters : ∀ word ∈ Calendar.monthNames.map String.toList,
    word.length = 3 ∧ word.all Char.isAlpha = true := by
  decide

theorem weekdayChars_mem (t : DateTime) :
    weekdayChars t ∈ Calendar.weekdayNames.map String.toList := by
  have hlt : Calendar.weekday (t.wall / microsPerDay) < Calendar.weekdayNames.length :=
    Nat.mod_lt _ (by decide)
  rw [weekdayChars, List.getElem?_eq_getElem hlt, Option.getD_some]
  exact List.mem_map_of_mem (List.getElem_mem hlt)

theorem monthChars_mem {month : Nat} (h : month - 1 < 12) :
    monthChars month ∈ Calendar.monthNames.map String.toList := by
  have hlt : month - 1 < Calendar.monthNames.length := h
  rw [monthChars, List.getElem?_eq_getElem hlt, Option.getD_some]
  exact List.mem_map_of_mem (List.getElem_mem hlt)

theorem month?_monthChars {month : Nat} (h : month - 1 < 12 ∧ 1 ≤ month) :
    month? (monthChars month) = some month := by
  have all : ∀ i : Fin 12, month? (monthChars (i.val + 1)) = some (i.val + 1) := by decide +kernel
  have hmonth := all ⟨month - 1, h.1⟩
  rwa [Nat.sub_add_cancel h.2] at hmonth

theorem zoneOffset?_gmt : zoneOffset? ['G', 'M', 'T'] = some 0 := by
  cbv

theorem bounds_of_isAlpha {c : Char} (h : c.isAlpha = true) : 0x41 ≤ c.toNat ∧ c.toNat ≤ 0x7A := by
  simp only [Char.isAlpha, Char.isUpper, Char.isLower, Bool.or_eq_true, Bool.and_eq_true,
    decide_eq_true_eq, UInt32.le_iff_toNat_le] at h
  have hc : c.val.toNat = c.toNat := rfl
  rw [hc] at h
  rcases h with ⟨h1, h2⟩ | ⟨h1, h2⟩
  · exact ⟨h1, Nat.le_trans h2 (by decide)⟩
  · exact ⟨Nat.le_trans (by decide) h1, h2⟩

theorem isVisibleChar_of_isAlpha {c : Char} (h : c.isAlpha = true) : IsVisibleChar c := by
  obtain ⟨h1, h2⟩ := bounds_of_isAlpha h
  exact ⟨Nat.le_trans (by decide) h1, Nat.le_trans h2 (by decide)⟩

/-! ### Characters -/

/-- The characters that stand in the text of a moment: letters, digits and separators. -/
def isDateChar (c : Char) : Bool := c.isAlpha || Number.isDigit c || [',', ' ', ':'].contains c

theorem all_word {word : List Char} (h : word.all Char.isAlpha = true) :
    word.all isDateChar = true := by
  rw [List.all_eq_true] at h ⊢
  intro c hc
  rw [isDateChar, h c hc, Bool.true_or, Bool.true_or]

theorem all_fixedDigits (w n : Nat) : (fixedDigits 10 w n).all isDateChar = true := by
  rw [List.all_eq_true]
  intro c hc
  rw [isDateChar, Text.isDigit_of_mem_fixedDigits hc, Bool.or_true, Bool.true_or]

theorem all_toList_render (t : DateTime) : (render t).toList.all isDateChar = true := by
  have hcomma : isDateChar ',' = true := by decide
  have hspace : isDateChar ' ' = true := by decide
  have hcolon : isDateChar ':' = true := by decide
  have hgmt : ['G', 'M', 'T'].all isDateChar = true := by decide
  have hweekday := (weekdayNames_letters _ (weekdayChars_mem t)).2.1
  have hmonth := (monthNames_letters _ (monthChars_mem (fits_fields t).month.1)).2
  rw [toList_render]
  simp -implicitDefEqProofs only [dateChars, clockChars, List.all_append, List.all_cons, all_word hweekday,
    all_word hmonth, all_fixedDigits, hcomma, hspace, hcolon, hgmt, Bool.and_self]

theorem visible_or_blank {c : Char} (h : isDateChar c = true) : IsVisibleChar c ∨ c = ' ' := by
  simp only [isDateChar, Bool.or_eq_true, List.contains_iff_mem, List.mem_cons, List.not_mem_nil,
    or_false] at h
  rcases h with (h | h) | rfl | rfl | rfl
  · exact .inl (isVisibleChar_of_isAlpha h)
  · exact .inl (Number.isVisibleChar_of_isDigit h)
  · exact .inl (by decide)
  · exact .inr rfl
  · exact .inl (by decide)

/-- The text of a moment begins with a letter and ends with one. -/
theorem exists_ends (t : DateTime) : ∃ first middle,
    (render t).toList = first :: (middle ++ ['T']) ∧ first.isAlpha = true ∧
      Text.isDigitLike first = false := by
  obtain ⟨hlength, hletters, hdigit⟩ := weekdayNames_letters _ (weekdayChars_mem t)
  have hgmt : ['G', 'M', 'T'] = ['G', 'M'] ++ ['T'] := rfl
  rw [toList_render, dateChars, hgmt]
  cases hword : weekdayChars t with
  | nil =>
    rw [hword] at hlength
    cases hlength
  | cons first rest =>
    rw [hword] at hletters hdigit
    refine ⟨first, rest ++ ',' :: ' ' :: (fixedDigits 10 2 t.fields.date.day ++ ' ' ::
      (monthChars t.fields.date.month ++ ' ' :: (fixedDigits 10 4 t.fields.date.year ++ ' ' ::
        (clockChars t.fields ++ [' ', 'G', 'M'])))), ?_, ?_, hdigit⟩
    · simp -implicitDefEqProofs only [List.append_assoc, List.cons_append, List.nil_append]
    · exact List.all_eq_true.mp hletters first (List.mem_cons_self ..)

theorem trimBy_of_ends {p : Char → Bool} {first last : Char} {middle : List Char}
    (hfirst : p first = false) (hlast : p last = false) :
    Text.trimBy p (first :: (middle ++ [last])) = first :: (middle ++ [last]) := by
  rw [Text.trimBy, List.dropWhile_cons_of_neg (by simp [hfirst]), ← List.cons_append,
    List.reverse_append, List.reverse_singleton, List.singleton_append,
    List.dropWhile_cons_of_neg (by simp [hlast]), List.reverse_cons, List.reverse_reverse]

theorem strip_render (t : DateTime) : Text.strip (render t) = render t := by
  obtain ⟨first, middle, htext, hfirst, -⟩ := exists_ends t
  rw [Text.strip, htext, trimBy_of_ends (isVisibleChar_of_isAlpha hfirst).not_blank (by decide),
    ← htext, String.ofList_toList]

theorem core_render (t : DateTime) : Number.core (render t) = (render t).toList := by
  obtain ⟨first, middle, htext, hfirst, -⟩ := exists_ends t
  have hascii : Number.toAscii (render t).toList = (render t).toList := by
    rw [Number.toAscii, if_pos]
    rw [List.all_eq_true]
    intro c hc
    rcases visible_or_blank (List.all_eq_true.mp (all_toList_render t) c hc) with h | rfl
    · exact decide_eq_true (Nat.lt_of_le_of_lt h.2 (by decide))
    · decide
  rw [Number.core, hascii, htext]
  exact trimBy_of_ends (Number.isAsciiBlank_of_visible (isVisibleChar_of_isAlpha hfirst)) (by decide)

/-- The text of a moment is no number: it begins with a letter and has a comma. -/
theorem readDouble?_render (t : DateTime) : Number.readDouble? (render t) = none := by
  obtain ⟨first, middle, htext, hfirst, -⟩ := exists_ends t
  have hall := List.all_eq_true.mp (all_toList_render t)
  have hne {c : Char} (hc : c.isAlpha = false) : first ≠ c := by
    rintro rfl
    rw [hfirst] at hc
    cases hc
  refine Number.readDouble?_name ((core_render t).trans htext) ?_ ?_ ?_ ?_
  · rw [← htext]
    intro hmem
    have hchar := hall '_' hmem
    revert hchar
    decide
  · refine Bool.eq_false_iff.mpr fun hdigit => ?_
    have h1 := (Number.isDigit_iff.mp hdigit).2
    have h2 := (bounds_of_isAlpha hfirst).1
    omega
  · simp only [List.mem_cons, List.not_mem_nil, or_false, not_or]
    exact ⟨hne (by decide), hne (by decide), hne (by decide)⟩
  · rw [← htext]
    have hcomma : ',' ∈ (render t).toList.map Char.toLower := by
      refine List.mem_map.mpr ⟨',', ?_, by decide⟩
      rw [toList_render]
      exact List.mem_append_right _ (List.mem_cons_self ..)
    have hnames : ∀ name ∈ ["inf", "infinity", "nan"].map String.toList, ',' ∉ name := by decide
    exact fun hmem => hnames _ hmem hcomma

/-! ### Reading -/

theorem not_blank_fixedDigits {w n : Nat} : ∀ c ∈ fixedDigits 10 w n, isBlank c = false :=
  fun _ hc => (Number.isVisibleChar_of_isDigit (Text.isDigit_of_mem_fixedDigits hc)).not_blank

theorem fixedDigits_ne_nil (w n : Nat) : fixedDigits 10 (w + 1) n ≠ [] := by
  rw [← List.length_pos_iff, Number.length_fixedDigits]
  exact Nat.succ_pos w

theorem not_blank_of_letters {word : List Char} (h : word.all Char.isAlpha = true) :
    ∀ c ∈ word, isBlank c = false :=
  fun c hc => (isVisibleChar_of_isAlpha (List.all_eq_true.mp h c hc)).not_blank

/-- The words of the text of a moment. -/
theorem words_render (t : DateTime) : wordsFrom [] (render t).toList =
    [weekdayChars t ++ [','], fixedDigits 10 2 t.fields.date.day, monthChars t.fields.date.month,
      fixedDigits 10 4 t.fields.date.year, clockChars t.fields, ['G', 'M', 'T']] := by
  obtain ⟨-, hweekday, -⟩ := weekdayNames_letters _ (weekdayChars_mem t)
  obtain ⟨hlength, hmonth⟩ := monthNames_letters _ (monthChars_mem (fits_fields t).month.1)
  have hmonthNe : monthChars t.fields.date.month ≠ [] := by
    rw [← List.length_pos_iff, hlength]
    decide
  have hcomma : ∀ c ∈ weekdayChars t ++ [','], isBlank c = false := by
    intro c hc
    rcases List.mem_append.mp hc with hc | hc
    · exact not_blank_of_letters hweekday c hc
    · rw [List.mem_singleton.mp hc]
      decide
  have hclock : ∀ c ∈ clockChars t.fields, isBlank c = false := by
    intro c hc
    simp only [clockChars, List.mem_append, List.mem_cons] at hc
    rcases hc with hc | rfl | hc | rfl | hc
    · exact not_blank_fixedDigits c hc
    · decide
    · exact not_blank_fixedDigits c hc
    · decide
    · exact not_blank_fixedDigits c hc
  have hclockNe : clockChars t.fields ≠ [] := by
    rw [clockChars]
    simp
  have htext : (render t).toList = (weekdayChars t ++ [',']) ++ ' ' :: dateChars t.fields := by
    rw [toList_render, List.append_assoc, List.singleton_append]
  rw [htext, wordsFrom_space hcomma (.inr (by simp)), dateChars,
    wordsFrom_space not_blank_fixedDigits (.inr (fixedDigits_ne_nil _ _)),
    wordsFrom_space (not_blank_of_letters hmonth) (.inr hmonthNe),
    wordsFrom_space not_blank_fixedDigits (.inr (fixedDigits_ne_nil _ _)),
    wordsFrom_space hclock (.inr hclockNe),
    wordsFrom_end (not_blank_of_letters (by decide)) (.inr (by decide))]
  simp -implicitDefEqProofs only [List.reverse_nil, List.nil_append]

/-- What is written without a comma is kept when a comma is dropped. -/
theorem withoutComma_eq_self {word : List Char} (h : ',' ∉ word) : withoutComma word = word := by
  rw [withoutComma, if_neg]
  intro hlast
  exact h (List.mem_of_getLast? (beq_iff_eq.mp hlast))

theorem notMem_fixedDigits {w n : Nat} {c : Char} (hc : Number.isDigit c = false) :
    c ∉ fixedDigits 10 w n := by
  intro hmem
  rw [Text.isDigit_of_mem_fixedDigits hmem] at hc
  cases hc

theorem clock?_clockChars {f : ClockFields} (hf : Fits f) :
    clock? (clockChars f) = some ((f.hour : Int), (f.minute : Int), (f.second : Int)) := by
  have hcolon {n : Nat} : ':' ∉ fixedDigits 10 2 n := notMem_fixedDigits (by decide)
  rw [clock?, clockChars, Text.pieces_append hcolon, Text.pieces_append hcolon,
    Text.pieces_of_not_mem hcolon]
  simp only [Number.readInt?_fixedDigits hf.hour, Number.readInt?_fixedDigits hf.minute,
    Number.readInt?_fixedDigits hf.second]
  rfl

/-- What the text of a moment is read as: its fields, on a clock of UTC. -/
def readingOf (f : ClockFields) : Reading :=
  ⟨f.date.year, f.date.month, f.date.day, f.hour, f.minute, f.second, some 0⟩

theorem withoutWeekday_render (t : DateTime) :
    withoutWeekday (wordsFrom [] (render t).toList) =
      [fixedDigits 10 2 t.fields.date.day, monthChars t.fields.date.month,
        fixedDigits 10 4 t.fields.date.year, clockChars t.fields, ['G', 'M', 'T']] := by
  rw [words_render, withoutWeekday, List.getLast?_concat, beq_self_eq_true, Bool.true_or, if_pos rfl]

theorem reading?_render {t : DateTime} (hyear : 100 ≤ t.fields.date.year) :
    reading? (render t) = some (readingOf t.fields) := by
  have hf := fits_fields t
  have hcomma {w n : Nat} : ',' ∉ fixedDigits 10 w n := notMem_fixedDigits (by decide)
  have hclock : withoutComma (clockChars t.fields) = clockChars t.fields := by
    refine withoutComma_eq_self ?_
    simp only [clockChars, List.mem_append, List.mem_cons, not_or]
    exact ⟨hcomma, by decide, hcomma, by decide, hcomma⟩
  have hmonthNe : monthChars t.fields.date.month ≠ [] := by
    rw [← List.length_pos_iff, (monthNames_letters _ (monthChars_mem hf.month.1)).1]
    decide
  have hhead : (fixedDigits 10 4 t.fields.date.year).head? =
      some (Text.digitChar (t.fields.date.year / 10 / 10 / 10 % 10)) := rfl
  have hdigit : Text.isDigitLike (Text.digitChar (t.fields.date.year / 10 / 10 / 10 % 10)) = true := by
    have all : ∀ m : Fin 10, Text.isDigitLike (Text.digitChar m.val) = true := by decide
    exact all ⟨_, Nat.mod_lt _ (by decide)⟩
  have hfull : fullYear (t.fields.date.year : Int) = t.fields.date.year := by
    rw [fullYear, if_neg (by omega)]
  have hcut : Text.cut? ':' (fixedDigits 10 4 t.fields.date.year) = none :=
    Text.cut?_of_not_mem (notMem_fixedDigits (by decide))
  have hparts : parts? (withoutWeekday (wordsFrom [] (render t).toList)) =
      some (fixedDigits 10 2 t.fields.date.day, monthChars t.fields.date.month,
        fixedDigits 10 4 t.fields.date.year, clockChars t.fields, ['G', 'M', 'T']) := by
    rw [withoutWeekday_render]
    rfl
  have hnone : ((fixedDigits 10 2 t.fields.date.day).isEmpty ||
      (monthChars t.fields.date.month).isEmpty ||
        (fixedDigits 10 4 t.fields.date.year).isEmpty) = false := by
    simp only [Bool.or_eq_false_iff, List.isEmpty_eq_false_iff]
    exact ⟨⟨fixedDigits_ne_nil 1 _, hmonthNe⟩, fixedDigits_ne_nil 3 _⟩
  rw [reading?, hparts]
  simp -implicitDefEqProofs only [Option.bind_eq_bind, Option.bind_some, hnone, Bool.false_eq_true, if_false,
    month?_monthChars hf.month, withoutComma_eq_self hcomma, hcut, hhead, hdigit, if_true, hclock,
    clock?_clockChars hf, Number.readInt?_fixedDigits hf.year, Number.readInt?_fixedDigits hf.day,
    zoneOffset?_gmt, hfull]
  rfl

/-- The fields of a moment on a whole second are a date that is one. -/
theorem toDateTime_readingOf {f : ClockFields} (hf : Fits f) (hmicro : f.micro = 0) {t : DateTime}
    (ht : DateTime.ofFields? f (some 0) = some t) : (readingOf f).toDateTime = .ok t := by
  have hfits {n : Nat} (h : n < 10 ^ 4) : fitsField (n : Int) = true := by
    rw [fitsField, fitsWord]
    simp
    omega
  have hsmall {n : Nat} (h : n < 10 ^ 2) : n < 10 ^ 4 := Nat.lt_trans h (by decide)
  have hall : [(f.date.year : Int), f.date.day, f.hour, f.minute, f.second].all fitsField =
      true := by
    simp only [List.all_cons, List.all_nil, hfits hf.year, hfits (hsmall hf.day),
      hfits (hsmall hf.hour), hfits (hsmall hf.minute), hfits (hsmall hf.second), Bool.and_self]
  have hany : [(f.date.year : Int), f.date.day, f.hour, f.minute, f.second].any (· < 0) =
      false := by
    simp only [List.any_cons, List.any_nil, Bool.or_false, Bool.or_eq_false_iff,
      decide_eq_false_iff_not, not_lt]
    omega
  have hfields : f = ⟨⟨f.date.year, f.date.month, f.date.day⟩, f.hour, f.minute, f.second, 0⟩ := by
    rw [← hmicro]
  rw [hfields] at ht
  simp only [Reading.toDateTime, readingOf]
  rw [if_neg (by decide), if_neg (by decide), Int.zero_mul]
  simp only [Reading.toDateTime.build, hall, hany, Bool.not_true, Bool.false_eq_true, if_false,
    Int.toNat_natCast, ht]

theorem parse_render {t : DateTime} (hu : t.IsUtc) (hs : t.OnSecond)
    (hyear : 100 ≤ t.fields.date.year) : parse (render t) = .ok t := by
  have hmicro : t.fields.micro = 0 := by
    have hrest : t.fields.micro = t.wall % microsPerDay % microsPerSecond := rfl
    rw [hrest, Nat.mod_mod_of_dvd _ (by decide)]
    exact hs
  have hmoment := DateTime.ofFields?_fields t
  rw [hu] at hmoment
  rw [parse, reading?_render hyear]
  exact toDateTime_readingOf (fits_fields t) hmicro hmoment

end Rfc822

/-- A moment of the UTC clock on a whole second is read back from its text, from the year 100 on. -/
theorem Scalar.momentOfText_rfc822 {t : DateTime} (hu : t.IsUtc) (hs : t.OnSecond)
    (hyear : 100 ≤ t.fields.date.year) : Scalar.momentOfText (Rfc822.render t) = .ok t := by
  obtain ⟨first, middle, htext, -, hdigit⟩ := Rfc822.exists_ends t
  have hepoch : Scalar.epochMoment? (Rfc822.render t) = .ok none := by
    rw [Scalar.epochMoment?, Rfc822.readDouble?_render]
  have hhead : (Rfc822.render t).toList.head?.any Text.isDigitLike = false := by
    rw [htext]
    exact hdigit
  have hwritten : Scalar.writtenMoment (Rfc822.render t) (Rfc822.render t) = .ok t := by
    rw [Scalar.writtenMoment, hhead, if_neg Bool.false_ne_true, Rfc822.parse_render hu hs hyear]
    simp only [bind, Except.bind, DateTime.toUtc_of_isUtc hu]
  simp only [Scalar.momentOfText, Rfc822.strip_render, hepoch, bind, Except.bind, hwritten]

/-! ### Weekdays alone -/

namespace Rfc822

/-- The text of a moment begins with the name of a weekday and a comma. -/
theorem exists_weekday_append (t : DateTime) : ∃ day ∈ Calendar.weekdayNames, ∃ rest,
    (render t).toList = day.toList ++ ',' :: rest := by
  obtain ⟨day, hday, hchars⟩ := List.mem_map.mp (weekdayChars_mem t)
  refine ⟨day, hday, ' ' :: dateChars t.fields, ?_⟩
  rw [hchars]
  exact toList_render t

theorem isAlpha_of_mem_weekday {day : String} (h : day ∈ Calendar.weekdayNames) {c : Char}
    (hc : c ∈ day.toList) : c.isAlpha = true :=
  List.all_eq_true.mp (weekdayNames_letters _ (List.mem_map_of_mem h)).2.1 c hc

theorem strip_weekday {day : String} (h : day ∈ Calendar.weekdayNames) : Text.strip day = day :=
  Text.strip_eq_self fun _ hc => isVisibleChar_of_isAlpha (isAlpha_of_mem_weekday h hc)

theorem withoutWeekday_weekday : ∀ word ∈ Calendar.weekdayNames.map String.toList,
    withoutWeekday [word] = [] := by
  decide

/-- The name of a weekday alone is no date. -/
theorem parse_weekday {day : String} (h : day ∈ Calendar.weekdayNames) :
    parse day = .error (.plain .value) := by
  have hmem : day.toList ∈ Calendar.weekdayNames.map String.toList := List.mem_map_of_mem h
  have hwords : wordsFrom [] day.toList = [day.toList] := by
    refine wordsFrom_end (fun c hc => ?_) (.inr fun hnil => ?_)
    · exact (isVisibleChar_of_isAlpha (isAlpha_of_mem_weekday h hc)).not_blank
    · have hlength := (weekdayNames_letters _ hmem).1
      rw [hnil] at hlength
      cases hlength
  rw [parse, reading?, hwords, withoutWeekday_weekday _ hmem]
  rfl

theorem readDouble?_weekday : ∀ day ∈ Calendar.weekdayNames, Number.readDouble? day = none := by
  decide +kernel

end Rfc822

/-- The name of a weekday alone is no moment. -/
theorem Scalar.momentOfText_weekday {day : String} (h : day ∈ Calendar.weekdayNames) :
    Scalar.momentOfText day = .error (.unrecognizedTimestamp (Quoted.text day)) := by
  obtain ⟨-, -, hdigit⟩ := Rfc822.weekdayNames_letters _ (List.mem_map_of_mem h)
  have hepoch : Scalar.epochMoment? day = .ok none := by
    rw [Scalar.epochMoment?, Rfc822.readDouble?_weekday day h]
  have hwritten : Scalar.writtenMoment day day =
      .error (.unrecognizedTimestamp (Quoted.text day)) := by
    rw [Scalar.writtenMoment, hdigit, if_neg Bool.false_ne_true, Rfc822.parse_weekday h]
    rfl
  simp only [Scalar.momentOfText, Rfc822.strip_weekday h, hepoch, bind, Except.bind, hwritten]

end ServiceWire
