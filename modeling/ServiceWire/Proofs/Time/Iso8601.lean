import ServiceWire.Proofs.Number.Digits
import ServiceWire.Proofs.Text.Ascii
import ServiceWire.Proofs.Time.Calendar
import ServiceWire.Proofs.Time.Clock
import ServiceWire.Codec.Scalar

/-!
# ISO 8601 texts read back

The text of a moment is its date, its time and, if there is one, its fraction, all of them digits
of fixed width; with the offset of UTC behind it, it is read as the moment. Reading goes from left
to right, so each part is read by a lemma of its own with whatever follows left over.
-/

namespace ServiceWire.Iso8601

open ServiceWire.Text (asciiByte fixedDigits digitChar IsVisibleChar)

/-! ### Digits -/

/-- The bytes of the digits of a number. -/
def digitBytes (w n : Nat) : Bytes := (fixedDigits 10 w n).map asciiByte

theorem digit?_digitChar {n : Nat} (h : n < 10) : digit? (asciiByte (digitChar n)) = some n := by
  have all : ∀ m : Fin 10, digit? (asciiByte (digitChar m.val)) = some m.val := by decide
  exact all ⟨n, h⟩

theorem digits?_add (a b n : Nat) (bs : Bytes) :
    digits? (a + b) n bs = (digits? a n bs).bind fun p => digits? b p.1 p.2 := by
  induction a generalizing n bs with
  | zero => rw [Nat.zero_add, digits?, Option.bind_some]
  | succ a ih =>
    rw [Nat.succ_add]
    cases bs with
    | nil => rfl
    | cons c bs =>
      simp only [digits?]
      cases digit? c with
      | none => rfl
      | some d => exact ih _ bs

theorem digitBytes_succ (w n : Nat) :
    digitBytes (w + 1) n = digitBytes w (n / 10) ++ [asciiByte (digitChar (n % 10))] := by
  rw [digitBytes, fixedDigits, List.map_append]
  rfl

theorem digits?_digitBytes {w n : Nat} (h : n < 10 ^ w) (before : Nat) (rest : Bytes) :
    digits? w before (digitBytes w n ++ rest) = some (before * 10 ^ w + n, rest) := by
  induction w generalizing n rest with
  | zero =>
    obtain rfl : n = 0 := by omega
    simp [digitBytes, fixedDigits, digits?]
  | succ w ih =>
    have hdiv : n / 10 < 10 ^ w := by
      rw [Nat.div_lt_iff_lt_mul (by decide)]
      rwa [Nat.pow_succ] at h
    have hlast : digits? 1 (before * 10 ^ w + n / 10) (asciiByte (digitChar (n % 10)) :: rest) =
        some ((before * 10 ^ w + n / 10) * 10 + n % 10, rest) := by
      simp only [digits?, digit?_digitChar (Nat.mod_lt n (by decide)), Option.bind_eq_bind,
        Option.bind_some]
    rw [digitBytes_succ, List.append_assoc, digits?_add, ih hdiv, Option.bind_some,
      List.singleton_append, hlast, Nat.pow_succ]
    congr 2
    rw [← Nat.mul_assoc]
    omega

/-! ### Dates -/

/-- The bytes of a date. -/
def dateBytes (d : Calendar.Date) : Bytes :=
  digitBytes 4 d.year ++ 0x2D :: (digitBytes 2 d.month ++ 0x2D :: digitBytes 2 d.day)

theorem digitChar_ne_week {n : Nat} (h : n < 10) : asciiByte (digitChar n) ≠ 0x57 := by
  have all : ∀ m : Fin 10, asciiByte (digitChar m.val) ≠ 0x57 := by decide
  exact all ⟨n, h⟩

theorem byteAt_cons_zero (b : UInt8) (bs : Bytes) : byteAt (b :: bs) 0 = b := rfl

theorem hyphen?_cons (bs : Bytes) : hyphen? true (0x2D :: bs) = some bs := rfl

theorem monthLength_le (year month : Nat) : Calendar.monthLength year month ≤ 31 := by
  have hall : ∀ leap, ∀ length ∈ Calendar.monthLengths leap, length ≤ 31 := by decide
  rw [Calendar.monthLength]
  cases h : (Calendar.monthLengths (Calendar.isLeap year))[month - 1]? with
  | none => exact Nat.zero_le _
  | some length => exact hall _ length (List.mem_of_getElem? h)

theorem date?_dateBytes {d : Calendar.Date} (h : d.isValid = true) (rest : Bytes) :
    date? 10 (dateBytes d ++ rest) = some d := by
  simp only [Calendar.Date.isValid, Bool.and_eq_true, decide_eq_true_eq] at h
  obtain ⟨⟨⟨⟨⟨-, hy⟩, -⟩, hm⟩, -⟩, hd⟩ := h
  have hday : d.day < 10 ^ 2 := by
    have := monthLength_le d.year d.month
    omega
  have hyear := digits?_digitBytes (w := 4) (n := d.year) (by omega) 0
    (0x2D :: (digitBytes 2 d.month ++ 0x2D :: (digitBytes 2 d.day ++ rest)))
  have hmonth := digits?_digitBytes (w := 2) (n := d.month) (by omega) 0
    (0x2D :: (digitBytes 2 d.day ++ rest))
  have hdays := digits?_digitBytes (w := 2) hday 0 rest
  have hweek : (byteAt (digitBytes 2 d.month ++ 0x2D :: (digitBytes 2 d.day ++ rest)) 0 = 0x57) =
      False := eq_false (digitChar_ne_week (Nat.mod_lt _ (by decide)))
  rw [dateBytes, List.append_assoc, List.cons_append, List.append_assoc, List.cons_append]
  simp only [date?, hyear, Option.bind_eq_bind, Option.bind_some, byteAt_cons_zero, decide_true,
    if_true, List.drop_succ_cons, List.drop_zero, hweek, if_false, hmonth, hyphen?_cons, hdays,
    Nat.zero_mul, Nat.zero_add]
  rfl

/-! ### Times -/

/-- The bytes of a time to the second. -/
def timeBytes (f : ClockFields) : Bytes :=
  digitBytes 2 f.hour ++ 0x3A :: (digitBytes 2 f.minute ++ 0x3A :: digitBytes 2 f.second)

/-- The bytes of a fraction of a second: none, three digits or six. -/
def partBytes (micro : Nat) : Bytes :=
  if micro = 0 then []
  else if micro % 1000 = 0 then 0x2E :: digitBytes 3 (micro / 1000)
  else 0x2E :: digitBytes 6 micro

theorem timeFrom?_end {n : Nat} (h : n < 100) (left : Nat) (colons : Option Bool) (t : TimeFields) :
    timeFrom? (left + 1) colons t (digitBytes 2 n) = some (t.set (2 - left) n) := by
  have hn := digits?_digitBytes (w := 2) h 0 []
  rw [List.append_nil] at hn
  simp only [timeFrom?, hn, Option.bind_eq_bind, Option.bind_some, Nat.zero_mul, Nat.zero_add]
  rfl

theorem digitBytes_ne_nil (w n : Nat) : digitBytes (w + 1) n ≠ [] := by
  rw [digitBytes_succ]
  exact List.append_ne_nil_of_right_ne_nil _ (List.cons_ne_nil _ _)

theorem timeFrom?_colon {n : Nat} (h : n < 100) (left : Nat) {colons : Option Bool}
    (hc : colons.getD true = true) (t : TimeFields) {rest : Bytes} (hne : rest ≠ []) :
    timeFrom? (left + 1) colons t (digitBytes 2 n ++ 0x3A :: rest) =
      timeFrom? left (some true) (t.set (2 - left) n) rest := by
  obtain ⟨b, rest, rfl⟩ := List.exists_cons_of_ne_nil hne
  have hn := digits?_digitBytes (w := 2) h 0 (0x3A :: b :: rest)
  simp only [timeFrom?, hn, Option.bind_eq_bind, Option.bind_some, Nat.zero_mul, Nat.zero_add,
    beq_self_eq_true, hc, Bool.and_self, if_true]

theorem timeFrom?_point {n : Nat} (h : n < 100) (left : Nat) (colons : Option Bool)
    (t : TimeFields) {rest : Bytes} (hne : rest ≠ []) :
    timeFrom? (left + 1) colons t (digitBytes 2 n ++ 0x2E :: rest) =
      fraction? (t.set (2 - left) n) rest := by
  obtain ⟨b, rest, rfl⟩ := List.exists_cons_of_ne_nil hne
  have hn := digits?_digitBytes (w := 2) h 0 (0x2E :: b :: rest)
  have hcolon : ((0x2E : UInt8) == 0x3A) = false := by decide
  have hpoint : ((0x2E : UInt8) == 0x2E) = true := by decide
  simp only [timeFrom?, hn, Option.bind_eq_bind, Option.bind_some, Nat.zero_mul, Nat.zero_add,
    hcolon, hpoint, Bool.and_false, Bool.false_eq_true, if_false, Bool.true_or, if_true]

theorem length_digitBytes (w n : Nat) : (digitBytes w n).length = w := by
  rw [digitBytes, List.length_map, Text.length_fixedDigits]

theorem fraction?_digitBytes {w n : Nat} (hw : w ≤ 6) (h : n < 10 ^ w) (t : TimeFields) :
    fraction? t (digitBytes w n) = some { t with micro := n * 10 ^ (6 - w), complete := true } := by
  have hn := digits?_digitBytes h 0 []
  rw [List.append_nil, Nat.zero_mul, Nat.zero_add] at hn
  rw [fraction?, length_digitBytes, Nat.min_eq_left hw, hn]
  rfl

/-- The seconds and their fraction, with what was read before them. -/
theorem timeFrom?_partBytes {second micro : Nat} (hs : second < 60) (hm : micro < 1000000)
    (colons : Option Bool) (t : TimeFields) (ht : t.micro = 0) (hc : t.complete = true) :
    timeFrom? 1 colons t (digitBytes 2 second ++ partBytes micro) =
      some { t with second := second, micro := micro } := by
  obtain ⟨hour, minute, _, m, c⟩ := t
  obtain rfl : m = 0 := ht
  obtain rfl : c = true := hc
  have hs' : second < 100 := by omega
  rw [partBytes]
  split
  · rename_i h0
    rw [List.append_nil, timeFrom?_end hs', h0]
    rfl
  · split
    · rename_i h3
      have hmicro : micro / 1000 * 10 ^ (6 - 3) = micro := by omega
      rw [timeFrom?_point hs' _ _ _ (digitBytes_ne_nil _ _),
        fraction?_digitBytes (by decide) (by omega), hmicro]
      rfl
    · rw [timeFrom?_point hs' _ _ _ (digitBytes_ne_nil _ _),
        fraction?_digitBytes (by decide) hm, Nat.sub_self, Nat.pow_zero, Nat.mul_one]
      rfl

theorem timeFrom?_timeBytes {f : ClockFields} (h : f.isValid = true) :
    timeFrom? 3 none {} (timeBytes f ++ partBytes f.micro) =
      some ⟨f.hour, f.minute, f.second, f.micro, true⟩ := by
  obtain ⟨-, hh, hm, hs, hmicro⟩ := ClockFields.isValid_iff.mp h
  have hne : ∀ n rest, digitBytes 2 n ++ rest ≠ [] := fun n rest =>
    List.append_ne_nil_of_left_ne_nil (digitBytes_ne_nil 1 n) rest
  rw [timeBytes, List.append_assoc, List.cons_append, List.append_assoc, List.cons_append,
    timeFrom?_colon (by omega) _ rfl _ (hne _ _), timeFrom?_colon (by omega) _ rfl _ (hne _ _),
    timeFrom?_partBytes hs hmicro _ _ rfl rfl]
  rfl

theorem beginsOffset_digitBytes {w n : Nat} {b : UInt8} (h : b ∈ digitBytes w n) :
    beginsOffset b = false := by
  have all : ∀ m : Fin 10, beginsOffset (asciiByte (digitChar m.val)) = false := by decide
  induction w generalizing n with
  | zero => cases h
  | succ w ih =>
    rw [digitBytes_succ] at h
    rcases List.mem_append.mp h with h | h
    · exact ih h
    · rw [List.mem_singleton.mp h]
      exact all ⟨n % 10, Nat.mod_lt _ (by decide)⟩

theorem beginsOffset_time {f : ClockFields} {b : UInt8} (h : b ∈ timeBytes f ++ partBytes f.micro) :
    beginsOffset b = false := by
  rcases List.mem_append.mp h with h | h
  · rcases List.mem_append.mp h with h | h
    · exact beginsOffset_digitBytes h
    · rcases List.mem_cons.mp h with rfl | h
      · decide
      · rcases List.mem_append.mp h with h | h
        · exact beginsOffset_digitBytes h
        · rcases List.mem_cons.mp h with rfl | h
          · decide
          · exact beginsOffset_digitBytes h
  · rw [partBytes] at h
    split at h
    · cases h
    · split at h
      · rcases List.mem_cons.mp h with rfl | h
        · decide
        · exact beginsOffset_digitBytes h
      · rcases List.mem_cons.mp h with rfl | h
        · decide
        · exact beginsOffset_digitBytes h

/-- The bytes of the offset of UTC. -/
def utcBytes : Bytes := [0x2B, 0x30, 0x30, 0x3A, 0x30, 0x30]

theorem time?_timeBytes {f : ClockFields} (h : f.isValid = true) :
    time? (timeBytes f ++ partBytes f.micro ++ utcBytes) =
      some (⟨f.hour, f.minute, f.second, f.micro, true⟩, some 0) := by
  have hnone : ∀ b ∈ timeBytes f ++ partBytes f.micro, (!beginsOffset b) = true := fun b hb => by
    rw [beginsOffset_time hb, Bool.not_false]
  have htake : ((timeBytes f ++ partBytes f.micro ++ utcBytes).takeWhile fun b => !beginsOffset b) =
      timeBytes f ++ partBytes f.micro := by
    rw [List.takeWhile_append_of_pos hnone]
    exact List.append_nil _
  have hdrop : ((timeBytes f ++ partBytes f.micro ++ utcBytes).dropWhile fun b => !beginsOffset b) =
      utcBytes := List.dropWhile_append_of_pos hnone
  rw [time?, htake, timeFrom?_timeBytes h, hdrop]
  rfl

/-! ### Moments -/

/-- The bytes of the text of a moment, with the offset of UTC. -/
def momentBytes (f : ClockFields) : Bytes :=
  dateBytes f.date ++ 0x54 :: (timeBytes f ++ partBytes f.micro ++ utcBytes)

theorem length_dateBytes (d : Calendar.Date) : (dateBytes d).length = 10 := by
  simp [dateBytes, length_digitBytes]

theorem dateLength_momentBytes (f : ClockFields) : dateLength (momentBytes f) = 10 := by
  have hlength : (momentBytes f).length ≠ 7 := by
    rw [momentBytes, List.length_append, length_dateBytes, List.length_cons]
    omega
  have hhyphen : byteAt (momentBytes f) 4 = 0x2D := rfl
  have hweek : byteAt (momentBytes f) 5 ≠ 0x57 := digitChar_ne_week (Nat.mod_lt _ (by decide))
  rw [dateLength]
  simp only [hlength, if_false, hhyphen, if_true, hweek]

/-- A text with the bytes of a moment is read as the moment. -/
theorem parse?_of_encode {s : String} {f : ClockFields} (hf : f.isValid = true)
    (hs : Utf8.encode s = momentBytes f) : parse? s = DateTime.ofFields? f (some 0) := by
  have hlength : ¬(momentBytes f).length < 7 := by
    rw [momentBytes, List.length_append, length_dateBytes]
    omega
  have hdrop : (momentBytes f).drop 10 =
      0x54 :: (timeBytes f ++ partBytes f.micro ++ utcBytes) := by
    rw [momentBytes, List.drop_append_of_le_length (by rw [length_dateBytes]),
      List.drop_of_length_le (by rw [length_dateBytes]), List.nil_append]
  have hdate : date? 10 (momentBytes f) = some f.date :=
    date?_dateBytes (ClockFields.isValid_iff.mp hf).1 _
  have hsep : separatorLength 0x54 = 1 := by decide
  simp only [parse?, hs, hlength, if_false, dateLength_momentBytes, hdate, Option.bind_eq_bind,
    Option.bind_some, hdrop, hsep, List.drop_succ_cons, List.drop_zero, time?_timeBytes hf]

/-! ### Texts -/

/-- The characters of a time of day and its fraction of a second. -/
def partChars (micro : Nat) : List Char :=
  if micro = 0 then []
  else if micro % 1000 = 0 then '.' :: fixedDigits 10 3 (micro / 1000)
  else '.' :: fixedDigits 10 6 micro

/-- The characters of a moment after its year. -/
def afterYear (f : ClockFields) : List Char :=
  '-' :: (fixedDigits 10 2 f.date.month ++ '-' :: (fixedDigits 10 2 f.date.day ++
    'T' :: (fixedDigits 10 2 f.hour ++ ':' :: (fixedDigits 10 2 f.minute ++
      ':' :: (fixedDigits 10 2 f.second ++ partChars f.micro)))))

/-- The characters of a moment, without an offset. -/
def momentChars (f : ClockFields) : List Char := fixedDigits 10 4 f.date.year ++ afterYear f

theorem toList_render (t : DateTime) : (render t).toList = momentChars t.fields ++ ['Z'] := by
  have hf : t.fields.isValid = true := ClockFields.isValid_ofWall t.wall_lt
  obtain ⟨hd, hh, hm, hs, hmicro⟩ := ClockFields.isValid_iff.mp hf
  have hlength := monthLength_le t.fields.date.year t.fields.date.month
  simp only [Calendar.Date.isValid, Bool.and_eq_true, decide_eq_true_eq] at hd
  have hyear : (Text.padded 4 t.fields.date.year).toList = fixedDigits 10 4 t.fields.date.year :=
    Text.toList_padded (by omega)
  have htwo {n : Nat} (h : n < 100) : (Text.padded 2 n).toList = fixedDigits 10 2 n :=
    Text.toList_padded h
  have hpart : (if t.fields.micro = 0 then ""
      else if t.fields.micro % 1000 = 0 then "." ++ Text.padded 3 (t.fields.micro / 1000)
      else "." ++ Text.padded 6 t.fields.micro).toList = partChars t.fields.micro := by
    rw [partChars]
    split
    · rfl
    · split
      · rw [String.toList_append, Text.toList_padded (by omega)]
        rfl
      · rw [String.toList_append, Text.toList_padded (by omega)]
        rfl
  have hhyphen : "-".toList = ['-'] := rfl
  have hcolon : ":".toList = [':'] := rfl
  have hT : "T".toList = ['T'] := rfl
  have hZ : "Z".toList = ['Z'] := rfl
  simp only [render, String.toList_append, hpart, ClockFields.dateText, ClockFields.timeText,
    toString, hyear, htwo (show t.fields.date.month < 100 by omega),
    htwo (show t.fields.date.day < 100 by omega), htwo (show t.fields.hour < 100 by omega),
    htwo (show t.fields.minute < 100 by omega), htwo (show t.fields.second < 100 by omega),
    hhyphen, hcolon, hT, hZ, momentChars, afterYear, List.append_assoc, List.cons_append,
    List.nil_append]

/-- The characters that stand in the text of a moment: digits and separators. -/
def isMomentChar (c : Char) : Bool := Number.isDigit c || ['-', 'T', ':', '.', 'Z'].contains c

theorem isVisibleChar_of_isMomentChar {c : Char} (h : isMomentChar c = true) : IsVisibleChar c := by
  rcases Bool.or_eq_true _ _ ▸ h with h | h
  · exact Number.isVisibleChar_of_isDigit h
  · have all : (['-', 'T', ':', '.', 'Z'].all fun c => decide (IsVisibleChar c)) = true := by
      decide
    exact of_decide_eq_true (List.all_eq_true.mp all c (List.contains_iff_mem.mp h))

theorem all_fixedDigits (w n : Nat) : (fixedDigits 10 w n).all isMomentChar = true := by
  rw [List.all_eq_true]
  intro c hc
  rw [isMomentChar, Text.isDigit_of_mem_fixedDigits hc, Bool.true_or]

theorem all_partChars (micro : Nat) : (partChars micro).all isMomentChar = true := by
  have hpoint : isMomentChar '.' = true := by decide
  rw [partChars]
  split
  · rfl
  · split
    · rw [List.all_cons, all_fixedDigits, hpoint, Bool.and_self]
    · rw [List.all_cons, all_fixedDigits, hpoint, Bool.and_self]

theorem all_afterYear (f : ClockFields) : (afterYear f).all isMomentChar = true := by
  have hhyphen : isMomentChar '-' = true := by decide
  have hT : isMomentChar 'T' = true := by decide
  have hcolon : isMomentChar ':' = true := by decide
  simp only [afterYear, List.all_cons, List.all_append, all_fixedDigits, all_partChars, hhyphen, hT,
    hcolon, Bool.and_self]

theorem all_toList_render (t : DateTime) : (render t).toList.all isMomentChar = true := by
  have hZ : ['Z'].all isMomentChar = true := by decide
  rw [toList_render, momentChars, List.all_append, List.all_append, all_fixedDigits, all_afterYear,
    hZ, Bool.and_self, Bool.and_self]

theorem isVisibleChar_of_mem_render {t : DateTime} {c : Char} (h : c ∈ (render t).toList) :
    IsVisibleChar c :=
  isVisibleChar_of_isMomentChar (List.all_eq_true.mp (all_toList_render t) c h)

theorem underscore_notMem_render (t : DateTime) : '_' ∉ (render t).toList := by
  intro hmem
  have := List.all_eq_true.mp (all_toList_render t) '_' hmem
  revert this
  decide

/-- The text of a moment is no number: its year ends with a hyphen. -/
theorem readDouble?_render (t : DateTime) : Number.readDouble? (render t) = none := by
  let year := t.fields.date.year
  let digits := [digitChar (year / 10 / 10 % 10), digitChar (year / 10 % 10), digitChar (year % 10)]
  have htext : (render t).toList = digitChar (year / 10 / 10 / 10 % 10) :: digits ++
      '-' :: ((afterYear t.fields).tail ++ ['Z']) := by
    rw [toList_render]
    rfl
  have hdigits : ∀ c ∈ digits, Number.isDigit c = true := by
    intro c hc
    refine Text.isDigit_of_mem_fixedDigits (w := 4) (n := year) ?_
    exact List.mem_cons_of_mem _ hc
  rw [← String.ofList_toList (s := render t), htext]
  refine Number.readDouble?_hyphen (Nat.mod_lt _ (by decide)) hdigits ?_ ?_
  · rw [← htext]
    exact fun c hc => isVisibleChar_of_mem_render hc
  · rw [← htext]
    exact underscore_notMem_render t

/-- The bytes of the text of a moment, with the offset of UTC spelled out. -/
theorem encode_momentChars (f : ClockFields) :
    Utf8.encode (String.ofList (momentChars f ++ "+00:00".toList)) = momentBytes f := by
  have hvisible : ∀ c ∈ momentChars f ++ "+00:00".toList, IsVisibleChar c := by
    intro c hc
    rcases List.mem_append.mp hc with h | h
    · refine isVisibleChar_of_isMomentChar (List.all_eq_true.mp ?_ c h)
      rw [momentChars, List.all_append, all_fixedDigits, all_afterYear, Bool.and_self]
    · have all : ("+00:00".toList.all fun c => decide (IsVisibleChar c)) = true := by decide
      exact of_decide_eq_true (List.all_eq_true.mp all c h)
  have hpart : (partChars f.micro).map asciiByte = partBytes f.micro := by
    rw [partChars, partBytes]
    split
    · rfl
    · split
      · rfl
      · rfl
  rw [Text.encode_ofList hvisible]
  simp only [momentChars, afterYear, List.map_append, List.map_cons, hpart, momentBytes, dateBytes,
    timeBytes, digitBytes, List.append_assoc, List.cons_append]
  rfl

end ServiceWire.Iso8601

namespace ServiceWire.Scalar

open ServiceWire.Text (digitChar)

theorem withOffset_render (t : DateTime) :
    withOffset (Iso8601.render t) =
      String.ofList (Iso8601.momentChars t.fields ++ "+00:00".toList) := by
  rw [withOffset, Iso8601.toList_render, List.reverse_append]
  simp only [List.reverse_singleton, List.singleton_append, List.reverse_reverse]

/-- A moment of the UTC clock is read back from its text. -/
theorem momentOfText_render {t : DateTime} (h : t.IsUtc) :
    momentOfText (Iso8601.render t) = .ok t := by
  have hstrip : Text.strip (Iso8601.render t) = Iso8601.render t :=
    Text.strip_eq_self fun c hc => Iso8601.isVisibleChar_of_mem_render hc
  have hepoch : epochMoment? (Iso8601.render t) = .ok none := by
    rw [epochMoment?, Iso8601.readDouble?_render]
  have hdigit : (Iso8601.render t).toList.head?.any Text.isDigitLike = true := by
    have all : ∀ m : Fin 10, Text.isDigitLike (digitChar m.val) = true := by decide
    rw [Iso8601.toList_render]
    exact all ⟨_, Nat.mod_lt (t.fields.date.year / 10 / 10 / 10) (by decide)⟩
  have hparse : Iso8601.parse? (withOffset (Iso8601.render t)) = some t := by
    have hf : t.fields.isValid = true := ClockFields.isValid_ofWall t.wall_lt
    rw [withOffset_render, Iso8601.parse?_of_encode hf (Iso8601.encode_momentChars _), ← h,
      DateTime.ofFields?_fields]
  have hwritten : writtenMoment (Iso8601.render t) (Iso8601.render t) = .ok t := by
    rw [writtenMoment, if_pos hdigit, hparse]
    exact DateTime.toUtc_of_isUtc h
  simp only [momentOfText, hstrip, hepoch, bind, Except.bind, hwritten]

end ServiceWire.Scalar
