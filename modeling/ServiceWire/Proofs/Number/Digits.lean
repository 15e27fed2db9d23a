import ServiceWire.Number.Reading
import ServiceWire.Proofs.Text.Ascii

/-!
# Written integers read back

The digits of a natural number stand for the number, and the text of an integer is read as the
integer. Between the two lie the steps of reading a number in free text, none of which changes a
visible ASCII text without underscores.
-/

namespace ServiceWire.Number

open ServiceWire.Text (IsVisibleChar)

/-! ### Digits -/

theorem isDigit_eq (c : Char) : isDigit c = c.isDigit := rfl

theorem isDigit_iff {c : Char} : isDigit c = true ↔ 0x30 ≤ c.toNat ∧ c.toNat ≤ 0x39 := by
  simp only [isDigit, Bool.and_eq_true, decide_eq_true_eq]
  exact Iff.rfl

theorem isVisibleChar_of_isDigit {c : Char} (h : isDigit c = true) : IsVisibleChar c := by
  obtain ⟨h1, h2⟩ := isDigit_iff.mp h
  exact ⟨by omega, by omega⟩

theorem ofDigits_eq_ofDigitChars (cs : List Char) : ofDigits cs = Nat.ofDigitChars 10 cs 0 := by
  rw [ofDigits, Nat.ofDigitChars_eq_foldl]
  congr 1
  funext n c
  rw [Nat.mul_comm]

theorem ofDigits_toDigits (n : Nat) : ofDigits (Nat.toDigits 10 n) = n := by
  rw [ofDigits_eq_ofDigitChars, Nat.ofDigitChars_ten_toDigits]

theorem isDigit_of_mem_toDigits {n : Nat} {c : Char} (h : c ∈ Nat.toDigits 10 n) :
    isDigit c = true := by
  rw [isDigit_eq]
  exact Nat.isDigit_of_mem_toDigits (by decide) (by decide) h

theorem all_isDigit_toDigits (n : Nat) : (Nat.toDigits 10 n).all isDigit = true := by
  rw [List.all_eq_true]
  exact fun c hc => isDigit_of_mem_toDigits hc

/-! ### Free text -/

theorem toAscii_of_visible {cs : List Char} (h : ∀ c ∈ cs, IsVisibleChar c) : toAscii cs = cs := by
  have hall : (cs.all fun c => decide (c.toNat < 0x80)) = true := by
    rw [List.all_eq_true]
    intro c hc
    have := (h c hc).2
    exact decide_eq_true (by omega)
  rw [toAscii, if_pos hall]

theorem isAsciiBlank_of_visible {c : Char} (h : IsVisibleChar c) : isAsciiBlank c = false := by
  obtain ⟨h1, h2⟩ := h
  have hs : c ≠ ' ' := by
    rintro rfl
    revert h1
    decide
  simp only [isAsciiBlank, Bool.or_eq_false_iff, beq_eq_false_iff_ne, Bool.and_eq_false_iff,
    decide_eq_false_iff_not]
  exact ⟨hs, Or.inr (by omega)⟩

theorem core_eq_toList {s : String} (h : ∀ c ∈ s.toList, IsVisibleChar c) : core s = s.toList := by
  rw [core, toAscii_of_visible h]
  exact Text.trimBy_eq_self fun c hc => isAsciiBlank_of_visible (h c hc)

theorem withoutUnderscores_eq_some {cs : List Char} (h : '_' ∉ cs) (previous : Bool) :
    withoutUnderscores previous cs = some cs := by
  induction cs generalizing previous with
  | nil => rw [withoutUnderscores]
  | cons c rest ih =>
    have hc : c ≠ '_' := fun e => h (e ▸ List.mem_cons_self ..)
    rw [withoutUnderscores, ih (fun hr => h (List.mem_cons_of_mem _ hr)), Option.map_some]
    · intro e _
      exact hc e
    · intro _ _ e _
      exact hc e

/-! ### Integers -/

/-- The text of an integer: its digits, behind a minus sign if it is negative. -/
theorem toList_toString (i : Int) :
    (toString i).toList =
      if 0 ≤ i then Nat.toDigits 10 i.natAbs else '-' :: Nat.toDigits 10 i.natAbs := by
  rw [Int.toString_eq_repr, Int.repr_eq_if]
  split
  · rw [Nat.toList_repr, show i.toNat = i.natAbs by omega]
  · rw [String.toList_append, Nat.toList_repr, show (-i).toNat = i.natAbs by omega]
    rfl

theorem isVisibleChar_of_mem_toString {i : Int} {c : Char} (h : c ∈ (toString i).toList) :
    IsVisibleChar c := by
  rw [toList_toString] at h
  split at h
  · exact isVisibleChar_of_isDigit (isDigit_of_mem_toDigits h)
  · rcases List.mem_cons.mp h with rfl | h
    · decide
    · exact isVisibleChar_of_isDigit (isDigit_of_mem_toDigits h)

/-- What begins with a digit has no sign. -/
theorem signed_cons {c : Char} (hc : isDigit c = true) (rest : List Char) :
    signed (c :: rest) = (false, c :: rest) := by
  rw [signed]
  · intro _ e
    rw [(List.cons.inj e).1] at hc
    exact absurd hc (by decide)
  · intro _ e
    rw [(List.cons.inj e).1] at hc
    exact absurd hc (by decide)

theorem signed_toDigits (n : Nat) : signed (Nat.toDigits 10 n) = (false, Nat.toDigits 10 n) := by
  cases h : Nat.toDigits 10 n with
  | nil => rfl
  | cons c rest => exact signed_cons (isDigit_of_mem_toDigits (h ▸ List.mem_cons_self ..)) rest

theorem withoutUnderscores_toDigits (n : Nat) :
    withoutUnderscores false (Nat.toDigits 10 n) = some (Nat.toDigits 10 n) :=
  withoutUnderscores_eq_some Nat.underscore_not_in_toDigits false

/-- The sign and the digits of the text of an integer. -/
theorem signed_core_toString (i : Int) :
    signed (core (toString i)) = (decide (i < 0), Nat.toDigits 10 i.natAbs) := by
  have hcore : core (toString i) = (toString i).toList :=
    core_eq_toList fun c hc => isVisibleChar_of_mem_toString hc
  rw [hcore, toList_toString]
  split
  · rw [signed_toDigits, decide_eq_false (by omega)]
  · rw [signed, decide_eq_true (by omega)]

theorem readInt?_toString (i : Int) : readInt? (toString i) = some i := by
  have hne : (Nat.toDigits 10 i.natAbs).isEmpty = false := by
    simp [Nat.toDigits_ne_nil]
  simp only [readInt?, signed_core_toString, withoutUnderscores_toDigits, Option.bind_eq_bind,
    Option.bind_some, hne, all_isDigit_toDigits, Bool.not_true, Bool.or_self, Bool.false_eq_true,
    if_false, ofDigits_toDigits, decide_eq_true_eq]
  split
  · simp only [Option.pure_def, Option.some.injEq]
    omega
  · simp only [Option.pure_def, Option.some.injEq]
    omega

/-! ### Texts that are no numbers -/

/-- Digits with a hyphen behind them are no decimal. -/
theorem decimal?_hyphen {digits : List Char} (h : ∀ c ∈ digits, isDigit c = true)
    (rest : List Char) : decimal? (digits ++ '-' :: rest) = none := by
  have htake : (digits ++ '-' :: rest).takeWhile isDigit = digits := by
    rw [List.takeWhile_append_of_pos h]
    exact List.append_nil _
  have hdrop : (digits ++ '-' :: rest).dropWhile isDigit = '-' :: rest :=
    List.dropWhile_append_of_pos h
  have hfraction : fraction ('-' :: rest) = ([], '-' :: rest) := rfl
  have hexponent : exponent? ('-' :: rest) = none := rfl
  rw [decimal?, htake, hdrop]
  simp only [hfraction, hexponent, Option.bind_eq_bind, Option.bind_none, ite_self]

/-- A text is no number if it begins with digits and a hyphen behind them. -/
theorem readDouble?_hyphen {d : Nat} (hd : d < 10) {digits rest : List Char}
    (h : ∀ c ∈ digits, isDigit c = true)
    (hv : ∀ c ∈ Text.digitChar d :: digits ++ '-' :: rest, IsVisibleChar c)
    (hu : '_' ∉ Text.digitChar d :: digits ++ '-' :: rest) :
    readDouble? (String.ofList (Text.digitChar d :: digits ++ '-' :: rest)) = none := by
  have hdigit : ∀ m : Fin 10, isDigit (Text.digitChar m.val) = true := by decide
  have hlower : ∀ m : Fin 10, (Text.digitChar m.val).toLower ≠ 'i' ∧
      (Text.digitChar m.val).toLower ≠ 'n' := by decide
  obtain ⟨hi, hn⟩ := hlower ⟨d, hd⟩
  have hname {c : Char} (hc : (Text.digitChar d).toLower ≠ c) {s : String}
      (hs : s.toList.head? = some c) :
      (String.ofList ((Text.digitChar d :: digits ++ '-' :: rest).map Char.toLower) == s) =
        false := by
    refine beq_false_of_ne ?_
    rintro rfl
    rw [String.toList_ofList] at hs
    exact hc (Option.some.inj hs)
  have hinf := hname hi (s := "inf") rfl
  have hinfinity := hname hi (s := "infinity") rfl
  have hnan := hname hn (s := "nan") rfl
  have hdecimal : decimal? (Text.digitChar d :: digits ++ '-' :: rest) = none :=
    decimal?_hyphen (List.forall_mem_cons.mpr ⟨hdigit ⟨d, hd⟩, h⟩) rest
  have hsigned : signed (Text.digitChar d :: digits ++ '-' :: rest) =
      (false, Text.digitChar d :: digits ++ '-' :: rest) := signed_cons (hdigit ⟨d, hd⟩) _
  rw [readDouble?, core_eq_toList (by rwa [String.toList_ofList]), String.toList_ofList,
    withoutUnderscores_eq_some hu]
  simp only [Option.bind_eq_bind, Option.bind_some, hsigned, hinf, hinfinity, hnan, Bool.or_self,
    Bool.false_eq_true, if_false, hdecimal, Option.bind_none]

end ServiceWire.Number

/-!
## Digits of fixed width

A number that fits has as many digits as it is padded to, with zeros in front.
-/

namespace ServiceWire.Text

theorem digitChar_eq {n : Nat} (h : n < 10) : digitChar n = n.digitChar := by
  have all : ∀ m : Fin 10, digitChar m.val = m.val.digitChar := by decide
  exact all ⟨n, h⟩

theorem isDigit_digitChar {n : Nat} (h : n < 10) : Number.isDigit (digitChar n) = true := by
  have all : ∀ m : Fin 10, Number.isDigit (digitChar m.val) = true := by decide
  exact all ⟨n, h⟩

theorem isDigit_of_mem_fixedDigits {w n : Nat} {c : Char} (h : c ∈ fixedDigits 10 w n) :
    Number.isDigit c = true := by
  induction w generalizing n with
  | zero => cases h
  | succ w ih =>
    rcases List.mem_append.mp h with h | h
    · exact ih h
    · rw [List.mem_singleton.mp h]
      exact isDigit_digitChar (Nat.mod_lt _ (by decide))

/-- The digits of a number that fits, with the zeros in front of them. -/
theorem replicate_append_toDigits {w n : Nat} (h : n < 10 ^ (w + 1)) :
    List.replicate (w + 1 - (Nat.toDigits 10 n).length) '0' ++ Nat.toDigits 10 n =
      fixedDigits 10 (w + 1) n := by
  induction w generalizing n with
  | zero =>
    rw [Nat.toDigits_of_lt_base (by omega), ← digitChar_eq (by omega)]
    simp [fixedDigits, Nat.mod_eq_of_lt (show n < 10 by omega)]
  | succ w ih =>
    rw [fixedDigits]
    by_cases hlt : n < 10
    · rw [← ih (by omega), Nat.toDigits_of_lt_base hlt, digitChar_eq (by omega),
        Nat.div_eq_of_lt hlt, Nat.mod_eq_of_lt hlt]
      simp [List.replicate_succ']
    · rw [Nat.toDigits_of_base_le (by decide) (by omega), digitChar_eq (by omega),
        ← ih (by rw [Nat.div_lt_iff_lt_mul (by decide)]; rwa [Nat.pow_succ] at h)]
      simp [List.append_assoc]

theorem toList_padded {w n : Nat} (h : n < 10 ^ (w + 1)) :
    (padded (w + 1) n).toList = fixedDigits 10 (w + 1) n := by
  rw [padded, String.toList_ofList, Nat.toList_repr, replicate_append_toDigits h]

end ServiceWire.Text
