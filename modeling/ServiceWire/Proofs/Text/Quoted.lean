import ServiceWire.Text.Quoted
import Mathlib

/-!
# Quoted texts stand for one text only

Between its quotes each character of a text is written so that it can be told where the next one
begins: `unescape` reads one character back, whatever comes after it (`unescape_escapeChar`). The
quote itself is never written without a backslash. So a quoted text says where it ends, and which
text it stands for (`eq_of_text_append`).
-/

namespace ServiceWire.Quoted

/-! ### Code points -/

/-- The number that hexadecimal digits write. -/
def number? (digits : List Char) : Option Nat :=
  digits.foldlM (fun n c => (Text.hexDigit? c).map fun d => n * 16 + d) 0

theorem number?_fixedDigits {width n : Nat} (h : n < 16 ^ width) :
    number? (Text.fixedDigits 16 width n) = some n := by
  induction width generalizing n with
  | zero =>
    obtain rfl : n = 0 := by simpa using h
    rfl
  | succ width ih =>
    have hhigh : n / 16 < 16 ^ width := by
      rw [Nat.pow_succ] at h
      omega
    have hlow : n % 16 < 16 := Nat.mod_lt _ (by decide)
    have hwhole : n / 16 * 16 + n % 16 = n := by omega
    have hrest := ih hhigh
    rw [number?] at hrest
    rw [number?, Text.fixedDigits, List.foldlM_append, hrest]
    simp [Text.hexDigit?_digitChar hlow, hwhole]

/-- The character whose code point is written with the given number of digits, and what comes after
it. -/
def codePoint? (width : Nat) (cs : List Char) : Option (Char × List Char) :=
  (number? (cs.take width)).map fun n => (Char.ofNat n, cs.drop width)

theorem codePoint?_fixedDigits {width : Nat} {c : Char} (h : c.toNat < 16 ^ width)
    (rest : List Char) :
    codePoint? width (Text.fixedDigits 16 width c.toNat ++ rest) = some (c, rest) := by
  have hlength := Text.length_fixedDigits 16 width c.toNat
  rw [codePoint?, List.take_left' hlength, List.drop_left' hlength, number?_fixedDigits h,
    Option.map_some, Char.ofNat_toNat]

/-! ### Characters -/

/-- The first character of a text between quotes, and what comes after it. -/
def unescape : List Char → Option (Char × List Char)
  | [] => none
  | '\\' :: 'n' :: rest => some ('\n', rest)
  | '\\' :: 'r' :: rest => some ('\r', rest)
  | '\\' :: 't' :: rest => some ('\t', rest)
  | '\\' :: 'x' :: rest => codePoint? 2 rest
  | '\\' :: 'u' :: rest => codePoint? 4 rest
  | '\\' :: 'U' :: rest => codePoint? 8 rest
  | '\\' :: c :: rest => some (c, rest)
  | c :: rest => some (c, rest)

theorem unescape_of_ne {c : Char} (h : c ≠ '\\') (rest : List Char) :
    unescape (c :: rest) = some (c, rest) := by
  simp [unescape, h]

theorem unescape_escapeNumber (c : Char) (rest : List Char) :
    unescape (escapeNumber c.toNat ++ rest) = some (c, rest) := by
  rw [escapeNumber]
  split
  · rename_i h
    have hwidth : c.toNat < 16 ^ 2 := h
    exact codePoint?_fixedDigits hwidth rest
  · split
    · rename_i h
      have hwidth : c.toNat < 16 ^ 4 := h
      exact codePoint?_fixedDigits hwidth rest
    · have hwidth : c.toNat < 16 ^ 8 := c.val.toNat_lt
      exact codePoint?_fixedDigits hwidth rest

/-- A quote that texts are written between. -/
def IsQuote (quote : Char) : Prop := quote = '\'' ∨ quote = '"'

theorem isQuote_quoteFor (hasSingle hasDouble : Bool) : IsQuote (quoteFor hasSingle hasDouble) := by
  rw [quoteFor]
  split
  · exact .inr rfl
  · exact .inl rfl

/-- A character that is written between quotes reads back, whatever comes after it. -/
theorem unescape_escapeChar {quote : Char} (hquote : IsQuote quote) (c : Char) (rest : List Char) :
    unescape (escapeChar quote c ++ rest) = some (c, rest) := by
  by_cases hmark : c = quote ∨ c = '\\'
  · have hescape : escapeChar quote c = ['\\', c] := by simp [escapeChar, hmark]
    have hc : c = '\'' ∨ c = '"' ∨ c = '\\' := by
      rcases hmark with rfl | rfl
      · exact hquote.elim .inl fun h => .inr (.inl h)
      · exact .inr (.inr rfl)
    rw [hescape]
    rcases hc with rfl | rfl | rfl <;> rfl
  · obtain ⟨hquoteless, hplain⟩ := not_or.mp hmark
    by_cases hfeed : c = '\n'
    · rw [hfeed] at hquoteless ⊢
      simp [escapeChar, hquoteless, unescape]
    by_cases hreturn : c = '\r'
    · rw [hreturn] at hquoteless ⊢
      simp [escapeChar, hquoteless, unescape]
    by_cases htab : c = '\t'
    · rw [htab] at hquoteless ⊢
      simp [escapeChar, hquoteless, unescape]
    by_cases hshown : Text.isPrintable c = true
    · have hescape : escapeChar quote c = [c] := by
        simp [escapeChar, hmark, hfeed, hreturn, htab, hshown]
      rw [hescape]
      exact unescape_of_ne hplain rest
    · have hescape : escapeChar quote c = escapeNumber c.toNat := by
        simp [escapeChar, hmark, hfeed, hreturn, htab, hshown]
      rw [hescape]
      exact unescape_escapeNumber c rest

/-- The quote itself does not stand where a character is written. -/
theorem escapeChar_append_ne {quote : Char} (hquote : IsQuote quote) (c : Char)
    (cs rest : List Char) : escapeChar quote c ++ cs ≠ quote :: rest := by
  intro heq
  have hread := unescape_escapeChar hquote c cs
  have hne : quote ≠ '\\' := by
    rcases hquote with rfl | rfl <;> decide
  rw [heq, unescape_of_ne hne] at hread
  -- The character read is the quote, which is written with a backslash.
  obtain ⟨rfl, -⟩ := Prod.mk.inj (Option.some.inj hread)
  simp [escapeChar, hne.symm] at heq

/-! ### Texts -/

/-- The characters between quotes end at the first quote that stands for itself. -/
theorem eq_of_flatMap_append {quote : Char} (hquote : IsQuote quote) {a b r s : List Char}
    (h : a.flatMap (escapeChar quote) ++ quote :: r = b.flatMap (escapeChar quote) ++ quote :: s) :
    a = b ∧ r = s := by
  induction a generalizing b with
  | nil =>
    cases b with
    | nil => exact ⟨rfl, (List.cons.inj h).2⟩
    | cons d b =>
      rw [List.flatMap_cons, List.append_assoc] at h
      exact absurd h.symm (escapeChar_append_ne hquote d _ _)
  | cons c a ih =>
    cases b with
    | nil =>
      rw [List.flatMap_cons, List.append_assoc] at h
      exact absurd h (escapeChar_append_ne hquote c _ _)
    | cons d b =>
      rw [List.flatMap_cons, List.flatMap_cons, List.append_assoc, List.append_assoc] at h
      have hread := congrArg unescape h
      rw [unescape_escapeChar hquote, unescape_escapeChar hquote] at hread
      obtain ⟨rfl, hrest⟩ := Prod.mk.inj (Option.some.inj hread)
      obtain ⟨rfl, hrs⟩ := ih hrest
      exact ⟨rfl, hrs⟩

/-- A quoted text begins with a quote. -/
theorem exists_text_cons (s : String) :
    ∃ quote cs, IsQuote quote ∧ (text s).toList = quote :: cs :=
  ⟨_, _, isQuote_quoteFor _ _, by rw [text, String.toList_ofList, chars, List.cons_append]⟩

/-- A quoted text says where it ends, and which text it stands for. -/
theorem eq_of_text_append {a b : String} {r s : List Char}
    (h : (text a).toList ++ r = (text b).toList ++ s) : a = b ∧ r = s := by
  simp only [text, String.toList_ofList, chars, List.cons_append, List.append_assoc] at h
  obtain ⟨hquote, hrest⟩ := List.cons.inj h
  rw [hquote] at hrest
  obtain ⟨hchars, hrs⟩ := eq_of_flatMap_append (isQuote_quoteFor _ _) hrest
  exact ⟨String.toList_inj.mp hchars, hrs⟩

end ServiceWire.Quoted
