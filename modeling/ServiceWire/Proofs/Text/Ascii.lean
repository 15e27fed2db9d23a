import ServiceWire.Proofs.Text.Cut
import ServiceWire.Text.Blank
import ServiceWire.Text.LetterCase
import ServiceWire.Text.Utf8
import Mathlib

/-!
# ASCII texts

An ASCII text is written, trimmed and lower-cased character by character.
-/

namespace ServiceWire.Text

/-!
## Visible texts

A visible ASCII character is no blank, so a text of visible characters keeps all of them when it is
trimmed, and its UTF-8 form has one byte for each. Written numbers, moments and Base64 forms are
such texts.
-/

/-- A visible ASCII character: from the exclamation mark to the tilde. -/
def IsVisibleChar (c : Char) : Prop := 0x21 ≤ c.toNat ∧ c.toNat ≤ 0x7E

instance (c : Char) : Decidable (IsVisibleChar c) := by
  unfold IsVisibleChar
  infer_instance

theorem IsVisibleChar.not_blank {c : Char} (h : IsVisibleChar c) : isBlank c = false := by
  obtain ⟨h1, h2⟩ := h
  rw [isBlank, Bool.eq_false_iff]
  intro hb
  obtain ⟨r, hr, hr1, hr2⟩ := CharClass.contains_eq_true_iff.mp hb
  simp only [CharClass.blank, List.mem_cons, List.not_mem_nil, or_false] at hr
  rcases hr with rfl | rfl | rfl | rfl | rfl | rfl | rfl | rfl | rfl | rfl <;>
    simp only at hr1 hr2 <;> omega

theorem dropWhile_eq_self {α : Type} {p : α → Bool} {cs : List α} (h : ∀ c ∈ cs, p c = false) :
    cs.dropWhile p = cs := by
  cases cs with
  | nil => rfl
  | cons c rest => rw [List.dropWhile_cons_of_neg (by simp [h c])]

theorem trimBy_eq_self {p : Char → Bool} {cs : List Char} (h : ∀ c ∈ cs, p c = false) :
    trimBy p cs = cs := by
  rw [trimBy, dropWhile_eq_self h, dropWhile_eq_self (by simpa using h), List.reverse_reverse]

/-- Blanks around a text of visible characters are none of its own. -/
theorem strip_eq_self {s : String} (h : ∀ c ∈ s.toList, IsVisibleChar c) : strip s = s := by
  rw [strip, trimBy_eq_self fun c hc => (h c hc).not_blank, String.ofList_toList]

/-- The byte of an ASCII character. -/
def asciiByte (c : Char) : UInt8 := UInt8.ofNat c.toNat

theorem utf8EncodeChar_of_visible {c : Char} (h : IsVisibleChar c) :
    String.utf8EncodeChar c = [asciiByte c] := by
  have hsize : c.utf8Size = 1 := by
    rw [Char.utf8Size_eq_one_iff, UInt32.le_iff_toNat_le]
    exact Nat.le_trans h.2 (by decide)
  rw [String.utf8EncodeChar_eq_singleton hsize]
  rfl

/-- A text of visible characters is, byte by byte, its characters. -/
theorem encode_ofList {cs : List Char} (h : ∀ c ∈ cs, IsVisibleChar c) :
    Utf8.encode (String.ofList cs) = cs.map asciiByte := by
  have hbytes : cs.flatMap String.utf8EncodeChar = cs.map asciiByte := by
    rw [List.map_eq_flatMap]
    exact List.flatMap_congr fun c hc => utf8EncodeChar_of_visible (h c hc)
  rw [Utf8.encode, String.toUTF8, String.toByteArray_ofList, List.utf8Encode,
    List.data_toByteArray, hbytes]

/-!
## Lower case

No letter of an ASCII text depends on those around it and none becomes several. So a beginning
stays a beginning, and what follows it begins at the same place.
-/

/-- The characters of a text are ASCII characters. -/
def IsAscii (s : String) : Prop := ∀ c ∈ s.toList, c.toNat < 0x80

instance (s : String) : Decidable (IsAscii s) :=
  decidable_of_iff (s.toList.all fun c => c.toNat < 0x80) (by simp [IsAscii])

theorem IsAscii.of_append {s t : String} (h : IsAscii (s ++ t)) : IsAscii s := by
  intro c hc
  refine h c ?_
  rw [String.toList_append]
  exact List.mem_append_left _ hc

theorem lowerFrom_of_ascii (before : List Char) {cs : List Char} (h : ∀ c ∈ cs, c.toNat < 0x80) :
    lowerFrom before cs = cs.map Char.toLower := by
  induction cs generalizing before with
  | nil => rfl
  | cons c rest ih =>
    rw [lowerFrom, lowerChar, if_pos (h c (List.mem_cons_self ..)),
      ih (c :: before) fun d hd => h d (List.mem_cons_of_mem _ hd), List.singleton_append,
      List.map_cons]

theorem toList_lower {s : String} (h : IsAscii s) : (lower s).toList = s.toList.map Char.toLower := by
  rw [lower, String.toList_ofList, lowerFrom_of_ascii [] h]

theorem length_lower {s : String} (h : IsAscii s) : (lower s).length = s.length := by
  rw [← String.length_toList, toList_lower h, List.length_map, String.length_toList]

/-- What begins with a text does so in lower case. -/
theorem startsWith_lower {s t : String} (h : IsAscii (s ++ t)) :
    startsWith (lower (s ++ t)).toList (lower s).toList = true := by
  rw [toList_lower h, toList_lower h.of_append, String.toList_append, List.map_append]
  exact startsWith_append _ _

end ServiceWire.Text
