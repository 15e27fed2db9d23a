import ServiceWire.Text.Percent
import Mathlib

/-!
# Percent-encoded texts read back

Every text is read back from its percent-encoded form. A byte is written as itself or as a group
of three characters, and read from these without regard to what follows; the forgiving decoder of
UTF-8 reads the bytes of a character as that character, again without regard to what follows.
-/

namespace ServiceWire

namespace Utf8

theorem encode_eq_flatMap (s : String) : encode s = s.toList.flatMap String.utf8EncodeChar := by
  rw [encode, String.toUTF8, ← String.utf8Encode_toList, List.utf8Encode, List.data_toByteArray]

/-! ### Single bytes -/

theorem toNat_ofNat {n : Nat} (h : n < 256) : (UInt8.ofNat n).toNat = n :=
  UInt8.toNat_ofNat_of_lt' h

theorem ofByte_single {b : UInt8} (h : b.toNat < 0x80) :
    Lead.ofByte b = .single (Char.ofNat b.toNat) :=
  if_pos (UInt8.lt_iff_toNat_lt.mpr h)

theorem ofByte_two {b : UInt8} (h : 0xC2 ≤ b.toNat) (h' : b.toNat < 0xE0) :
    Lead.ofByte b = .begins ⟨b.toNat - 0xC0, 1, 0x80, 0xBF⟩ := by
  simp only [Lead.ofByte, UInt8.lt_iff_toNat_lt, UInt8.reduceToNat]
  rw [if_neg (by omega), if_neg (by omega), if_pos h']

theorem ofByte_three {b : UInt8} (h : 0xE0 ≤ b.toNat) (h' : b.toNat < 0xF0) :
    Lead.ofByte b = .begins ⟨b.toNat - 0xE0, 2, if b.toNat = 0xE0 then 0xA0 else 0x80,
      if b.toNat = 0xED then 0x9F else 0xBF⟩ := by
  simp only [Lead.ofByte, UInt8.lt_iff_toNat_lt, beq_iff_eq, ← UInt8.toNat_inj, UInt8.reduceToNat]
  rw [if_neg (by omega), if_neg (by omega), if_neg (by omega)]
  by_cases hlow : b.toNat = 0xE0
  · simp only [hlow]
    rfl
  · by_cases hhigh : b.toNat = 0xED
    · simp only [hhigh]
      rfl
    · rw [if_neg hlow, if_neg hhigh, if_pos h', if_neg hlow, if_neg hhigh]

theorem ofByte_four {b : UInt8} (h : 0xF0 ≤ b.toNat) (h' : b.toNat ≤ 0xF4) :
    Lead.ofByte b = .begins ⟨b.toNat - 0xF0, 3, if b.toNat = 0xF0 then 0x90 else 0x80,
      if b.toNat = 0xF4 then 0x8F else 0xBF⟩ := by
  simp only [Lead.ofByte, UInt8.lt_iff_toNat_lt, beq_iff_eq, ← UInt8.toNat_inj, UInt8.reduceToNat]
  rw [if_neg (by omega), if_neg (by omega), if_neg (by omega), if_neg (by omega),
    if_neg (by omega), if_neg (by omega)]
  by_cases hlow : b.toNat = 0xF0
  · simp only [hlow]
    rfl
  · by_cases hhigh : b.toNat = 0xF4
    · simp only [hhigh]
      rfl
    · rw [if_neg hlow, if_pos (by omega), if_neg hlow, if_neg hhigh]

theorem decodeMixedFrom_begins {b : UInt8} {p : Partial} (h : Lead.ofByte b = .begins p)
    (rest : List (UInt8 ⊕ Char)) :
    decodeMixedFrom none (.inl b :: rest) = decodeMixedFrom (some p) rest := by
  rw [decodeMixedFrom, startWith, h]

/-- A byte that continues a character, with the lowest six bits of a number. -/
def continuation (n : Nat) : UInt8 := UInt8.ofNat (n % 64 + 128)

theorem toNat_continuation (n : Nat) : (continuation n).toNat = n % 64 + 128 :=
  toNat_ofNat (by omega)

/-- The byte that continues a character with a number is within bounds. -/
def Bounded (low high : UInt8) (n : Nat) : Prop :=
  low.toNat ≤ n % 64 + 128 ∧ n % 64 + 128 ≤ high.toNat

theorem bounded_continuation (n : Nat) : Bounded 0x80 0xBF n :=
  ⟨Nat.le_add_left .., Nat.add_le_add_right (Nat.le_of_lt_succ (Nat.mod_lt n (by decide))) 128⟩

theorem decodeMixedFrom_continuation {bits left : Nat} {low high : UInt8} {n : Nat}
    (h : Bounded low high n) (rest : List (UInt8 ⊕ Char)) :
    decodeMixedFrom (some ⟨bits, left, low, high⟩) (.inl (continuation n) :: rest) =
      if left = 1 then Char.ofNat (bits * 64 + n % 64) :: decodeMixedFrom none rest
      else decodeMixedFrom (some ⟨bits * 64 + n % 64, left - 1, 0x80, 0xBF⟩) rest := by
  have hbound : low ≤ continuation n ∧ continuation n ≤ high := by
    rw [UInt8.le_iff_toNat_le, UInt8.le_iff_toNat_le, toNat_continuation]
    exact h
  rw [decodeMixedFrom, if_pos hbound, toNat_continuation, Nat.add_sub_cancel]

/-! ### Characters -/

theorem decodeMixedFrom_single {n : Nat} (h : n ≤ 0x7F) (rest : List (UInt8 ⊕ Char)) :
    decodeMixedFrom none (.inl (UInt8.ofNat n) :: rest) =
      Char.ofNat n :: decodeMixedFrom none rest := by
  have hb : (UInt8.ofNat n).toNat = n := toNat_ofNat (by omega)
  have hlead := ofByte_single (b := UInt8.ofNat n) (by omega)
  rw [decodeMixedFrom, startWith, hlead, hb]

theorem decodeMixedFrom_two {n : Nat} (h : 0x7F < n) (h' : n ≤ 0x7FF)
    (rest : List (UInt8 ⊕ Char)) :
    decodeMixedFrom none (.inl (UInt8.ofNat (n / 64 % 32 + 192)) :: .inl (continuation n) :: rest) =
      Char.ofNat n :: decodeMixedFrom none rest := by
  have hb : (UInt8.ofNat (n / 64 % 32 + 192)).toNat = n / 64 + 192 := by
    rw [toNat_ofNat (by omega)]
    omega
  have hbits : (n / 64 + 192 - 0xC0) * 64 + n % 64 = n := by omega
  rw [decodeMixedFrom_begins (ofByte_two (by omega) (by omega)),
    decodeMixedFrom_continuation (bounded_continuation n), if_pos rfl, hb, hbits]

theorem decodeMixedFrom_three {n : Nat} (h : 0x7FF < n) (h' : n ≤ 0xFFFF)
    (hvalid : n < 0xD800 ∨ 0xDFFF < n) (rest : List (UInt8 ⊕ Char)) :
    decodeMixedFrom none (.inl (UInt8.ofNat (n / 4096 % 16 + 224)) ::
        .inl (continuation (n / 64)) :: .inl (continuation n) :: rest) =
      Char.ofNat n :: decodeMixedFrom none rest := by
  have hb : (UInt8.ofNat (n / 4096 % 16 + 224)).toNat = n / 4096 + 224 := by
    rw [toNat_ofNat (by omega)]
    omega
  have hbits : ((n / 4096 + 224 - 0xE0) * 64 + n / 64 % 64) * 64 + n % 64 = n := by omega
  -- The second byte is bounded more narrowly, so as not to give a number twice or a surrogate.
  have hsecond : Bounded (if n / 4096 + 224 = 0xE0 then 0xA0 else 0x80)
      (if n / 4096 + 224 = 0xED then 0x9F else 0xBF) (n / 64) := by
    constructor
    · split
      · change 0xA0 ≤ n / 64 % 64 + 128
        omega
      · exact (bounded_continuation (n / 64)).1
    · split
      · change n / 64 % 64 + 128 ≤ 0x9F
        omega
      · exact (bounded_continuation (n / 64)).2
  rw [decodeMixedFrom_begins (ofByte_three (by omega) (by omega)), hb,
    decodeMixedFrom_continuation hsecond, if_neg (by decide),
    decodeMixedFrom_continuation (bounded_continuation n), if_pos rfl, hbits]

theorem decodeMixedFrom_four {n : Nat} (h : 0xFFFF < n) (h' : n < 0x110000)
    (rest : List (UInt8 ⊕ Char)) :
    decodeMixedFrom none (.inl (UInt8.ofNat (n / 262144 % 8 + 240)) ::
        .inl (continuation (n / 4096)) :: .inl (continuation (n / 64)) ::
          .inl (continuation n) :: rest) =
      Char.ofNat n :: decodeMixedFrom none rest := by
  have hb : (UInt8.ofNat (n / 262144 % 8 + 240)).toNat = n / 262144 + 240 := by
    rw [toNat_ofNat (by omega)]
    omega
  have hbits : (((n / 262144 + 240 - 0xF0) * 64 + n / 4096 % 64) * 64 + n / 64 % 64) * 64 +
      n % 64 = n := by omega
  -- The second byte is bounded more narrowly, so as not to give a number twice or one too large.
  have hsecond : Bounded (if n / 262144 + 240 = 0xF0 then 0x90 else 0x80)
      (if n / 262144 + 240 = 0xF4 then 0x8F else 0xBF) (n / 4096) := by
    constructor
    · split
      · change 0x90 ≤ n / 4096 % 64 + 128
        omega
      · exact (bounded_continuation (n / 4096)).1
    · split
      · change n / 4096 % 64 + 128 ≤ 0x8F
        omega
      · exact (bounded_continuation (n / 4096)).2
  rw [decodeMixedFrom_begins (ofByte_four (by omega) (by omega)), hb,
    decodeMixedFrom_continuation hsecond, if_neg (by decide),
    decodeMixedFrom_continuation (bounded_continuation (n / 64)), if_neg (by decide),
    decodeMixedFrom_continuation (bounded_continuation n), if_pos rfl, hbits]

/-- The bytes of a character are decoded as the character, whatever follows. -/
theorem decodeMixedFrom_utf8EncodeChar (c : Char) (rest : List (UInt8 ⊕ Char)) :
    decodeMixedFrom none ((String.utf8EncodeChar c).map .inl ++ rest) =
      c :: decodeMixedFrom none rest := by
  have hc : Char.ofNat c.val.toNat = c := Char.ofNat_toNat c
  have hvalid : c.val.toNat < 0xD800 ∨ (0xDFFF < c.val.toNat ∧ c.val.toNat < 0x110000) := c.valid
  rw [String.utf8EncodeChar]
  split_ifs with h1 h2 h3
  · exact (decodeMixedFrom_single h1 rest).trans (by rw [hc])
  · exact (decodeMixedFrom_two (by omega) h2 rest).trans (by rw [hc])
  · exact (decodeMixedFrom_three (by omega) h3 (by omega) rest).trans (by rw [hc])
  · exact (decodeMixedFrom_four (by omega) (by omega) rest).trans (by rw [hc])

theorem decodeMixed_encode (s : String) : decodeMixed ((encode s).map .inl) = s := by
  have hchars (cs : List Char) :
      decodeMixedFrom none ((cs.flatMap String.utf8EncodeChar).map .inl) = cs := by
    induction cs with
    | nil => rfl
    | cons c rest ih =>
      rw [List.flatMap_cons, List.map_append, decodeMixedFrom_utf8EncodeChar, ih]
  rw [decodeMixed, encode_eq_flatMap, hchars, String.ofList_toList]

end Utf8

namespace Percent

/-! ### Bytes as they are written -/

/-- The characters of percent-encoded texts do not separate names and values, nor stand for
others. -/
def IsWritten (c : Char) : Prop := c ∉ ['&', '=', '+']

theorem toNat_ofNat_byte (b : UInt8) : (Char.ofNat b.toNat).toNat = b.toNat := by
  have hvalid : b.toNat.isValidChar := .inl (Nat.lt_trans b.toNat_lt (by decide))
  rw [Char.ofNat, dif_pos hvalid]
  rfl

theorem lt_of_isUnreserved {b : UInt8} (h : isUnreserved b = true) : b.toNat < 0x80 := by
  have hrange : (0x41 ≤ b.toNat ∧ b.toNat ≤ 0x5A) ∨ (0x61 ≤ b.toNat ∧ b.toNat ≤ 0x7A) ∨
      (0x30 ≤ b.toNat ∧ b.toNat ≤ 0x39) ∨ b.toNat = 0x5F ∨ b.toNat = 0x2E ∨ b.toNat = 0x2D ∨
        b.toNat = 0x7E := by
    simpa [isUnreserved, UInt8.le_iff_toNat_le, ← UInt8.toNat_inj, or_assoc] using h
  omega

/-- A character that is not unreserved is none that stands for itself. -/
theorem ofNat_ne_of_isUnreserved {b : UInt8} (h : isUnreserved b = true) {c : Char}
    (hc : isUnreserved (UInt8.ofNat c.toNat) = false) : Char.ofNat b.toNat ≠ c := by
  rintro rfl
  rw [toNat_ofNat_byte, UInt8.ofNat_toNat, h] at hc
  cases hc

/-- A character that is never written: it is not unreserved and begins no group. -/
def IsEscaped (c : Char) : Prop := c ≠ '%' ∧ isUnreserved (UInt8.ofNat c.toNat) = false

instance : DecidablePred IsEscaped := fun _ => inferInstanceAs (Decidable (_ ∧ _))

theorem not_mem_encodeByte {c : Char} (hc : IsEscaped c) (b : UInt8) : c ∉ encodeByte b := by
  have hb := b.toNat_lt
  have hdigit : ∀ n : Fin 16, isUnreserved (UInt8.ofNat (hexDigit n.val).toNat) = true := by decide
  have hne (n : Nat) (hn : n < 16) : c ≠ hexDigit n := by
    rintro rfl
    rw [IsEscaped, hdigit ⟨n, hn⟩] at hc
    cases hc.2
  rw [encodeByte]
  split
  · rename_i hunreserved
    rw [List.mem_singleton]
    exact (ofNat_ne_of_isUnreserved hunreserved hc.2).symm
  · simp only [List.mem_cons, List.not_mem_nil, or_false, not_or]
    exact ⟨hc.1, hne _ (by omega), hne _ (by omega)⟩

theorem not_mem_encodeBytes {c : Char} (hc : IsEscaped c) (bs : Bytes) : c ∉ encodeBytes bs := by
  rw [encodeBytes, List.mem_flatMap]
  rintro ⟨b, -, hb⟩
  exact not_mem_encodeByte hc b hb

theorem not_mem_encode {c : Char} (hc : IsEscaped c) (s : String) : c ∉ (encode s).toList := by
  rw [encode, String.toList_ofList]
  exact not_mem_encodeBytes hc _

theorem isWritten_of_mem_encode {s : String} {c : Char} (h : c ∈ (encode s).toList) :
    IsWritten c := by
  simp only [IsWritten, List.mem_cons, List.not_mem_nil, or_false, not_or]
  refine ⟨?_, ?_, ?_⟩
  all_goals
    rintro rfl
    exact not_mem_encode (by decide) s h

theorem hexDigit?_hexDigit {n : Nat} (h : n < 16) : Text.hexDigit? (hexDigit n) = some n := by
  have all : ∀ m : Fin 16, Text.hexDigit? (hexDigit m.val) = some m.val := by decide
  exact all ⟨n, h⟩

theorem units_cons_of_ne {c : Char} (h : c ≠ '%') (rest : List Char) :
    units (c :: rest) = literal c :: units rest := by
  rw [units]
  rintro a b rest' rfl
  exact absurd rfl h

/-- A byte is read from the characters that it is written as, whatever follows. -/
theorem units_encodeByte (b : UInt8) (rest : List Char) :
    units (encodeByte b ++ rest) = .inl b :: units rest := by
  have hb := b.toNat_lt
  rw [encodeByte]
  split
  · rename_i hunreserved
    have hne := ofNat_ne_of_isUnreserved hunreserved (c := '%') (by decide)
    rw [List.singleton_append, units_cons_of_ne hne, literal, toNat_ofNat_byte,
      if_pos (lt_of_isUnreserved hunreserved), UInt8.ofNat_toNat]
  · have hsum : b.toNat / 16 * 16 + b.toNat % 16 = b.toNat := by omega
    rw [List.cons_append, List.cons_append, List.singleton_append, units,
      hexDigit?_hexDigit (by omega), hexDigit?_hexDigit (by omega)]
    simp only [hsum, UInt8.ofNat_toNat]

/-- Bytes are read from the characters that they are written as, whatever follows. -/
theorem units_encodeBytes_append (bs : Bytes) (rest : List Char) :
    units (encodeBytes bs ++ rest) = bs.map .inl ++ units rest := by
  induction bs with
  | nil => rfl
  | cons b bs ih =>
    rw [encodeBytes] at ih ⊢
    rw [List.flatMap_cons, List.append_assoc, units_encodeByte, ih, List.map_cons, List.cons_append]

theorem units_encodeBytes (bs : Bytes) : units (encodeBytes bs) = bs.map .inl := by
  have h := units_encodeBytes_append bs []
  rwa [List.append_nil, units, List.append_nil] at h

/-- A text is read back from its percent-encoded form. -/
theorem decode_encode (s : String) : decode (encode s).toList = s := by
  rw [encode, String.toList_ofList, decode, units_encodeBytes, Utf8.decodeMixed_encode]

end Percent

end ServiceWire
