import ServiceWire.Proofs.Text.Ascii
import ServiceWire.Text.Base64

/-!
# Base64 reads back

Reading the Base64 form of a byte string gives the byte string. A form is a run of whole groups
followed by at most one padded group, so the proof goes through it three bytes at a time. Every
character of a form is a visible ASCII character, which is what lets a form be trimmed and checked
for ASCII without a loss.
-/

namespace ServiceWire.Base64

open ServiceWire.Text (IsVisibleChar)

theorem value?_digit {n : Nat} (h : n < 64) : value? (digit n) = some n := by
  have all : ∀ k : Fin 64, value? (digit k) = some k.val := by decide
  exact all ⟨n, h⟩

theorem digit_ne_pad {n : Nat} (h : n < 64) : digit n ≠ '=' := by
  have all : ∀ k : Fin 64, digit k ≠ '=' := by decide
  exact all ⟨n, h⟩

theorem isVisibleChar_digit {n : Nat} (h : n < 64) : IsVisibleChar (digit n) := by
  have all : ∀ k : Fin 64, 0x21 ≤ (digit k).toNat ∧ (digit k).toNat ≤ 0x7E := by decide
  exact all ⟨n, h⟩

theorem decodeChars?_padded_two {a b : Nat} (ha : a < 64) (hb : b < 64) :
    decodeChars? [digit a, digit b, '=', '='] = some [UInt8.ofNat ((a * 64 + b) / 16)] := by
  rw [decodeChars?, value?_digit ha, value?_digit hb]
  rfl

theorem decodeChars?_padded_one {a b c : Nat} (ha : a < 64) (hb : b < 64) (hc : c < 64) :
    decodeChars? [digit a, digit b, digit c, '='] =
      some [UInt8.ofNat (((a * 64 + b) * 64 + c) / 1024),
        UInt8.ofNat (((a * 64 + b) * 64 + c) / 4 % 256)] := by
  rw [decodeChars?, value?_digit ha, value?_digit hb, value?_digit hc]
  · rfl
  · exact digit_ne_pad hc

theorem decodeChars?_group {a b c d : Nat} (ha : a < 64) (hb : b < 64) (hc : c < 64) (hd : d < 64)
    {rest : List Char} {tail : Bytes} (h : decodeChars? rest = some tail)
    (hp : rest.all (· == '=') = true → tail = []) :
    decodeChars? (digit a :: digit b :: digit c :: digit d :: rest) =
      some (UInt8.ofNat ((((a * 64 + b) * 64 + c) * 64 + d) / 65536) ::
        UInt8.ofNat ((((a * 64 + b) * 64 + c) * 64 + d) / 256 % 256) ::
          UInt8.ofNat ((((a * 64 + b) * 64 + c) * 64 + d) % 256) :: tail) := by
  rw [decodeChars?, value?_digit ha, value?_digit hb, value?_digit hc, value?_digit hd]
  · simp only [Option.bind_eq_bind, Option.bind_some, Option.pure_def]
    split
    · rename_i hr
      rw [hp hr]
    · rw [h, Option.bind_some]
  · intro _ h'
    exact absurd h' (digit_ne_pad hd)
  · intro h'
    exact absurd h' (digit_ne_pad hd)

/-- A form that is nothing but padding is empty. -/
theorem eq_nil_of_all_pad {bs : Bytes} (h : (encodeChars bs).all (· == '=') = true) : bs = [] := by
  match bs with
  | [] => rfl
  | [a] =>
    have := a.toNat_lt
    simp [encodeChars, digit_ne_pad (show a.toNat * 16 / 64 < 64 by omega)] at h
  | [a, b] =>
    have := a.toNat_lt
    have := b.toNat_lt
    simp [encodeChars, digit_ne_pad (show (a.toNat * 256 + b.toNat) * 4 / 4096 < 64 by omega)] at h
  | a :: b :: c :: rest =>
    have := a.toNat_lt
    have := b.toNat_lt
    have := c.toNat_lt
    simp [encodeChars, digit_ne_pad
      (show ((a.toNat * 256 + b.toNat) * 256 + c.toNat) / 262144 < 64 by omega)] at h

theorem decodeChars?_encodeChars : ∀ bs : Bytes, decodeChars? (encodeChars bs) = some bs
  | [] => by simp [encodeChars, decodeChars?]
  | [a] => by
    have := a.toNat_lt
    rw [encodeChars, decodeChars?_padded_two (by omega) (by omega)]
    have : (a.toNat * 16 / 64 * 64 + a.toNat * 16 % 64) / 16 = a.toNat := by omega
    rw [this, UInt8.ofNat_toNat]
  | [a, b] => by
    have := a.toNat_lt
    have := b.toNat_lt
    rw [encodeChars, decodeChars?_padded_one (by omega) (by omega) (by omega)]
    have h1 : (((a.toNat * 256 + b.toNat) * 4 / 4096 * 64 +
        (a.toNat * 256 + b.toNat) * 4 / 64 % 64) * 64 +
          (a.toNat * 256 + b.toNat) * 4 % 64) / 1024 = a.toNat := by omega
    have h2 : (((a.toNat * 256 + b.toNat) * 4 / 4096 * 64 +
        (a.toNat * 256 + b.toNat) * 4 / 64 % 64) * 64 +
          (a.toNat * 256 + b.toNat) * 4 % 64) / 4 % 256 = b.toNat := by omega
    rw [h1, h2, UInt8.ofNat_toNat, UInt8.ofNat_toNat]
  | a :: b :: c :: rest => by
    have := a.toNat_lt
    have := b.toNat_lt
    have := c.toNat_lt
    rw [encodeChars, decodeChars?_group (by omega) (by omega) (by omega) (by omega)
      (decodeChars?_encodeChars rest) eq_nil_of_all_pad]
    generalize hn : (a.toNat * 256 + b.toNat) * 256 + c.toNat = n
    have hs : ((n / 262144 * 64 + n / 4096 % 64) * 64 + n / 64 % 64) * 64 + n % 64 = n := by omega
    rw [hs, show n / 65536 = a.toNat by omega, show n / 256 % 256 = b.toNat by omega,
      show n % 256 = c.toNat by omega, UInt8.ofNat_toNat, UInt8.ofNat_toNat, UInt8.ofNat_toNat]

theorem decode?_encode (bs : Bytes) : decode? (encode bs) = some bs := by
  rw [decode?, encode, String.toList_ofList]
  exact decodeChars?_encodeChars bs

/-- A form is made of digits and of padding. -/
theorem eq_pad_or_digit_of_mem_encodeChars :
    ∀ {bs : Bytes} {c : Char}, c ∈ encodeChars bs → c = '=' ∨ ∃ n, n < 64 ∧ c = digit n
  | [a], c, h => by
    have := a.toNat_lt
    simp only [encodeChars, List.mem_cons, List.not_mem_nil, or_false] at h
    rcases h with rfl | rfl | rfl | rfl
    · exact .inr ⟨_, by omega, rfl⟩
    · exact .inr ⟨_, by omega, rfl⟩
    · exact .inl rfl
    · exact .inl rfl
  | [a, b], c, h => by
    have := a.toNat_lt
    have := b.toNat_lt
    simp only [encodeChars, List.mem_cons, List.not_mem_nil, or_false] at h
    rcases h with rfl | rfl | rfl | rfl
    · exact .inr ⟨_, by omega, rfl⟩
    · exact .inr ⟨_, by omega, rfl⟩
    · exact .inr ⟨_, by omega, rfl⟩
    · exact .inl rfl
  | a :: b :: d :: rest, c, h => by
    have := a.toNat_lt
    have := b.toNat_lt
    have := d.toNat_lt
    simp only [encodeChars, List.mem_cons] at h
    rcases h with rfl | rfl | rfl | rfl | h
    · exact .inr ⟨_, by omega, rfl⟩
    · exact .inr ⟨_, by omega, rfl⟩
    · exact .inr ⟨_, by omega, rfl⟩
    · exact .inr ⟨_, by omega, rfl⟩
    · exact eq_pad_or_digit_of_mem_encodeChars h

theorem isVisibleChar_of_mem_encodeChars {bs : Bytes} {c : Char} (h : c ∈ encodeChars bs) :
    IsVisibleChar c := by
  rcases eq_pad_or_digit_of_mem_encodeChars h with rfl | ⟨n, hn, rfl⟩
  · simp [IsVisibleChar]
  · exact isVisibleChar_digit hn

theorem digit_ne_comma {n : Nat} (h : n < 64) : digit n ≠ ',' := by
  have all : ∀ k : Fin 64, digit k ≠ ',' := by decide
  exact all ⟨n, h⟩

theorem comma_not_mem_encode (bs : Bytes) : ',' ∉ (encode bs).toList := by
  intro h
  rw [encode, String.toList_ofList] at h
  rcases eq_pad_or_digit_of_mem_encodeChars h with heq | ⟨n, hn, heq⟩
  · cases heq
  · exact digit_ne_comma hn heq.symm

end ServiceWire.Base64
