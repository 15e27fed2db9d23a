import ServiceWire.Http.UriTemplate
import ServiceWire.Proofs.Text.Cut
import ServiceWire.Proofs.Text.Percent

/-!
# Values in paths

A value stands in a path character by character: a slash of a greedy label as itself, every other
character by the bytes of its UTF-8 form. So what stands there is a text over unreserved
characters, groups `%XX` and, for a greedy label, slashes; it has exactly the slashes of the value
of a greedy label, and the value is read back from it.
-/

namespace ServiceWire.UriTemplate

/-- A letter, a digit, or one of the four signs that are never encoded. -/
def isPlain (c : Char) : Bool := c.isAlphanum || ['_', '.', '~', '-'].contains c

/-- An upper-case hexadecimal digit. -/
def isGroupDigit (c : Char) : Bool := "0123456789ABCDEF".toList.contains c

/-- The texts that may stand in a path for a value. -/
inductive PathText (slashes : Bool) : List Char → Prop
  | nil : PathText slashes []
  | plain {c : Char} {cs : List Char} :
      isPlain c = true → PathText slashes cs → PathText slashes (c :: cs)
  | group {a b : Char} {cs : List Char} :
      isGroupDigit a = true → isGroupDigit b = true → PathText slashes cs →
        PathText slashes ('%' :: a :: b :: cs)
  | slash {cs : List Char} :
      slashes = true → PathText slashes cs → PathText slashes ('/' :: cs)

/-- A character as it stands in a path. -/
def encodeChar (greedy : Bool) (c : Char) : List Char :=
  if greedy = true ∧ c = '/' then ['/'] else Percent.encodeBytes (String.utf8EncodeChar c)

section

variable (greedy : Bool)

theorem toList_encode (cs : List Char) :
    (Percent.encode (String.ofList cs)).toList = cs.flatMap (encodeChar false) := by
  have hchar : encodeChar false = fun c => Percent.encodeBytes (String.utf8EncodeChar c) :=
    funext fun c => if_neg (fun h => Bool.false_ne_true h.1)
  rw [Percent.encode, String.toList_ofList, Utf8.encode_eq_flatMap, String.toList_ofList,
    Percent.encodeBytes, List.flatMap_assoc, hchar]
  rfl

theorem toList_join_pieces (cs : List Char) :
    (Text.join "/" ((Text.pieces '/' cs).map fun p => Percent.encode (String.ofList p))).toList =
      cs.flatMap (encodeChar true) := by
  induction cs with
  | nil => rfl
  | cons c rest ih =>
    -- The pieces of the rest are taken apart: the first of them goes on with the character.
    cases hrest : Text.pieces '/' rest with
    | nil => exact absurd hrest (Text.pieces_ne_nil '/' rest)
    | cons p ps =>
      rw [hrest, List.map_cons, Text.toList_join_cons, toList_encode] at ih
      rw [Text.pieces, hrest, List.flatMap_cons, ← ih]
      by_cases hc : c = '/'
      · subst hc
        rw [if_pos (beq_self_eq_true '/'), List.map_cons, Text.toList_join_cons, List.map_cons,
          List.flatMap_cons, toList_encode, toList_encode, encodeChar, if_pos ⟨rfl, rfl⟩]
        rfl
      · rw [if_neg (by simpa using hc), List.map_cons, Text.toList_join_cons, toList_encode,
          List.flatMap_cons, List.append_assoc, encodeChar, encodeChar, if_neg (by simp),
          if_neg (fun h => hc h.2)]

/-- A value stands in a path character by character. -/
theorem toList_encodeText (value : String) :
    (encodeText greedy value).toList = value.toList.flatMap (encodeChar greedy) := by
  rw [encodeText]
  cases greedy with
  | true => exact toList_join_pieces value.toList
  | false =>
    have h := toList_encode value.toList
    rwa [String.ofList_toList] at h

/-! ### Values read back -/

theorem units_encodeChar (c : Char) (rest : List Char) :
    Percent.units (encodeChar greedy c ++ rest) =
      (String.utf8EncodeChar c).map .inl ++ Percent.units rest := by
  rw [encodeChar]
  split
  · rename_i h
    rw [h.2, List.singleton_append, Percent.units_cons_of_ne (by decide)]
    rfl
  · exact Percent.units_encodeBytes_append _ rest

/-- A value is read back from what stands for it in a path. -/
theorem decode_encodeText (value : String) :
    Percent.decode (encodeText greedy value).toList = value := by
  have hunits (cs : List Char) : Percent.units (cs.flatMap (encodeChar greedy)) =
      (cs.flatMap String.utf8EncodeChar).map .inl := by
    induction cs with
    | nil => rfl
    | cons c rest ih =>
      rw [List.flatMap_cons, units_encodeChar, ih, List.flatMap_cons, List.map_append]
  rw [Percent.decode, toList_encodeText, hunits, ← Utf8.encode_eq_flatMap,
    Utf8.decodeMixed_encode]

/-! ### What the values are made of -/

theorem pathText_encodeByte (b : UInt8) {cs : List Char} (h : PathText greedy cs) :
    PathText greedy (Percent.encodeByte b ++ cs) := by
  have hplain : ∀ n : Fin 256, Percent.isUnreserved (UInt8.ofNat n.val) = true →
      isPlain (Char.ofNat n.val) = true := by decide +kernel
  have hdigit : ∀ n : Fin 16, isGroupDigit (Percent.hexDigit n.val) = true := by decide
  have hb := b.toNat_lt
  rw [Percent.encodeByte]
  split
  · rename_i hunreserved
    exact .plain (hplain ⟨b.toNat, hb⟩ (by rwa [UInt8.ofNat_toNat])) h
  · exact .group (hdigit ⟨b.toNat / 16, by omega⟩) (hdigit ⟨b.toNat % 16, by omega⟩) h

theorem pathText_encodeBytes (bs : Bytes) {cs : List Char} (h : PathText greedy cs) :
    PathText greedy (Percent.encodeBytes bs ++ cs) := by
  induction bs with
  | nil => exact h
  | cons b rest ih =>
    rw [Percent.encodeBytes, List.flatMap_cons, List.append_assoc]
    exact pathText_encodeByte greedy b ih

theorem pathText_encodeText (value : String) :
    PathText greedy (encodeText greedy value).toList := by
  rw [toList_encodeText]
  induction value.toList with
  | nil => exact .nil
  | cons c rest ih =>
    rw [List.flatMap_cons, encodeChar]
    split
    · rename_i h
      exact .slash h.1 ih
    · exact pathText_encodeBytes greedy _ ih

/-- Only the slashes of the value of a greedy label stand in a path. -/
theorem count_encodeText (value : String) :
    (encodeText greedy value).toList.count '/' =
      if greedy then value.toList.count '/' else 0 := by
  have hbytes (bs : Bytes) : (Percent.encodeBytes bs).count '/' = 0 :=
    List.count_eq_zero.mpr (Percent.not_mem_encodeBytes (by decide) bs)
  rw [toList_encodeText]
  induction value.toList with
  | nil => rw [List.flatMap_nil, List.count_nil, ite_self]
  | cons c rest ih =>
    rw [List.flatMap_cons, List.count_append, ih, encodeChar]
    by_cases hc : c = '/'
    · subst hc
      cases greedy with
      | true =>
        rw [if_pos ⟨rfl, rfl⟩, if_pos rfl, if_pos rfl, List.count_singleton_self,
          List.count_cons_self, Nat.add_comm]
      | false => rw [if_neg (by decide), hbytes, if_neg (by decide), if_neg (by decide)]
    · rw [if_neg (fun h => hc h.2), hbytes, List.count_cons_of_ne hc, Nat.zero_add]

theorem encodeText_injective : Function.Injective (encodeText greedy) := by
  intro a b h
  rw [← decode_encodeText greedy a, ← decode_encodeText greedy b, h]

end

end ServiceWire.UriTemplate
