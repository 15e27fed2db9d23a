import ServiceWire.Http.Message
import ServiceWire.Proofs.Codec.Success
import ServiceWire.Proofs.Entries
import ServiceWire.Proofs.Text.Ascii

/-!
# Header fields read back

The header fields of a request have texts for names, and fields of different names stay beside each
other in the order in which they were put. If the names differ in more than case, a response with
the same fields has all of them: each is found by its name, and all stand in their order.
-/

namespace ServiceWire

/-! ### Requests -/

/-- Header fields as they stand in a request: their names are texts. -/
def textKeys {ν : Type} (fields : List (String × ν)) : List (Value × ν) :=
  fields.map fun p => (.str p.1, p.2)

namespace Entries

variable {ν : Type}

theorem put_textKeys (name : String) (x : ν) (fields : List (String × ν)) :
    put (.str name) x (textKeys fields) = textKeys (put name x fields) := by
  induction fields with
  | nil => rfl
  | cons p rest ih =>
    obtain ⟨k, y⟩ := p
    change put (.str name) x ((.str k, y) :: textKeys rest) = _
    rw [put, put, Value.str_beq_str, ih]
    split
    · rfl
    · rfl

theorem putAll_textKeys (fields more : List (String × ν)) :
    putAll (textKeys fields) (textKeys more) = textKeys (putAll fields more) := by
  induction more generalizing fields with
  | nil => rfl
  | cons p rest ih =>
    change putAll (put (.str p.1) p.2 (textKeys fields)) (textKeys rest) = _
    rw [put_textKeys, ih]
    rfl

theorem lookup_textKeys (name : String) (fields : List (String × ν)) :
    (textKeys fields).lookup (.str name) = fields.lookup name := by
  induction fields with
  | nil => rfl
  | cons p rest ih =>
    change ((Value.str p.1, p.2) :: textKeys rest).lookup (.str name) = _
    rw [List.lookup_cons, List.lookup_cons, Value.str_beq_str, ih]

theorem putNew_textKeys {name : String} (x : ν) {fields : List (String × ν)}
    (h : name ∉ fields.map Prod.fst) :
    putNew (.str name) x (textKeys fields) = textKeys (fields ++ [(name, x)]) := by
  have hnone : fields.lookup name = none := by
    rw [mem_keys_iff, Bool.not_eq_true, Option.isSome_eq_false_iff, Option.isNone_iff_eq_none] at h
    exact h
  rw [putNew, lookup_textKeys, hnone]
  rw [textKeys, textKeys, List.map_append]
  rfl

theorem put_textKeys_new {name : String} (x : ν) {fields : List (String × ν)}
    (h : name ∉ fields.map Prod.fst) :
    put (.str name) x (textKeys fields) = textKeys (fields ++ [(name, x)]) := by
  rw [put_textKeys, put_eq_append]
  intro p hp
  refine beq_false_of_ne ?_
  rintro rfl
  exact h (List.mem_map_of_mem hp)

end Entries

/-! ### Responses -/

namespace Headers

variable {fields : List (String × Value)}

/-- A response has the header fields of a request. -/
theorem ofEntries_textKeys (fields : List (String × Value)) :
    ofEntries (textKeys fields) = .ok (ofPairs fields) := by
  have hnames : (textKeys fields).mapM (fun p => (nameOf p.1).map fun name => (name, p.2)) =
      .ok fields := by
    rw [textKeys, List.mapM_map]
    refine (mapM_eq_pure (h := id) fun p _ => rfl).trans ?_
    rw [List.map_id]
    rfl
  rw [ofEntries, hnames]
  rfl

section Distinct

variable (h : (fields.map fun p => Text.lower p.1).Nodup)

include h

theorem fields_ofPairs :
    (ofPairs fields).fields = fields.map fun p => (Text.lower p.1, p.1, p.2) := by
  refine Entries.ofPairs_eq_self ?_
  rw [List.map_map]
  exact h

/-- All fields stand in their order. -/
theorem toList_ofPairs : (ofPairs fields).toList = fields := by
  rw [toList, fields_ofPairs h, List.map_map]
  exact List.map_id fields

/-- Each field is found by its name, however that is spelled. -/
theorem get?_ofPairs {p : String × Value} (hp : p ∈ fields) :
    (ofPairs fields).get? p.1 = some p.2 := by
  have hlookup : (fields.map fun q => (Text.lower q.1, q.1, q.2)).lookup (Text.lower p.1) =
      some (p.1, p.2) := by
    refine Entries.lookup_of_mem ?_ (List.mem_map.mpr ⟨p, hp, rfl⟩)
    rw [List.map_map]
    exact h
  rw [get?, fields_ofPairs h, hlookup]
  rfl

/-- What is no name of a field has no value. -/
theorem get?_ofPairs_none {name : String} (hname : ∀ p ∈ fields, Text.lower p.1 ≠ Text.lower name) :
    (ofPairs fields).get? name = none := by
  have hlookup : (fields.map fun q => (Text.lower q.1, q.1, q.2)).lookup (Text.lower name) =
      none := by
    refine List.lookup_eq_none_iff.mpr fun q hq => ?_
    obtain ⟨p, hp, rfl⟩ := List.mem_map.mp hq
    exact bne_iff_ne.mpr (hname p hp).symm
  rw [get?, fields_ofPairs h, hlookup]
  rfl

end Distinct

end Headers

end ServiceWire
