import ServiceWire.Codec.Scalar
import ServiceWire.Json.OfValue
import ServiceWire.Proofs.Codec.Success
import ServiceWire.Proofs.Shape.WellTyped
import ServiceWire.Proofs.Text.Base64
import ServiceWire.Proofs.Time.Iso8601
import ServiceWire.Proofs.Time.Rfc822

/-!
# Scalars read back

What a scalar is written as, a document or a text, is read as the scalar, and whatever is read is a
scalar of its kind, which can be written again.
-/

namespace ServiceWire

/-!
## Scalars as documents

The document of a scalar is a document of JSON, is never null and is read back as the scalar. Of
timestamps this needs whole seconds: a fraction is written as the nearest number.
-/

/-! ### Documents as values -/

mutual

theorem Json.ofValue_toValue (d : Json) : Json.ofValue d.toValue = .ok d := by
  cases d with
  | null => rfl
  | bool b => rfl
  | int i => rfl
  | float x => rfl
  | str s => rfl
  | array items => rw [Json.toValue, Json.ofValue, Json.ofValues_toValues]; rfl
  | object fields => rw [Json.toValue, Json.ofValue, Json.ofEntries_toEntries]; rfl

theorem Json.ofValues_toValues (ds : List Json) : Json.ofValues (Json.toValues ds) = .ok ds := by
  cases ds with
  | nil => rfl
  | cons d rest =>
    rw [Json.toValues, Json.ofValues, Json.ofValue_toValue, Json.ofValues_toValues]
    rfl

theorem Json.ofEntries_toEntries (fields : List (String × Json)) :
    Json.ofEntries (Json.toEntries fields) = .ok fields := by
  cases fields with
  | nil => rfl
  | cons p rest =>
    obtain ⟨k, d⟩ := p
    rw [Json.toEntries, Json.ofEntries, Json.ofValue_toValue, Json.ofEntries_toEntries]
    rfl

end

theorem Json.toValue_injective : Function.Injective Json.toValue := by
  intro d e h
  have hd := Json.ofValue_toValue d
  rw [h, Json.ofValue_toValue] at hd
  exact (Except.ok.inj hd).symm

theorem Json.toValues_eq (ds : List Json) : Json.toValues ds = ds.map Json.toValue := by
  induction ds with
  | nil => rfl
  | cons d rest ih => rw [Json.toValues, ih, List.map_cons]

theorem Json.toEntries_eq (fields : List (String × Json)) :
    Json.toEntries fields = fields.map fun p => (.str p.1, p.2.toValue) := by
  induction fields with
  | nil => rfl
  | cons p rest ih =>
    obtain ⟨k, d⟩ := p
    rw [Json.toEntries, ih, List.map_cons]

namespace Scalar

theorem readNumber_numberDocument (x : Double) : readNumber (numberDocument x) = .ok x := by
  cases x with
  | nan => rfl
  | infinite negative => cases negative <;> rfl
  | finite => rfl

theorem exists_numberDocument (x : Double) :
    ∃ d : Json, (number (.float x)).map numberDocument = .ok d.toValue ∧
      d.toValue.isNull = false ∧ (readNumber d.toValue).map Value.float = .ok (.float x) := by
  have hread := congrArg (Except.map Value.float) (readNumber_numberDocument x)
  cases x with
  | nan => exact ⟨.str "NaN", rfl, rfl, hread⟩
  | infinite negative =>
    exact ⟨.str (if negative then "-Infinity" else "Infinity"), rfl, rfl, hread⟩
  | finite negative m e h => exact ⟨.float (.finite negative m e h), rfl, rfl, hread⟩

theorem blobOfText_encode (data : Bytes) : blobOfText (Base64.encode data) = .ok data := by
  have hascii : (Base64.encode data).toList.any (fun c => 127 < c.toNat) = false := by
    rw [List.any_eq_false]
    intro c hc
    rw [Base64.encode, String.toList_ofList] at hc
    have hvisible := (Base64.isVisibleChar_of_mem_encodeChars hc).2
    simp only [decide_eq_true_eq]
    omega
  rw [blobOfText, hascii, if_neg Bool.false_ne_true, Base64.decode?_encode]

theorem timestampDocument_datetime {t u : DateTime} (h : t.toUtc = .ok u)
    (format : TimestampFormat) :
    timestampDocument format (.datetime t) = .ok (momentDocument format u) := by
  rw [timestampDocument, moment, h]
  rfl

theorem secondsDocument_of_toInt? {x : Double} {k : Int} (h : x.toInt? = some k) :
    secondsDocument x = .int k := by
  rw [secondsDocument, h]

/-- A moment on a whole second has an integer for its document. -/
theorem exists_epochDocument {t : DateTime} (hu : t.IsUtc) (hs : t.OnSecond) :
    ∃ k : Int, epochDocument t = .int k ∧ DateTime.ofEpochInt k = .ok t := by
  obtain ⟨k, hk, hbound, hlo, hhi⟩ := DateTime.exists_seconds hs
  refine ⟨k, ?_, DateTime.ofEpochInt_seconds hu hk hlo hhi⟩
  rw [epochDocument, secondsDocument_of_toInt? (DateTime.toInt?_epochSeconds hk hbound)]

/-- The scalars that are the same after they were written to a document: of timestamps, those on a
whole second. -/
def Whole : Value → Prop
  | .datetime t => t.OnSecond
  | _ => True

/-- A scalar is written as a document that is not null and is read as the scalar. -/
theorem exists_document {kind : ScalarKind} {v : Value} (h : OfKind kind v) (hw : Whole v) :
    ∃ d : Json, toDocument kind v = .ok d.toValue ∧ d.toValue.isNull = false ∧
      ofDocument kind d.toValue = .ok v := by
  cases h with
  | string s => exact ⟨.str s, rfl, rfl, rfl⟩
  | integer i => exact ⟨.int i, rfl, rfl, rfl⟩
  | long i => exact ⟨.int i, rfl, rfl, rfl⟩
  | boolean b => exact ⟨.bool b, rfl, rfl, rfl⟩
  | float x => exact exists_numberDocument x
  | double x => exact exists_numberDocument x
  | timestamp utc =>
    obtain ⟨k, hk, hread⟩ := exists_epochDocument utc hw
    refine ⟨.int k, ?_, rfl, ?_⟩
    · rw [toDocument, timestampDocument_datetime (DateTime.toUtc_of_isUtc utc)]
      exact congrArg Except.ok hk
    · rw [Json.toValue, ofDocument, readMoment, hread]
      rfl
  | blob data =>
    refine ⟨.str (Base64.encode data), rfl, rfl, ?_⟩
    rw [Json.toValue, ofDocument, readBlob, string]
    exact congrArg (Except.map Value.ofBytes) (blobOfText_encode data)

/-!
## Scalars as texts

The text of a scalar is read back as the scalar. Numbers with a fraction are left out: whether
their digits are enough to tell them apart is a question of its own. In header fields the moments
are left out that their dates do not give exactly: a date has whole seconds, and its year is not
taken for one of two digits.
-/

/-- The kinds whose scalars are the same after they were written as texts. -/
def Exact (kind : ScalarKind) : Prop := kind ≠ .float ∧ kind ≠ .double

instance (kind : ScalarKind) : Decidable (Exact kind) := by
  unfold Exact
  infer_instance

theorem strip_toString (i : Int) : Text.strip (toString i) = toString i :=
  Text.strip_eq_self fun _ h => Number.isVisibleChar_of_mem_toString h

theorem strip_encode (data : Bytes) : Text.strip (Base64.encode data) = Base64.encode data := by
  refine Text.strip_eq_self fun c h => ?_
  rw [Base64.encode, String.toList_ofList] at h
  exact Base64.isVisibleChar_of_mem_encodeChars h

theorem booleanOfText_text (b : Bool) : booleanOfText (if b then "true" else "false") = .ok b := by
  cases b with
  | false => cbv
  | true => cbv

theorem textOf_timestamp {t : DateTime} (h : t.IsUtc) (f : TimestampFormat) :
    textOf f .timestamp (.datetime t) = .ok (momentDocument f t).text := by
  rw [textOf, timestampDocument_datetime (DateTime.toUtc_of_isUtc h)]
  rfl

/-- A scalar is written as a text that is read as the scalar. -/
theorem exists_text {kind : ScalarKind} {v : Value} (h : OfKind kind v) (hk : Exact kind) :
    ∃ s, textOf .iso8601 kind v = .ok s ∧ ofText kind s = .ok v := by
  cases h with
  | string s => exact ⟨s, rfl, rfl⟩
  | integer i =>
    refine ⟨toString i, rfl, ?_⟩
    rw [ofText, strip_toString, integerOfText, Number.readInt?_toString]
    rfl
  | long i =>
    refine ⟨toString i, rfl, ?_⟩
    rw [ofText, strip_toString, integerOfText, Number.readInt?_toString]
    rfl
  | float x => exact absurd rfl hk.1
  | double x => exact absurd rfl hk.2
  | boolean b =>
    refine ⟨if b then "true" else "false", rfl, ?_⟩
    rw [ofText, booleanOfText_text]
    rfl
  | timestamp utc =>
    refine ⟨Iso8601.render _, textOf_timestamp utc .iso8601, ?_⟩
    rw [ofText, momentOfText_render utc]
    rfl
  | blob data =>
    refine ⟨Base64.encode data, rfl, ?_⟩
    rw [ofText, strip_encode, blobOfText_encode]
    rfl

/-! ### Header fields -/

/-- The scalars that are the same after they were written to a header field: of moments, those on a
whole second from the year 100 on. -/
def InHeader : Value → Prop
  | .datetime t => t.OnSecond ∧ 100 ≤ t.fields.date.year
  | _ => True

/-- The format of timestamps matters to no other kind. -/
theorem textOf_format {kind : ScalarKind} (h : kind ≠ .timestamp) (f f' : TimestampFormat)
    (v : Value) : textOf f kind v = textOf f' kind v := by
  cases kind with
  | timestamp => exact absurd rfl h
  | _ => rfl

/-- A scalar is written to a header field as a text that is read as the scalar. -/
theorem exists_headerText {kind : ScalarKind} {v : Value} (h : OfKind kind v) (hk : Exact kind)
    (hv : InHeader v) : ∃ s, textOf .rfc822 kind v = .ok s ∧ ofText kind s = .ok v := by
  by_cases hkind : kind = .timestamp
  · subst hkind
    cases h with
    | timestamp utc =>
      refine ⟨Rfc822.render _, textOf_timestamp utc .rfc822, ?_⟩
      rw [ofText, momentOfText_rfc822 utc hv.1 hv.2]
      rfl
  · rw [textOf_format hkind .rfc822 .iso8601]
    exact exists_text h hk

/-!
## What is read as a scalar

Whatever a scalar was read from, a text or a document, it is of its kind: a moment was put on the
UTC clock before it became a value. And whatever is of a kind has a text and a document. So what was
read can be written, though not always as it stood: a moment may lose a fraction of a second.
-/

theorem isUtc_of_epochMoment? {text : String} {t : DateTime}
    (h : epochMoment? text = .ok (some t)) : t.IsUtc := by
  rw [epochMoment?] at h
  split at h
  · cases h
  · split at h
    · rename_i hx
      cases h
      exact DateTime.isUtc_of_ofEpochDouble hx
    · cases h
    · cases h

theorem isUtc_of_writtenMoment {raw text : String} {t : DateTime}
    (h : writtenMoment raw text = .ok t) : t.IsUtc := by
  rw [writtenMoment] at h
  split at h
  · split at h
    · exact DateTime.isUtc_of_toUtc h
    · cases h
  · split at h
    · rename_i hparse
      cases h
      obtain ⟨u, -, hu⟩ := exists_of_bind hparse
      exact DateTime.isUtc_of_toUtc hu
    · cases h
    · cases h
    · cases h

theorem isUtc_of_momentOfText {raw : String} {t : DateTime} (h : momentOfText raw = .ok t) :
    t.IsUtc := by
  rw [momentOfText] at h
  obtain ⟨epoch, hepoch, h⟩ := exists_of_bind h
  cases epoch with
  | none => exact isUtc_of_writtenMoment h
  | some u =>
    cases h
    exact isUtc_of_epochMoment? hepoch

theorem isUtc_of_readMoment {v : Value} {t : DateTime} (h : readMoment v = .ok t) : t.IsUtc := by
  cases v with
  | int i => exact DateTime.isUtc_of_ofEpochInt h
  | float x => exact DateTime.isUtc_of_ofEpochDouble h
  | str s => exact isUtc_of_momentOfText h
  | _ => cases h

/-- What is read from a document is of the kind that was asked for. -/
theorem ofKind_of_ofDocument {kind : ScalarKind} {d v : Value} (h : ofDocument kind d = .ok v) :
    OfKind kind v := by
  cases kind with
  | string => obtain ⟨s, -, rfl⟩ := exists_of_map h; exact .string s
  | integer => obtain ⟨i, -, rfl⟩ := exists_of_map h; exact .integer i
  | long => obtain ⟨i, -, rfl⟩ := exists_of_map h; exact .long i
  | float => obtain ⟨x, -, rfl⟩ := exists_of_map h; exact .float x
  | double => obtain ⟨x, -, rfl⟩ := exists_of_map h; exact .double x
  | boolean => obtain ⟨b, -, rfl⟩ := exists_of_map h; exact .boolean b
  | timestamp =>
    obtain ⟨t, ht, rfl⟩ := exists_of_map h
    exact .timestamp (isUtc_of_readMoment ht)
  | blob => obtain ⟨data, -, rfl⟩ := exists_of_map h; exact .blob data

/-- What is read from a text is of the kind that was asked for. -/
theorem ofKind_of_ofText {kind : ScalarKind} {s : String} {v : Value}
    (h : ofText kind s = .ok v) : OfKind kind v := by
  cases kind with
  | string => cases h; exact .string s
  | integer => rw [ofText] at h; obtain ⟨i, -, rfl⟩ := exists_of_map h; exact .integer i
  | long => rw [ofText] at h; obtain ⟨i, -, rfl⟩ := exists_of_map h; exact .long i
  | float => rw [ofText] at h; obtain ⟨x, -, rfl⟩ := exists_of_map h; exact .float x
  | double => rw [ofText] at h; obtain ⟨x, -, rfl⟩ := exists_of_map h; exact .double x
  | boolean => rw [ofText] at h; obtain ⟨b, -, rfl⟩ := exists_of_map h; exact .boolean b
  | timestamp =>
    rw [ofText] at h
    obtain ⟨t, ht, rfl⟩ := exists_of_map h
    exact .timestamp (isUtc_of_momentOfText ht)
  | blob => rw [ofText] at h; obtain ⟨data, -, rfl⟩ := exists_of_map h; exact .blob data

/-- What is of a kind has a text, whatever the format of timestamps. -/
theorem exists_textOf {kind : ScalarKind} {v : Value} (h : OfKind kind v)
    (format : TimestampFormat) : ∃ s, textOf format kind v = .ok s := by
  cases h with
  | timestamp utc => exact ⟨_, textOf_timestamp utc format⟩
  | _ => exact ⟨_, rfl⟩

/-- What is of a kind has a document. -/
theorem exists_toDocument {kind : ScalarKind} {v : Value} (h : OfKind kind v) :
    ∃ d, toDocument kind v = .ok d := by
  cases h with
  | timestamp utc =>
    exact ⟨_, timestampDocument_datetime (DateTime.toUtc_of_isUtc utc) .epochSeconds⟩
  | _ => exact ⟨_, rfl⟩

end Scalar

end ServiceWire
