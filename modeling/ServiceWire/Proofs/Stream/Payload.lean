import ServiceWire.Proofs.Codec.JsonText
import ServiceWire.Proofs.Stream.FrameFields

/-!
# Payloads of events

The payload of a frame has the members of a value that are not located in the header. They come in
five ways: a byte string or a text is the payload as it is, any other payload member is a document
of its own or leaves the payload empty, and without a payload member all of them share a document.
Each way is read back as the members that it was written with.
-/

namespace ServiceWire.EventHandler

/-- The values of a shape can be sent as events: each member has a place of its own in the header,
in the payload or in the document of the payload. -/
structure Framed (g : Graph) (r : g.Ref) : Prop where
  form : (g.shape r).form = .struct (g.members r)
  construct : (g.shape r).construct = none
  names : ((g.members r).map Member.name).Nodup
  located : ∀ m ∈ g.members r, m.location = .header ∨ m.location = .body
  /-- The names on the wire are texts. -/
  texts : ∀ m ∈ g.members r, m.wireName = .str m.wireName.text
  headerNames :
    (((g.members r).filter fun m => m.location == .header).map fun m => m.wireName.text).Nodup
  unreserved : ∀ m ∈ g.members r, m.location = .header → m.wireName.text ∉ Frame.reserved
  bodyNames : ((g.shape r).bodyMembers.map fun m => m.wireName.text).Nodup
  /-- The payload member is the only one that is not in the header. -/
  payload : ∀ m, (g.shape r).payloadMember? = some m →
    m.location = .body ∧ ∀ m' ∈ g.members r, m'.location = .body → m' = m
  /-- Whatever is part of a document can be read back. -/
  parts : ∀ m ∈ g.members r, m.location = .body →
    ∀ q, g.Leads m.shape q → JsonBody.Distinct (g.shape q)

/-- The members of a structure that are not located in the header. -/
def outside (g : Graph) (r : g.Ref) : List (Member g.size) :=
  (g.members r).filter fun m => m.location != .header

/-- A payload member whose value, a byte string or a text, is the payload as it is. -/
def Raw (g : Graph) (m : Member g.size) : Prop :=
  (g.shape m.shape).kind = .scalar .blob ∨ (g.shape m.shape).kind = .scalar .string

/-- The document that is in the payload, unless the payload is empty or a value as it is. -/
def payloadDocument? (c : Codec) (g : Graph) (r : g.Ref) (v : Value) :
    Option (Except Fault Value) :=
  let s := g.shape r
  match s.payloadMember? with
  | none => some (JsonBody.toDocument c g v r (some s.bodyMembers))
  | some m =>
    match (g.shape m.shape).kind with
    | .scalar .blob | .scalar .string => none
    | _ =>
      if (memberValue g v m).isNull then none
      else some (JsonBody.toDocument c g (memberValue g v m) m.shape none)

/-- Reading the text of the document in the payload gives the document. -/
def ParsesBack (c : Codec) (g : Graph) (r : g.Ref) (v : Value) : Prop :=
  ∀ d : Json, payloadDocument? c g r v = some (.ok d.toValue) → Json.parse? d.render = some d

/-- What is written as the payload for members with values, and what is read from it. -/
structure PayloadRoundTrip (c : Codec) (g : Graph) (event : String) (r : g.Ref)
    (contentType v : Value) (parts : List (Member g.size × Value)) (data : Bytes)
    (result : Member g.size × Value → Value) : Prop where
  written : ∃ type, payloadOf c g event r contentType v = .ok (type, data)
  read : ParsesBack c g r v →
    readPayload c g (.ofBytes data) r = pure (parts.map fun q => (q.1.name, result q))
  alike : ∀ q ∈ parts, (result q).Alike q.2

variable {g : Graph} {notes : Bool} {ns : Value} {event : String} {r : g.Ref} {contentType : Value}
  {fields : List (String × Value)}

theorem memberValue_ofFields (fields : List (String × Value)) (m : Member g.size) :
    memberValue g (.ofFields fields) m = (fields.lookup m.name).getD .null := by
  rw [memberValue, Value.get?_ofFields]

/-! ### Payload members that are documents -/

section Document

variable {c : Codec} {m : Member g.size} (hm : (g.shape r).payloadMember? = some m)
  (hraw : ¬Raw g m)

include hm hraw

theorem payloadOf_of_not_raw (v : Value) :
    payloadOf c g event r contentType v =
      if (memberValue g v m).isNull then .ok (contentType, [])
      else (document c g event (memberValue g v m) m.shape none).map fun data =>
        (contentType, data) := by
  rw [payloadOf, hm]
  dsimp only
  split
  · rename_i kind
    exact absurd (.inl kind) hraw
  · rename_i kind
    exact absurd (.inr kind) hraw
  · rfl

theorem payloadDocument?_of_not_raw (v : Value) :
    payloadDocument? c g r v =
      if (memberValue g v m).isNull then none
      else some (JsonBody.toDocument c g (memberValue g v m) m.shape none) := by
  rw [payloadDocument?, hm]
  dsimp only
  split
  · rename_i kind
    exact absurd (.inl kind) hraw
  · rename_i kind
    exact absurd (.inr kind) hraw
  · rfl

theorem readPayload_of_not_raw (payload : Value) :
    readPayload c g payload r =
      if !payload.truthy then pure []
      else do
        let v ← readDocument c g payload m.shape
        return [(m.name, v)] := by
  rw [readPayload, hm]
  dsimp only
  split
  · rename_i kind
    exact absurd (.inl kind) hraw
  · rename_i kind
    exact absurd (.inr kind) hraw
  · rfl

end Document

/-! ### The five ways -/

/-- A byte string is the payload. -/
theorem payloadRoundTrip_blob {m : Member g.size} {data : Bytes}
    (hm : (g.shape r).payloadMember? = some m) (kind : (g.shape m.shape).kind = .scalar .blob)
    (hx : fields.lookup m.name = some (.ofBytes data)) :
    PayloadRoundTrip (.complete .json notes ns) g event r contentType (.ofFields fields)
      [(m, .ofBytes data)] data fun q => q.2 := by
  have hraw : rawBytes (.ofBytes data) = .ok data := by
    cases data with
    | nil => rfl
    | cons b rest => rfl
  refine ⟨⟨.str "application/octet-stream", ?_⟩, fun _ => ?_, fun q _ => .refl q.2⟩
  · rw [payloadOf, hm]
    simp only [kind, memberValue_ofFields, hx, Option.getD_some, hraw]
    rfl
  · rw [readPayload, hm]
    simp only [kind]
    rfl

/-- A text is the payload. -/
theorem payloadRoundTrip_text {m : Member g.size} {s : String}
    (hm : (g.shape r).payloadMember? = some m) (kind : (g.shape m.shape).kind = .scalar .string)
    (hx : fields.lookup m.name = some (.str s)) :
    PayloadRoundTrip (.complete .json notes ns) g event r contentType (.ofFields fields)
      [(m, .str s)] (bytesOf s) fun q => q.2 := by
  have hraw : rawText (.str s) = .ok (bytesOf s) := by
    rw [rawText, Value.truthy]
    cases hs : s.isEmpty with
    | false => rfl
    | true =>
      rw [String.isEmpty_iff.mp hs]
      rfl
  refine ⟨⟨.str "text/plain", ?_⟩, fun _ => ?_, fun q _ => .refl q.2⟩
  · rw [payloadOf, hm]
    simp only [kind, memberValue_ofFields, hx, Option.getD_some, hraw]
    rfl
  · rw [readPayload, hm]
    simp only [kind, JsonBody.bodyText_bytesOf, Reading.ofConversion_ok, pure_bind]
    rfl

/-- A payload member that has no value leaves the payload empty. -/
theorem payloadRoundTrip_absent {m : Member g.size} (hm : (g.shape r).payloadMember? = some m)
    (hraw : ¬Raw g m) (hx : fields.lookup m.name = none) (result : Member g.size × Value → Value) :
    PayloadRoundTrip (.complete .json notes ns) g event r contentType (.ofFields fields) [] []
      result := by
  refine ⟨⟨contentType, ?_⟩, fun _ => ?_, fun q hq => by cases hq⟩
  · rw [payloadOf_of_not_raw hm hraw, memberValue_ofFields, hx]
    rfl
  · rw [readPayload_of_not_raw hm hraw]
    rfl

/-- Any other payload member is a document of its own. -/
theorem payloadRoundTrip_document {m : Member g.size} {x w : Value} {d : Json}
    (hm : (g.shape r).payloadMember? = some m) (hraw : ¬Raw g m)
    (hx : fields.lookup m.name = some x) (hnull : x.isNull = false)
    (h : JsonBody.RoundTrip notes ns g m.shape x d w) :
    PayloadRoundTrip (.complete .json notes ns) g event r contentType (.ofFields fields) [(m, x)]
      (bytesOf d.render) fun _ => w := by
  have hvalue : memberValue g (.ofFields fields) m = x := by
    rw [memberValue_ofFields, hx, Option.getD_some]
  have hdocument := (JsonBody.toDocument_none x m.shape).trans h.written
  refine ⟨⟨contentType, ?_⟩, fun hparse => ?_, List.forall_mem_singleton.mpr h.alike⟩
  · have hencode : document (.complete .json notes ns) g event x m.shape none =
        .ok (bytesOf d.render) := JsonBody.encode_of_toDocument hdocument
    rw [payloadOf_of_not_raw hm hraw, hvalue, hnull, hencode]
    rfl
  · have hd : Json.parse? d.render = some d := by
      refine hparse d ?_
      rw [payloadDocument?_of_not_raw hm hraw, hvalue, hnull, hdocument]
      rfl
    have hdecode : readDocument (.complete .json notes ns) g (.ofBytes (bytesOf d.render)) m.shape =
        pure w := by
      refine (JsonBody.decode_render hd m.shape).trans ?_
      rw [JsonBody.ofDocument_none, h.read]
    rw [readPayload_of_not_raw hm hraw, JsonBody.truthy_render hd, hdecode]
    rfl

/-- Without a payload member, the members outside of the header share a document. -/
theorem exists_payloadRoundTrip_members (hr : Framed g r)
    (hnone : (g.shape r).payloadMember? = none) (notNull : ∀ p ∈ fields, p.2.isNull = false)
    (h : ∀ q ∈ present (g.shape r).bodyMembers fields,
      ∃ d w, JsonBody.RoundTrip notes ns g q.1.shape q.2 d w) :
    ∃ data result, PayloadRoundTrip (.complete .json notes ns) g event r contentType
      (.ofFields fields) (present (g.shape r).bodyMembers fields) data result := by
  have hsub : (g.shape r).bodyMembers.Sublist (g.members r) := List.filter_sublist
  obtain ⟨entries, result, hwrite, hread, halike⟩ :=
    JsonBody.exists_members (g.shape r) (hr.names.sublist (hsub.map _))
      (fun m hm => hr.texts m (hsub.subset hm)) hr.bodyNames notNull h
  have hdocument : JsonBody.toDocument (.complete .json notes ns) g (.ofFields fields) r
      (some (g.shape r).bodyMembers) = .ok (Json.object entries).toValue := by
    rw [JsonBody.toDocument]
    simp only [hr.form, Option.getD_some, hwrite]
  refine ⟨bytesOf (Json.object entries).render, result, ⟨contentType, ?_⟩, fun hparse => ?_, halike⟩
  · have hencode : document (.complete .json notes ns) g event (.ofFields fields) r
        (some (g.shape r).bodyMembers) = .ok (bytesOf (Json.object entries).render) :=
      JsonBody.encode_of_toDocument hdocument
    rw [payloadOf, hnone]
    simp only [hencode]
    rfl
  · have hd : Json.parse? (Json.object entries).render = some (.object entries) := by
      refine hparse _ ?_
      rw [payloadDocument?, hnone]
      simp only [hdocument]
    have hmembers : EventHandler.readMembers (.complete .json notes ns) g
        (.ofBytes (bytesOf (Json.object entries).render)) r =
          pure ((present (g.shape r).bodyMembers fields).map fun q => (q.1.name, result q)) := by
      rw [EventHandler.readMembers]
      simp only [Codec.complete, JsonBody.bodyText_bytesOf, JsonBody.parseText_render hd,
        Reading.ofConversion_ok, pure_bind]
      exact hread
    rw [readPayload, hnone]
    simp only [JsonBody.truthy_render hd, Bool.not_true, Bool.false_or, hmembers]
    split
    · rename_i hempty
      rw [List.isEmpty_iff.mp hempty]
      rfl
    · rfl

/-! ### Payloads of well-typed values -/

theorem outside_of_payloadMember {m : Member g.size} (hr : Framed g r)
    (hm : (g.shape r).payloadMember? = some m) : outside g r = [m] := by
  obtain ⟨hbody, honly⟩ := hr.payload m hm
  have hmem : m ∈ g.members r := List.mem_of_find?_eq_some hm
  refine List.perm_singleton.mp ((List.perm_ext_iff_of_nodup ?_ (List.nodup_singleton m)).mpr ?_)
  · exact hr.names.of_map.sublist List.filter_sublist
  · intro p
    rw [outside, List.mem_filter, List.mem_singleton, bne_iff_ne]
    constructor
    · rintro ⟨hp, hloc⟩
      exact honly p hp ((hr.located p hp).resolve_left hloc)
    · rintro rfl
      rw [hbody]
      exact ⟨hmem, by decide⟩

theorem outside_of_no_payloadMember (hr : Framed g r) (hm : (g.shape r).payloadMember? = none) :
    outside g r = (g.shape r).bodyMembers := by
  refine List.filter_congr fun m hmem => ?_
  have hpayload : m.payload = false := by simpa using List.find?_eq_none.mp hm m hmem
  rcases hr.located m hmem with hloc | hloc
  · rw [hloc, hpayload]
    rfl
  · rw [hloc, hpayload]
    rfl

theorem exists_payloadRoundTrip (notes : Bool) (ns : Value) (event : String) (contentType : Value)
    (hr : Framed g r) (typed : ∀ q ∈ present (g.members r) fields,
      WellTyped g (JsonBody.demands g) q.1.shape q.2)
    (notNull : ∀ p ∈ fields, p.2.isNull = false)
    (raw : ∀ m, (g.shape r).payloadMember? = some m → Raw g m → (fields.lookup m.name).isSome) :
    ∃ data result, PayloadRoundTrip (.complete .json notes ns) g event r contentType
      (.ofFields fields) (present (outside g r) fields) data result := by
  have hparts : ∀ m ∈ g.members r, m.location = .body → ∀ x, fields.lookup m.name = some x →
      WellTyped g (JsonBody.demands g) m.shape x ∧
        ∃ d w, JsonBody.RoundTrip notes ns g m.shape x d w := by
    intro m hm hloc x hx
    have htyped := typed (m, x) (mem_present_iff.mpr ⟨hm, hx⟩)
    exact ⟨htyped, JsonBody.exists_roundTrip_of_leads notes ns (hr.parts m hm hloc) htyped⟩
  cases hp : (g.shape r).payloadMember? with
  | none =>
    rw [outside_of_no_payloadMember hr hp]
    refine exists_payloadRoundTrip_members hr hp notNull fun q hq => ?_
    obtain ⟨hm, hx⟩ := mem_present_iff.mp hq
    obtain ⟨hm, hloc⟩ := List.mem_filter.mp hm
    exact (hparts q.1 hm (by simpa using (Bool.and_eq_true_iff.mp hloc).1) q.2 hx).2
  | some m =>
    have hm : m ∈ g.members r := List.mem_of_find?_eq_some hp
    rw [outside_of_payloadMember hr hp]
    cases hx : fields.lookup m.name with
    | none =>
      have hraw : ¬Raw g m := fun hraw => by
        have hsome := raw m hp hraw
        rw [hx] at hsome
        cases hsome
      rw [present_cons_none hx]
      exact ⟨[], fun q => q.2, payloadRoundTrip_absent hp hraw hx _⟩
    | some x =>
      obtain ⟨htyped, d, w, hd⟩ := hparts m hm (hr.payload m hp).1 x hx
      rw [present_cons_some hx]
      by_cases hraw : Raw g m
      · rcases hraw with kind | kind
        · cases htyped.ofKind kind with
          | blob data => exact ⟨_, _, payloadRoundTrip_blob hp kind hx⟩
        · cases htyped.ofKind kind with
          | string s => exact ⟨_, _, payloadRoundTrip_text hp kind hx⟩
      · exact ⟨_, _, payloadRoundTrip_document hp hraw hx htyped.not_null hd⟩

end ServiceWire.EventHandler
