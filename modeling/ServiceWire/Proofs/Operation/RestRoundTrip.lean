import ServiceWire.Proofs.Operation.HeaderFields
import ServiceWire.Proofs.Operation.JsonLocations

/-!
# REST requests read back

A REST request with a JSON body is read back as a response: from a response with the header fields
and the body of the request comes back the value that the request was written for. Header fields,
a payload and a document share the members of the value among them. What is read of one member does
not depend on the others, since no header field is taken for another, and since a payload is the
only member in the body.
-/

namespace ServiceWire

variable {g : Graph}

/-- The kinds of payloads. -/
def payloadKinds : List ShapeKind := [.scalar .blob, .scalar .string, .struct]

/-- Each member of a structure has a place of its own in the header or in the body of a request. -/
structure Located (g : Graph) (r : g.Ref) : Prop where
  form : (g.shape r).form = .struct (g.members r)
  located : ∀ m ∈ g.members r, m.location = .header ∨ m.location = .body
  headers : ∀ m ∈ g.members r, m.location = .header → HeaderForm g m.shape
  /-- A payload is the only member in the body. -/
  payload : ∀ m ∈ g.members r, m.payload = true → m.location = .body ∧
    (g.shape m.shape).kind ∈ payloadKinds ∧ ∀ m' ∈ g.members r, m'.location = .body → m' = m
  /-- Nothing in the body is a stream, unless it is a payload of bytes. -/
  streaming : ∀ m ∈ g.members r, m.location = .body → (g.shape m.shape).streaming = true →
    m.payload = true ∧ (g.shape m.shape).kind = .scalar .blob
  /-- Whatever is part of a value can be read back. -/
  distinct : ∀ q, g.Leads r q → JsonBody.Distinct (g.shape q)

/-- Whether the body of a request for a value is a document. -/
def hasDocument (g : Graph) (r : g.Ref) (v : Value) : Bool :=
  match (g.shape r).payloadMember? with
  | some m => (g.shape m.shape).kind = .struct && (v.get? m.name).isSome
  | none => !(g.shape r).bodyMembers.isEmpty

/-- The document that the body of a request for a value is, if it is one. -/
def bodyDocument (c : Codec) (g : Graph) (r : g.Ref) (v : Value) : Except Fault Value :=
  match (g.shape r).payloadMember? with
  | some m => JsonBody.toDocument c g ((v.get? m.name).getD .null) m.shape none
  | none => JsonBody.toDocument c g v r (some (g.shape r).bodyMembers)

/-- Reading the text of the document in the body gives the document. -/
def ParsesBack (c : Codec) (g : Graph) (r : g.Ref) (v : Value) : Prop :=
  hasDocument g r v = true →
    ∀ d : Json, bodyDocument c g r v = .ok d.toValue → Json.parse? d.render = some d

/-- A value can be sent over the parts of a request and read back. -/
structure Sendable (g : Graph) (r : g.Ref) (v : Value) : Prop where
  typed : WellTyped g (JsonBody.demands g) r v
  headers : ∀ m ∈ headerMembers g r, ∀ x, v.get? m.name = some x → HeaderValue x
  /-- A payload of bytes or of a text has a value. -/
  payload : ∀ m, (g.shape r).payloadMember? = some m → (g.shape m.shape).kind ≠ .struct →
    (v.get? m.name).isSome
  apart : Apart g r v (hasDocument g r v = true)

/-- A writer and a reader of a REST service with JSON bodies, for an operation with an input. -/
structure RestPair (w : RequestWriter g) (u : ResponseReader) (r : g.Ref) (notes : Bool)
    (ns : Value) : Prop where
  writerProtocol : w.protocol = .restJson
  readerProtocol : u.protocol = .restJson
  writerCodec : w.codec = .complete .json notes ns
  readerCodec : u.codec = .complete .json notes ns
  input : w.operation.input = some r
  explicit : w.operation.explicitPayload = (g.shape r).hasPayload
  shared : w.operation.payloadMembers =
    ((g.shape r).hasPayload || !(g.shape r).bodyMembers.isEmpty)

/-- What is written as the body of a request for a value, what the header says of it, and what is
read from it. -/
structure BodyTrip (w : RequestWriter g) (u : ResponseReader) (r : g.Ref)
    (fields : List (String × Value)) (body : Value) (type? : Option String)
    (result : Member g.size × Value → Value) : Prop where
  written : ∀ (q : Http.Request) (sent : List (String × String)), q.headers = textKeys sent →
    q.body = .null → contentTypeField ∉ sent.map Prod.fst →
      w.withBody (.ofFields fields) q =
        .ok { q with headers := textKeys (sent ++ typeFields type?), body := body }
  type : type?.isSome = hasDocument g r (.ofFields fields)
  payload : ParsesBack u.codec g r (.ofFields fields) → ∀ m,
    (g.shape r).payloadMember? = some m → ∀ status headers,
      u.readPayload ⟨status, headers, body⟩ m =
        pure ((fields.lookup m.name).map fun x => result (m, x), ⟨status, headers, body⟩)
  members : ParsesBack u.codec g r (.ofFields fields) → (g.shape r).payloadMember? = none →
    (g.shape r).bodyMembers ≠ [] → ∃ content, body = .ofBytes content ∧
      ResponseReader.isBlank content = false ∧
      (u.readBody content r (g.shape r).bodyMembers).outcome =
        .ok ((present (g.shape r).bodyMembers fields).map fun q => (q.1.name, result q))
  alike : ∀ q ∈ present (g.members r) fields, q.1.location = .body → (result q).Alike q.2

theorem append_typeFields_none (sent : List (String × String)) :
    sent ++ typeFields none = sent := List.append_nil sent

namespace BodyTrip

variable {w : RequestWriter g} {u : ResponseReader} {r : g.Ref} {notes : Bool} {ns : Value}
  {fields : List (String × Value)} (hw : RestPair w u r notes ns)

/-! ### Payloads -/

section Payload

variable {m : Member g.size} (hm : (g.shape r).payloadMember? = some m)
  (only : ∀ m' ∈ g.members r, m'.location = .body → m' = m)

include hw hm only

/-- A payload is the body, and nothing else is in it. -/
theorem of_payload {body : Value} {type? : Option String} {result : Member g.size × Value → Value}
    (written : ∀ (q : Http.Request) (sent : List (String × String)), q.headers = textKeys sent →
      contentTypeField ∉ sent.map Prod.fst → w.withPayload (.ofFields fields) m q =
        .ok { q with headers := textKeys (sent ++ typeFields type?), body := body })
    (type : type?.isSome = (decide ((g.shape m.shape).kind = .struct) &&
      (fields.lookup m.name).isSome))
    (read : ParsesBack u.codec g r (.ofFields fields) → ∀ status headers,
      u.readPayload ⟨status, headers, body⟩ m =
        pure ((fields.lookup m.name).map fun x => result (m, x), ⟨status, headers, body⟩))
    (alike : ∀ x, fields.lookup m.name = some x → (result (m, x)).Alike x) :
    BodyTrip w u r fields body type? result where
  written q sent hsent _ hfresh := by
    have hpayload : (g.shape r).hasPayload = true := by
      rw [Shape.hasPayload, hm]
      rfl
    rw [RequestWriter.withBody, hw.writerProtocol]
    dsimp only
    rw [RequestWriter.withRestBody, hw.input]
    dsimp only
    rw [hw.explicit, hpayload, if_pos rfl, hm]
    exact written q sent hsent hfresh
  type := by
    rw [type, hasDocument, hm]
    dsimp only
    rw [Value.get?_ofFields]
  payload hparse m' hm' status headers := by
    obtain rfl := Option.some.inj (hm.symm.trans hm')
    exact read hparse status headers
  members _ hnone := by
    rw [hm] at hnone
    cases hnone
  alike q hq hloc := by
    obtain ⟨m', x⟩ := q
    obtain ⟨hmem, hx⟩ := mem_present_iff.mp hq
    obtain rfl := only m' hmem hloc
    exact alike x hx

variable (notNull : ∀ p ∈ fields, p.2.isNull = false)

include notNull

/-- A byte string is the body. -/
theorem of_blob {data : Bytes} (kind : (g.shape m.shape).kind = .scalar .blob)
    (hx : fields.lookup m.name = some (.ofBytes data)) :
    BodyTrip w u r fields (.ofBytes data) none Prod.snd := by
  refine of_payload hw hm only (fun q sent hsent _ => ?_) ?_
    (fun _ status headers => ?_) fun x _ => .refl x
  · rw [RequestWriter.withPayload, append_typeFields_none, ← hsent]
    simp only [RequestWriter.valueOf_ofFields notNull, hx, kind, true_or, if_true]
  · rw [kind]
    rfl
  · rw [ResponseReader.readPayload]
    simp only [kind, or_true, if_true, hx]
    rfl

variable (streaming : (g.shape m.shape).streaming = false)

include streaming

/-- A text is the body. -/
theorem of_text {s : String} (kind : (g.shape m.shape).kind = .scalar .string)
    (hx : fields.lookup m.name = some (.str s)) :
    BodyTrip w u r fields (.ofBytes (bytesOf s)) none Prod.snd := by
  refine of_payload hw hm only (fun q sent hsent _ => ?_) ?_
    (fun _ status headers => ?_) fun x _ => .refl x
  · rw [RequestWriter.withPayload, append_typeFields_none, ← hsent]
    simp only [RequestWriter.valueOf_ofFields notNull, hx, kind, streaming, ShapeKind.scalar.injEq,
      reduceCtorEq, Bool.false_eq_true, or_self, if_false]
  · rw [kind]
    rfl
  · have hdecode : JsonBody.textOf (bytesOf s) = .ok s := by
      rw [JsonBody.textOf, Utf8.decode?_encode]
    rw [ResponseReader.readPayload]
    simp only [kind, streaming, ShapeKind.scalar.injEq, reduceCtorEq, Bool.false_eq_true, or_self,
      if_false, if_true, Http.Response.read, Value.ofBytes, Reading.ofConversion_ok, pure_bind,
      hdecode, hx]
    rfl

/-- A structure that has no value leaves the body empty. -/
theorem of_absent (kind : (g.shape m.shape).kind = .struct) (hx : fields.lookup m.name = none) :
    BodyTrip w u r fields (.ofBytes []) none Prod.snd := by
  refine of_payload hw hm only (fun q sent hsent _ => ?_) ?_
    (fun _ status headers => ?_) fun x _ => .refl x
  · rw [RequestWriter.withPayload, append_typeFields_none, ← hsent]
    simp only [RequestWriter.valueOf_ofFields notNull, hx]
  · rw [kind, hx]
    rfl
  · rw [ResponseReader.readPayload]
    simp only [kind, streaming, reduceCtorEq, Bool.false_eq_true, or_self, if_false,
      Http.Response.read, Value.ofBytes, Reading.ofConversion_ok, pure_bind,
      ResponseReader.isBlank, List.all_nil, if_true, hx]
    rfl

/-- A structure is a document. -/
theorem of_struct {members : List (Member g.size)} {x y : Value} {d : Json}
    (form : (g.shape m.shape).form = .struct members) (hx : fields.lookup m.name = some x)
    (h : JsonBody.RoundTrip notes ns g m.shape x d y) :
    BodyTrip w u r fields (.ofBytes (bytesOf d.render)) (some BodyFormat.json.contentType)
      fun _ => y := by
  have kind : (g.shape m.shape).kind = .struct := by rw [Shape.kind, form]; rfl
  have hdocument := (JsonBody.toDocument_none x m.shape).trans h.written
  refine of_payload hw hm only (fun q sent hsent hfresh => ?_) ?_
    (fun hparse status headers => ?_) fun x' hx' => ?_
  · have hpayload : w.structurePayload m x = .ok (bytesOf d.render) := by
      rw [RequestWriter.structurePayload, hw.writerProtocol, hw.writerCodec]
      exact JsonBody.encode_of_toDocument hdocument
    have hput : Entries.putNew (.str contentTypeField) BodyFormat.json.contentType q.headers =
        textKeys (sent ++ typeFields (some BodyFormat.json.contentType)) := by
      rw [hsent]
      exact Entries.putNew_textKeys _ hfresh
    rw [RequestWriter.withPayload, ← hput]
    simp only [RequestWriter.valueOf_ofFields notNull, hx, kind, streaming, reduceCtorEq,
      Bool.false_eq_true, or_self, if_false, hpayload, hw.writerCodec]
    rfl
  · rw [kind, hx]
    rfl
  · have hd : Json.parse? d.render = some d := by
      refine hparse ?_ d ?_
      · rw [hasDocument, hm]
        simp only [kind, Value.get?_ofFields, hx]
        rfl
      · rw [bodyDocument, hm]
        simp only [Value.get?_ofFields, hx, hw.readerCodec]
        exact hdocument
    have hread : u.readDocument g (bytesOf d.render) m.shape = pure y := by
      rw [ResponseReader.readDocument, hw.readerProtocol, hw.readerCodec]
      simp only [Protocol.responseFormat, JsonBody.parse_render hd, Reading.ofConversion_ok,
        pure_bind, JsonBody.ofDocument_none, h.read]
    obtain ⟨entries, rfl⟩ := JsonBody.exists_object_of_written form h.written
    rw [ResponseReader.readPayload]
    simp only [kind, streaming, reduceCtorEq, Bool.false_eq_true, or_self, if_false,
      Http.Response.read, Value.ofBytes, Reading.ofConversion_ok, pure_bind,
      JsonBody.isBlank_render_object, hread, hx]
    rfl
  · obtain rfl := Option.some.inj (hx.symm.trans hx')
    exact h.alike

end Payload

/-! ### Members that share the body -/

section Shared

variable (hnone : (g.shape r).payloadMember? = none)

include hw hnone

theorem withBody_of_members (v : Value) (q : Http.Request) :
    w.withBody v q = if (g.shape r).bodyMembers.isEmpty then .ok q else do
      let data ← w.encodeMembers v r
      return { q with body := .ofBytes data }.withHeader contentTypeField
        BodyFormat.json.contentType := by
  have hpayload : (g.shape r).hasPayload = false := by
    rw [Shape.hasPayload, hnone]
    rfl
  rw [RequestWriter.withBody, hw.writerProtocol]
  dsimp only
  rw [RequestWriter.withRestBody, hw.input]
  dsimp only
  rw [hw.explicit, hw.shared, hw.writerCodec, hpayload, if_neg Bool.false_ne_true, Bool.false_or]
  cases (g.shape r).bodyMembers.isEmpty with
  | true => rfl
  | false => rfl

/-- Without members in the body there is no body. -/
theorem of_no_members (hempty : (g.shape r).bodyMembers = []) :
    BodyTrip w u r fields .null none Prod.snd where
  written q sent hsent hbody _ := by
    rw [withBody_of_members hw hnone, hempty, List.isEmpty_nil, if_pos rfl,
      append_typeFields_none, ← hsent, ← hbody]
  type := by
    rw [hasDocument, hnone, hempty]
    rfl
  payload _ m hm := by
    rw [hnone] at hm
    cases hm
  members _ _ hne := absurd hempty hne
  alike q _ _ := .refl q.2

/-- The members in the body share a document. -/
theorem exists_of_members (hr : JsonBody.Distinct (g.shape r))
    (form : (g.shape r).form = .struct (g.members r)) (hne : (g.shape r).bodyMembers ≠ [])
    (notNull : ∀ p ∈ fields, p.2.isNull = false)
    (h : ∀ q ∈ present (g.shape r).bodyMembers fields,
      ∃ d y, JsonBody.RoundTrip notes ns g q.1.shape q.2 d y) :
    ∃ body result, BodyTrip w u r fields body (some BodyFormat.json.contentType) result := by
  have hsub : (g.shape r).bodyMembers.Sublist (g.members r) := List.filter_sublist
  obtain ⟨entries, result, hwrite, hread, halike⟩ :=
    JsonBody.exists_members (g.shape r) (hr.names.sublist (hsub.map _))
      (fun m hm => hr.texts m (hsub.subset hm)) (hr.wireNames.sublist (hsub.map _)) notNull h
  have hdocument : JsonBody.toDocument (.complete .json notes ns) g (.ofFields fields) r
      (some (g.shape r).bodyMembers) = .ok (Json.object entries).toValue := by
    rw [JsonBody.toDocument]
    simp only [form, Option.getD_some, hwrite]
  have hdocumented : hasDocument g r (.ofFields fields) = true := by
    rw [hasDocument, hnone]
    simpa using hne
  refine ⟨.ofBytes (bytesOf (Json.object entries).render), result, ?_, ?_, ?_, ?_, ?_⟩
  · intro q sent hsent _ hfresh
    have hencode : w.encodeMembers (.ofFields fields) r =
        .ok (bytesOf (Json.object entries).render) := by
      rw [RequestWriter.encodeMembers, hw.writerProtocol, hw.writerCodec]
      exact JsonBody.encode_of_toDocument hdocument
    have hput : Entries.put (.str contentTypeField) BodyFormat.json.contentType q.headers =
        textKeys (sent ++ typeFields (some BodyFormat.json.contentType)) := by
      rw [hsent]
      exact Entries.put_textKeys_new _ hfresh
    rw [withBody_of_members hw hnone, List.isEmpty_eq_false_iff.mpr hne,
      if_neg Bool.false_ne_true, hencode, ← hput]
    rfl
  · rw [hdocumented]
    rfl
  · intro _ m hm
    rw [hnone] at hm
    cases hm
  · intro hparse _ _
    have hd : Json.parse? (Json.object entries).render = some (.object entries) := by
      refine hparse hdocumented _ ?_
      rw [bodyDocument, hnone, hw.readerCodec]
      exact hdocument
    refine ⟨_, rfl, JsonBody.isBlank_render_object entries, ?_⟩
    rw [ResponseReader.readBody, hw.readerProtocol, hw.readerCodec]
    simp only [JsonBody.parse_render hd, Reading.ofConversion_ok, pure_bind, JsonBody.readSome,
      hread, Reading.outcome_pure]
  · intro q hq hloc
    obtain ⟨hm, hx⟩ := mem_present_iff.mp hq
    refine halike q (mem_present_iff.mpr ⟨List.mem_filter.mpr ⟨hm, ?_⟩, hx⟩)
    have hpayload : q.1.payload = false := by simpa using List.find?_eq_none.mp hnone q.1 hm
    rw [hloc, hpayload]
    rfl

end Shared

/-- The body of a request for a well-typed value is read back, in each of the ways. -/
theorem exists_bodyTrip (hw : RestPair w u r notes ns) (hr : Located g r)
    (notNull : ∀ p ∈ fields, p.2.isNull = false)
    (typed : ∀ q ∈ present (g.members r) fields,
      WellTyped g (JsonBody.demands g) q.1.shape q.2)
    (raw : ∀ m, (g.shape r).payloadMember? = some m → (g.shape m.shape).kind ≠ .struct →
      (fields.lookup m.name).isSome) :
    ∃ body type? result, BodyTrip w u r fields body type? result := by
  have hself := hr.distinct r (.refl r)
  have hparts : ∀ q ∈ present (g.members r) fields,
      ∃ d y, JsonBody.RoundTrip notes ns g q.1.shape q.2 d y := fun q hq =>
    JsonBody.exists_roundTrip_of_leads notes ns
      (fun p hp => hr.distinct p (hp.head (Graph.IsPart.member hr.form (mem_present_iff.mp hq).1)))
      (typed q hq)
  cases hp : (g.shape r).payloadMember? with
  | none =>
    by_cases hempty : (g.shape r).bodyMembers = []
    · exact ⟨_, _, _, of_no_members hw hp hempty⟩
    · obtain ⟨body, result, h⟩ := exists_of_members hw hp hself hr.form hempty notNull fun q hq => by
        obtain ⟨hm, hx⟩ := mem_present_iff.mp hq
        exact hparts q (mem_present_iff.mpr ⟨(List.mem_filter.mp hm).1, hx⟩)
      exact ⟨body, _, result, h⟩
  | some m =>
    have hm : m ∈ g.members r := List.mem_of_find?_eq_some hp
    obtain ⟨hloc, hkind, only⟩ := hr.payload m hm (List.find?_some hp)
    have hstreaming (h : (g.shape m.shape).kind ≠ .scalar .blob) :
        (g.shape m.shape).streaming = false :=
      Bool.eq_false_iff.mpr fun hs => h (hr.streaming m hm hloc hs).2
    simp only [payloadKinds, List.mem_cons, List.not_mem_nil, or_false] at hkind
    cases hx : fields.lookup m.name with
    | none =>
      have kind : (g.shape m.shape).kind = .struct := by
        by_contra hne
        have hsome := raw m hp hne
        rw [hx] at hsome
        cases hsome
      exact ⟨_, _, _, of_absent hw hp only notNull (hstreaming (by rw [kind]; decide)) kind hx⟩
    | some x =>
      have hpart : (m, x) ∈ present (g.members r) fields := mem_present_iff.mpr ⟨hm, hx⟩
      rcases hkind with kind | kind | kind
      · cases (typed _ hpart).ofKind kind with
        | blob data => exact ⟨_, _, _, of_blob hw hp only notNull kind hx⟩
      · cases (typed _ hpart).ofKind kind with
        | string text =>
          exact ⟨_, _, _, of_text hw hp only notNull (hstreaming (by rw [kind]; decide)) kind hx⟩
      · obtain ⟨d, y, hd⟩ := hparts _ hpart
        cases hform : (g.shape m.shape).form with
        | struct members =>
          exact ⟨_, _, _, of_struct hw hp only notNull (hstreaming (by rw [kind]; decide)) hform hx hd⟩
        | list | map | scalar =>
          rw [Shape.kind, hform] at kind
          cases kind

end BodyTrip

/-! ### Responses with the parts of a request -/

/-- The response that has the header fields and the body of a request. -/
def Http.Request.asResponse (q : Http.Request) (status : Value) : Except Failure Http.Response :=
  (Headers.ofEntries (q.headers.map fun p => (p.1, .str p.2))).map fun headers =>
    ⟨status, headers, q.body⟩

theorem Http.Request.asResponse_of_textKeys {q : Http.Request} {sent : List (String × String)}
    (h : q.headers = textKeys sent) (status : Value) :
    q.asResponse status = .ok ⟨status, .ofPairs (received sent), q.body⟩ := by
  have hreceived : (q.headers.map fun p => (p.1, Value.str p.2)) = textKeys (received sent) := by
    rw [h, textKeys, textKeys, received, List.map_map, List.map_map]
    rfl
  rw [asResponse, hreceived, Headers.ofEntries_textKeys]
  rfl

namespace BodyTrip

variable {w : RequestWriter g} {u : ResponseReader} {r : g.Ref} {notes : Bool} {ns : Value}
  {fields : List (String × Value)} {body : Value} {type? : Option String}
  {result : Member g.size × Value → Value}

/-! ### The whole response -/

/-- The members that have a place of their own outside the document. -/
def isEarly (m : Member g.size) : Bool := m.location == .header || m.payload

/-- The members that a value has in the header are left as they are. -/
def merged (result : Member g.size × Value → Value) (q : Member g.size × Value) : Value :=
  if q.1.location = .header then q.2 else result q

/-- What a response has of a member that has a place of its own. -/
def early (result : Member g.size × Value → Value) (fields : List (String × Value))
    (m : Member g.size) : Option Value :=
  if isEarly m then (fields.lookup m.name).map fun x => merged result (m, x) else none

theorem early_of_header {m : Member g.size} (h : m.location = .header) :
    early result fields m = fields.lookup m.name := by
  simp only [early, isEarly, merged, h, beq_self_eq_true, Bool.true_or, if_true, Option.map_id']

theorem early_of_payload {m : Member g.size} (h : m.location = .body) (payload : m.payload = true) :
    early result fields m = (fields.lookup m.name).map fun x => result (m, x) := by
  simp only [early, isEarly, merged, h, payload, Bool.or_true, if_true, reduceCtorEq, if_false]

theorem early_of_shared {m : Member g.size} (h : m.location = .body)
    (payload : m.payload = false) : early result fields m = none := by
  simp only [early, isEarly, h, payload, Bool.or_false]
  rfl

theorem filterMap_early (members : List (Member g.size)) :
    (members.filterMap fun m => (early result fields m).map fun x => (m.name, x)) =
      (present (members.filter isEarly) fields).map fun q => (q.1.name, merged result q) := by
  rw [present, List.filterMap_filter, List.map_filterMap]
  refine List.filterMap_congr fun m _ => ?_
  rw [early]
  cases isEarly m with
  | false => rfl
  | true => cases fields.lookup m.name <;> rfl

/-- The members of a structure are those that have a place of their own and those that share the
body. -/
theorem early_append_bodyMembers_perm (hr : Located g r) :
    ((g.members r).filter isEarly ++ (g.shape r).bodyMembers).Perm (g.members r) := by
  have hbody : (g.shape r).bodyMembers = (g.members r).filter fun m => !isEarly m := by
    refine List.filter_congr fun m hm => ?_
    rcases hr.located m hm with hloc | hloc
    · rw [isEarly, hloc]
      rfl
    · rw [isEarly, hloc]
      rfl
  rw [hbody]
  exact List.filter_append_perm _ _

theorem payloadMember?_eq_some (hr : Located g r) {m : Member g.size} (hm : m ∈ g.members r)
    (hpayload : m.payload = true) : (g.shape r).payloadMember? = some m := by
  have hsome : (g.shape r).payloadMember?.isSome = true := List.find?_isSome.mpr ⟨m, hm, hpayload⟩
  obtain ⟨m', hm'⟩ := Option.isSome_iff_exists.mp hsome
  have hmem : m' ∈ g.members r := List.mem_of_find?_eq_some hm'
  rw [hm', (hr.payload m hm hpayload).2.2 m' hmem (hr.payload m' hmem (List.find?_some hm')).1]

/-- A payload leaves no member for a document. -/
theorem bodyMembers_of_payload (hr : Located g r) {m : Member g.size} (hm : m ∈ g.members r)
    (hpayload : m.payload = true) : (g.shape r).bodyMembers = [] := by
  refine List.filter_eq_nil_iff.mpr fun m' hm' => ?_
  rw [Bool.and_eq_true, beq_iff_eq, Bool.not_eq_true']
  rintro ⟨hloc, hnot⟩
  rw [(hr.payload m hm hpayload).2.2 m' hm' hloc, hpayload] at hnot
  cases hnot

/-- A member that has a place of its own is read from a response, and no other. -/
theorem readMember_eq (hr : Located g r) (hb : BodyTrip w u r fields body type? result)
    (hparse : ParsesBack u.codec g r (.ofFields fields)) {headers : Headers} {m : Member g.size}
    (hm : m ∈ g.members r) (hheader : m.location = .header →
      ResponseReader.readHeader headers m = .ok (fields.lookup m.name)) (status : Value)
    (values : List (String × Value)) (taken : Bool) :
    u.readMember ⟨values, taken, ⟨status, headers, body⟩⟩ m =
      pure ⟨Entries.putAll values ((early result fields m).toList.map fun x => (m.name, x)),
        taken || m.payload, ⟨status, headers, body⟩⟩ := by
  rcases hr.located m hm with hloc | hloc
  · have hpayload : m.payload = false := by
      refine Bool.eq_false_iff.mpr fun hpayload => ?_
      have hbody := (hr.payload m hm hpayload).1
      rw [hloc] at hbody
      cases hbody
    rw [ResponseReader.readMember, hloc, early_of_header hloc, hpayload, Bool.or_false]
    simp only [hheader hloc, Reading.ofConversion_ok, pure_bind]
    cases fields.lookup m.name with
    | none => rfl
    | some x => rfl
  · rw [ResponseReader.readMember, hloc]
    cases hpayload : m.payload with
    | false =>
      have hstreaming : (g.shape m.shape).streaming = false := by
        refine Bool.eq_false_iff.mpr fun hstreaming => ?_
        rw [(hr.streaming m hm hloc hstreaming).1] at hpayload
        cases hpayload
      rw [early_of_shared hloc hpayload, hstreaming, Bool.or_false, Bool.or_false]
      rfl
    | true =>
      have hread := hb.payload hparse m (payloadMember?_eq_some hr hm hpayload) status headers
      rw [early_of_payload hloc hpayload, Bool.or_true, Bool.true_or, if_pos rfl, hread, pure_bind]
      cases fields.lookup m.name with
      | none => rfl
      | some x => rfl

/-- The members that have a place of their own are read from a response. -/
theorem foldlM_readMember (hr : Located g r) (hb : BodyTrip w u r fields body type? result)
    (hparse : ParsesBack u.codec g r (.ofFields fields)) {headers : Headers}
    (hheaders : ∀ m ∈ headerMembers g r,
      ResponseReader.readHeader headers m = .ok (fields.lookup m.name)) (status : Value) :
    (g.members r).foldlM u.readMember { response := ⟨status, headers, body⟩ } =
      pure ⟨(present ((g.members r).filter isEarly) fields).map fun q => (q.1.name, merged result q),
        (g.members r).any fun m => m.payload, ⟨status, headers, body⟩⟩ := by
  have step : ∀ m ∈ g.members r, ∀ values taken,
      u.readMember ⟨values, taken, ⟨status, headers, body⟩⟩ m =
        pure ⟨Entries.putAll values ((early result fields m).toList.map fun x => (m.name, x)),
          taken || m.payload, ⟨status, headers, body⟩⟩ := by
    intro m hm
    refine readMember_eq hr hb hparse hm (fun hloc => ?_) status
    exact hheaders m (List.mem_filter.mpr ⟨hm, beq_iff_eq.mpr hloc⟩)
  rw [ResponseReader.foldlM_readMember step (hr.distinct r (.refl r)).names, filterMap_early]

/-- What is read of the members that share the body is the same whatever members stand before
them. -/
theorem map_merged_append (early : List (Member g.size)) :
    (present (early ++ (g.shape r).bodyMembers) fields).map
        (fun q => (q.1.name, merged result q)) =
      ((present early fields).map fun q => (q.1.name, merged result q)) ++
        (present (g.shape r).bodyMembers fields).map fun q => (q.1.name, result q) := by
  have hbody : ∀ q ∈ present (g.shape r).bodyMembers fields, merged result q = result q := by
    intro q hq
    have hloc := (List.mem_filter.mp (mem_present_iff.mp hq).1).2
    rw [Bool.and_eq_true, beq_iff_eq] at hloc
    rw [merged, hloc.1, if_neg (by decide)]
  rw [present, List.filterMap_append, List.map_append]
  congr 1
  exact List.map_congr_left fun q hq => by rw [hbody q hq]

theorem nodup_early_append_bodyMembers (hr : Located g r) :
    (((g.members r).filter isEarly ++ (g.shape r).bodyMembers).map Member.name).Nodup :=
  ((early_append_bodyMembers_perm hr).map Member.name).nodup_iff.mpr (hr.distinct r (.refl r)).names

theorem alike_merged (hr : Located g r) (names : (fields.map Prod.fst).Nodup)
    (known : ∀ p ∈ fields, ∃ m ∈ g.members r, m.name = p.1)
    (halike : ∀ q ∈ present (g.members r) fields, q.1.location = .body → (result q).Alike q.2) :
    (Value.ofFields ((present ((g.members r).filter isEarly ++ (g.shape r).bodyMembers) fields).map
      fun q => (q.1.name, merged result q))).Alike (.ofFields fields) := by
  have hperm := early_append_bodyMembers_perm hr
  refine .of_perm names (present_perm (nodup_early_append_bodyMembers hr) names fun p hp => ?_)
    fun q hq => ?_
  · obtain ⟨m, hm, hname⟩ := known p hp
    exact ⟨m, hperm.mem_iff.mpr hm, hname⟩
  · obtain ⟨hm, hx⟩ := mem_present_iff.mp hq
    have hm := hperm.mem_iff.mp hm
    rw [merged]
    split
    · exact .refl q.2
    · rename_i hloc
      exact halike q (mem_present_iff.mpr ⟨hm, hx⟩) ((hr.located q.1 hm).resolve_left hloc)

/-- A response with the parts of a request is read as a value that is alike to that of the
request. -/
theorem exists_read (hw : RestPair w u r notes ns) (hr : Located g r)
    (hb : BodyTrip w u r fields body type? result)
    (hparse : ParsesBack u.codec g r (.ofFields fields)) {headers : Headers}
    (hheaders : ∀ m ∈ headerMembers g r,
      ResponseReader.readHeader headers m = .ok (fields.lookup m.name))
    (names : (fields.map Prod.fst).Nodup) (known : ∀ p ∈ fields, ∃ m ∈ g.members r, m.name = p.1) :
    ∃ back, back.Alike (.ofFields fields) ∧
      ∀ status, (u.read ⟨status, headers, body⟩ (some r)).result = .ok back := by
  refine ⟨_, alike_merged hr names known hb.alike, fun status => ?_⟩
  have hfold := foldlM_readMember hr hb hparse hheaders status
  rw [map_merged_append]
  refine ResponseReader.read_of_parts hw.readerCodec (by decide) (hr.distinct r (.refl r)).construct hfold ?_
    (fun hnone => ?_) fun hsome => ?_
  · rw [← List.map_append, ← map_merged_append, List.map_map]
    exact nodup_present (nodup_early_append_bodyMembers hr) fields
  · have hempty : (g.shape r).bodyMembers = [] := by
      rcases Bool.or_eq_true_iff.mp hnone with hany | hempty
      · obtain ⟨m, hm, hpayload⟩ := List.any_eq_true.mp hany
        exact bodyMembers_of_payload hr hm hpayload
      · exact List.isEmpty_iff.mp hempty
    rw [hempty]
    rfl
  · obtain ⟨hany, hempty⟩ := Bool.or_eq_false_iff.mp hsome
    have hnone : (g.shape r).payloadMember? = none := by
      refine List.find?_eq_none.mpr fun m hm => ?_
      exact List.any_eq_false.mp hany m hm
    obtain ⟨content, rfl, notBlank, hread⟩ :=
      hb.members hparse hnone (List.isEmpty_eq_false_iff.mp hempty)
    exact ⟨content, rfl, notBlank, hread⟩

end BodyTrip

/-! ### Requests -/

/-- No part of a template stands for a label. -/
def UriTemplate.LabelFree (template : String) : Prop :=
  ∀ piece ∈ UriTemplate.pieces template, ∃ c, piece = .literal c

theorem UriTemplate.exists_path {template : String} (h : UriTemplate.LabelFree template) :
    ∃ p, RequestWriter.path template [] = .ok p := by
  have hpieces : ∀ piece ∈ UriTemplate.pieces template, ∃ s : String,
      UriTemplate.expandPiece [] piece = .ok s := by
    intro piece hp
    obtain ⟨c, rfl⟩ := h piece hp
    exact ⟨String.singleton c, rfl⟩
  choose! text htext using hpieces
  have hexpand : UriTemplate.expand template [] =
      .ok (String.join ((UriTemplate.pieces template).map text)) := by
    have hmap : (UriTemplate.pieces template).mapM (UriTemplate.expandPiece []) =
        .ok ((UriTemplate.pieces template).map text) := mapM_eq_pure htext
    rw [UriTemplate.expand, hmap]
    rfl
  exact ⟨_, by rw [RequestWriter.path, hexpand]⟩

namespace RestPair

variable {w : RequestWriter g} {u : ResponseReader} {r : g.Ref} {notes : Bool} {ns : Value}

/-- A request for a value that can be sent is written, and a response with its header fields and its
body is read as the value. -/
theorem exists_trip (hw : RestPair w u r notes ns) (hr : Located g r) {uri : String}
    (huri : w.operation.uri = .str uri) (free : UriTemplate.LabelFree (UriTemplate.split uri).1)
    {v : Value} (hs : Sendable g r v) :
    ∃ q, (w.write v).1 = .ok q ∧ (ParsesBack u.codec g r v → ∃ back, back.Alike v ∧
      ∀ status, ∃ response, q.asResponse status = .ok response ∧
        (u.read response (some r)).result = .ok back) := by
  obtain ⟨fields, rfl, names, known, typed⟩ := hs.typed.exists_fields hr.form
  have hself := hr.distinct r (.refl r)
  have notNull := WellTyped.fields_not_null known typed
  have hpresent : ∀ q ∈ present (g.members r) fields,
      WellTyped g (JsonBody.demands g) q.1.shape q.2 := by
    intro q hq
    obtain ⟨hm, hmem⟩ := mem_present hq
    exact typed (q.1.name, q.2) hmem q.1 hm rfl
  have raw : ∀ m, (g.shape r).payloadMember? = some m → (g.shape m.shape).kind ≠ .struct →
      (fields.lookup m.name).isSome := by
    intro m hm hkind
    rw [← Value.get?_ofFields]
    exact hs.payload m hm hkind
  obtain ⟨own, hown⟩ := OwnFields.exists_of_wellTyped hr.headers hself.texts hpresent
    fun m hm x hx => hs.headers m hm x (by rw [Value.get?_ofFields, hx])
  obtain ⟨body, type?, result, hb⟩ := BodyTrip.exists_bodyTrip hw hr notNull hpresent raw
  have htype : type?.isSome → hasDocument g r (.ofFields fields) = true := by
    rw [hb.type]
    exact id
  have hnodup := hs.apart.nodup_names hown.names htype
  have hbound : w.bound (.ofFields fields) =
      .ok { headers := textKeys (allFields (g.members r) own) } := by
    rw [RequestWriter.bound, hw.input, hw.writerProtocol]
    refine RequestWriter.foldlM_bind notNull hr.located ?_ ?_ [] ?_
    · exact fun m hm hloc x hx => (hown.carried m (mem_headerMembers hm hloc) x hx).written
    · exact fun m hm hloc => hown.absent m (mem_headerMembers hm hloc)
    · refine List.Nodup.of_map Text.lower ?_
      rw [List.nil_append, List.map_map]
      exact hnodup.sublist ((List.sublist_append_left ..).map _)
  obtain ⟨p, hp⟩ := UriTemplate.exists_path free
  have hwritten := hb.written (w.start uri { headers := textKeys (allFields (g.members r) own) } p)
    _ rfl rfl (hs.apart.contentTypeField_notMem hown.names)
  refine ⟨_, RequestWriter.write_eq_ok_iff.mpr ((RequestWriter.build_eq_ok_iff rfl).mpr
    ⟨uri, _, p, by rw [huri, Value.asText], hbound, hp, hwritten⟩), fun hparse => ?_⟩
  have hheaders := fun m hm => hs.apart.readHeader_eq hself.names hself.texts
    (fun m hm => hr.headers m (List.mem_filter.mp hm).1 (beq_iff_eq.mp (List.mem_filter.mp hm).2))
    hown htype (m := m) hm
  obtain ⟨back, halike, hback⟩ := BodyTrip.exists_read hw hr hb hparse hheaders names known
  refine ⟨back, halike, fun status => ⟨_, Http.Request.asResponse_of_textKeys rfl status, ?_⟩⟩
  exact hback status

end RestPair

namespace Service

theorem restJson_of_create {s : Service} {settings : Settings} {target api version : Value}
    (h : create (.str "rest-json") settings target api version = .ok s) :
    s.protocol = .restJson ∧ s.formCodec = none ∧ ∃ notes ns, s.codec = .complete .json notes ns := by
  cases h
  exact ⟨rfl, rfl, _, _, rfl⟩

/-- A REST service with JSON bodies reads back what it writes: from a response with the header
fields and the body of a request, with any status, comes the value of the request. -/
theorem exists_rest_readBack {s : Service} {settings : Settings} {target api version : Value}
    (hs : create (.str "rest-json") settings target api version = .ok s) {r : g.Ref}
    (hr : Located g r) {o : Operation g} {name method : Value} {output : Option g.Ref}
    {uri : String} {rootElement : Option Bool}
    (ho : Operation.forShapes g name (some r) output method (.str uri) rootElement = .ok o)
    (free : UriTemplate.LabelFree (UriTemplate.split uri).1) (endpoint : Value) {v : Value}
    (hv : Sendable g r v) :
    ∃ w q, s.requestWriter o endpoint = .ok w ∧ (w.write v).1 = .ok q ∧
      (ParsesBack s.codec g r v → ∀ (known : Option (Operation g)) (status : Value),
        ∃ response back, q.asResponse status = .ok response ∧
          ((s.responseReader known).read response (some r)).result = .ok back ∧
          back.Alike v) := by
  obtain ⟨protocol, formCodec, notes, ns, codec⟩ := restJson_of_create hs
  have hrequest : s.requestCodec = .complete .json notes ns := by
    rw [requestCodec, formCodec, codec]
    rfl
  obtain ⟨m, rfl, rfl⟩ : ∃ m, method = .str m ∧
      o = Operation.ofShapes g name (some r) output m (.str uri) rootElement := by
    cases method with
    | str m => exact ⟨m, rfl, (Except.ok.inj ho).symm⟩
    | _ => cases ho
  have hpair (known : Option (Operation g)) :
      RestPair (s.writerOf (Operation.ofShapes g name (some r) output m (.str uri) rootElement)
        endpoint) (s.responseReader known) r notes ns :=
    ⟨protocol, protocol, hrequest, codec, rfl, rfl, rfl⟩
  obtain ⟨q, hq, -⟩ := (hpair none).exists_trip hr rfl free hv
  refine ⟨_, q, requestWriter_complete hrequest (by rw [protocol]; decide) _ endpoint, hq,
    fun hparse known status => ?_⟩
  obtain ⟨q', hq', hread⟩ := (hpair known).exists_trip hr rfl free hv
  obtain rfl : q' = q := Except.ok.inj (hq'.symm.trans hq)
  obtain ⟨back, halike, hback⟩ := hread hparse
  obtain ⟨response, hresponse, hresult⟩ := hback status
  exact ⟨response, back, hresponse, hresult, halike⟩

/-- The numerals that name four shapes. -/
local instance fourShapes : NeZero 4 := ⟨by decide⟩

/-- A parcel: when it was sent and its marks are header fields, a note is in the body. -/
def parcel : Shape 4 where
  name := "Parcel"
  form := .struct
    [{ name := "Sent", shape := 1, location := .header, locationName := .str "X-Sent" },
      { name := "Marks", shape := 2, location := .header, locationName := .str "X-Mark-" },
      { name := "Note", shape := 3 }]

/-- The shapes of parcels. -/
def parcels : Graph where
  size := 4
  shapes := #v[parcel, { name := "Moment", form := .scalar .timestamp },
    { name := "Marks", form := .map 3 3 }, { name := "Text", form := .scalar .string }]

/-- The epoch. -/
def epoch : DateTime := ⟨DateTime.epochWall, some 0, by decide⟩

/-- The members of a parcel. -/
def parcelFields : List (String × Value) :=
  [("Note", .str "a"), ("Sent", .datetime epoch), ("Marks", .ofFields [("Up", .str "^")])]

/-- The document of a parcel. -/
def parcelDocument : Json := .object [("Note", .str "a")]

theorem distinct_parcels (q : parcels.Ref) : JsonBody.Distinct (parcels.shape q) := by
  have hparcel : JsonBody.Distinct parcel :=
    ⟨rfl, by decide, List.forall_mem_cons.mpr ⟨rfl, List.forall_mem_cons.mpr
      ⟨rfl, List.forall_mem_singleton.mpr rfl⟩⟩, by decide⟩
  have hempty {s : Shape 4} (hc : s.construct = none) (hs : s.members = []) :
      JsonBody.Distinct s :=
    ⟨hc, by simp [hs], by simp [hs], by simp [hs]⟩
  rcases q with ⟨_ | _ | _ | _ | i, hi⟩
  · exact hparcel
  · exact hempty rfl rfl
  · exact hempty rfl rfl
  · exact hempty rfl rfl
  · exact absurd hi (Nat.not_lt.mpr (Nat.le_add_left 4 i))

theorem located_parcel : Located parcels ⟨0, by decide⟩ where
  form := rfl
  located := by decide
  headers := List.forall_mem_cons.mpr ⟨fun _ => .scalar rfl (by decide), List.forall_mem_cons.mpr
    ⟨fun _ => .map rfl rfl (by decide), List.forall_mem_singleton.mpr (fun h => by cases h)⟩⟩
  payload m hm hpayload := by
    have hnone : ∀ m ∈ parcels.members ⟨0, by decide⟩, m.payload = false := by decide
    rw [hnone m hm] at hpayload
    cases hpayload
  streaming := by decide
  distinct q _ := distinct_parcels q

theorem fieldNames_parcel :
    ((headerMembers parcels ⟨0, by decide⟩).flatMap fun m =>
      fieldNames parcels m ((Value.ofFields parcelFields).get? m.name)) =
      ["X-Sent", "X-Mark-Up"] := by
  cbv

theorem apart_parcel : Apart parcels ⟨0, by decide⟩ (.ofFields parcelFields)
    (hasDocument parcels ⟨0, by decide⟩ (.ofFields parcelFields) = true) where
  ascii m hm name hname := by
    have hmem : name ∈ ["X-Sent", "X-Mark-Up"] := by
      rw [← fieldNames_parcel]
      exact List.mem_flatMap.mpr ⟨m, hm, hname⟩
    have hascii : ∀ name ∈ ["X-Sent", "X-Mark-Up"], Text.IsAscii name := by decide
    exact hascii name hmem
  distinct := by
    have hlower : (contentTypeField :: ["X-Sent", "X-Mark-Up"]).map Text.lower =
        ["content-type", "x-sent", "x-mark-up"] := by
      cbv
    rw [fieldNames_parcel, hlower]
    decide
  others := by decide
  contentType := by decide

theorem sendable_parcel : Sendable parcels ⟨0, by decide⟩ (.ofFields parcelFields) where
  typed := by
    have htext (s : String) : WellTyped parcels (JsonBody.demands parcels) ⟨3, by decide⟩ (.str s) :=
      .scalar rfl (.string s) trivial
    have hmarks : WellTyped parcels (JsonBody.demands parcels) ⟨2, by decide⟩
        (.ofFields [("Up", .str "^")]) :=
      .map rfl (by decide) (List.forall_mem_singleton.mpr (htext "^"))
    have hsent : WellTyped parcels (JsonBody.demands parcels) ⟨1, by decide⟩ (.datetime epoch) :=
      .scalar rfl (.timestamp rfl) rfl
    refine .of_present located_parcel.form (by decide) (by decide) ?_
    exact List.forall_mem_cons.mpr ⟨⟨hsent, trivial⟩, List.forall_mem_cons.mpr
      ⟨⟨hmarks, trivial⟩, List.forall_mem_singleton.mpr ⟨htext "a", trivial⟩⟩⟩
  headers := by
    have hyear : 100 ≤ epoch.fields.date.year := by cbv
    refine List.forall_mem_cons.mpr ⟨fun x hx => ?_, List.forall_mem_singleton.mpr fun x hx => ?_⟩
    · obtain rfl : Value.datetime epoch = x := Option.some.inj hx
      exact ⟨rfl, hyear⟩
    · obtain rfl : Value.ofFields [("Up", .str "^")] = x := Option.some.inj hx
      exact headerValue_ofFields.mpr ⟨List.cons_ne_nil _ _, List.forall_mem_singleton.mpr trivial⟩
  payload m hm := by cases hm
  apart := apart_parcel

/-- A service for parcels. -/
def parcelService : Service where
  protocol := .restJson
  settings := {}
  targetPrefix := .null
  apiVersion := .null
  jsonVersion := .str "1.1"
  codec := codecOf .json {}
  formCodec := none

theorem create_parcelService :
    create (.str "rest-json") {} .null .null .null = .ok parcelService := rfl

/-- The operation that sends a parcel. -/
def sendParcel : Operation parcels :=
  .ofShapes parcels (.str "Send") (some ⟨0, by decide⟩) none "put" (.str "/parcels?new") none

theorem forShapes_sendParcel :
    Operation.forShapes parcels (.str "Send") (some ⟨0, by decide⟩) none (.str "put")
      (.str "/parcels?new") none = .ok sendParcel := rfl

theorem labelFree_sendParcel : UriTemplate.LabelFree (UriTemplate.split "/parcels?new").1 := by
  have hpieces : UriTemplate.pieces (UriTemplate.split "/parcels?new").1 =
      "/parcels".toList.map .literal := by
    cbv
  intro piece hp
  rw [hpieces] at hp
  obtain ⟨c, -, rfl⟩ := List.mem_map.mp hp
  exact ⟨c, rfl⟩

theorem parsesBack_parcel :
    ParsesBack parcelService.codec parcels ⟨0, by decide⟩ (.ofFields parcelFields) := by
  have hdocument : bodyDocument parcelService.codec parcels ⟨0, by decide⟩
      (.ofFields parcelFields) = .ok parcelDocument.toValue := by
    cbv
  intro _ d hd
  obtain rfl : parcelDocument = d :=
    Json.toValue_injective (Except.ok.inj (hdocument.symm.trans hd))
  cbv

/-- A parcel is sent, and it is read back from what was sent. -/
theorem exists_rest_readBack_parcel :
    ∃ w q response back, parcelService.requestWriter sendParcel .null = .ok w ∧
      (w.write (.ofFields parcelFields)).1 = .ok q ∧ q.asResponse (.int 200) = .ok response ∧
      ((parcelService.responseReader (some sendParcel)).read (g := parcels) response
        (some ⟨0, by decide⟩)).result = .ok back ∧ back.Alike (.ofFields parcelFields) := by
  obtain ⟨w, q, hw, hq, hread⟩ := exists_rest_readBack create_parcelService located_parcel
    forShapes_sendParcel labelFree_sendParcel .null sendable_parcel
  obtain ⟨response, back, hresponse, hback, halike⟩ :=
    hread parsesBack_parcel (some sendParcel) (.int 200)
  exact ⟨w, q, response, back, hw, hq, hresponse, hback, halike⟩

end Service

end ServiceWire
