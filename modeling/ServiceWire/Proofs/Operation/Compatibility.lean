import ServiceWire.Proofs.Codec.JsonEdit
import ServiceWire.Proofs.Codec.XmlEdit
import ServiceWire.Proofs.Operation.QueryResult

/-!
# Responses that say more

A service may say more in a response than its description told. The body of a response is read as a
document in one of two ways: as a whole, for a member that takes the whole body, or for the members
that share it; and in a Query response the members are read from the element with the result. An
edit is one of a place where the document is read as a structure, or adds an element beside the
result. However many edits are made, the value of the response is the same, and a response that is
refused is refused before and after.
-/

namespace ServiceWire

open Value (Alike)
open ServiceWire.Xml (Element)

namespace ResponseReader

variable {g : Graph} {u : ResponseReader}

/-! ### Edits of bodies -/

/-- An edit of the document of a Query response, where the result is read for some members. -/
inductive ResultEdit (u : ResponseReader) (g : Graph) (ms : List (Member g.size)) :
    Element → Element → Prop
  /-- An element beside the result. -/
  | sibling {tag : Value} {attributes : List (Value × Value)} {text : String}
      (before after : List Element) {e : Element}
      (outside : (Element.node tag attributes text []).isNamed u.resultTag = false)
      (h : e.isNamed u.resultTag = false) :
      ResultEdit u g ms (.node tag attributes text (before ++ after))
        (.node tag attributes text (before ++ e :: after))
  /-- An edit of the result, among the children of the root element. -/
  | result {tag : Value} {attributes : List (Value × Value)} {text : String}
      (before after : List Element) {e e' : Element}
      (outside : (Element.node tag attributes text []).isNamed u.resultTag = false)
      (named : e.isNamed u.resultTag = true) (h : XmlBody.Edit g (.members ms) e e') :
      ResultEdit u g ms (.node tag attributes text (before ++ e :: after))
        (.node tag attributes text (before ++ e' :: after))
  /-- An edit of the result, which is the root element. -/
  | root {e e' : Element} (named : e.isNamed u.resultTag = true)
      (h : XmlBody.Edit g (.members ms) e e') : ResultEdit u g ms e e'

/-- Two bodies hold JSON documents that differ in edits. -/
def JsonEdited (g : Graph) (place : JsonBody.Place g) (content content' : Bytes) : Prop :=
  ∃ d d', JsonBody.parse content = .ok d ∧ JsonBody.parse content' = .ok d' ∧
    Relation.ReflTransGen (JsonBody.Edit g place) d d'

/-- Two bodies hold XML documents that differ in edits of some kind. -/
def XmlEdited (edit : Element → Element → Prop) (content content' : Bytes) : Prop :=
  ∃ e e', Xml.parse content = .ok e ∧ Xml.parse content' = .ok e' ∧
    Relation.ReflTransGen edit e e'

/-- Two bodies differ in edits, where they are read as values of a shape. -/
def DocumentEdited (u : ResponseReader) (g : Graph) (r : g.Ref) (content content' : Bytes) : Prop :=
  match u.protocol with
  | .json | .restJson => JsonEdited g (.shape r) content content'
  | .restXml | .query => XmlEdited (XmlBody.Edit g (.shape r)) content content'

/-- Two bodies differ in edits, where they are read for some members. -/
def MembersEdited (u : ResponseReader) (g : Graph) (ms : List (Member g.size))
    (content content' : Bytes) : Prop :=
  match u.protocol with
  | .json | .restJson => JsonEdited g (.members ms) content content'
  | .restXml => XmlEdited (XmlBody.Edit g (.members ms)) content content'
  | .query => XmlEdited (ResultEdit u g ms) content content'

/-- Whether a member takes the whole body. -/
def takesBody (g : Graph) (m : Member g.size) : Bool :=
  match m.location with
  | .header | .statusCode => false
  | .body | .uri | .query => m.payload || (g.shape m.shape).streaming

/-- Whether a value is the content of a body itself, which then is no document. -/
def isRaw {n : Nat} (s : Shape n) : Bool :=
  s.streaming || s.kind == .scalar .blob || s.kind == .scalar .string

/-- Two bodies of a response differ in edits of their documents. A blank body has none. -/
structure Edited (u : ResponseReader) (g : Graph) (r : g.Ref) (content content' : Bytes) : Prop where
  notBlank : isBlank content = false
  notBlank' : isBlank content' = false
  /-- For a member that takes the whole body, the document is read as a value of its shape. -/
  whole : ∀ m ∈ g.members r, takesBody g m = true →
    isRaw (g.shape m.shape) = false ∧ DocumentEdited u g m.shape content content'
  /-- Otherwise it is read for the members that share the body. -/
  shared : (g.members r).any (takesBody g) = false →
    MembersEdited u g (g.shape r).bodyMembers content content'

/-! ### Documents -/

/-- The conditions under which a graph describes documents: structures are the mappings of their
fields. The members of a JSON structure have different names, which is where the values of its
fields are put, and for XML the names on the wire can be keys, since members are found by them. -/
structure Plain (u : ResponseReader) (g : Graph) : Prop where
  construct : ∀ r : g.Ref, (g.shape r).construct = none
  names : u.protocol.responseFormat = .json → ∀ r : g.Ref, ((g.members r).map Member.name).Nodup
  keys : u.protocol.responseFormat = .xml → ∀ r : g.Ref, ∀ m ∈ g.members r, m.wireName.isKey = true

end ResponseReader

/-- A whole document is read as it is inside another one. -/
theorem JsonBody.agree_ofDocument {c : Codec} {g : Graph} {r : g.Ref} {d d' : Value}
    (h : ReadAlike c g (.shape r) d d') :
    Agree Alike (ofDocument c g d r none).outcome (ofDocument c g d' r none).outcome := by
  rw [ReadAlike, read_eq, read_eq, readView, readView] at h
  rw [ofDocument, ofDocument]
  cases form : (g.shape r).form with
  | struct all =>
    simp only [form] at h
    exact h
  | _ =>
    simp only [Reading.outcome_bind, Reading.outcome_ofOutcome]
    refine (Agree.refl (fun _ => rfl) _).bind (R := Eq) fun _ _ _ => ?_
    rw [read_eq, read_eq, readView, readView]
    exact h

namespace ResponseReader

variable {g : Graph} {u : ResponseReader}

/-- What is read of documents that differ in edits is the same. -/
theorem agree_readDocument (hg : Plain u g) {r : g.Ref} {content content' : Bytes}
    (h : DocumentEdited u g r content content') :
    Agree Alike (u.readDocument g content r).outcome (u.readDocument g content' r).outcome := by
  have hjson (json : u.protocol.responseFormat = .json)
      (h : JsonEdited g (.shape r) content content') : Agree Alike
      (Reading.ofConversion (JsonBody.parse content) >>= fun d =>
        JsonBody.ofDocument u.codec g d r none).outcome
      (Reading.ofConversion (JsonBody.parse content') >>= fun d =>
        JsonBody.ofDocument u.codec g d r none).outcome := by
    obtain ⟨d, d', hd, hd', hedits⟩ := h
    rw [hd, hd', Reading.ofConversion_ok, Reading.ofConversion_ok, pure_bind, pure_bind]
    exact JsonBody.agree_ofDocument
      (JsonBody.readAlike_of_edits hg.construct (hg.names json) hedits)
  have hxml (xml : u.protocol.responseFormat = .xml)
      (h : XmlEdited (XmlBody.Edit g (.shape r)) content content') : Agree Alike
      (Reading.ofConversion (Xml.parse content) >>= fun e =>
        XmlBody.ofElement u.codec g e r).outcome
      (Reading.ofConversion (Xml.parse content') >>= fun e =>
        XmlBody.ofElement u.codec g e r).outcome := by
    obtain ⟨e, e', he, he', hedits⟩ := h
    have hsame := XmlBody.readSame_of_edits (c := u.codec) hg.construct (hg.keys xml) hedits
    rw [he, he', Reading.ofConversion_ok, Reading.ofConversion_ok, pure_bind, pure_bind,
      XmlBody.ofElement, XmlBody.ofElement, Reading.outcome_bind, Reading.outcome_bind,
      show _ = _ from hsame]
    exact .refl Alike.refl _
  rw [DocumentEdited] at h
  rw [readDocument, readDocument]
  cases hprotocol : u.protocol with
  | json =>
    simp only [hprotocol] at h
    exact hjson (congrArg Protocol.responseFormat hprotocol) h
  | restJson =>
    simp only [hprotocol] at h
    exact hjson (congrArg Protocol.responseFormat hprotocol) h
  | restXml =>
    simp only [hprotocol] at h
    exact hxml (congrArg Protocol.responseFormat hprotocol) h
  | query =>
    simp only [hprotocol] at h
    exact hxml (congrArg Protocol.responseFormat hprotocol) h

/-- The members are read from an element to the same effect before and after edits. -/
theorem outcome_readElement (hg : Plain u g) (xml : u.protocol.responseFormat = .xml)
    (root : u.rootElement = false) {r : g.Ref} {ms : List (Member g.size)} (hms : ms ⊆ g.members r)
    {e e' : Element} (h : Relation.ReflTransGen (XmlBody.Edit g (.members ms)) e e') :
    (u.readElement r ms e).outcome = (u.readElement r ms e').outcome := by
  have hsame := XmlBody.readSame_of_edits (c := u.codec) hg.construct (hg.keys xml) h
  simp only [readElement, root, Bool.false_eq_true, if_false, XmlBody.readSome]
  exact hsame (fun m hm => hg.keys xml r m (hms hm)) (g.shape r)

theorem nodup_readElement (root : u.rootElement = false) {r : g.Ref} {ms : List (Member g.size)}
    {e : Element} {values : List (String × Value)}
    (h : (u.readElement r ms e).outcome = .ok values) : (values.map Prod.fst).Nodup := by
  rw [readElement, root] at h
  exact XmlBody.nodup_readMembers h

/-- The element with the result is the same after an edit, or has been edited itself. -/
theorem ResultEdit.rel_resultElement? (operation : u.operation.truthy = true)
    {ms : List (Member g.size)} {e e' : Element} (h : ResultEdit u g ms e e') :
    Option.Rel (Relation.ReflTransGen (XmlBody.Edit g (.members ms))) (u.resultElement? e)
      (u.resultElement? e') := by
  have hrefl (x? : Option Element) :
      Option.Rel (Relation.ReflTransGen (XmlBody.Edit g (.members ms))) x? x? := by
    cases x? with
    | none => exact .none
    | some x => exact .some .refl
  rw [resultElement?, resultElement?]
  simp only [operation, if_true]
  cases h with
  | @sibling tag attributes text before after e outside h =>
    rw [resultTag] at outside h
    rw [if_neg (by simpa [Element.isNamed, Element.localName, Element.tag] using outside),
      if_neg (by simpa [Element.isNamed, Element.localName, Element.tag] using outside)]
    simp only [Element.children, List.find?_append, List.find?_cons, h]
    exact hrefl _
  | @result tag attributes text before after e e' outside named h =>
    rw [resultTag] at outside named
    rw [if_neg (by simpa [Element.isNamed, Element.localName, Element.tag] using outside),
      if_neg (by simpa [Element.isNamed, Element.localName, Element.tag] using outside)]
    simp only [Element.children, List.find?_append, List.find?_cons, h.isNamed_eq, named]
    cases before.find? fun e => e.isNamed (.str (u.operation.text ++ "Result")) with
    | none => exact .some (.single h)
    | some first => exact hrefl _
  | root named h =>
    rw [resultTag] at named
    rw [named, h.isNamed_eq, named, if_pos rfl, if_pos rfl]
    exact .some (.single h)

/-- What the members are read from in a Query response, and to what effect. -/
theorem outcome_readResult (hg : Plain u g) (xml : u.protocol.responseFormat = .xml)
    (root : u.rootElement = false) (operation : u.operation.truthy = true) {r : g.Ref}
    {ms : List (Member g.size)} (hms : ms ⊆ g.members r) {e e' : Element}
    (h : Relation.ReflTransGen (ResultEdit u g ms) e e') :
    (match u.resultElement? e with
      | none => pure []
      | some x => u.readElement r ms x : Reading _).outcome =
    (match u.resultElement? e' with
      | none => pure []
      | some x => u.readElement r ms x : Reading _).outcome := by
  induction h with
  | refl => rfl
  | @tail e₁ e₂ _ hedit ih =>
    rw [ih]
    have hrel := hedit.rel_resultElement? operation
    generalize u.resultElement? e₁ = x? at hrel
    generalize u.resultElement? e₂ = y? at hrel
    cases hrel with
    | none => rfl
    | some hxy => exact outcome_readElement hg xml root hms hxy

theorem agree_readBody (hg : Plain u g) (root : u.rootElement = false)
    (operation : u.protocol = .query → u.operation.truthy = true) {r : g.Ref}
    {ms : List (Member g.size)} (hms : ms ⊆ g.members r)
    (names : u.protocol.responseFormat = .json → (ms.map Member.name).Nodup)
    {content content' : Bytes} (h : MembersEdited u g ms content content') :
    Agree SameFields (u.readBody content r ms).outcome (u.readBody content' r ms).outcome := by
  have hjson (json : u.protocol.responseFormat = .json)
      (h : JsonEdited g (.members ms) content content') : Agree SameFields
      (Reading.ofConversion (JsonBody.parse content) >>= fun d =>
        JsonBody.readSome u.codec g d r ms).outcome
      (Reading.ofConversion (JsonBody.parse content') >>= fun d =>
        JsonBody.readSome u.codec g d r ms).outcome := by
    obtain ⟨d, d', hd, hd', hedits⟩ := h
    rw [hd, hd', Reading.ofConversion_ok, Reading.ofConversion_ok, pure_bind, pure_bind]
    exact JsonBody.readAlike_of_edits hg.construct (hg.names json) hedits (names json) (g.shape r)
  rw [MembersEdited] at h
  rw [readBody, readBody]
  cases hprotocol : u.protocol with
  | json =>
    simp only [hprotocol] at h
    exact hjson (congrArg Protocol.responseFormat hprotocol) h
  | restJson =>
    simp only [hprotocol] at h
    exact hjson (congrArg Protocol.responseFormat hprotocol) h
  | restXml =>
    simp only [hprotocol] at h
    obtain ⟨e, e', he, he', hedits⟩ := h
    simp only [he, he', Reading.ofConversion_ok, pure_bind]
    have xml := congrArg Protocol.responseFormat hprotocol
    exact .of_eq (outcome_readElement hg xml root hms hedits) fun values h =>
      .refl (nodup_readElement root h)
  | query =>
    simp only [hprotocol] at h
    obtain ⟨e, e', he, he', hedits⟩ := h
    simp only [he, he', Reading.ofConversion_ok, pure_bind]
    have xml := congrArg Protocol.responseFormat hprotocol
    refine .of_eq (outcome_readResult hg xml root (operation hprotocol) hms hedits)
      fun values hvalues => .refl ?_
    cases hresult : u.resultElement? e' with
    | none =>
      simp only [hresult] at hvalues
      cases hvalues
      exact List.nodup_nil
    | some x =>
      simp only [hresult] at hvalues
      exact nodup_readElement root hvalues

/-! ### Whole responses -/

/-- Two readings of responses have come to the same point. -/
structure SameProgress (response response' : Http.Response) (p p' : Progress) : Prop where
  values : SameFields p.values p'.values
  bodyTaken : p.bodyTaken = p'.bodyTaken
  response : p.response = response
  response' : p'.response = response'

section Steps

variable {status : Value} {headers : Headers} {content content' : Bytes}

/-- The body is read to the same effect for a member that takes it as a document. -/
theorem agree_readPayload (hblank : isBlank content = false) (hblank' : isBlank content' = false)
    {m : Member g.size} (raw : isRaw (g.shape m.shape) = false)
    (h : Agree Alike (u.readDocument g content m.shape).outcome
      (u.readDocument g content' m.shape).outcome) :
    Agree (fun q q' => Option.Rel Alike q.1 q'.1 ∧ q.2 = ⟨status, headers, .ofBytes content⟩ ∧
        q'.2 = ⟨status, headers, .ofBytes content'⟩)
      (u.readPayload ⟨status, headers, .ofBytes content⟩ m).outcome
      (u.readPayload ⟨status, headers, .ofBytes content'⟩ m).outcome := by
  rw [isRaw, Bool.or_eq_false_iff, Bool.or_eq_false_iff, beq_eq_false_iff_ne,
    beq_eq_false_iff_ne] at raw
  obtain ⟨⟨hstreaming, hblob⟩, hstring⟩ := raw
  simp only [readPayload, hstreaming, hblob, hstring, Bool.false_eq_true, or_self, if_false,
    Http.Response.read, Value.ofBytes, Reading.ofConversion_ok, pure_bind, hblank, hblank',
    Reading.outcome_bind]
  exact h.bind fun v v' halike => .ok ⟨.some halike, rfl, rfl⟩

theorem readMember_of_takesBody {m : Member g.size} (h : takesBody g m = true) (p : Progress) :
    u.readMember p m = u.readPayload p.response m >>= fun q =>
      pure ⟨match q.1 with
        | some v => Entries.put m.name v p.values
        | none => p.values, true, q.2⟩ := by
  rw [takesBody] at h
  rw [readMember]
  cases hlocation : m.location with
  | header =>
    rw [hlocation] at h
    cases h
  | statusCode =>
    rw [hlocation] at h
    cases h
  | _ =>
    rw [hlocation] at h
    exact if_pos h

/-- A member that shares the body is left for the document. -/
theorem readMember_of_shared {m : Member g.size} (h : takesBody g m = false)
    (header : m.location ≠ .header) (statusCode : m.location ≠ .statusCode) (p : Progress) :
    u.readMember p m = pure p := by
  rw [takesBody] at h
  rw [readMember]
  cases hlocation : m.location with
  | header => exact absurd hlocation header
  | statusCode => exact absurd hlocation statusCode
  | _ =>
    simp only [hlocation] at h
    simp only [h, Bool.false_eq_true, if_false]

/-- A member that is not in the document is read to the same effect from two responses. -/
theorem agree_readMember (hblank : isBlank content = false) (hblank' : isBlank content' = false)
    {m : Member g.size}
    (whole : takesBody g m = true → isRaw (g.shape m.shape) = false ∧
      Agree Alike (u.readDocument g content m.shape).outcome
        (u.readDocument g content' m.shape).outcome)
    {p p' : Progress}
    (h : SameProgress ⟨status, headers, .ofBytes content⟩ ⟨status, headers, .ofBytes content'⟩ p p') :
    Agree (SameProgress ⟨status, headers, .ofBytes content⟩ ⟨status, headers, .ofBytes content'⟩)
      (u.readMember p m).outcome (u.readMember p' m).outcome := by
  obtain ⟨hvalues, htaken, hresponse, hresponse'⟩ := h
  cases htakes : takesBody g m with
  | true =>
    obtain ⟨hraw, hdocument⟩ := whole htakes
    rw [readMember_of_takesBody htakes, readMember_of_takesBody htakes, hresponse, hresponse',
      Reading.outcome_bind, Reading.outcome_bind]
    refine (agree_readPayload hblank hblank' hraw hdocument).bind fun q q' hq => ?_
    obtain ⟨v?, after⟩ := q
    obtain ⟨v?', after'⟩ := q'
    obtain ⟨hv, hafter, hafter'⟩ := hq
    cases hv with
    | none => exact .ok ⟨hvalues, rfl, hafter, hafter'⟩
    | @some v v' halike =>
      exact .ok ⟨hvalues.put (p := (m.name, v)) (q := (m.name, v')) ⟨rfl, halike⟩, rfl, hafter,
        hafter'⟩
  | false =>
    cases hlocation : m.location with
    | header =>
      simp only [readMember, hlocation, Reading.outcome_bind, hresponse, hresponse']
      refine (Agree.refl (fun _ => rfl) _).bind (R := Eq) fun v? _ hv => ?_
      obtain rfl := hv
      cases v? with
      | none => exact .ok ⟨hvalues, htaken, hresponse, hresponse'⟩
      | some v => exact .ok ⟨hvalues.put (.refl (m.name, v)), htaken, rfl, rfl⟩
    | statusCode =>
      simp only [readMember, hlocation, hresponse, hresponse']
      exact .ok ⟨hvalues.put (.refl (m.name, status)), htaken, rfl, rfl⟩
    | _ =>
      have header : m.location ≠ .header := by simp [hlocation]
      have statusCode : m.location ≠ .statusCode := by simp [hlocation]
      rw [readMember_of_shared htakes header statusCode, readMember_of_shared htakes header statusCode]
      exact .ok ⟨hvalues, htaken, hresponse, hresponse'⟩

/-- The body is taken once a member takes it. -/
theorem bodyTaken_readMember {p p' : Progress} {m : Member g.size}
    (h : (u.readMember p m).outcome = .ok p') : p'.bodyTaken = (p.bodyTaken || takesBody g m) := by
  cases htakes : takesBody g m with
  | true =>
    rw [readMember_of_takesBody htakes, Reading.outcome_bind] at h
    obtain ⟨q, -, h⟩ := exists_of_bind h
    cases h
    rw [Bool.or_true]
  | false =>
    rw [Bool.or_false]
    cases hlocation : m.location with
    | header =>
      simp only [readMember, hlocation, Reading.outcome_bind] at h
      obtain ⟨v?, -, h⟩ := exists_of_bind h
      cases v? with
      | none => cases h; rfl
      | some v => cases h; rfl
    | statusCode =>
      simp only [readMember, hlocation] at h
      cases h
      rfl
    | _ =>
      rw [readMember_of_shared htakes (by simp [hlocation]) (by simp [hlocation])] at h
      cases h
      rfl

theorem bodyTaken_foldlM {ms : List (Member g.size)} {p p' : Progress}
    (h : (ms.foldlM u.readMember p).outcome = .ok p') :
    p'.bodyTaken = (p.bodyTaken || ms.any (takesBody g)) := by
  induction ms generalizing p with
  | nil =>
    cases h
    simp
  | cons m rest ih =>
    rw [List.foldlM_cons, Reading.outcome_bind] at h
    obtain ⟨q, hq, h⟩ := exists_of_bind h
    rw [ih h, bodyTaken_readMember hq, List.any_cons, Bool.or_assoc]

/-- A response is read to the same effect. -/
theorem agree_readStructure (hg : Plain u g) (root : u.rootElement = false)
    (operation : u.protocol = .query → u.operation.truthy = true) {r : g.Ref}
    (h : Edited u g r content content') :
    Agree Alike (u.readStructure ⟨status, headers, .ofBytes content⟩ r).outcome
      (u.readStructure ⟨status, headers, .ofBytes content'⟩ r).outcome := by
  have hmembers : Agree (SameProgress ⟨status, headers, .ofBytes content⟩
        ⟨status, headers, .ofBytes content'⟩)
      ((g.shape r).members.foldlM u.readMember
        { response := ⟨status, headers, .ofBytes content⟩ }).outcome
      ((g.shape r).members.foldlM u.readMember
        { response := ⟨status, headers, .ofBytes content'⟩ }).outcome := by
    rw [Reading.outcome_foldlM, Reading.outcome_foldlM]
    refine Agree.foldlM (fun m hm p p' hp => ?_) ⟨.nil, rfl, rfl, rfl⟩
    refine agree_readMember h.notBlank h.notBlank' (fun htakes => ?_) hp
    obtain ⟨hraw, hdocument⟩ := h.whole m hm htakes
    exact ⟨hraw, agree_readDocument hg hdocument⟩
  have hbuild {values values' : List (String × Value)} (h : SameFields values values') :
      Agree Alike ((Reading.ofConversion ((g.shape r).build values)).outcome)
        ((Reading.ofConversion ((g.shape r).build values')).outcome) := by
    rw [Shape.build, Shape.build, hg.construct r]
    exact .ok h.alike
  rw [readStructure, readStructure, Reading.outcome_bind, Reading.outcome_bind]
  refine (hmembers.and_left fun p hp => bodyTaken_foldlM hp).bind fun p p' hpp' => ?_
  obtain ⟨⟨hvalues, htaken, hresponse, hresponse'⟩, hany⟩ := hpp'
  rw [Bool.false_or] at hany
  rw [← htaken]
  cases hrest : p.bodyTaken || (g.shape r).bodyMembers.isEmpty with
  | true => exact hbuild hvalues
  | false =>
    rw [Bool.or_eq_false_iff] at hrest
    have hshared := agree_readBody hg root operation List.filter_sublist.subset
      (fun json => (hg.names json r).sublist (List.filter_sublist.map _))
      (h.shared (hany.symm.trans hrest.1))
    simp only [hresponse, hresponse', Http.Response.read, Value.ofBytes, Reading.ofConversion_ok,
      pure_bind, h.notBlank, h.notBlank', Bool.false_eq_true, if_false, Reading.outcome_bind]
    exact hshared.bind fun more more' hmore => hbuild (hvalues.putAll hmore)

end Steps

/-- The value of a response stays the same, whatever more its body says. -/
theorem agree_read_of_edited (hg : Plain u g) (root : u.rootElement = false)
    (operation : u.protocol = .query → u.operation.truthy = true) {r : g.Ref}
    {content content' : Bytes} (h : Edited u g r content content') (status : Value)
    (headers : Headers) :
    Agree Alike (u.read ⟨status, headers, .ofBytes content⟩ (some r)).result
      (u.read ⟨status, headers, .ofBytes content'⟩ (some r)).result := by
  have hread : Agree Alike (u.readStructure ⟨status, headers, .ofBytes content⟩ r).outcome
      (u.readStructure ⟨status, headers, .ofBytes content'⟩ r).outcome :=
    agree_readStructure hg root operation h
  rw [read, read]
  cases u.codec.checkReadable g r with
  | error d => exact .error _ _
  | ok _ =>
    dsimp only
    generalize (u.readStructure ⟨status, headers, .ofBytes content⟩ r).outcome = x at hread ⊢
    generalize (u.readStructure ⟨status, headers, .ofBytes content'⟩ r).outcome = y at hread ⊢
    cases hread with
    | ok halike => exact .ok halike
    | error e e' => exact .error _ _

/-- The numerals that name four shapes. -/
local instance fourShapes : NeZero 4 := ⟨by decide⟩

/-- A page of a catalogue: entries, each with a title and maybe a note. -/
def catalogue : Graph where
  size := 4
  shapes := #v[
    { name := "Page", form := .struct [{ name := "entries", shape := 1, locationName := .str "e" }] },
    { name := "Entries", form := .list 2, flattened := true },
    { name := "Entry", form := .struct [{ name := "t", shape := 3 }, { name := "note", shape := 3 }] },
    { name := "Text", form := .scalar .string }]

/-- A reader of pages. -/
def pageReader (protocol : Protocol) (format : BodyFormat) : ResponseReader where
  protocol := protocol
  codec := .complete format true .null
  operation := .str "Get"

theorem plain_catalogue (protocol : Protocol) (format : BodyFormat) :
    Plain (pageReader protocol format) catalogue where
  construct := by decide
  names _ := by decide
  keys _ := by decide

/-- No member of a page takes the whole body. -/
theorem takesBody_page : ∀ m ∈ catalogue.members ⟨0, by decide⟩, takesBody catalogue m = false := by
  decide

/-- The JSON text of a page. -/
def pageText : Bytes := bytesOf "\x7b\"e\": [\x7b\"t\": \"oak\"\x7d]\x7d"

/-- The JSON text of a page that says more. -/
def fullerPageText : Bytes :=
  bytesOf "\x7b\"next\": 2, \"e\": [\x7b\"note\": null, \"t\": \"oak\"\x7d]\x7d"

theorem edited_pageText :
    Edited (pageReader .json .json) catalogue ⟨0, by decide⟩ pageText fullerPageText where
  notBlank := by cbv
  notBlank' := by cbv
  whole m hm htakes := absurd htakes (by rw [takesBody_page m hm]; exact Bool.false_ne_true)
  shared _ := by
    have hnext : JsonBody.Edit catalogue (.members (catalogue.shape ⟨0, by decide⟩).bodyMembers)
        (.ofFields [("e", .list [.ofFields [("t", .str "oak")]])])
        (.ofFields [("next", .int 2), ("e", .list [.ofFields [("t", .str "oak")]])]) :=
      .unknown [] [("e", .list [.ofFields [("t", .str "oak")]])] (by decide)
    have hnote : JsonBody.Edit catalogue (.shape ⟨2, by decide⟩) (.ofFields [("t", .str "oak")])
        (.ofFields [("note", .null), ("t", .str "oak")]) :=
      .struct rfl (.null [] [("t", .str "oak")] (by decide))
    have hentries : JsonBody.Edit catalogue (.members (catalogue.shape ⟨0, by decide⟩).bodyMembers)
        (.ofFields [("next", .int 2), ("e", .list [.ofFields [("t", .str "oak")]])])
        (.ofFields [("next", .int 2),
          ("e", .list [.ofFields [("note", .null), ("t", .str "oak")]])]) :=
      .inside [("next", .int 2)] [] (by cbv) (.item [] [] rfl hnote)
    exact ⟨_, _, by cbv, by cbv, .tail (.single hnext) hentries⟩

/-- The XML text of a page. -/
def pageMarkup : Bytes := bytesOf "<R><GetResult><e><t>oak</t></e></GetResult></R>"

/-- The XML text of a page that says more, beside the result and inside it. -/
def fullerPageMarkup : Bytes := bytesOf "<R><M/><GetResult><e><n/><t>oak</t></e></GetResult></R>"

/-- An element with a text, or with children. -/
def element (name : String) (text : String) (children : List Element) : Element :=
  .node (.str name) [] text children

/-- The element of a page, with some children before the title of its entry. -/
def pageElement (more : List Element) : Element :=
  element "GetResult" "" [element "e" "" (more ++ [element "t" "oak" []])]

theorem parse_pageMarkup : Xml.parse pageMarkup = .ok (element "R" "" [pageElement []]) := (rfl)

theorem parse_fullerPageMarkup : Xml.parse fullerPageMarkup =
    .ok (element "R" "" [element "M" "" [], pageElement [element "n" "" []]]) := (rfl)

theorem edited_pageMarkup :
    Edited (pageReader .query .xml) catalogue ⟨0, by decide⟩ pageMarkup fullerPageMarkup where
  notBlank := by cbv
  notBlank' := by cbv
  whole m hm htakes := absurd htakes (by rw [takesBody_page m hm]; exact Bool.false_ne_true)
  shared _ := by
    have hsibling : ResultEdit (pageReader .query .xml) catalogue
        (catalogue.shape ⟨0, by decide⟩).bodyMembers (element "R" "" [pageElement []])
        (element "R" "" [element "M" "" [], pageElement []]) :=
      .sibling [] [pageElement []] (by cbv) (by cbv)
    have hfree : ∀ m ∈ catalogue.members ⟨2, by decide⟩,
        XmlBody.standsFor (element "n" "" []) m = false := by decide
    have hentry : XmlBody.Edit catalogue (.shape ⟨2, by decide⟩)
        (element "e" "" [element "t" "oak" []])
        (element "e" "" [element "n" "" [], element "t" "oak" []]) :=
      .struct rfl (.child [] [element "t" "oak" []] hfree)
    have hmember : (catalogue.shape ⟨0, by decide⟩).bodyMembers.find? (XmlBody.standsFor
        (element "e" "" [element "t" "oak" []])) =
          some { name := "entries", shape := ⟨1, by decide⟩, locationName := .str "e" } := rfl
    have hresult : ResultEdit (pageReader .query .xml) catalogue
        (catalogue.shape ⟨0, by decide⟩).bodyMembers
        (element "R" "" [element "M" "" [], pageElement []])
        (element "R" "" [element "M" "" [], pageElement [element "n" "" []]]) :=
      .result [element "M" "" []] [] (by cbv) (by cbv) (.inside [] [] hmember hentry)
    exact ⟨_, _, parse_pageMarkup, parse_fullerPageMarkup, .tail (.single hsibling) hresult⟩

/-- A fuller page is read as the page, from JSON and from a Query response. -/
theorem agree_read_of_edited_page :
    Agree Alike
        ((pageReader .json .json).read (g := catalogue) ⟨.int 200, {}, .ofBytes pageText⟩
          (some ⟨0, by decide⟩)).result
        ((pageReader .json .json).read (g := catalogue) ⟨.int 200, {}, .ofBytes fullerPageText⟩
          (some ⟨0, by decide⟩)).result ∧
      Agree Alike
        ((pageReader .query .xml).read (g := catalogue) ⟨.int 200, {}, .ofBytes pageMarkup⟩
          (some ⟨0, by decide⟩)).result
        ((pageReader .query .xml).read (g := catalogue) ⟨.int 200, {}, .ofBytes fullerPageMarkup⟩
          (some ⟨0, by decide⟩)).result :=
  ⟨agree_read_of_edited (plain_catalogue _ _) rfl (fun h => by cases h) edited_pageText _ _,
    agree_read_of_edited (plain_catalogue _ _) rfl (fun _ => by cbv) edited_pageMarkup _ _⟩

end ResponseReader

end ServiceWire
