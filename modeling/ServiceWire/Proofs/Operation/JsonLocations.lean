import ServiceWire.Operation.Service
import ServiceWire.Proofs.Codec.JsonText
import ServiceWire.Proofs.Operation.Request
import ServiceWire.Proofs.Operation.Response
import ServiceWire.Proofs.Text.Percent

/-!
# Locations in JSON services

A JSON request has every member of its input in the body, wherever the member is located. A
response is read by locations all the same: from a response with the body of a request come back
the members that are located in the body, and the status in the place of those located there. All
other members of the request are lost. So a value comes back as it was if all members are located
in the body, which is what `exists_json_readBack` says last.
-/

namespace ServiceWire

namespace JsonBody

variable {c : Codec} {g : Graph} {notes : Bool} {ns : Value}

/-! ### Entries that no member stands for -/

theorem readFields_filter (members : List (Member g.size))
    (entries : List (Value × Value × Reader g)) (values : List (String × Value)) :
    readFields c g members entries values =
      readFields c g members (entries.filter fun e => (memberOf g members e.1).isSome) values := by
  induction entries generalizing values with
  | nil => rfl
  | cons e rest ih =>
    obtain ⟨key, raw, read⟩ := e
    rw [readFields, List.filter_cons]
    cases hm : memberOf g members key with
    | none => exact ih values
    | some m => simp only [Option.isSome_some, if_true, readFields, hm, ih]

/-- Of the members of a structure, some are found by their names on the wire. -/
theorem isSome_memberOf_filter {members : List (Member g.size)} (p : Member g.size → Bool)
    (texts : ∀ m ∈ members, m.wireName = .str m.wireName.text)
    (wireNames : (members.map fun m => m.wireName.text).Nodup) {m : Member g.size}
    (hm : m ∈ members) :
    (memberOf g (members.filter p) (.str m.wireName.text)).isSome = p m := by
  have hsub : (members.filter p).Sublist members := List.filter_sublist
  cases hp : p m with
  | true =>
    rw [readMemberOf (fun m hm => texts m (hsub.subset hm)) (wireNames.sublist (hsub.map _))
      (List.mem_filter.mpr ⟨hm, hp⟩)]
    rfl
  | false =>
    have hnone : memberOf g (members.filter p) (.str m.wireName.text) = none := by
      refine List.find?_eq_none.mpr fun m' hm' => ?_
      obtain ⟨hm', hp'⟩ := List.mem_filter.mp (List.mem_reverse.mp hm')
      rw [texts m' hm', Value.str_beq_str, beq_iff_eq]
      intro hname
      rw [List.inj_on_of_nodup_map wireNames hm' hm hname, hp] at hp'
      cases hp'
    rw [hnone]
    rfl

/-- Of the entries that a structure was written as, those of the members that are asked for are
read. -/
theorem outcome_readMembers_filter (s : Shape g.size) {members : List (Member g.size)}
    (p : Member g.size → Bool) (document : Member g.size × Value → Value)
    {result : Member g.size × Value → Value} {parts : List (Member g.size × Value)}
    (texts : ∀ m ∈ members, m.wireName = .str m.wireName.text)
    (wireNames : (members.map fun m => m.wireName.text).Nodup)
    (sub : ∀ q ∈ parts, q.1 ∈ members) (names : (parts.map fun q => q.1.name).Nodup)
    (notNull : ∀ q ∈ parts, (document q).isNull = false)
    (hr : ∀ q ∈ parts,
      read (.complete .json notes ns) g (document q) q.1.shape = pure (result q)) :
    (readMembers (.complete .json notes ns) g s (members.filter p)
        ((Value.dict (parts.map fun q => (.str q.1.wireName.text, document q))).view
          (read (.complete .json notes ns) g))).outcome =
      .ok ((parts.filter fun q => p q.1).map fun q => (q.1.name, result q)) := by
  have hsub : (members.filter p).Sublist members := List.filter_sublist
  have htexts : ∀ m ∈ members.filter p, m.wireName = .str m.wireName.text :=
    fun m hm => texts m (hsub.subset hm)
  have hparts : (parts.filter fun q => p q.1).Sublist parts := List.filter_sublist
  have hentries : ((parts.map fun q => (Value.str q.1.wireName.text, document q,
      read (.complete .json notes ns) g (document q))).filter fun e =>
        (memberOf g (members.filter p) e.1).isSome) =
      (parts.filter fun q => p q.1).map fun q => (Value.str q.1.wireName.text, document q,
        read (.complete .json notes ns) g (document q)) := by
    rw [List.filter_map]
    refine congrArg _ (List.filter_congr fun q hq => ?_)
    exact isSome_memberOf_filter p texts wireNames (sub q hq)
  have hfields : readFields (.complete .json notes ns) g (members.filter p)
      ((parts.filter fun q => p q.1).map fun q => (.str q.1.wireName.text, document q,
        read (.complete .json notes ns) g (document q))) [] =
          pure ((parts.filter fun q => p q.1).map fun q => (q.1.name, result q)) :=
    readFields_eq [] htexts (wireNames.sublist (hsub.map _))
      (fun q hq => List.mem_filter.mpr ⟨sub q (hparts.subset hq), (List.mem_filter.mp hq).2⟩)
      (names.sublist (hparts.map _)) (fun q hq => notNull q (hparts.subset hq))
      fun q hq => hr q (hparts.subset hq)
  rw [readMembers, Value.entries?_view_dict, List.map_map]
  simp only [Function.comp_def, checkNames_of_texts htexts, Reading.ofConversion_ok, pure_bind]
  rw [readFields_filter, hentries, hfields, pure_bind, noteUnknown]
  split
  · rfl
  · rfl

/-- All members of a structure are written as a document, of which those that are asked for are
read back. -/
theorem exists_members_filter (notes : Bool) (ns : Value) {r : g.Ref} (p : Member g.size → Bool)
    {fields : List (String × Value)} (hr : Distinct (g.shape r))
    (notNull : ∀ p ∈ fields, p.2.isNull = false)
    (h : ∀ q ∈ present (g.members r) fields, ∃ d w, RoundTrip notes ns g q.1.shape q.2 d w) :
    ∃ (entries : List (String × Json)) (result : Member g.size × Value → Value),
      writeMembers (.complete .json notes ns) g (g.members r)
          ((Value.ofFields fields).view (write (.complete .json notes ns) g)) =
        .ok (Json.object entries).toValue ∧
      (readSome (.complete .json notes ns) g (Json.object entries).toValue r
          ((g.members r).filter p)).outcome =
        .ok ((present ((g.members r).filter p) fields).map fun q => (q.1.name, result q)) ∧
      ∀ q ∈ present (g.members r) fields, (result q).Alike q.2 := by
  choose! document result hq using h
  have hpresent : (present (g.members r) fields).filter (fun q => p q.1) =
      present ((g.members r).filter p) fields := by
    rw [present, present, List.filter_filterMap, List.filterMap_filter]
    refine List.filterMap_congr fun m _ => ?_
    cases fields.lookup m.name with
    | none => simp
    | some v => simp [Option.filter_some]
  refine ⟨(present (g.members r) fields).map fun q => (q.1.wireName.text, document q), result, ?_,
    ?_, fun q hp => (hq q hp).alike⟩
  · rw [toValue_object]
    exact writeMembers_eq hr.texts hr.wireNames notNull fun q hp => (hq q hp).written
  · rw [toValue_object, readSome, ← hpresent]
    exact outcome_readMembers_filter (g.shape r) p (fun q => (document q).toValue) hr.texts
      hr.wireNames (fun q hp => (mem_present hp).1) (nodup_present hr.names fields)
      (fun q hp => (hq q hp).notNull) fun q hp => (hq q hp).read

/-- The text of an object is not blank. -/
theorem isBlank_render_object (entries : List (String × Json)) :
    ResponseReader.isBlank (bytesOf (Json.object entries).render) = false := by
  have hchars : (Json.object entries).render.toList =
      '\x7b' :: (Json.fieldChars .compact entries ++ ['\x7d']) := by
    rw [Json.render, String.toList_ofList, Json.chars, List.cons_append]
  have hbrace : String.utf8EncodeChar '\x7b' = [0x7B] := by decide
  rw [bytesOf, Utf8.encode_eq_flatMap, hchars, List.flatMap_cons, hbrace, ResponseReader.isBlank]
  rfl

end JsonBody

namespace ResponseReader

variable {g : Graph}

/-- A response without header fields whose body is a document is read as the status and what is
read of the document. -/
theorem read_of_document {u : ResponseReader} {notes : Bool} {ns : Value}
    (protocol : u.protocol = .json) (codec : u.codec = .complete .json notes ns) {r : g.Ref}
    (hr : JsonBody.Distinct (g.shape r)) (payload : (g.shape r).hasPayload = false)
    (streaming : g.hasStreamingMember r = false) (fields : List (String × Value))
    {values : List (String × Value)} {d : Json}
    (hd : Json.parse? d.render = some d) (notBlank : isBlank (bytesOf d.render) = false)
    (names : values.map Prod.fst = (present (g.shape r).bodyMembers fields).map fun q => q.1.name)
    (hread : (JsonBody.readSome (.complete .json notes ns) g d.toValue r
      (g.shape r).bodyMembers).outcome = .ok values) (status : Value) :
    (u.read ⟨status, {}, .ofBytes (bytesOf d.render)⟩ (some r)).result =
      .ok (.ofFields (statusFields g r status ++ values)) := by
  have hfold := foldlM_readMember_status u status (.ofBytes (bytesOf d.render)) hr.texts hr.names
    payload streaming
  have hbody : (u.readBody (bytesOf d.render) r (g.shape r).bodyMembers).outcome = .ok values := by
    rw [readBody, protocol, codec]
    simp only [JsonBody.parse_render hd, Reading.ofConversion_ok, pure_bind, hread]
  have hnodup : ((statusFields g r status).map Prod.fst ++ values.map Prod.fst).Nodup := by
    have hnodup := nodup_readable hr.names fields status
    rw [readable, List.map_append, List.map_map] at hnodup
    rw [names]
    exact hnodup
  refine read_of_parts codec (by decide) hr.construct hfold hnodup (fun hnone => ?_)
    fun _ => ⟨_, rfl, notBlank, hbody⟩
  rw [Bool.false_or, List.isEmpty_iff] at hnone
  rw [hnone] at names
  exact List.map_eq_nil_iff.mp names

end ResponseReader

namespace RequestWriter

variable {g : Graph}

/-- The body of a JSON request is the document of its input, wherever the members are located. -/
theorem write_of_json {w : RequestWriter g} {r : g.Ref} {v : Value} {data : Bytes}
    (protocol : w.protocol = .json) (input : w.operation.input = some r)
    (payload : (g.shape r).hasPayload = false) (notNull : v.isNull = false)
    (hencode : JsonBody.encode w.codec g v r none = .ok data) :
    (∀ q, (w.write v).1 = .ok q → q.body = .ofBytes data) ∧
    ∀ uri p, w.operation.uri = .str uri → path (UriTemplate.split uri).1 [] = .ok p →
      ∃ q, (w.write v).1 = .ok q := by
  have hnone : (g.shape r).payloadMember? = none := by simpa [Shape.hasPayload] using payload
  have hbody (q : Http.Request) : ∃ q', w.withBody v q = .ok q' ∧ q'.body = .ofBytes data := by
    rw [withBody, protocol]
    dsimp only
    rw [withJsonBody, input]
    dsimp only
    rw [hnone]
    dsimp only
    rw [hencode]
    exact ⟨_, rfl, rfl⟩
  constructor
  · intro q hq
    obtain ⟨uri, b, p, -, -, -, hq⟩ := (build_eq_ok_iff notNull).mp (write_eq_ok_iff.mp hq)
    obtain ⟨q', hq', hdata⟩ := hbody (w.start uri b p)
    obtain rfl := Except.ok.inj (hq'.symm.trans hq)
    exact hdata
  · intro uri p huri hp
    have hbound : w.bound v = .ok {} := by
      rw [bound, input, protocol]
      rfl
    obtain ⟨q, hq, -⟩ := hbody (w.start uri {} p)
    refine ⟨q, write_eq_ok_iff.mpr ((build_eq_ok_iff notNull).mpr ⟨uri, {}, p, ?_, hbound, hp, hq⟩)⟩
    rw [huri, Value.asText]

end RequestWriter

namespace Service

variable {g : Graph}

/-- The settings of codecs of a service. -/
theorem json_of_create {s : Service} {settings : Settings} {target api version : Value}
    (h : create (.str "json") settings target api version = .ok s) :
    s.protocol = .json ∧ s.formCodec = none ∧ ∃ notes ns, s.codec = .complete .json notes ns := by
  cases h
  exact ⟨rfl, rfl, _, _, rfl⟩

/-- A JSON service writes all members of an input into the body. From a response with that body it
reads the members that are located in the body and the status, so the input comes back if all its
members are located in the body. -/
theorem exists_json_readBack {s : Service} {settings : Settings} {target api version : Value}
    (hs : create (.str "json") settings target api version = .ok s) {r : g.Ref}
    (hr : ∀ q, g.Leads r q → JsonBody.Distinct (g.shape q))
    (form : (g.shape r).form = .struct (g.members r)) (payload : (g.shape r).hasPayload = false)
    (streaming : g.hasStreamingMember r = false) (o : Operation g) (input : o.input = some r)
    (endpoint : Value) {fields : List (String × Value)}
    (h : WellTyped g (JsonBody.demands g) r (.ofFields fields)) :
    ∃ (w : RequestWriter g) (d : Json), s.requestWriter o endpoint = .ok w ∧
      JsonBody.toDocument s.codec g (.ofFields fields) r none = .ok d.toValue ∧
      (∀ q, (w.write (.ofFields fields)).1 = .ok q → q.body = .ofBytes (bytesOf d.render)) ∧
      (∀ uri p, o.uri = .str uri → RequestWriter.path (UriTemplate.split uri).1 [] = .ok p →
        ∃ q, (w.write (.ofFields fields)).1 = .ok q) ∧
      (Json.parse? d.render = some d → ∀ known : Option (Operation g), ∃ back,
        ((s.responseReader known).read ⟨.int 200, {}, .ofBytes (bytesOf d.render)⟩
          (some r)).result = .ok back ∧
        back.Alike (.ofFields (ResponseReader.readable g r (.int 200) fields)) ∧
        ((∀ m ∈ g.members r, m.location = .body) → back.Alike (.ofFields fields))) := by
  obtain ⟨protocol, formCodec, notes, ns, codec⟩ := json_of_create hs
  obtain ⟨others, hfields, names, known, typed⟩ := h.exists_fields form
  obtain rfl := Value.ofFields_injective hfields
  have hself := hr r (.refl r)
  have hrequest : s.requestCodec = .complete .json notes ns := by
    rw [requestCodec, formCodec, codec]
    rfl
  -- All members share a document, of which those located in the body are read.
  obtain ⟨entries, result, hwrite, hread, halike⟩ := JsonBody.exists_members_filter
    notes ns (fun m => m.location == .body) hself
    (WellTyped.fields_not_null known typed) fun q hq => by
      obtain ⟨hm, hmem⟩ := mem_present hq
      exact JsonBody.exists_roundTrip_of_leads notes ns
        (fun p hp => hr p (hp.head (Graph.IsPart.member form hm)))
        (typed (q.1.name, q.2) hmem q.1 hm rfl)
  rw [← ResponseReader.bodyMembers_of_not_hasPayload payload] at hread
  have hdocument : JsonBody.toDocument (.complete .json notes ns) g (.ofFields fields) r none =
      .ok (Json.object entries).toValue := by
    rw [JsonBody.toDocument, form]
    exact hwrite
  have hw := requestWriter_complete hrequest (by rw [protocol]; decide) o endpoint
  have hencode : JsonBody.encode s.requestCodec g (.ofFields fields) r none =
      .ok (bytesOf (Json.object entries).render) := by
    rw [hrequest]
    exact JsonBody.encode_of_toDocument hdocument
  obtain ⟨hbody, hwritten⟩ := RequestWriter.write_of_json (w := s.writerOf o endpoint) protocol
    input payload (v := .ofFields fields) rfl hencode
  refine ⟨s.writerOf o endpoint, .object entries, hw, codec ▸ hdocument, hbody, hwritten,
    fun hparse reader => ?_⟩
  have hsub : ∀ q ∈ present (g.shape r).bodyMembers fields, (result q).Alike q.2 := by
    intro q hq
    obtain ⟨hm, hx⟩ := mem_present_iff.mp hq
    exact halike q (mem_present_iff.mpr ⟨(List.mem_filter.mp hm).1, hx⟩)
  refine ⟨_, ResponseReader.read_of_document (u := s.responseReader reader) protocol codec hself
    payload streaming fields hparse (JsonBody.isBlank_render_object entries) ?_ hread (.int 200), ?_,
    fun body => ?_⟩
  · rw [List.map_map]
    rfl
  · exact ResponseReader.alike_of_readable hsub (ResponseReader.nodup_readable hself.names _ _)
      (.refl _)
  · exact ResponseReader.alike_of_readable hsub names
      (ResponseReader.readable_perm hself.names names known payload body _)

/-- The numerals that name two shapes. -/
local instance twoShapes : NeZero 2 := ⟨by decide⟩

/-- A pass: its number is a header field, the holder's name is in the body. -/
def pass : Shape 2 where
  name := "Pass"
  form := .struct
    [{ name := "Number", shape := 1, location := .header }, { name := "Holder", shape := 1 }]

/-- The shapes of passes. -/
def passes : Graph where
  size := 2
  shapes := #v[pass, { name := "Text", form := .scalar .string }]

/-- A service for passes. -/
def passService : Service where
  protocol := .json
  settings := {}
  targetPrefix := .null
  apiVersion := .null
  jsonVersion := .str "1.1"
  codec := codecOf .json {}
  formCodec := none

/-- The operation that issues a pass. -/
def issue : Operation passes where
  name := .str "Issue"
  input := some ⟨0, by decide⟩

/-- The members of a pass. -/
def passFields : List (String × Value) := [("Number", .str "7"), ("Holder", .str "a")]

/-- The document of a pass. -/
def passDocument : Json := .object [("Number", .str "7"), ("Holder", .str "a")]

theorem distinct_passes (q : passes.Ref) : JsonBody.Distinct (passes.shape q) := by
  have hpass : JsonBody.Distinct pass :=
    ⟨rfl, by decide, List.forall_mem_cons.mpr ⟨rfl, List.forall_mem_singleton.mpr rfl⟩, by decide⟩
  rcases q with ⟨_ | _ | i, hi⟩
  · exact hpass
  · exact ⟨rfl, List.nodup_nil, fun m hm => (by cases hm), List.nodup_nil⟩
  · exact absurd hi (Nat.not_lt.mpr (Nat.le_add_left 2 i))

theorem form_pass : (passes.shape ⟨0, by decide⟩).form = .struct pass.members := rfl

theorem wellTyped_pass :
    WellTyped passes (JsonBody.demands passes) ⟨0, by decide⟩ (.ofFields passFields) := by
  have htext (s : String) : WellTyped passes (JsonBody.demands passes) ⟨1, by decide⟩ (.str s) :=
    .scalar rfl (.string s) trivial
  have known : ∀ name ∈ ["Number", "Holder"], name ∈ pass.members.map Member.name := by decide
  refine .of_present form_pass (by decide) known ?_
  exact List.forall_mem_cons.mpr ⟨⟨htext "7", trivial⟩,
    List.forall_mem_singleton.mpr ⟨htext "a", trivial⟩⟩

theorem toDocument_pass :
    JsonBody.toDocument passService.codec passes (.ofFields passFields) ⟨0, by decide⟩ none =
      .ok passDocument.toValue := by
  cbv

theorem parse?_passDocument : Json.parse? passDocument.render = some passDocument := by
  cbv

/-- A pass is issued, and its holder is read back. -/
theorem exists_json_readBack_pass :
    ∃ w q v, passService.requestWriter issue .null = .ok w ∧
      (w.write (.ofFields passFields)).1 = .ok q ∧
      ((passService.responseReader (some issue)).read (g := passes) ⟨.int 200, {}, q.body⟩
        (some ⟨0, by decide⟩)).result = .ok v ∧ v.Alike (.ofFields [("Holder", .str "a")]) := by
  obtain ⟨w, d, hw, hd, hbody, hwritten, hread⟩ :=
    exists_json_readBack (show create (.str "json") {} .null .null .null = .ok passService from rfl)
      (r := ⟨0, by decide⟩) (fun q _ => distinct_passes q) form_pass rfl rfl issue rfl .null
      wellTyped_pass
  obtain rfl : d = passDocument :=
    Json.toValue_injective (Except.ok.inj (hd.symm.trans toDocument_pass))
  obtain ⟨q, hq⟩ := hwritten "/" "/" rfl (by cbv)
  obtain ⟨v, hv, halike, -⟩ := hread parse?_passDocument (some issue)
  refine ⟨w, q, v, hw, hq, ?_, halike⟩
  rw [hbody q hq]
  exact hv

/-- The number of a pass does not come back from the body that it was written into. -/
theorem number_lost :
    (JsonBody.encode passService.codec passes (.ofFields passFields) ⟨0, by decide⟩ none =
      .ok (bytesOf passDocument.render)) ∧
    ((passService.responseReader (some issue)).read (g := passes)
      ⟨.int 200, {}, .ofBytes (bytesOf passDocument.render)⟩ (some ⟨0, by decide⟩)).result =
        .ok (.ofFields [("Holder", .str "a")]) ∧
    ¬(Value.ofFields [("Holder", .str "a")]).Alike (.ofFields passFields) := by
  refine ⟨JsonBody.encode_of_toDocument toDocument_pass, by cbv, fun h => ?_⟩
  exact absurd h.names_perm.length_eq (by decide)

end Service

end ServiceWire
