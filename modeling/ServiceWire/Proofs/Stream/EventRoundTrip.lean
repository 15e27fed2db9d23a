import ServiceWire.Proofs.Stream.Payload

/-!
# Events read back

The frame that a well-typed value of an event is written as is read back as that value, by a union
with the standard handlers. The header has the members that are located there and the payload has
all others, so neither depends on the other; which field names the event says whether the event is
an error.
-/

namespace ServiceWire

namespace EventHandler

variable {c : Codec} {g : Graph} {notes : Bool} {ns : Value} {event : String} {r : g.Ref}
  {contentType v : Value} {f : Frame}

/-! ### Headers of written frames -/

/-- The header fields of a written frame that are not the members' name the event, but for the
content type. -/
theorem header?_of_reserved (hr : Framed g r) (h : writeFrame c g event r contentType v = .ok f)
    {name : String} (hname : name ∈ Frame.reserved) (hne : name ≠ Frame.contentTypeField) :
    f.header? (.str name) = (eventFields g event (g.shape r)).lookup (.str name) := by
  obtain ⟨type, data, -, rfl⟩ := exists_of_writeFrame hr.texts h
  rw [Frame.header?, Entries.lookup_put_str, if_neg hne, lookup_foldl_withField_of_ne]
  rintro m hm hloc rfl
  exact hr.unreserved m hm hloc hname

theorem eventFields_lookup_ne {name : String} {s : Shape g.size}
    (hmessage : name ≠ Frame.messageTypeField)
    (htype : name ≠ if s.isError then Frame.errorTypeField else Frame.eventTypeField) :
    (eventFields g event s).lookup (.str name) = none := by
  rw [eventFields, List.lookup_cons, List.lookup_cons, Value.str_beq_str, Value.str_beq_str,
    beq_false_of_ne hmessage, beq_false_of_ne htype]
  rfl

/-- The header field of a member that is located in the header has its value. -/
theorem header?_of_mem (hr : Framed g r) (h : writeFrame c g event r contentType v = .ok f)
    {m : Member g.size} (hm : m ∈ g.members r) (hloc : m.location = .header) :
    f.header? (.str m.wireName.text) =
      if (memberValue g v m).isNull then none else some (memberValue g v m) := by
  obtain ⟨type, data, -, rfl⟩ := exists_of_writeFrame hr.texts h
  have hunreserved := hr.unreserved m hm hloc
  have hne : ∀ name ∈ Frame.reserved, m.wireName.text ≠ name := by
    rintro name hname rfl
    exact hunreserved hname
  have hnames : ∀ m' ∈ g.members r, m'.location = .header →
      m'.wireName.text = m.wireName.text → m' = m := by
    intro m' hm' hloc' heq
    exact List.inj_on_of_nodup_map hr.headerNames (List.mem_filter.mpr ⟨hm', beq_iff_eq.mpr hloc'⟩)
      (List.mem_filter.mpr ⟨hm, beq_iff_eq.mpr hloc⟩) heq
  have hfields : (eventFields g event (g.shape r)).lookup (.str m.wireName.text) = none := by
    refine eventFields_lookup_ne (hne _ (by decide)) ?_
    split
    · exact hne _ (by decide)
    · exact hne _ (by decide)
  rw [Frame.header?, Entries.lookup_put_str, if_neg (hne _ (by decide)),
    lookup_foldl_withField_of_mem hm hloc hnames, hfields]

theorem messageType_of_writeFrame (hr : Framed g r)
    (h : writeFrame c g event r contentType v = .ok f) :
    f.messageType = .str (messageTypeOf g (g.shape r)) := by
  rw [Frame.messageType, header?_of_reserved hr h (by decide) (by decide), eventFields,
    List.lookup_cons, Value.str_beq_str, beq_self_eq_true]
  rfl

/-- The event is named as an error exactly if it is one. -/
theorem errorType_of_writeFrame (hr : Framed g r)
    (h : writeFrame c g event r contentType v = .ok f) :
    f.header? (.str Frame.errorTypeField) =
      if (g.shape r).isError then some (.str event) else none := by
  rw [header?_of_reserved hr h (by decide) (by decide)]
  cases hs : (g.shape r).isError with
  | true =>
    rw [eventFields, hs]
    rfl
  | false => exact eventFields_lookup_ne (by decide) (by rw [hs]; decide)

/-- The event is named as an event exactly if it is no error. -/
theorem eventType_of_writeFrame (hr : Framed g r)
    (h : writeFrame c g event r contentType v = .ok f) :
    f.header? (.str Frame.eventTypeField) =
      if (g.shape r).isError then none else some (.str event) := by
  rw [header?_of_reserved hr h (by decide) (by decide)]
  cases hs : (g.shape r).isError with
  | true => exact eventFields_lookup_ne (by decide) (by rw [hs]; decide)
  | false =>
    rw [eventFields, hs]
    rfl

theorem isMessage_of_writeFrame (hr : Framed g r)
    (h : writeFrame c g event r contentType v = .ok f) (type : String) :
    f.isMessage type = (messageTypeOf g (g.shape r) == type) := by
  rw [Frame.isMessage, messageType_of_writeFrame hr h]

theorem event_of_writeFrame (hr : Framed g r)
    (h : writeFrame c g event r contentType v = .ok f) : f.eventType = .str event := by
  rw [Frame.eventType, isMessage_of_writeFrame hr h, messageTypeOf]
  cases hs : (g.shape r).isError with
  | true =>
    have htype := errorType_of_writeFrame hr h
    rw [hs, if_pos rfl] at htype
    rw [if_pos rfl, beq_self_eq_true, if_pos rfl, htype, Option.getD_some]
  | false =>
    have htype := eventType_of_writeFrame hr h
    rw [hs, if_neg Bool.false_ne_true] at htype
    rw [if_neg Bool.false_ne_true, beq_false_of_ne (by decide), if_neg Bool.false_ne_true, htype,
      Option.getD_some]

/-! ### Payloads of written frames -/

/-- The payload depends on the members that are not located in the header, and on nothing else. -/
theorem payloadOf_congr (hr : Framed g r) {v v' : Value}
    (h : ∀ m ∈ outside g r, v.get? m.name = v'.get? m.name) :
    payloadOf (.complete .json notes ns) g event r contentType v =
      payloadOf (.complete .json notes ns) g event r contentType v' := by
  cases hp : (g.shape r).payloadMember? with
  | none =>
    rw [outside_of_no_payloadMember hr hp] at h
    have hmembers : JsonBody.toDocument (.complete .json notes ns) g v r
        (some (g.shape r).bodyMembers) =
          JsonBody.toDocument (.complete .json notes ns) g v' r (some (g.shape r).bodyMembers) := by
      rw [JsonBody.toDocument, JsonBody.toDocument]
      simp only [hr.form, Option.getD_some]
      refine JsonBody.writeMembers_congr fun m hm => ?_
      rw [Value.member?_view, Value.member?_view, h m hm]
    have hdocument : document (.complete .json notes ns) g event v r
        (some (g.shape r).bodyMembers) =
          document (.complete .json notes ns) g event v' r (some (g.shape r).bodyMembers) := by
      simp only [document, Codec.complete, JsonBody.encode] at hmembers ⊢
      rw [hmembers]
    rw [payloadOf, payloadOf, hp]
    simp only [hdocument]
  | some m =>
    have hvalue : memberValue g v m = memberValue g v' m := by
      rw [memberValue, memberValue, h m]
      rw [outside_of_payloadMember hr hp]
      exact List.mem_singleton_self m
    rw [payloadOf, payloadOf, hp]
    simp only [hvalue]

/-! ### Frames read back -/

/-- The members of a structure that are located in the header. -/
def inside (g : Graph) (r : g.Ref) : List (Member g.size) :=
  (g.members r).filter fun m => m.location == .header

theorem inside_append_outside (g : Graph) (r : g.Ref) :
    (inside g r ++ outside g r).Perm (g.members r) :=
  List.filter_append_perm _ _

/-- The members that a value has in the header are left as they are. -/
def merged (result : Member g.size × Value → Value) (q : Member g.size × Value) : Value :=
  if q.1.location = .header then q.2 else result q

theorem map_merged (result : Member g.size × Value → Value) (fields : List (String × Value)) :
    (present (inside g r ++ outside g r) fields).map (fun q => (q.1.name, merged result q)) =
      ((present (inside g r) fields).map fun q => (q.1.name, q.2)) ++
        (present (outside g r) fields).map fun q => (q.1.name, result q) := by
  rw [present, List.filterMap_append, List.map_append]
  congr 1
  · refine List.map_congr_left fun q hq => ?_
    have hloc := (List.mem_filter.mp (mem_present_iff.mp hq).1).2
    rw [merged, if_pos (beq_iff_eq.mp hloc)]
  · refine List.map_congr_left fun q hq => ?_
    have hloc := (List.mem_filter.mp (mem_present_iff.mp hq).1).2
    rw [merged, if_neg (bne_iff_ne.mp hloc)]

theorem nodup_inside_append_outside (hr : Framed g r) :
    ((inside g r ++ outside g r).map Member.name).Nodup :=
  ((inside_append_outside g r).map Member.name).nodup_iff.mpr hr.names

/-- The members of the payload come behind those of the header. -/
theorem putAll_merged (hr : Framed g r) (result : Member g.size × Value → Value)
    (fields : List (String × Value)) :
    Entries.putAll ((present (inside g r) fields).map fun q => (q.1.name, q.2))
        ((present (outside g r) fields).map fun q => (q.1.name, result q)) =
      (present (inside g r ++ outside g r) fields).map fun q => (q.1.name, merged result q) := by
  rw [map_merged, Entries.putAll_eq_append]
  rw [← List.map_append, ← map_merged, List.map_map]
  exact nodup_present (nodup_inside_append_outside hr) fields

/-- Members that are left as they are, and others that are read as values alike, make an alike
structure. -/
theorem alike_merged (hr : Framed g r) {fields : List (String × Value)}
    {result : Member g.size × Value → Value} (names : (fields.map Prod.fst).Nodup)
    (known : ∀ p ∈ fields, ∃ m ∈ g.members r, m.name = p.1)
    (halike : ∀ q ∈ present (outside g r) fields, (result q).Alike q.2) :
    (Value.ofFields ((present (inside g r ++ outside g r) fields).map fun q =>
      (q.1.name, merged result q))).Alike (.ofFields fields) := by
  have hmembers := inside_append_outside g r
  refine .of_perm names (present_perm (nodup_inside_append_outside hr) names fun p hp => ?_)
    fun q hq => ?_
  · obtain ⟨m, hm, hname⟩ := known p hp
    exact ⟨m, hmembers.mem_iff.mpr hm, hname⟩
  · rw [merged]
    split
    · exact .refl q.2
    · rename_i hloc
      obtain ⟨hm, hx⟩ := mem_present_iff.mp hq
      have hout : q.1 ∈ outside g r :=
        List.mem_filter.mpr ⟨hmembers.mem_iff.mp hm, bne_iff_ne.mpr hloc⟩
      exact halike q (mem_present_iff.mpr ⟨hout, hx⟩)

/-- The header field of a member has the value of the member, if there is one. -/
theorem header?_ofFields (hr : Framed g r) {fields : List (String × Value)}
    (notNull : ∀ p ∈ fields, p.2.isNull = false)
    (h : writeFrame c g event r contentType (.ofFields fields) = .ok f) {m : Member g.size}
    (hm : m ∈ g.members r) (hloc : m.location = .header) :
    f.header? (.str m.wireName.text) = fields.lookup m.name := by
  rw [header?_of_mem hr h hm hloc, memberValue_ofFields]
  cases hl : fields.lookup m.name with
  | none => rfl
  | some x => rw [Option.getD_some, notNull _ (Entries.mem_of_lookup hl), if_neg Bool.false_ne_true]

theorem readFrame_of_parts (hr : (g.shape r).construct = none) {values more : List (String × Value)}
    (hfields : readFields g f (g.members r) = .ok values)
    (hpayload : readPayload c g f.payload r = pure more) :
    readFrame c g r f = pure (.ofFields (Entries.putAll values more)) := by
  rw [Graph.members] at hfields
  rw [readFrame]
  simp only [hfields, hpayload, Reading.ofConversion_ok, pure_bind, Shape.build, hr]

/-- The frame of a well-typed value is read back as the value. -/
theorem exists_frame_readBack (notes : Bool) (ns : Value) (event : String) (contentType : Value)
    (hr : Framed g r) (h : WellTyped g (JsonBody.demands g) r v)
    (raw : ∀ m, (g.shape r).payloadMember? = some m → Raw g m → (v.get? m.name).isSome) :
    ∃ f, writeFrame (.complete .json notes ns) g event r contentType v = .ok f ∧
      (ParsesBack (.complete .json notes ns) g r v → ∃ w, w.Alike v ∧
        readFrame (.complete .json notes ns) g r f = pure w) := by
  obtain ⟨fields, rfl, names, known, typed⟩ := h.exists_fields hr.form
  have hpresent : ∀ q ∈ present (g.members r) fields,
      WellTyped g (JsonBody.demands g) q.1.shape q.2 := by
    intro q hq
    obtain ⟨hm, hmem⟩ := mem_present hq
    exact typed (q.1.name, q.2) hmem q.1 hm rfl
  have notNull := WellTyped.fields_not_null known typed
  obtain ⟨data, result, ⟨type, hwritten⟩, hread, halike⟩ :=
    exists_payloadRoundTrip notes ns event contentType hr hpresent notNull fun m hm hraw => by
      rw [← Value.get?_ofFields]
      exact raw m hm hraw
  obtain ⟨f, hframe, hpayload⟩ : ∃ f,
      writeFrame (.complete .json notes ns) g event r contentType (.ofFields fields) = .ok f ∧
        f.payload = .ofBytes data := by
    rw [writeFrame_eq hr.texts, hwritten]
    exact ⟨_, rfl, rfl⟩
  refine ⟨f, hframe, fun hparse => ?_⟩
  refine ⟨_, alike_merged hr names known halike, ?_⟩
  -- The members in the header are read as they are, the others from the payload.
  have hfields := readFields_of_header? hr.texts hr.names
    (fun m hm hloc => header?_ofFields hr notNull hframe hm hloc) fun m hm x hx =>
      hpresent (m, x) (mem_present_iff.mpr ⟨hm, hx⟩)
  rw [readFrame_of_parts hr.construct hfields (hpayload ▸ hread hparse)]
  exact congrArg (fun values => pure (Value.ofFields values)) (putAll_merged hr result fields)

end EventHandler

namespace EventUnion

variable {g : Graph} {notes : Bool} {ns : Value}

/-! ### Events -/

/-- A frame that was written is read by the handler of its event. -/
theorem read_of_writeFrame {c : Codec} {u : EventUnion g} {name : String} {r : g.Ref}
    {outType inType v w : Value} {f : Frame} (hr : EventHandler.Framed g r)
    (hf : EventHandler.writeFrame c g name r outType v = .ok f)
    (hu : u.dispatch (.str name) = .ok (.standard c g name r inType))
    (hw : (EventHandler.readFrame c g r f).outcome = .ok w) :
    (u.read f).result = .ok ⟨.str name, w, (g.shape r).isError⟩ := by
  have hevent := EventHandler.event_of_writeFrame hr hf
  have htype := EventHandler.isMessage_of_writeFrame hr hf
  rw [read, hevent, hu]
  cases hs : (g.shape r).isError with
  | true =>
    simp only [htype, EventHandler.messageTypeOf, hs, EventHandler.standard, hw]
    rfl
  | false =>
    simp only [htype, EventHandler.messageTypeOf, hs, EventHandler.standard, hw]
    rfl

/-- A union with standard handlers reads each event back that it wrote, whatever else the two sides
were set up with. Frames name an event as an error exactly if it is one, and no member that is
located in the header has a part in the payload. -/
theorem exists_event_readBack {union : g.Ref} {outType inType outOperation inOperation : Value}
    {outSettings inSettings : StreamSettings} {outHandlers inHandlers : List (EventHandler g)}
    {out inn : EventUnion g}
    (houtHandlers : EventHandler.standardFor (.complete .json notes ns) g union outType =
      .ok outHandlers)
    (hout : create g union outHandlers outSettings outOperation = .ok out)
    (hinHandlers : EventHandler.standardFor (.complete .json notes ns) g union inType =
      .ok inHandlers)
    (hin : create g union inHandlers inSettings inOperation = .ok inn)
    {name : String} {m : Member g.size} (hm : variant? g union name = some m)
    (hr : EventHandler.Framed g m.shape) :
    (∀ v v' f f', (∀ p ∈ g.members m.shape, p.location ≠ .header → v.get? p.name = v'.get? p.name) →
      (out.write { event := .str name, payload := v }).1 = .ok f →
      (out.write { event := .str name, payload := v' }).1 = .ok f' → f.payload = f'.payload) ∧
    (∀ v f, (out.write { event := .str name, payload := v }).1 = .ok f →
      f.header? (.str Frame.errorTypeField) =
          (if (g.shape m.shape).isError then some (.str name) else none) ∧
        f.header? (.str Frame.eventTypeField) =
          (if (g.shape m.shape).isError then none else some (.str name))) ∧
    ∀ v, WellTyped g (JsonBody.demands g) m.shape v →
      (∀ p, (g.shape m.shape).payloadMember? = some p → EventHandler.Raw g p →
        (v.get? p.name).isSome) →
      ∃ f, (out.write { event := .str name, payload := v }).1 = .ok f ∧
        (EventHandler.ParsesBack (.complete .json notes ns) g m.shape v → ∃ w, w.Alike v ∧
          (inn.read f).result =
            .ok { event := .str name, payload := w, isError := (g.shape m.shape).isError }) := by
  have hdispatch := dispatch_of_create houtHandlers hout hm
  have hwrite : ∀ v f, (out.write { event := .str name, payload := v }).1 = .ok f ↔
      EventHandler.writeFrame (.complete .json notes ns) g name m.shape outType v = .ok f := by
    intro v f
    rw [write, hdispatch]
    cases hw : EventHandler.writeFrame (.complete .json notes ns) g name m.shape outType v with
    | ok f' => simp [EventHandler.standard, hw]
    | error e => cases e <;> simp [EventHandler.standard, hw]
  refine ⟨fun v v' f f' hagree hv hv' => ?_, fun v f hv => ?_, fun v htyped raw => ?_⟩
  · obtain ⟨type, data, hp, rfl⟩ := EventHandler.exists_of_writeFrame hr.texts ((hwrite v f).mp hv)
    obtain ⟨type', data', hp', rfl⟩ :=
      EventHandler.exists_of_writeFrame hr.texts ((hwrite v' f').mp hv')
    rw [EventHandler.payloadOf_congr hr fun p hmem => ?_, hp'] at hp
    · cases hp
      rfl
    · obtain ⟨hmem, hloc⟩ := List.mem_filter.mp hmem
      exact hagree p hmem (bne_iff_ne.mp hloc)
  · have hframe := (hwrite v f).mp hv
    exact ⟨EventHandler.errorType_of_writeFrame hr hframe,
      EventHandler.eventType_of_writeFrame hr hframe⟩
  · obtain ⟨f, hframe, hread⟩ :=
      EventHandler.exists_frame_readBack notes ns name outType hr htyped raw
    refine ⟨f, (hwrite v f).mpr hframe, fun hparse => ?_⟩
    obtain ⟨w, halike, hw⟩ := hread hparse
    refine ⟨w, halike, read_of_writeFrame hr hframe (dispatch_of_create hinHandlers hin hm) ?_⟩
    rw [hw, Reading.outcome_pure]

/-- The numerals that name five shapes. -/
local instance fiveShapes : NeZero 5 := ⟨by decide⟩

/-- The events of a feed: what is posted, with its author in the header, and that the feed is
gone. -/
def feed : Graph where
  size := 5
  shapes := #v[
    { name := "Feed", eventStream := true
      form := .struct [{ name := "posted", shape := 1 }, { name := "gone", shape := 2 }] },
    { name := "Posted"
      form := .struct [
        { name := "author", shape := 3, location := .header, locationName := .str "x-author" },
        { name := "text", shape := 3 }, { name := "tags", shape := 4, locationName := .str "t" }] },
    { name := "Gone", isError := true
      form := .struct [{ name := "reason", shape := 3, payload := true }] },
    { name := "Text", form := .scalar .string },
    { name := "Texts", form := .list 3 }]

/-- The standard handlers of a feed. -/
def feedHandlers : List (EventHandler feed) :=
  [EventHandler.standard (.complete .json false .null) feed "posted" ⟨1, by decide⟩ .null,
    EventHandler.standard (.complete .json false .null) feed "gone" ⟨2, by decide⟩ .null]

theorem standardFor_feed :
    EventHandler.standardFor (.complete .json false .null) feed ⟨0, by decide⟩ .null =
      .ok feedHandlers := by
  rfl

/-- A feed. -/
def feedUnion : EventUnion feed := ⟨⟨0, by decide⟩, feedHandlers, {}, .null⟩

theorem create_feed : create feed ⟨0, by decide⟩ feedHandlers {} .null = .ok feedUnion := by
  rfl

/-- The shape of what is posted. -/
def posted : feed.Ref := ⟨1, by decide⟩

/-- The shapes of its parts. -/
def postedParts : List feed.Ref := [⟨3, by decide⟩, ⟨4, by decide⟩]

theorem distinct_of_leads {m : Member feed.size} (hm : m ∈ feed.members posted)
    (hloc : m.location = .body) (q : feed.Ref) (hq : feed.Leads m.shape q) :
    JsonBody.Distinct (feed.shape q) := by
  have hparts : ∀ q ∈ postedParts, ∀ p ∈ (feed.shape q).children, p ∈ postedParts := by
    decide
  have hstart : ∀ m ∈ feed.members posted, m.location = .body → m.shape ∈ postedParts := by
    decide
  have hmem : q ∈ postedParts := by
    induction hq with
    | refl => exact hstart m hm hloc
    | tail _ hpart ih => exact hparts _ ih _ (Graph.mem_children_iff.mpr hpart)
  have hempty {s : Shape 5} (hc : s.construct = none) (hs : s.members = []) :
      JsonBody.Distinct s :=
    ⟨hc, by simp [hs], by simp [hs], by simp [hs]⟩
  rcases List.mem_cons.mp hmem with rfl | hmem
  · exact hempty rfl rfl
  · obtain rfl := List.mem_singleton.mp hmem
    exact hempty rfl rfl

theorem framed_posted : EventHandler.Framed feed posted where
  form := rfl
  construct := rfl
  names := by decide
  located := by decide
  texts := List.forall_mem_cons.mpr ⟨rfl, List.forall_mem_cons.mpr ⟨rfl,
    List.forall_mem_singleton.mpr rfl⟩⟩
  headerNames := by decide
  unreserved := by decide
  bodyNames := by decide
  payload := by
    intro m hm
    cases hm
  parts m hm hloc q := distinct_of_leads hm hloc q

/-- Something that is posted. -/
def post : Value :=
  .ofFields [("text", .str "hi"), ("author", .str "A"), ("tags", .list [.str "x", .str "y"])]

theorem wellTyped_post : WellTyped feed (JsonBody.demands feed) posted post := by
  have htext (s : String) : WellTyped feed (JsonBody.demands feed) ⟨3, by decide⟩ (.str s) :=
    .scalar rfl (.string s) trivial
  have htags : WellTyped feed (JsonBody.demands feed) ⟨4, by decide⟩
      (.list [.str "x", .str "y"]) :=
    .list rfl (List.forall_mem_cons.mpr ⟨htext "x", List.forall_mem_singleton.mpr (htext "y")⟩)
  refine .of_present framed_posted.form (by decide) (by decide) ?_
  exact List.forall_mem_cons.mpr ⟨⟨htext "A", trivial⟩, List.forall_mem_cons.mpr
    ⟨⟨htext "hi", trivial⟩, List.forall_mem_singleton.mpr ⟨htags, trivial⟩⟩⟩

/-- The document of what is posted. -/
def postDocument : Json :=
  .object [("text", .str "hi"), ("t", .array [.str "x", .str "y"])]

theorem parsesBack_post :
    EventHandler.ParsesBack (.complete .json false .null) feed posted post := by
  have hdocument : EventHandler.payloadDocument? (.complete .json false .null) feed posted post =
      some (.ok postDocument.toValue) := by
    cbv
  intro d hd
  obtain rfl : postDocument = d :=
    Json.toValue_injective (Except.ok.inj (Option.some.inj (hdocument.symm.trans hd)))
  cbv

/-- What is posted is read back, with its author. -/
theorem exists_event_readBack_post :
    ∃ f w, (feedUnion.write { event := .str "posted", payload := post }).1 = .ok f ∧
      (feedUnion.read f).result = .ok { event := .str "posted", payload := w } ∧
      w.Alike post := by
  have hvariant : variant? feed ⟨0, by decide⟩ "posted" =
      some { name := "posted", shape := posted } := rfl
  obtain ⟨-, -, hread⟩ := exists_event_readBack standardFor_feed create_feed standardFor_feed
    create_feed hvariant framed_posted
  obtain ⟨f, hwrite, hback⟩ := hread post wellTyped_post fun p hp => by cases hp
  obtain ⟨w, halike, hw⟩ := hback parsesBack_post
  exact ⟨f, w, hwrite, hw, halike⟩

end EventUnion

end ServiceWire
