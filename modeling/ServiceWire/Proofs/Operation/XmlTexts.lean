import ServiceWire.Proofs.Codec.XmlDocument
import ServiceWire.Proofs.Operation.Request
import ServiceWire.Proofs.Operation.Response

/-!
# Texts in XML services

A REST request with an XML body has the members of its input that are located in the body as a
document. From a response with that body these members come back, with every text that XML allows,
wherever it stands: plain, in lists, as a key or a value of a map, or as an attribute. Only line ends
are not told apart in the texts of elements. A carriage return is written there as it is, and a
reader takes it for a line feed, as `carriageReturn_lost` shows.
-/

namespace ServiceWire

open XmlBody (MemberNames WellNamed IsTag isTag_str IsNamespace textDemands fieldsOf)

variable {g : Graph}

/-- A structure with members in the body that can be sent as an XML document. -/
structure XmlInput (g : Graph) (r : g.Ref) : Prop where
  form : (g.shape r).form = .struct (g.members r)
  construct : (g.shape r).construct = none
  names : ((g.members r).map Member.name).Nodup
  texts : ∀ m ∈ g.members r, m.wireName = .str m.wireName.text
  payload : (g.shape r).hasPayload = false
  streaming : g.hasStreamingMember r = false
  filled : (g.shape r).bodyMembers.isEmpty = false
  /-- The names of the elements need no prefixes, nor does any name inside them. -/
  root : IsTag (g.shape r).rootTag
  members : MemberNames g (g.shape r).bodyMembers
  parts : ∀ m ∈ (g.shape r).bodyMembers, ∀ q, g.Leads m.shape q → WellNamed g q

/-- XML carries what a request has for the members in the body. -/
structure XmlSendable (g : Graph) (r : g.Ref) (fields : List (String × Value)) : Prop where
  notNull : ∀ p ∈ fields, p.2.isNull = false
  typed : WellTyped g (textDemands g) r (.ofFields (fieldsOf (g.shape r).bodyMembers fields))
  texts : XmlBody.Carried g r (.ofFields (fieldsOf (g.shape r).bodyMembers fields))

namespace RequestWriter

/-- The body of a REST request is the document of the members in the body, and nothing else of the
request depends on it. -/
theorem write_of_xml {w : RequestWriter g} {r : g.Ref} {v : Value} {data : Bytes}
    (protocol : w.protocol = .restXml) (input : w.operation.input = some r)
    (explicit : w.operation.explicitPayload = false) (shared : w.operation.payloadMembers = true)
    (notNull : v.isNull = false)
    (hencode : XmlBody.encode w.codec g v r .null (some (g.shape r).bodyMembers) = .ok data) :
    (∀ q, (w.write v).1 = .ok q → q.body = .ofBytes data) ∧
    ∀ uri b p, w.operation.uri.asText = .ok uri → w.bound v = .ok b →
      path (UriTemplate.split uri).1 b.labels = .ok p → ∃ q, (w.write v).1 = .ok q := by
  have hbody (q : Http.Request) : ∃ q', w.withBody v q = .ok q' ∧ q'.body = .ofBytes data := by
    rw [withBody, protocol]
    dsimp only
    rw [withRestBody, input]
    dsimp only
    rw [explicit, shared, if_neg Bool.false_ne_true, if_pos rfl, encodeMembers, protocol]
    dsimp only
    rw [hencode]
    exact ⟨_, rfl, rfl⟩
  constructor
  · intro q hq
    obtain ⟨uri, b, p, -, -, -, hq⟩ := (build_eq_ok_iff notNull).mp (write_eq_ok_iff.mp hq)
    obtain ⟨q', hq', hdata⟩ := hbody (w.start uri b p)
    obtain rfl := Except.ok.inj (hq'.symm.trans hq)
    exact hdata
  · intro uri b p huri hb hp
    obtain ⟨q, hq, -⟩ := hbody (w.start uri b p)
    exact ⟨q, write_eq_ok_iff.mpr ((build_eq_ok_iff notNull).mpr ⟨uri, b, p, huri, hb, hp, hq⟩)⟩

end RequestWriter

namespace ResponseReader

/-- A response without header fields whose body is an XML document is read as the status and what
is read of the document. -/
theorem read_of_xml {u : ResponseReader} {notes : Bool} {ns : Value} (protocol : u.protocol = .restXml)
    (codec : u.codec = .complete .xml notes ns) (result : u.rootElement = false) {r : g.Ref}
    (hr : XmlInput g r) {data : Bytes} {e : Xml.Element} (notBlank : isBlank data = false)
    (hparse : Xml.parse data = .ok e) {fields : List (String × Value)}
    {back : Member g.size × Value → Value}
    (hread : XmlBody.readSome (.complete .xml notes ns) g r (g.shape r).bodyMembers e.children
      e.attributes = pure ((present (g.shape r).bodyMembers fields).map fun q => (q.1.name, back q)))
    (status : Value) :
    (u.read ⟨status, {}, .ofBytes data⟩ (some r)).result =
      .ok (.ofFields (statusFields g r status ++
        (present (g.shape r).bodyMembers fields).map fun q => (q.1.name, back q))) := by
  have hfold := foldlM_readMember_status u status (.ofBytes data) hr.texts hr.names hr.payload
    hr.streaming
  have hbody : (u.readBody data r (g.shape r).bodyMembers).outcome =
      .ok ((present (g.shape r).bodyMembers fields).map fun q => (q.1.name, back q)) := by
    rw [readBody, protocol]
    simp only [hparse, Reading.ofConversion_ok, pure_bind, readElement, result, codec, hread,
      Bool.false_eq_true, if_false, Reading.outcome_pure]
  have hnodup := nodup_readable hr.names fields status
  rw [readable, List.map_append, List.map_map] at hnodup
  refine read_of_parts codec (by decide) hr.construct hfold ?_ (fun hnone => ?_)
    fun _ => ⟨_, rfl, notBlank, hbody⟩
  · rw [List.map_map]
    exact hnodup
  · rw [Bool.false_or, hr.filled] at hnone
    cases hnone

end ResponseReader

namespace Service

theorem xml_of_create {s : Service} {settings : Settings} {target api version : Value}
    (h : create (.str "rest-xml") settings target api version = .ok s) :
    s.protocol = .restXml ∧ s.formCodec = none ∧ ∃ notes ns, s.codec = .complete .xml notes ns := by
  cases h
  exact ⟨rfl, rfl, _, _, rfl⟩

/-- The members of a request that are located in the body are written into it as an XML document,
and read back from a response with that body. -/
theorem exists_xml_readBack {s : Service} {settings : Settings} {target api version : Value}
    (hs : create (.str "rest-xml") settings target api version = .ok s) {r : g.Ref}
    (hr : XmlInput g r) (hns : IsNamespace (XmlBody.namespaceFor s.codec g (g.shape r)))
    {o : Operation g} {name method uri : Value} {output : Option g.Ref} {root : Option Bool}
    (ho : Operation.forShapes g name (some r) output method uri root = .ok o) (endpoint : Value)
    {fields : List (String × Value)} (h : XmlSendable g r fields) :
    ∃ (w : RequestWriter g) (data : Bytes), s.requestWriter o endpoint = .ok w ∧
      (∀ q, (w.write (.ofFields fields)).1 = .ok q → q.body = .ofBytes data) ∧
      (∀ text b p, uri.asText = .ok text → w.bound (.ofFields fields) = .ok b →
        RequestWriter.path (UriTemplate.split text).1 b.labels = .ok p →
          ∃ q, (w.write (.ofFields fields)).1 = .ok q) ∧
      ∀ known : Option (Operation g), known.any Operation.rootElement = false → ∀ status, ∃ back,
        ((s.responseReader known).read ⟨status, {}, .ofBytes data⟩ (some r)).result = .ok back ∧
        back.Alike (.ofFields (ResponseReader.readable g r status fields)) := by
  obtain ⟨protocol, formCodec, notes, ns, codec⟩ := xml_of_create hs
  obtain ⟨m, rfl⟩ : ∃ m, Operation.ofShapes g name (some r) output m uri root = o := by
    cases method with
    | str m => exact ⟨m, Except.ok.inj ho⟩
    | _ => cases ho
  have hrequest : s.requestCodec = .complete .xml notes ns := by
    rw [requestCodec, formCodec, codec]
    rfl
  have hsub : (g.shape r).bodyMembers.Sublist (g.members r) := List.filter_sublist
  have hroot : IsTag (Value.null.orElse (g.shape r).rootTag) := hr.root
  rw [codec] at hns
  obtain ⟨data, e, result, hencode, hblank, hparse, hread, halike⟩ :=
    XmlBody.exists_document hr.form hsub (hr.names.sublist (hsub.map _)) hr.members hr.parts hroot
      hns h.notNull h.typed h.texts
  have hw := requestWriter_complete hrequest (by rw [protocol]; decide)
    (Operation.ofShapes g name (some r) output m uri root) endpoint
  have hshared : ((g.shape r).hasPayload || !(g.shape r).bodyMembers.isEmpty) = true := by
    rw [hr.filled, Bool.not_false, Bool.or_true]
  obtain ⟨hbody, hwritten⟩ := RequestWriter.write_of_xml (v := .ofFields fields)
    (w := s.writerOf (Operation.ofShapes g name (some r) output m uri root) endpoint) protocol rfl
    hr.payload hshared rfl (by rw [writerOf, hrequest, hencode])
  refine ⟨_, data, hw, hbody, hwritten, fun known hknown status => ⟨_,
    ResponseReader.read_of_xml (u := s.responseReader known) protocol codec hknown hr hblank hparse
      hread status, ?_⟩⟩
  exact ResponseReader.alike_of_readable halike (ResponseReader.nodup_readable hr.names _ _)
    (.refl _)

/-- The numerals that name the shapes of letters. -/
local instance letterShapes : NeZero 4 := ⟨by decide⟩

/-- A letter: its number is part of the path, and its mood is an attribute. -/
def letter : Shape 4 where
  name := "Letter"
  xmlNamespace := .str "urn:letters"
  form := .struct
    [{ name := "Number", shape := 1, location := .uri },
      { name := "Subject", shape := 1 },
      { name := "Mood", shape := 1, xmlAttribute := true },
      { name := "Lines", shape := 2, locationName := .str "Line" },
      { name := "Notes", shape := 3 }]

/-- The shapes of letters. -/
def letters : Graph where
  size := 4
  shapes := #v[letter, { name := "Text", form := .scalar .string },
    { name := "Lines", form := .list 1, flattened := true }, { name := "Notes", form := .map 1 1 }]

/-- What a letter has in the body: only the attribute has a carriage return. -/
def letterBody : List (String × Value) :=
  [("Subject", .str "<&>\n]]>"), ("Mood", .str "a\r\n\""), ("Lines", .list [.str " b ", .str ""]),
    ("Notes", .ofFields [("\t'", .str "&#13;")])]

/-- A service for letters. -/
def letterService : Service where
  protocol := .restXml
  settings := {}
  targetPrefix := .null
  apiVersion := .null
  jsonVersion := .str "1.1"
  codec := codecOf .xml {}
  formCodec := none

theorem create_letterService :
    create (.str "rest-xml") {} .null .null .null = .ok letterService := rfl

/-- The operation that sends a letter. -/
def sendLetter : Operation letters :=
  .ofShapes letters (.str "Send") (some ⟨0, by decide⟩) none "put" (.str "/letters/\x7bNumber\x7d") none

theorem wireName_letter : ∀ m ∈ letters.members ⟨0, by decide⟩, m.wireName = .str m.wireName.text :=
  List.forall_mem_cons.mpr ⟨rfl, List.forall_mem_cons.mpr ⟨rfl, List.forall_mem_cons.mpr
    ⟨rfl, List.forall_mem_cons.mpr ⟨rfl, List.forall_mem_singleton.mpr rfl⟩⟩⟩⟩

theorem memberNames_letter : MemberNames letters (letters.members ⟨0, by decide⟩) where
  tags m hm := by
    have hnames : ∀ m ∈ letters.members ⟨0, by decide⟩, Xml.IsName m.wireName.text := by decide
    exact ⟨_, wireName_letter m hm, hnames m hm⟩
  undeclared m hm _ heq := by
    have hxmlns : ∀ m ∈ letters.members ⟨0, by decide⟩, m.wireName.text ≠ "xmlns" := by decide
    exact hxmlns m hm (congrArg Value.text heq)
  distinct := by decide
  scalars m hm ha := by
    have hmood : ∀ m ∈ letters.members ⟨0, by decide⟩, m.xmlAttribute = true →
        m.shape = ⟨1, by decide⟩ := by
      decide
    exact ⟨.string, by rw [hmood m hm ha]; rfl⟩

theorem names_letter : ((letters.members ⟨0, by decide⟩).map Member.name).Nodup := by decide

theorem wellNamed_letters (q : letters.Ref) : WellNamed letters q := by
  -- All shapes but the letter itself have no members.
  have hnone : ∀ q : letters.Ref, (letters.shape q).construct = none → letters.members q = [] →
      (∀ item, (letters.shape q).form = .list item → IsTag (letters.shape q).itemTag) →
      (∀ key value, (letters.shape q).form = .map key value → IsTag (letters.shape q).keyTag ∧
        IsTag (letters.shape q).valueTag ∧
          (letters.shape q).keyTag.text ≠ (letters.shape q).valueTag.text) →
      WellNamed letters q := by
    intro q construct members items entries
    refine ⟨construct, by simp [members], ⟨?_, ?_, ?_, ?_⟩, items, entries⟩
    all_goals simp [members]
  rcases q with ⟨_ | _ | _ | _ | i, hi⟩
  · refine ⟨rfl, names_letter, memberNames_letter, ?_, ?_⟩
    · rintro item ⟨⟩
    · rintro key value ⟨⟩
  · refine hnone _ rfl rfl ?_ ?_
    · rintro item ⟨⟩
    · rintro key value ⟨⟩
  · refine hnone _ rfl rfl (fun _ _ => isTag_str (s := "member") (by decide)) ?_
    rintro key value ⟨⟩
  · refine hnone _ rfl rfl ?_ fun _ _ _ => ⟨isTag_str (s := "key") (by decide),
      isTag_str (s := "value") (by decide), (by decide : "key" ≠ "value")⟩
    rintro item ⟨⟩
  · exact absurd hi (Nat.not_lt.mpr (Nat.le_add_left 4 i))

theorem xmlInput_letter : XmlInput letters ⟨0, by decide⟩ where
  form := rfl
  construct := rfl
  names := names_letter
  texts := wireName_letter
  payload := by decide
  streaming := by decide
  filled := by decide
  root := isTag_str (s := "Letter") (by decide)
  members := memberNames_letter.sublist List.filter_sublist
  parts _ _ q _ := wellNamed_letters q

theorem fieldsOf_letter : fieldsOf (letters.shape ⟨0, by decide⟩).bodyMembers
    (("Number", .str "7") :: letterBody) = letterBody := rfl

theorem xmlSendable_letter :
    XmlSendable letters ⟨0, by decide⟩ (("Number", .str "7") :: letterBody) where
  notNull := by decide
  typed := by
    have htext (s : String) : WellTyped letters (textDemands letters) ⟨1, by decide⟩ (.str s) :=
      .scalar rfl (.string s) (.inl (by decide))
    have hlines : WellTyped letters (textDemands letters) ⟨2, by decide⟩
        (.list [.str " b ", .str ""]) :=
      .list rfl (List.forall_mem_cons.mpr ⟨htext _, List.forall_mem_singleton.mpr (htext _)⟩)
    have hnotes : WellTyped letters (textDemands letters) ⟨3, by decide⟩
        (.ofFields [("\t'", .str "&#13;")]) :=
      .map rfl (by decide) (List.forall_mem_singleton.mpr (htext _))
    have hfilled (m : Member 4) (v : Value) (h : (letters.shape m.shape).flattened = false) :
        (textDemands letters).member m v :=
      fun hflat => absurd (h.symm.trans hflat) Bool.false_ne_true
    rw [fieldsOf_letter]
    refine .of_present xmlInput_letter.form (by decide) (by decide) ?_
    exact List.forall_mem_cons.mpr ⟨⟨htext _, hfilled _ _ rfl⟩, List.forall_mem_cons.mpr
      ⟨⟨htext _, hfilled _ _ rfl⟩, List.forall_mem_cons.mpr ⟨⟨hlines, fun _ h => by cases h⟩,
        List.forall_mem_singleton.mpr ⟨hnotes, hfilled _ _ rfl⟩⟩⟩⟩
  texts := by
    have hlines : XmlBody.Carried letters ⟨2, by decide⟩ (.list [.str " b ", .str ""]) :=
      .of_list rfl (List.forall_mem_cons.mpr
        ⟨.of_text (by decide), List.forall_mem_singleton.mpr (.of_text (by decide))⟩)
    have hnotes : XmlBody.Carried letters ⟨3, by decide⟩ (.ofFields [("\t'", .str "&#13;")]) :=
      .of_map rfl (List.forall_mem_singleton.mpr (by decide))
        (List.forall_mem_singleton.mpr (.of_text (by decide)))
    have hmood : ∀ s, Value.str "a\r\n\"" = .str s → Xml.IsAllowedText s := by
      rintro s ⟨⟩
      decide
    rw [fieldsOf_letter]
    refine .of_present xmlInput_letter.form (by decide) ?_
    exact List.forall_mem_cons.mpr ⟨⟨(fun h => by cases h), fun _ => .of_text (by decide)⟩,
      List.forall_mem_cons.mpr ⟨⟨fun _ => hmood, (fun h => by cases h)⟩, List.forall_mem_cons.mpr
        ⟨⟨(fun h => by cases h), fun _ => hlines⟩,
          List.forall_mem_singleton.mpr ⟨(fun h => by cases h), fun _ => hnotes⟩⟩⟩⟩

/-- A letter is sent, and what it has in the body is read back from what was sent. -/
theorem exists_xml_readBack_letter :
    ∃ w q back, letterService.requestWriter sendLetter .null = .ok w ∧
      (w.write (.ofFields (("Number", .str "7") :: letterBody))).1 = .ok q ∧
      ((letterService.responseReader (some sendLetter)).read (g := letters) ⟨.int 200, {}, q.body⟩
        (some ⟨0, by decide⟩)).result = .ok back ∧ back.Alike (.ofFields letterBody) := by
  have hns : IsNamespace (XmlBody.namespaceFor letterService.codec letters
      (letters.shape ⟨0, by decide⟩)) := by
    exact fun _ => ⟨"urn:letters", rfl, by decide, by decide, by decide, by decide⟩
  have hoperation : Operation.forShapes letters (.str "Send") (some ⟨0, by decide⟩) none
      (.str "put") (.str "/letters/\x7bNumber\x7d") none = .ok sendLetter := rfl
  obtain ⟨w, data, hw, hbody, hwritten, hread⟩ := exists_xml_readBack create_letterService
    xmlInput_letter hns hoperation .null xmlSendable_letter
  have hwriter : letterService.writerOf sendLetter .null = w :=
    Except.ok.inj ((requestWriter_complete rfl (by decide) sendLetter .null).symm.trans hw)
  have hbound : w.bound (.ofFields (("Number", .str "7") :: letterBody)) =
      .ok { labels := [("Number", .str "7")] } := by
    rw [← hwriter]
    rfl
  obtain ⟨q, hq⟩ := hwritten _ _ "/letters/7" rfl hbound (by cbv)
  obtain ⟨back, hback, halike⟩ := hread (some sendLetter) rfl (.int 200)
  refine ⟨w, q, back, hw, hq, ?_, halike⟩
  rw [hbody q hq]
  exact hback

/-- The document of a letter with a carriage return in its subject. -/
def brokenText : String := "<Letter xmlns=\"urn:letters\"><Subject>a\rb</Subject></Letter>"

/-- The tree that is read from it. -/
def brokenTree : Xml.Element :=
  .node (.str "\x7burn:letters\x7dLetter") [] ""
    [.node (.str "\x7burn:letters\x7dSubject") [] "a\nb" []]

theorem parse_brokenText : Xml.parse (bytesOf brokenText) = .ok brokenTree := (rfl)

/-- XML allows a carriage return, but as the text of an element it comes back as a line feed. -/
theorem carriageReturn_lost :
    Xml.IsAllowedText "a\rb" ∧
    XmlBody.encode letterService.codec letters (.ofFields [("Subject", .str "a\rb")]) ⟨0, by decide⟩
      .null (some (letters.shape ⟨0, by decide⟩).bodyMembers) = .ok (bytesOf brokenText) ∧
    ((letterService.responseReader (some sendLetter)).read (g := letters)
      ⟨.int 200, {}, .ofBytes (bytesOf brokenText)⟩ (some ⟨0, by decide⟩)).result =
        .ok (.ofFields [("Subject", .str "a\nb")]) ∧
    ¬(Value.ofFields [("Subject", .str "a\nb")]).Alike (.ofFields [("Subject", .str "a\rb")]) := by
  refine ⟨by decide +kernel, by cbv, ?_, fun h => ?_⟩
  · have hread : XmlBody.readSome letterService.codec letters ⟨0, by decide⟩
        (letters.shape ⟨0, by decide⟩).bodyMembers brokenTree.children brokenTree.attributes =
          pure ((present (letters.shape ⟨0, by decide⟩).bodyMembers
            [("Subject", .str "a\nb")]).map fun q => (q.1.name, q.2)) := rfl
    exact ResponseReader.read_of_xml (u := letterService.responseReader (some sendLetter)) rfl rfl
      rfl xmlInput_letter rfl parse_brokenText hread (.int 200)
  · have hsame := h.each (List.nodup_singleton _) (List.mem_singleton_self _)
      (List.mem_singleton_self _) rfl
    exact absurd hsame.eq_of_str (by decide)

end Service

end ServiceWire
