import ServiceWire.Proofs.Codec.XmlRoundTrip
import ServiceWire.Proofs.Operation.Response

/-!
# Results of Query responses

The result of a Query operation is an element named for the operation, somewhere among the children
of the root element. Wherever it stands, it is the element that is found, and the value that was
written as the element is what is read from the response.
-/

namespace ServiceWire

open ServiceWire.Xml (Element)

variable {g : Graph} {notes : Bool} {ns : Value}

namespace XmlBody

/-- What is read of a structure is made of the values of its members. -/
theorem exists_readSome {r : g.Ref} {members : List (Member g.size)} {e : Element} {w : Value}
    (form : (g.shape r).form = .struct members) (construct : (g.shape r).construct = none)
    (h : ((read (.complete .xml notes ns) g e).value r).outcome = .ok w) :
    ∃ fields, .ofFields fields = w ∧
      (readSome (.complete .xml notes ns) g r members e.children e.attributes).outcome =
        .ok fields := by
  rw [value_eq, readValue] at h
  simp only [form, Element.view, Shape.build, construct, Reading.ofConversion_ok] at h
  exact Reading.exists_of_outcome_bind h

end XmlBody

namespace ResponseReader

/-- The name of the element that holds the result of an operation. -/
def resultTag (u : ResponseReader) : Value := .str (u.operation.text ++ "Result")

/-- A reader of Query responses to a named operation. -/
structure ReadsQuery (u : ResponseReader) (c : Codec) : Prop where
  protocol : u.protocol = .query
  codec : u.codec = c
  rootElement : u.rootElement = false
  operation : u.operation.truthy = true

/-- A root element with a result among its children: no other element has the name of the result. -/
structure Wraps (u : ResponseReader) (e root : Element) : Prop where
  named : e.isNamed u.resultTag = true
  outside : root.isNamed u.resultTag = false
  among : ∃ before after, root.children = before ++ e :: after ∧
    ∀ sibling ∈ before ++ after, sibling.isNamed u.resultTag = false

theorem resultElement?_eq {u : ResponseReader} {e root : Element}
    (operation : u.operation.truthy = true) (h : u.Wraps e root) :
    u.resultElement? root = some e := by
  obtain ⟨hnamed, hroot, before, after, hchildren, hsiblings⟩ := h
  rw [resultTag] at hnamed hroot hsiblings
  have hbefore :
      before.find? (fun s => s.isNamed (.str (u.operation.text ++ "Result"))) = none := by
    rw [List.find?_eq_none]
    intro s hs
    rw [hsiblings s (List.mem_append_left _ hs)]
    exact Bool.false_ne_true
  rw [resultElement?]
  simp only [operation, if_true, hroot, Bool.false_eq_true, if_false, hchildren, List.find?_append,
    hbefore, Option.none_or, List.find?_cons, hnamed]

/-- All members of a structure share the body of a response. -/
def InBody (members : List (Member g.size)) : Prop :=
  ∀ m ∈ members, m.location = .body ∧ m.payload = false ∧ (g.shape m.shape).streaming = false

theorem foldlM_readMember_of_inBody {members : List (Member g.size)} (h : InBody members)
    (u : ResponseReader) (p : Progress) : members.foldlM u.readMember p = pure p := by
  induction members with
  | nil => rfl
  | cons m rest ih =>
    obtain ⟨hlocation, hpayload, hstreaming⟩ := h m (List.mem_cons_self ..)
    have hm : u.readMember p m = pure p := by
      rw [readMember, hlocation]
      simp only [hpayload, hstreaming, Bool.or_self, Bool.false_eq_true, if_false]
    rw [List.foldlM_cons, hm, pure_bind]
    exact ih fun m hm => h m (List.mem_cons_of_mem _ hm)

theorem bodyMembers_eq {r : g.Ref} {members : List (Member g.size)}
    (form : (g.shape r).form = .struct members) (h : InBody members) :
    (g.shape r).bodyMembers = members := by
  rw [Shape.bodyMembers, Shape.members, form, List.filter_eq_self]
  intro m hm
  obtain ⟨hlocation, hpayload, -⟩ := h m hm
  rw [hlocation, hpayload]
  rfl

/-- A response is read as what is read of its body, if all members share the body. -/
theorem read_of_readBody {u : ResponseReader} {r : g.Ref} {members : List (Member g.size)}
    {content : Bytes} {fields : List (String × Value)} (codec : u.codec = .complete .xml notes ns)
    (form : (g.shape r).form = .struct members) (construct : (g.shape r).construct = none)
    (inBody : InBody members) (names : (fields.map Prod.fst).Nodup)
    (known : ∀ p ∈ fields, ∃ m ∈ members, m.name = p.1) (notBlank : isBlank content = false)
    (hbody : (u.readBody content r members).outcome = .ok fields) (status : Value)
    (headers : Headers) :
    (u.read ⟨status, headers, .ofBytes content⟩ (some r)).result = .ok (.ofFields fields) := by
  have hmembers : g.members r = members := by rw [Graph.members, Shape.members, form]
  have hfold : (g.members r).foldlM u.readMember { response := ⟨status, headers, .ofBytes content⟩ } =
      pure ⟨[], false, ⟨status, headers, .ofBytes content⟩⟩ := by
    rw [hmembers]
    exact foldlM_readMember_of_inBody inBody u _
  refine read_of_parts codec (by decide) construct hfold (by simpa using names) (fun hnone => ?_)
    fun _ => ⟨content, rfl, notBlank, ?_⟩
  · rw [bodyMembers_eq form inBody, Bool.false_or, List.isEmpty_iff] at hnone
    refine List.eq_nil_iff_forall_not_mem.mpr fun p hp => ?_
    obtain ⟨m, hm, -⟩ := known p hp
    rw [hnone] at hm
    cases hm
  · rw [bodyMembers_eq form inBody]
    exact hbody

end ResponseReader

/-- The members that a structure is read as are among those that were written, each once. -/
theorem XmlBody.known_of_alike {r : g.Ref} {v : Value} {members : List (Member g.size)}
    {fields : List (String × Value)} (h : WellTyped g (demands g) r v)
    (form : (g.shape r).form = .struct members) (halike : (Value.ofFields fields).Alike v) :
    (fields.map Prod.fst).Nodup ∧ ∀ p ∈ fields, ∃ m ∈ members, m.name = p.1 := by
  cases h with
  | @struct _ others _ hform names known =>
    obtain rfl : members = others := by
      rw [hform] at form
      exact (Form.struct.inj form).symm
    have hperm := halike.names_perm
    refine ⟨hperm.nodup_iff.mpr names, fun p hp => ?_⟩
    obtain ⟨q, hq, hname⟩ := List.mem_map.mp (hperm.subset (List.mem_map_of_mem hp))
    obtain ⟨m, hm, hmname⟩ := known q hq
    exact ⟨m, hm, hmname.trans hname⟩
  | list hform => rw [hform] at form; cases form
  | map hform => rw [hform] at form; cases form
  | scalar hform => rw [hform] at form; cases form

/-- A value is read from a document, and from a whole response if all members share its body. -/
structure ResponseReader.ReadsAs (u : ResponseReader) (r : g.Ref) (root : Element) (w : Value) :
    Prop where
  body : ∀ members content, (g.shape r).form = .struct members → Xml.parse content = .ok root →
    ∃ fields, .ofFields fields = w ∧ (u.readBody content r members).outcome = .ok fields
  whole : ∀ members content, (g.shape r).form = .struct members → Xml.parse content = .ok root →
    InBody members → isBlank content = false → ∀ status headers,
      (u.read ⟨status, headers, .ofBytes content⟩ (some r)).result = .ok w

/-- Every well-typed value is written as an element that is read back as the value. Among other
elements the element is found as the result of a Query response, and the value is what is read of
the response. -/
theorem XmlBody.exists_element_readBack (notes : Bool) (ns : Value)
    (hg : ∀ r, Distinct (g.shape r)) {r : g.Ref} {v : Value} (h : WellTyped g (demands g) r v)
    (tag : Value) :
    ∃ e w, w.Alike v ∧ toElement (.complete .xml notes ns) g v r tag none = .ok e ∧ e.tag = tag ∧
      (ofElement (.complete .xml notes ns) g e r).outcome = .ok w ∧
      ∀ (u : ResponseReader) (root : Element), u.ReadsQuery (.complete .xml notes ns) →
        u.Wraps e root → u.resultElement? root = some e ∧ u.ReadsAs r root w := by
  obtain ⟨w, hw⟩ := exists_roundTrip notes ns hg h
  obtain ⟨e, hwrite, htag, hread⟩ := hw.element tag
  have hvalue : ((read (.complete .xml notes ns) g e).value r).outcome = .ok w := by
    rw [hread, Reading.outcome_pure]
  refine ⟨e, w, hw.alike, (toElement_none v r tag).trans hwrite, htag, ?_, ?_⟩
  · rw [ofElement_eq, hvalue]
  · intro u root hu hwraps
    have hresult := ResponseReader.resultElement?_eq hu.operation hwraps
    have hbody : ∀ members content, (g.shape r).form = .struct members →
        Xml.parse content = .ok root → ∃ fields, .ofFields fields = w ∧
          (u.readBody content r members).outcome = .ok fields := by
      intro members content form hparse
      obtain ⟨fields, hfields, hsome⟩ := exists_readSome form (hg r).construct hvalue
      refine ⟨fields, hfields, ?_⟩
      rw [ResponseReader.readBody]
      simp only [hu.protocol, hparse, Reading.ofConversion_ok, pure_bind, hresult,
        ResponseReader.readElement, hu.rootElement, Bool.false_eq_true, if_false, hu.codec, hsome]
    refine ⟨hresult, hbody, fun members content form hparse inBody notBlank => ?_⟩
    obtain ⟨fields, rfl, hfields⟩ := hbody members content form hparse
    obtain ⟨names, known⟩ := known_of_alike h form hw.alike
    exact ResponseReader.read_of_readBody hu.codec form (hg r).construct inBody names known
      notBlank hfields

namespace XmlBody

/-- The numerals that name four shapes. -/
local instance fourShapes : NeZero 4 := ⟨by decide⟩

/-- The title of a part of a text is an attribute. -/
def title : Member 4 := { name := "title", shape := 1, xmlAttribute := true }

/-- The tags of a part of a text. -/
def tags : Member 4 := { name := "tags", shape := 2, locationName := .str "tag" }

/-- The parts in a part of a text. -/
def inner : Member 4 := { name := "parts", shape := 3, locationName := .str "part" }

/-- A part of a text. -/
def part : Shape 4 where
  name := "Part"
  form := .struct [title, tags, inner]

/-- The shapes of parts; tags and parts stand for themselves in a part. -/
def parts : Graph where
  size := 4
  shapes := #v[part, { name := "Text", form := .scalar .string },
    { name := "Tags", form := .map 1 1, flattened := true },
    { name := "Parts", form := .list 0, flattened := true }]

/-- A part with a title alone. -/
def paragraph (title : String) : Value := .ofFields [("title", .str title)]

/-- A part with a part in it. -/
def chapter : Value := .ofFields [("parts", .list [paragraph "b"]), ("title", .str "a")]

/-- The element of a part with a part in it. -/
def chapterElement : Element :=
  .node (.str "GetResult") [(.str "title", .str "a")] ""
    [.node (.str "part") [(.str "title", .str "b")] "" []]

/-- A document with a part as the result of an operation, in two-byte units. -/
def chapterDocument : Bytes :=
  0xFF :: 0xFE :: "<R><M/><GetResult title='a'><part title='b'/></GetResult></R>".toList.flatMap
    fun c => [c.val.toUInt8, 0]

/-- The root element of the document. -/
def chapterRoot : Element := .node (.str "R") [] "" [.node (.str "M") [] "" [], chapterElement]

/-- A reader of parts. -/
def partReader : ResponseReader where
  protocol := .query
  codec := .complete .xml true .null
  operation := .str "Get"

theorem distinct_parts (r : parts.Ref) : Distinct (parts.shape r) := by
  have hkeys : IsLocal (.str "key") ∧ IsLocal (.str "value") ∧ "key" ≠ "value" :=
    ⟨⟨rfl, by decide⟩, ⟨rfl, by decide⟩, by decide⟩
  have hpart : Distinct (parts.shape ⟨0, by decide⟩) := by
    refine ⟨rfl, by decide, ?_, by decide, ?_, fun key value h => by cases h⟩
    · exact List.forall_mem_cons.mpr ⟨⟨rfl, by decide⟩, List.forall_mem_cons.mpr
        ⟨⟨rfl, by decide⟩, List.forall_mem_singleton.mpr ⟨rfl, by decide⟩⟩⟩
    · exact List.forall_mem_cons.mpr ⟨fun _ => ⟨.string, rfl⟩, List.forall_mem_cons.mpr
        ⟨fun h => (by cases h), List.forall_mem_singleton.mpr fun h => by cases h⟩⟩
  have hempty {r : parts.Ref} (hc : (parts.shape r).construct = none)
      (hm : (parts.shape r).members = []) (hk : ∀ key value, (parts.shape r).form = .map key value →
        IsLocal (parts.shape r).keyTag ∧ IsLocal (parts.shape r).valueTag ∧
          (parts.shape r).keyTag.text ≠ (parts.shape r).valueTag.text) :
      Distinct (parts.shape r) :=
    ⟨hc, by simp [hm], by simp [hm], by simp [hm], by simp [hm], hk⟩
  rcases r with ⟨_ | _ | _ | _ | i, hi⟩
  · exact hpart
  · exact hempty rfl rfl fun key value h => by cases h
  · exact hempty rfl rfl fun _ _ _ => hkeys
  · exact hempty rfl rfl fun key value h => by cases h
  · exact absurd hi (Nat.not_lt.mpr (Nat.le_add_left 4 i))

theorem form_part : (parts.shape ⟨0, by decide⟩).form = .struct part.members := rfl

theorem wellTyped_text (text : String) :
    WellTyped parts (demands parts) ⟨1, by decide⟩ (.str text) :=
  .scalar rfl (.string text) (show Scalar.Exact .string by decide)

theorem wellTyped_paragraph (text : String) :
    WellTyped parts (demands parts) ⟨0, by decide⟩ (paragraph text) := by
  have known : ∀ name ∈ ["title"], name ∈ part.members.map Member.name := by decide
  refine .of_present form_part (List.nodup_singleton _) known ?_
  exact List.forall_mem_singleton.mpr ⟨wellTyped_text text, fun h => by cases h⟩

theorem wellTyped_chapter : WellTyped parts (demands parts) ⟨0, by decide⟩ chapter := by
  have hinner : WellTyped parts (demands parts) ⟨3, by decide⟩ (.list [paragraph "b"]) :=
    .list rfl (List.forall_mem_singleton.mpr (wellTyped_paragraph "b"))
  refine .of_present form_part (by decide) (by decide) ?_
  exact List.forall_mem_cons.mpr ⟨⟨wellTyped_text "a", fun h => by cases h⟩,
    List.forall_mem_singleton.mpr ⟨hinner, fun _ h => by cases h⟩⟩

theorem parse_chapterDocument : Xml.parse chapterDocument = .ok chapterRoot := by
  cbv

theorem toElement_chapter :
    toElement (.complete .xml true .null) parts chapter ⟨0, by decide⟩ (.str "GetResult") none =
      .ok chapterElement := by
  cbv

/-- A part is read back from its element, and from the response that has it as its result. -/
theorem exists_element_readBack_chapter :
    ∃ w, w.Alike chapter ∧
      (ofElement (.complete .xml true .null) parts chapterElement ⟨0, by decide⟩).outcome = .ok w ∧
      (partReader.read (g := parts) ⟨.int 200, {}, .ofBytes chapterDocument⟩
        (some ⟨0, by decide⟩)).result = .ok w := by
  obtain ⟨e, w, halike, hwrite, -, hread, hresponse⟩ :=
    exists_element_readBack true .null distinct_parts wellTyped_chapter (.str "GetResult")
  obtain rfl : e = chapterElement := Except.ok.inj (hwrite.symm.trans toElement_chapter)
  refine ⟨w, halike, hread, ?_⟩
  have hwraps : partReader.Wraps chapterElement chapterRoot := by
    refine ⟨by cbv, by cbv, [.node (.str "M") [] "" []], [], rfl, fun sibling hs => ?_⟩
    rw [List.mem_singleton.mp hs]
    cbv
  obtain ⟨-, hreads⟩ := hresponse partReader chapterRoot ⟨rfl, rfl, rfl, by cbv⟩ hwraps
  refine hreads.whole part.members _ rfl parse_chapterDocument ?_ (by cbv) _ _
  exact List.forall_mem_cons.mpr ⟨⟨rfl, rfl, rfl⟩, List.forall_mem_cons.mpr
    ⟨⟨rfl, rfl, rfl⟩, List.forall_mem_singleton.mpr ⟨rfl, rfl, rfl⟩⟩⟩

end XmlBody

end ServiceWire
