import ServiceWire.Proofs.Codec.XmlText
import ServiceWire.Proofs.Xml.Document

/-!
# Values read back from XML documents

Members are found by local names, so it makes no difference to a reader which namespace a document
declares. The members of a structure are written as a document, and from its bytes come back the
same members.
-/

namespace ServiceWire.XmlBody

open ServiceWire.Xml (Element Plain IsName Declarable textAttributes inNamespace)

variable {c : Codec} {g : Graph}

/-! ### Elements by other names -/

/-- Elements with other names, with what reads them. -/
def renamed (f : Element → Element) (elements : List (Element × Reader g)) :
    List (Element × Reader g) :=
  elements.map fun p => (f p.1, p.2)

theorem mapM_renamed {β : Type} (k : Reader g → Reading β) (f : Element → Element)
    (elements : List (Element × Reader g)) :
    (renamed f elements).mapM (fun p => k p.2) = elements.mapM fun p => k p.2 := by
  rw [renamed, List.mapM_map]
  rfl

theorem isEmpty_renamed (f : Element → Element) (elements : List (Element × Reader g)) :
    (renamed f elements).isEmpty = elements.isEmpty := List.isEmpty_map

theorem readBlock_renamed (r : g.Ref) (f : Element → Element)
    (elements : List (Element × Reader g)) :
    readBlock c g r (renamed f elements) = readBlock c g r elements := by
  cases elements with
  | nil => rfl
  | cons first rest =>
    have hcons : renamed f (first :: rest) = (f first.1, first.2) :: renamed f rest := rfl
    have hvalues := fun item => mapM_renamed (fun read => read.value item) f (first :: rest)
    have hentries := mapM_renamed (fun read => read.entry r) f (first :: rest)
    rw [hcons] at hvalues hentries ⊢
    simp only [readBlock, hvalues, hentries]

section Renamed

variable {f : Element → Element} {elements : List (Element × Reader g)}
  (names : ∀ p ∈ elements, (f p.1).localName = p.1.localName)

include names

theorem untaken_renamed (taken : List Value) :
    untaken taken (renamed f elements) = renamed f (untaken taken elements) := by
  rw [untaken, renamed, List.filter_map]
  refine congrArg _ (List.filter_congr fun p hp => ?_)
  have hnamed : (f p.1).isNamed = p.1.isNamed := by
    funext name
    rw [Element.isNamed, Element.isNamed, names p hp]
  simp only [Function.comp_apply, hnamed]

theorem named_renamed (name : Value) :
    named name (renamed f elements) = renamed f (named name elements) := by
  rw [named, renamed, List.filter_map]
  refine congrArg _ (List.filter_congr fun p hp => ?_)
  simp only [Function.comp_apply, Element.isNamed, names p hp]

theorem readMember_renamed (attributes : List (Value × Value)) (taken : List Value)
    (m : Member g.size) : readMember c g (renamed f elements) attributes taken m =
      readMember c g elements attributes taken m := by
  have hleft : ∀ p ∈ untaken taken elements, (f p.1).localName = p.1.localName :=
    fun p hp => names p (List.mem_filter.mp hp).1
  rw [readMember, readMember, untaken_renamed names]
  simp only [named_renamed hleft, readBlock_renamed, isEmpty_renamed]

theorem readEach_renamed (attributes : List (Value × Value)) (members : List (Member g.size))
    (taken : List Value) (values : List (String × Value)) :
    readEach c g (renamed f elements) attributes members taken values =
      readEach c g elements attributes members taken values := by
  induction members generalizing taken values with
  | nil => rfl
  | cons m rest ih => simp only [readEach, readMember_renamed names, ih]

/-- Members are read from children with the same local names. -/
theorem readMembers_renamed (s : Shape g.size) (members : List (Member g.size))
    (attributes : List (Value × Value)) : readMembers c g s members (renamed f elements) attributes =
      readMembers c g s members elements attributes := by
  have hleft : ((renamed f (untaken (members.flatMap (takenBy g)) elements)).map
      fun p => p.1.localName) =
        (untaken (members.flatMap (takenBy g)) elements).map fun p => p.1.localName := by
    rw [renamed, List.map_map]
    exact List.map_congr_left fun p hp => names p (List.mem_filter.mp hp).1
  simp only [readMembers, readEach_renamed names, untaken_renamed names, hleft]

/-- An entry is read from children with the same local names and texts. -/
theorem readEntry_renamed (texts : ∀ p ∈ elements, (f p.1).text = p.1.text) (e e' : Element)
    (r : g.Ref) :
    readEntry c g ⟨e', renamed f elements⟩ r = readEntry c g ⟨e, elements⟩ r := by
  have hkey : entryKey? g (g.shape r) (renamed f elements) = entryKey? g (g.shape r) elements := by
    rw [entryKey?, entryKey?, named_renamed names, renamed, List.getLast?_map, Option.map_map]
    refine Option.map_congr fun p hp => ?_
    exact texts p (List.mem_filter.mp (List.mem_of_getLast? hp)).1
  have hvalue : entryValue? g (g.shape r) (renamed f elements) =
      (entryValue? g (g.shape r) elements).map fun p => (f p.1, p.2) := by
    rw [entryValue?, entryValue?, named_renamed names, renamed, List.getLast?_map]
    split
    · rfl
    · rfl
  rw [readEntry, readEntry]
  simp only [hkey, hvalue]
  cases entryKey? g (g.shape r) elements with
  | none => rfl
  | some key =>
    cases entryValue? g (g.shape r) elements with
    | none => rfl
    | some p =>
      cases (g.shape r).form with
      | map => rfl
      | _ => rfl

end Renamed

/-- An element is read as another one if they differ in the namespaces of their names only. -/
theorem readView_renamed {f : Element → Element} {e e' : Element} {elements : List (Element × Reader g)}
    (attributes : e'.attributes = e.attributes) (text : e'.text = e.text)
    (same : ∀ p ∈ elements, (f p.1).localName = p.1.localName ∧ (f p.1).text = p.1.text) :
    readView c g ⟨e', renamed f elements⟩ = readView c g ⟨e, elements⟩ := by
  have names := fun p hp => (same p hp).1
  have hvalue : readValue c g ⟨e', renamed f elements⟩ = readValue c g ⟨e, elements⟩ := by
    funext r
    rw [readValue, readValue]
    cases (g.shape r).form with
    | struct members => simp only [readMembers_renamed names, attributes]
    | list item => simp only [mapM_renamed fun read => read.value item]
    | map key value => simp only [mapM_renamed fun read => read.entry r]
    | scalar kind => simp only [text]
  have hentry : readEntry c g ⟨e', renamed f elements⟩ = readEntry c g ⟨e, elements⟩ :=
    funext fun r => readEntry_renamed names (fun p hp => (same p hp).2) e e' r
  rw [readView, readView, hvalue, hentry]

/-! ### Namespaces -/

theorem localName_expandedName (uri : String) {tag : String} (h : IsName tag) :
    Xml.localName (Xml.expandedName uri tag) = tag := by
  have hclosed : '\x7d' ∉ tag.toList := h.not_mem rfl
  rw [Xml.expandedName]
  split
  · exact localName_eq_self hclosed
  · have hlist : ("\x7b" ++ uri ++ "\x7d" ++ tag).toList =
        ('\x7b' :: uri.toList) ++ '\x7d' :: tag.toList := by
      simp only [String.toList_append, List.append_assoc]
      rfl
    rw [Xml.localName, hlist, Text.afterLast_append hclosed, String.ofList_toList]

/-- The namespace of a plain tree does not change what its elements are called. -/
theorem localName_inNamespace {mayDeclare : Bool} {e : Element} (h : Plain mayDeclare e)
    (uri : String) : (e.map (inNamespace uri) id).localName = e.localName := by
  cases h with
  | node name =>
    simp only [Element.map, Element.localName, Element.tag, inNamespace, Value.text,
      localName_expandedName uri name]
    rw [localName_eq_self (name.not_mem rfl)]

theorem readers_inNamespace {uri : String} {children : List Element}
    (h : ∀ e ∈ children, read c g (e.map (inNamespace uri) id) = read c g e) :
    readers c g (Element.mapAll (inNamespace uri) id children) =
      renamed (fun e => e.map (inNamespace uri) id) (readers c g children) := by
  rw [Element.mapAll_eq, readers, readers, renamed, List.map_map, List.map_map]
  exact List.map_congr_left fun e he => by simp only [Function.comp_apply, h e he]

/-- A plain tree is read as it is in any namespace. -/
theorem read_inNamespace {mayDeclare : Bool} {e : Element} (h : Plain mayDeclare e)
    (uri : String) : read c g (e.map (inNamespace uri) id) = read c g e := by
  induction h with
  | node name plain _ allowed inner ih =>
    rw [read_eq, read_eq, Element.view, Element.view, Element.map, Element.children,
      Element.children, ← readers, ← readers, readers_inNamespace ih]
    refine readView_renamed rfl rfl fun p hp => ?_
    obtain ⟨e, he, rfl⟩ := List.mem_map.mp hp
    exact ⟨localName_inNamespace (inner e he) uri, by cases e; rfl⟩

/-- The members of a structure are read as they are in any namespace. -/
theorem readSome_inNamespace {mayDeclare : Bool} {e : Element} (h : Plain mayDeclare e)
    (uri : String) (r : g.Ref) (members : List (Member g.size)) :
    readSome c g r members (e.map (inNamespace uri) id).children
        (e.map (inNamespace uri) id).attributes =
      readSome c g r members e.children e.attributes := by
  cases h with
  | node name plain _ allowed inner =>
    rw [readSome, readSome, Element.map, Element.children, Element.attributes,
      readers_inNamespace fun e he => read_inNamespace (inner e he) uri]
    refine readMembers_renamed (fun p hp => ?_) _ _ _
    obtain ⟨e, he, rfl⟩ := List.mem_map.mp hp
    exact localName_inNamespace (inner e he) uri

/-! ### Documents -/

/-- The namespace of a document, if it has one, is a text that a document may declare. -/
def IsNamespace (ns : Value) : Prop := ns.truthy = true → ∃ uri, ns = .str uri ∧ Declarable uri

theorem exists_declaring {ns : Value} (h : IsNamespace ns) {e : Element} (he : Plain false e) :
    ∃ uri, Declarable uri ∧ declare ns e = e.declaring uri := by
  cases he with
  | @node _ tag attributes text children name plain undeclared =>
    rw [declare]
    cases hns : ns.truthy with
    | false =>
      exact ⟨"", ⟨List.forall_mem_nil _, List.not_mem_nil, by decide, by decide⟩, rfl⟩
    | true =>
      obtain ⟨uri, rfl, huri⟩ := h hns
      have hfresh : ∀ p ∈ textAttributes attributes, (p.1 == Value.str "xmlns") = false := by
        intro p hp
        obtain ⟨q, hq, rfl⟩ := List.mem_map.mp hp
        rw [Value.str_beq_str]
        exact beq_false_of_ne fun heq => undeclared rfl (heq ▸ List.mem_map_of_mem hq)
      refine ⟨uri, huri, ?_⟩
      have hfilled : uri.isEmpty = false := by simpa [Value.truthy] using hns
      rw [if_pos rfl, Element.declaring, hfilled, if_neg Bool.false_ne_true]
      exact congrArg (fun a => Element.node _ a _ _) (Entries.put_eq_append _ hfresh)

/-- The text of a document is not blank. -/
theorem not_isBlank_of_beginsElement {cs : List Char} (h : Xml.BeginsElement cs) :
    (bytesOf (String.ofList cs)).all Text.isBlankByte = false := by
  obtain ⟨c, rest, rfl, -⟩ := h
  have hbracket : String.utf8EncodeChar '<' = [0x3C] := by decide
  rw [bytesOf, Utf8.encode_eq_flatMap, String.toList_ofList, List.flatMap_cons, hbracket]
  rfl

/-- The entries of a structure that some members stand for. -/
def fieldsOf {n : Nat} (members : List (Member n)) (fields : List (String × Value)) :
    List (String × Value) :=
  (present members fields).map fun q => (q.1.name, q.2)

variable {notes : Bool} {ns : Value}

/-- A clean element is a document from which its members are read as they were written. -/
theorem Clean.exists_document {e : Element} (he : Clean e) {namespace_ : Value}
    (h : IsNamespace namespace_) :
    ∃ text e', Xml.render (declare namespace_ e) = .ok text ∧
      (bytesOf text).all Text.isBlankByte = false ∧ Xml.parse (bytesOf text) = .ok e' ∧
      ∀ (c : Codec) (g : Graph) (r : g.Ref) (members : List (Member g.size)),
        readSome c g r members e'.children e'.attributes =
          readSome c g r members e.children e.attributes := by
  obtain ⟨uri, huri, hdeclare⟩ := exists_declaring h he.plain
  have hplain := he.plain.declaring huri.allowed
  rw [hdeclare]
  refine ⟨_, _, Xml.render_eq hplain, not_isBlank_of_beginsElement hplain.beginsElement,
    he.plain.parse_written huri, fun c g r members => ?_⟩
  rw [he.unbroken.map_unified]
  exact readSome_inNamespace he.plain uri r members

/-- The members of a structure are written as a document, from which they are read back. -/
theorem exists_document {r : g.Ref} {members : List (Member g.size)}
    (form : (g.shape r).form = .struct (g.members r)) (hsub : members.Sublist (g.members r))
    (names : (members.map Member.name).Nodup) (wireNames : MemberNames g members)
    (hr : ∀ m ∈ members, ∀ q, g.Leads m.shape q → WellNamed g q) {root : Value}
    (hroot : IsTag (root.orElse (g.shape r).rootTag))
    (hns : IsNamespace (namespaceFor (.complete .xml notes ns) g (g.shape r)))
    {fields : List (String × Value)} (notNull : ∀ p ∈ fields, p.2.isNull = false)
    (typed : WellTyped g (textDemands g) r (.ofFields (fieldsOf members fields)))
    (texts : Carried g r (.ofFields (fieldsOf members fields))) :
    ∃ (data : Bytes) (e : Element) (result : Member g.size × Value → Value),
      encode (.complete .xml notes ns) g (.ofFields fields) r root (some members) = .ok data ∧
      data.all Text.isBlankByte = false ∧ Xml.parse data = .ok e ∧
      readSome (.complete .xml notes ns) g r members e.children e.attributes =
        pure ((present members fields).map fun q => (q.1.name, result q)) ∧
      ∀ q ∈ present members fields, (result q).Alike q.2 := by
  have htyped : ∀ q ∈ present members fields, WellTyped g (textDemands g) q.1.shape q.2 ∧
      Filled (g.shape q.1.shape) q.2 :=
    fun q hq => typed.of_mem form (hsub.subset (mem_present hq).1) (List.mem_map_of_mem hq)
  have hpart : ∀ q ∈ present members fields,
      ∃ text block w, Placed notes ns g q text block w ∧ w.Alike q.2 := by
    intro q hq
    have hm := (mem_present hq).1
    exact exists_placed (faithful_textDemands g) (wireNames.scalars q.1 hm) (htyped q hq).1
      (htyped q hq).2 (exists_roundTrip_of_leads (faithful_textDemands g) notes ns
        (fun p hp => (hr q.1 hm p hp).distinct) (htyped q hq).1)
  choose! text block result hq using hpart
  have locals : ∀ m ∈ members, IsLocal m.wireName := fun m hm => (wireNames.tags m hm).isLocal
  have hview := Value.member?_view_ofFields (write (.complete .xml notes ns) g) notNull
  let e : Element := .node (root.orElse (g.shape r).rootTag)
    (keyed (attributesOf text (present members fields))) "" (childrenOf block (present members fields))
  have hwrite : writeMembers g members (root.orElse (g.shape r).rootTag)
      ((Value.ofFields fields).view (write (.complete .xml notes ns) g)) = .ok e := by
    have hfold := foldlM_writeMember hview locals wireNames.distinct [] [] (by simp)
      fun q hp => (hq q hp).1
    exact congrArg (Except.map fun p => Element.node _ p.1 "" p.2) hfold
  have hclean : Clean e := by
    refine clean_writeMembers wireNames (fun m hm v write hv => ?_) hroot hwrite
    rw [hview] at hv
    obtain ⟨v, hl, heq⟩ := Option.map_eq_some_iff.mp hv
    cases heq
    have hpart : (m, v) ∈ present members fields := mem_present_iff.mpr ⟨hm, hl⟩
    have hentry : (m.name, v) ∈ fieldsOf members fields := List.mem_map_of_mem hpart
    exact cleanMember (hr m hm) (wireNames.tags m hm) form (hsub.subset hm) hentry
      (htyped _ hpart).1 texts
  obtain ⟨text', e', hrender, hblank, hparse, hread⟩ := hclean.exists_document hns
  refine ⟨bytesOf text', e', result, ?_, hblank, hparse, ?_, fun q hp => (hq q hp).2⟩
  · rw [encode, toElement]
    simp only [form, Option.getD_some, hwrite, bind, Except.bind, hrender]
    rfl
  · rw [hread]
    exact readMembers_eq locals wireNames.distinct (fun q hp => (hq q hp).1) names (g.shape r)

end ServiceWire.XmlBody
