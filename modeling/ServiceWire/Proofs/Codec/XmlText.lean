import ServiceWire.Proofs.Codec.XmlRoundTrip
import ServiceWire.Proofs.Xml.Tree

/-!
# Values that XML can carry

The texts of a value become the texts of elements, the keys of entries among them, and the values of
attributes. If XML allows all their characters, and if the names of a shape have no colon, then a
value is written as a plain tree. Line ends make a difference between the two kinds of places: an
attribute spells them out, the text of an element does not, so a reader only finds line feeds there.
-/

namespace ServiceWire

/-- The text of a scalar has only visible characters and is read back as the scalar. -/
def Scalar.Legible (kind : ScalarKind) (v : Value) : Prop :=
  ∃ s, textOf .iso8601 kind v = .ok s ∧ ofText kind s = .ok v ∧ ∀ c ∈ s.toList, Text.IsVisibleChar c

/-- All scalars but texts and numbers with a fraction are legible. -/
theorem Scalar.legible_of_exact {kind : ScalarKind} {v : Value} (typed : OfKind kind v)
    (exact : Exact kind) (text : kind ≠ .string) : Legible kind v := by
  obtain ⟨s, hs, hback⟩ := exists_text typed exact
  refine ⟨s, hs, hback, ?_⟩
  cases typed with
  | string => exact absurd rfl text
  | float => exact absurd rfl exact.1
  | double => exact absurd rfl exact.2
  | integer i | long i =>
    cases hs
    exact fun c => Number.isVisibleChar_of_mem_toString
  | boolean b =>
    cases hs
    have hall : ∀ b : Bool, ((if b then "true" else "false").toList.all fun c =>
        0x21 ≤ c.toNat && c.toNat ≤ 0x7E) = true := by
      decide +kernel
    intro c hc
    have hvisible := List.all_eq_true.mp (hall b) c hc
    rwa [Bool.and_eq_true, decide_eq_true_eq, decide_eq_true_eq] at hvisible
  | timestamp utc =>
    obtain rfl := Except.ok.inj ((textOf_timestamp utc .iso8601).symm.trans hs)
    exact fun c => Iso8601.isVisibleChar_of_mem_render
  | blob data =>
    cases hs
    intro c hc
    rw [Base64.encode, String.toList_ofList] at hc
    exact Base64.isVisibleChar_of_mem_encodeChars hc

namespace XmlBody

open ServiceWire.Xml (Element IsName IsAllowedText Plain PlainAttributes textAttributes)

/-! ### Texts in values -/

/-- A text becomes that of an element or the value of an attribute. -/
inductive Spot
  | content
  | attr

/-- A text is part of a value of a shape. -/
inductive Occurs (g : Graph) : Spot → g.Ref → Value → String → Prop
  /-- A text by itself. -/
  | text {r : g.Ref} {s : String} (form : (g.shape r).form = .scalar .string) :
      Occurs g .content r (.str s) s
  /-- A member of a structure that is an attribute. -/
  | attr {r : g.Ref} {members : List (Member g.size)} {m : Member g.size}
      {fields : List (String × Value)} {s : String} (form : (g.shape r).form = .struct members)
      (member : m ∈ members) (attr : m.xmlAttribute = true)
      (entry : (m.name, .str s) ∈ fields) : Occurs g .attr r (.ofFields fields) s
  /-- A text in a member of a structure that is a child. -/
  | child {spot : Spot} {r : g.Ref} {members : List (Member g.size)} {m : Member g.size}
      {fields : List (String × Value)} {v : Value} {s : String}
      (form : (g.shape r).form = .struct members) (member : m ∈ members)
      (child : m.xmlAttribute = false) (entry : (m.name, v) ∈ fields)
      (inner : Occurs g spot m.shape v s) : Occurs g spot r (.ofFields fields) s
  /-- A text in an item of a list. -/
  | item {spot : Spot} {r item : g.Ref} {items : List Value} {v : Value} {s : String}
      (form : (g.shape r).form = .list item) (entry : v ∈ items)
      (inner : Occurs g spot item v s) : Occurs g spot r (.list items) s
  /-- A key of a map. -/
  | key {r key value : g.Ref} {fields : List (String × Value)} {v : Value} {s : String}
      (form : (g.shape r).form = .map key value) (entry : (s, v) ∈ fields) :
      Occurs g .content r (.ofFields fields) s
  /-- A text in the value of an entry of a map. -/
  | value {spot : Spot} {r key value : g.Ref} {fields : List (String × Value)} {k : String}
      {v : Value} {s : String} (form : (g.shape r).form = .map key value)
      (entry : (k, v) ∈ fields) (inner : Occurs g spot value v s) :
      Occurs g spot r (.ofFields fields) s

/-- XML carries a text: it allows all its characters, and no carriage return is in an element, where
it would not be told from a line feed. -/
def Spot.Carries : Spot → String → Prop
  | content, s => IsAllowedText s ∧ '\r' ∉ s.toList
  | attr, s => IsAllowedText s

instance (spot : Spot) (s : String) : Decidable (spot.Carries s) :=
  match spot with
  | .content => inferInstanceAs (Decidable (IsAllowedText s ∧ '\r' ∉ s.toList))
  | .attr => inferInstanceAs (Decidable (IsAllowedText s))

/-- XML carries all texts in a value. -/
def Carried (g : Graph) (r : g.Ref) (v : Value) : Prop :=
  ∀ spot s, Occurs g spot r v s → spot.Carries s

/-- Numbers with a fraction are told apart by their digits, and flattened members are not empty. -/
def textDemands (g : Graph) : Demands g where
  scalar kind v := Scalar.Exact kind ∨ Scalar.Legible kind v
  member m v := Filled (g.shape m.shape) v

theorem faithful_textDemands (g : Graph) : Faithful g (textDemands g) where
  scalar typed h := by
    rcases h with exact | ⟨s, hs, hback, -⟩
    · exact Scalar.exists_text typed exact
    · exact ⟨s, hs, hback⟩
  member := id

/-- The text of a scalar is the scalar itself, or it is visible. -/
theorem text_cases {g : Graph} {kind : ScalarKind} {v : Value} {s : String}
    (typed : Scalar.OfKind kind v) (demand : (textDemands g).scalar kind v)
    (h : Scalar.textOf .iso8601 kind v = .ok s) :
    kind = .string ∧ v = .str s ∨ ∀ c ∈ s.toList, Text.IsVisibleChar c := by
  have hlegible : ∀ {kind}, Scalar.textOf .iso8601 kind v = .ok s → Scalar.Legible kind v →
      ∀ c ∈ s.toList, Text.IsVisibleChar c := by
    rintro kind h ⟨s', hs', -, hvisible⟩
    obtain rfl := Except.ok.inj (h.symm.trans hs')
    exact hvisible
  by_cases hstring : kind = .string
  · subst hstring
    cases typed with
    | string s' =>
      cases h
      exact .inl ⟨rfl, rfl⟩
  · rcases demand with exact | hdemand
    · exact .inr (hlegible h (Scalar.legible_of_exact typed exact hstring))
    · exact .inr (hlegible h hdemand)

theorem carries_of_visible {s : String} (h : ∀ c ∈ s.toList, Text.IsVisibleChar c) :
    Spot.content.Carries s :=
  ⟨fun c hc => Xml.isAllowed_of_visible (h c hc), fun hc => absurd (h _ hc) (by decide)⟩

theorem carries_empty : Spot.content.Carries "" := carries_of_visible (List.forall_mem_nil _)

/-! ### Trees that are read as they were written -/

/-- No text of an element has a carriage return. -/
inductive Unbroken : Element → Prop
  | node {tag : Value} {attributes : List (Value × Value)} {text : String}
      {children : List Element} (unbroken : '\r' ∉ text.toList)
      (inner : ∀ e ∈ children, Unbroken e) : Unbroken (.node tag attributes text children)

theorem unified_of_unbroken {s : String} (h : '\r' ∉ s.toList) : Xml.unified s = s := by
  have hlist := Xml.unifyLineEnds_append h []
  rw [List.append_nil, Xml.unifyLineEnds, List.append_nil] at hlist
  rw [Xml.unified, hlist, String.ofList_toList]

/-- A reader leaves texts without carriage returns as they are. -/
theorem Unbroken.map_unified {e : Element} (h : Unbroken e) (name : Value → Value) :
    e.map name Xml.unified = e.map name id := by
  induction h with
  | node unbroken _ ih =>
    rw [Element.map, Element.map, unified_of_unbroken unbroken, Element.mapAll_eq,
      Element.mapAll_eq, List.map_congr_left ih, id]

/-- A tree that comes back as it was written. -/
structure Clean (e : Element) : Prop where
  plain : Plain false e
  unbroken : Unbroken e

theorem Clean.node {tag : String} {attributes : List (String × String)} {text : String}
    {children : List Element} (name : IsName tag) (plain : PlainAttributes attributes)
    (undeclared : "xmlns" ∉ attributes.map Prod.fst)
    (carried : Spot.content.Carries text) (inner : ∀ e ∈ children, Clean e) :
    Clean (.node (.str tag) (textAttributes attributes) text children) :=
  ⟨.node name plain (fun _ => undeclared) carried.1 fun e he => (inner e he).plain,
    .node carried.2 fun e he => (inner e he).unbroken⟩

/-- A name of elements. -/
def IsTag (name : Value) : Prop := ∃ s, name = .str s ∧ IsName s

theorem isTag_str {s : String} (h : IsName s) : IsTag (.str s) := ⟨s, rfl, h⟩

theorem plainAttributes_nil : PlainAttributes [] :=
  ⟨List.forall_mem_nil _, List.nodup_nil, List.forall_mem_nil _⟩

theorem clean_textElement {tag : Value} (ht : IsTag tag) {s : String}
    (carried : Spot.content.Carries s) : Clean (textElement tag s) := by
  obtain ⟨tag, rfl, name⟩ := ht
  exact .node name plainAttributes_nil List.not_mem_nil carried (List.forall_mem_nil _)

theorem clean_parentElement {tag : Value} (ht : IsTag tag) {children : List Element}
    (inner : ∀ e ∈ children, Clean e) : Clean (parentElement tag children) := by
  obtain ⟨tag, rfl, name⟩ := ht
  exact .node name plainAttributes_nil List.not_mem_nil carries_empty inner

/-! ### Structures -/

/-- The members of a structure have names of their own that need no prefix, and no attribute is
taken for a declaration. -/
structure MemberNames (g : Graph) (members : List (Member g.size)) : Prop where
  tags : ∀ m ∈ members, IsTag m.wireName
  undeclared : ∀ m ∈ members, m.xmlAttribute = true → m.wireName ≠ .str "xmlns"
  /-- Attributes have different names, and so have children. -/
  distinct : (members.map fun m => (m.xmlAttribute, m.wireName.text)).Nodup
  /-- Only scalars are attributes. -/
  scalars : ∀ m ∈ members, m.xmlAttribute = true →
    ∃ kind, (g.shape m.shape).form = .scalar kind

theorem MemberNames.sublist {g : Graph} {some members : List (Member g.size)}
    (h : MemberNames g members) (hs : some.Sublist members) : MemberNames g some where
  tags m hm := h.tags m (hs.subset hm)
  undeclared m hm := h.undeclared m (hs.subset hm)
  distinct := h.distinct.sublist (hs.map _)
  scalars m hm := h.scalars m (hs.subset hm)

/-- All names of a shape can be those of elements without a prefix. -/
structure WellNamed (g : Graph) (r : g.Ref) : Prop where
  /-- No constructor of its own stands between a structure and its members. -/
  construct : (g.shape r).construct = none
  names : ((g.members r).map Member.name).Nodup
  members : MemberNames g (g.members r)
  items : ∀ item, (g.shape r).form = .list item → IsTag (g.shape r).itemTag
  /-- The key of an entry is told apart from its value by the name. -/
  entries : ∀ key value, (g.shape r).form = .map key value →
    IsTag (g.shape r).keyTag ∧ IsTag (g.shape r).valueTag ∧
      (g.shape r).keyTag.text ≠ (g.shape r).valueTag.text

theorem IsTag.isLocal {name : Value} (h : IsTag name) : IsLocal name := by
  obtain ⟨s, rfl, hs⟩ := h
  exact ⟨rfl, hs.not_mem rfl⟩

theorem WellNamed.distinct {g : Graph} {r : g.Ref} (h : WellNamed g r) : Distinct (g.shape r) where
  construct := h.construct
  names := h.names
  locals m hm := (h.members.tags m hm).isLocal
  wireNames := h.members.distinct
  scalars := h.members.scalars
  entries key value form :=
    let ⟨hkey, hvalue, hne⟩ := h.entries key value form
    ⟨hkey.isLocal, hvalue.isLocal, hne⟩

/-- Attributes and children of which a clean element can be made. -/
def CleanParts (acc : List (Value × Value) × List Element) : Prop :=
  (∃ attributes, acc.1 = textAttributes attributes ∧ PlainAttributes attributes ∧
    "xmlns" ∉ attributes.map Prod.fst) ∧ ∀ e ∈ acc.2, Clean e

theorem put_textAttributes (name text : String) (attributes : List (String × String)) :
    Entries.put (.str name) (.str text) (textAttributes attributes) =
      textAttributes (Entries.put name text attributes) := by
  induction attributes with
  | nil => rfl
  | cons p rest ih =>
    rw [textAttributes] at ih
    rw [textAttributes, List.map_cons, Entries.put, Entries.put, Value.str_beq_str, ih]
    split
    · rfl
    · rfl

theorem PlainAttributes.put {attributes : List (String × String)} (h : PlainAttributes attributes)
    {name text : String} (hname : IsName name) (allowed : IsAllowedText text) :
    PlainAttributes (Entries.put name text attributes) where
  names p hp := by
    rcases Entries.eq_or_mem_of_mem_put hp with rfl | hp
    · exact hname
    · exact h.names p hp
  distinct := Entries.nodup_put h.distinct name text
  allowed p hp := by
    rcases Entries.eq_or_mem_of_mem_put hp with rfl | hp
    · exact allowed
    · exact h.allowed p hp

variable {g : Graph} {notes : Bool} {ns : Value}

/-- What a member of a structure can be written as is clean: the text of its attribute, or the
elements that stand for it. -/
structure CleanMember (m : Member g.size) (v : Value) (write : Writing g) : Prop where
  attr : m.xmlAttribute = true → ∀ s,
    Scalar.toText .iso8601 (g.shape m.shape).name (g.shape m.shape).kind v = .ok s → IsAllowedText s
  children : m.xmlAttribute = false → ∀ es, write.inside m.shape m.wireName = .ok es →
    ∀ e ∈ es, Clean e

theorem CleanParts.writeMember {w : View (Writing g)} {m : Member g.size}
    (name : IsTag m.wireName) (undeclared : m.xmlAttribute = true → m.wireName ≠ .str "xmlns")
    (clean : ∀ v write, w.member? m.name = some (v, write) → CleanMember m v write)
    {acc acc' : List (Value × Value) × List Element} (hacc : CleanParts acc)
    (h : writeMember g w acc m = .ok acc') : CleanParts acc' := by
  obtain ⟨⟨attributes, hattributes, plain, fresh⟩, hchildren⟩ := hacc
  obtain ⟨tag, htag, hname⟩ := name
  rw [XmlBody.writeMember] at h
  cases hm : w.member? m.name with
  | none =>
    rw [hm] at h
    cases h
    exact ⟨⟨attributes, hattributes, plain, fresh⟩, hchildren⟩
  | some p =>
    obtain ⟨v, write⟩ := p
    have hclean := clean v write hm
    rw [hm] at h
    cases ha : m.xmlAttribute with
    | true =>
      simp only [ha, if_true] at h
      obtain ⟨s, hs, h⟩ := exists_of_bind h
      obtain ⟨key, hkey, h⟩ := exists_of_bind h
      rw [htag, Value.asKey_str] at hkey
      cases hkey
      cases h
      refine ⟨⟨Entries.put tag s attributes, ?_, ?_, ?_⟩, hchildren⟩
      · rw [hattributes, put_textAttributes]
      · exact PlainAttributes.put plain hname (hclean.attr ha s (exists_of_mapError hs))
      · rw [Entries.mem_keys_put, not_or]
        exact ⟨fun heq => undeclared ha (htag.trans (congrArg Value.str heq.symm)), fresh⟩
    | false =>
      simp only [ha, Bool.false_eq_true, if_false] at h
      obtain ⟨es, hes, h⟩ := exists_of_bind h
      cases h
      exact ⟨⟨attributes, hattributes, plain, fresh⟩,
        List.forall_mem_append.mpr ⟨hchildren, hclean.children ha es hes⟩⟩

theorem clean_writeMembers {w : View (Writing g)} {members : List (Member g.size)}
    (names : MemberNames g members) (clean : ∀ m ∈ members, ∀ v write,
      w.member? m.name = some (v, write) → CleanMember m v write)
    {tag : Value} (ht : IsTag tag) {e : Element} (h : writeMembers g members tag w = .ok e) :
    Clean e := by
  obtain ⟨tags, undeclared, -, -⟩ := names
  have hfold : ∀ acc acc', CleanParts acc → members.foldlM (writeMember g w) acc = .ok acc' →
      CleanParts acc' := by
    clear h
    induction members with
    | nil =>
      intro acc acc' hacc h
      cases h
      exact hacc
    | cons m rest ih =>
      intro acc acc' hacc h
      rw [List.forall_mem_cons] at tags undeclared clean
      rw [List.foldlM_cons] at h
      obtain ⟨next, hnext, h⟩ := exists_of_bind h
      exact ih clean.2 tags.2 undeclared.2 next acc'
        (hacc.writeMember tags.1 undeclared.1 clean.1 hnext) h
  obtain ⟨acc, hacc, rfl⟩ := exists_of_map h
  obtain ⟨⟨attributes, hattributes, plain, fresh⟩, hchildren⟩ :=
    hfold _ _ ⟨⟨[], rfl, plainAttributes_nil, List.not_mem_nil⟩, List.forall_mem_nil _⟩ hacc
  obtain ⟨tag, rfl, name⟩ := ht
  rw [hattributes]
  exact .node name plain fresh carries_empty hchildren

/-! ### Lists and maps -/

theorem clean_items {items : List Value} {item : g.Ref} {tag : Value}
    (h : ∀ v ∈ items, ∀ e, (write (.complete .xml notes ns) g v).element item tag = .ok e → Clean e)
    {es : List Element} (hes : (items.map fun v => (v, write (.complete .xml notes ns) g v)).mapM
      (fun p => p.2.element item tag) = .ok es) : ∀ e ∈ es, Clean e := by
  intro e he
  obtain ⟨p, hp, heq⟩ := exists_of_mem_mapM hes he
  obtain ⟨v, hv, rfl⟩ := List.mem_map.mp hp
  exact h v hv e heq

theorem clean_entries {s : Shape g.size} {fields : List (String × Value)} {value : g.Ref}
    (names : IsTag s.keyTag) (keys : ∀ p ∈ fields, Spot.content.Carries p.1)
    (h : ∀ p ∈ fields, ∀ e,
      (write (.complete .xml notes ns) g p.2).element value s.valueTag = .ok e → Clean e)
    {tag : Value} (ht : IsTag tag) {es : List Element}
    (hes : (fields.map fun p => (Value.str p.1, p.2, write (.complete .xml notes ns) g p.2)).mapM
      (writeEntry (.complete .xml notes ns) g s value tag) = .ok es) : ∀ e ∈ es, Clean e := by
  intro e he
  obtain ⟨q, hq, heq⟩ := exists_of_mem_mapM hes he
  obtain ⟨p, hp, rfl⟩ := List.mem_map.mp hq
  simp only [writeEntry, Scalar.string, Codec.needWriter_complete, Except.mapError, ok_bind] at heq
  obtain ⟨e', he', heq⟩ := exists_of_bind heq
  cases heq
  exact clean_parentElement ht (List.forall_mem_cons.mpr
    ⟨clean_textElement names (keys p hp), List.forall_mem_singleton.mpr (h p hp e' he')⟩)

/-! ### Values -/

namespace Carried

theorem child {r : g.Ref} {members : List (Member g.size)} {m : Member g.size}
    {fields : List (String × Value)} {v : Value} (h : Carried g r (.ofFields fields))
    (form : (g.shape r).form = .struct members) (member : m ∈ members)
    (child : m.xmlAttribute = false) (entry : (m.name, v) ∈ fields) : Carried g m.shape v :=
  fun spot s ho => h spot s (.child form member child entry ho)

theorem item {r item : g.Ref} {items : List Value} {v : Value} (h : Carried g r (.list items))
    (form : (g.shape r).form = .list item) (entry : v ∈ items) : Carried g item v :=
  fun spot s ho => h spot s (.item form entry ho)

theorem value {r key value : g.Ref} {fields : List (String × Value)} {p : String × Value}
    (h : Carried g r (.ofFields fields)) (form : (g.shape r).form = .map key value)
    (entry : p ∈ fields) : Carried g value p.2 :=
  fun spot s ho => h spot s (.value form entry ho)

/-- XML carries the texts in a structure if it does so for the members that the structure has. -/
theorem of_present {r : g.Ref} {members : List (Member g.size)} {fields : List (String × Value)}
    (form : (g.shape r).form = .struct members) (names : (fields.map Prod.fst).Nodup)
    (h : ∀ q ∈ present members fields,
      (q.1.xmlAttribute = true → ∀ s, q.2 = .str s → IsAllowedText s) ∧
        (q.1.xmlAttribute = false → Carried g q.1.shape q.2)) :
    Carried g r (.ofFields fields) := by
  have hpart : ∀ {m v}, m ∈ members → (m.name, v) ∈ fields → (m, v) ∈ present members fields :=
    fun hm hv => mem_present_iff.mpr ⟨hm, Entries.lookup_of_mem names hv⟩
  intro spot s hs
  generalize hw : Value.ofFields fields = w at hs
  cases hs with
  | attr form' member ha entry =>
    rw [form] at form'
    cases form'
    obtain rfl := Value.ofFields_injective hw
    exact (h _ (hpart member entry)).1 ha s rfl
  | child form' member ha entry inner =>
    rw [form] at form'
    cases form'
    obtain rfl := Value.ofFields_injective hw
    exact (h _ (hpart member entry)).2 ha _ _ inner
  | text | item => cases hw
  | key form' | value form' =>
    rw [form] at form'
    cases form'

theorem of_list {r item : g.Ref} {items : List Value} (form : (g.shape r).form = .list item)
    (h : ∀ v ∈ items, Carried g item v) : Carried g r (.list items) := by
  intro spot s hs
  generalize hw : Value.list items = w at hs
  cases hs with
  | item form' entry inner =>
    rw [form] at form'
    cases form'
    cases hw
    exact h _ entry _ _ inner
  | _ => cases hw

theorem of_map {r key value : g.Ref} {fields : List (String × Value)}
    (form : (g.shape r).form = .map key value) (keys : ∀ p ∈ fields, Spot.content.Carries p.1)
    (h : ∀ p ∈ fields, Carried g value p.2) : Carried g r (.ofFields fields) := by
  intro spot s hs
  generalize hw : Value.ofFields fields = w at hs
  cases hs with
  | key form' entry =>
    obtain rfl := Value.ofFields_injective hw
    exact keys _ entry
  | value form' entry inner =>
    rw [form] at form'
    cases form'
    obtain rfl := Value.ofFields_injective hw
    exact h _ entry _ _ inner
  | text | item => cases hw
  | attr form' | child form' =>
    rw [form] at form'
    cases form'

theorem of_text {r : g.Ref} {s : String} (h : Spot.content.Carries s) : Carried g r (.str s) := by
  intro spot s' hs
  generalize hw : Value.str s = w at hs
  cases hs with
  | text => exact Value.str.inj hw ▸ h
  | _ => cases hw

end Carried

/-- Elements that a value is written as are clean, in either of its two forms. -/
structure CleanWriting (notes : Bool) (ns : Value) (g : Graph) (r : g.Ref) (v tag : Value) :
    Prop where
  element : ∀ e, (write (.complete .xml notes ns) g v).element r tag = .ok e → Clean e
  inside : ∀ es, (write (.complete .xml notes ns) g v).inside r tag = .ok es → ∀ e ∈ es, Clean e

/-- The element of a value stands for it inside a structure as well. -/
theorem CleanWriting.of_standsAlone {r : g.Ref} {v tag : Value} (hs : StandsAlone (g.shape r))
    (h : ∀ e, (write (.complete .xml notes ns) g v).element r tag = .ok e → Clean e) :
    CleanWriting notes ns g r v tag where
  element := h
  inside es hes := by
    rw [inside_eq, writeInside_of_standsAlone hs, Codec.needWriter_complete, ok_bind,
      ← element_eq] at hes
    obtain ⟨e, he, hes⟩ := exists_of_bind hes
    cases hes
    exact List.forall_mem_singleton.mpr (h e he)

/-- Only a flattened value stands inside a structure as anything but its element. -/
theorem CleanWriting.of_flattened {r : g.Ref} {v tag : Value}
    (element : ∀ e, (write (.complete .xml notes ns) g v).element r tag = .ok e → Clean e)
    (flat : (g.shape r).flattened = true → ∀ es,
      (write (.complete .xml notes ns) g v).inside r tag = .ok es → ∀ e ∈ es, Clean e) :
    CleanWriting notes ns g r v tag := by
  cases hf : (g.shape r).flattened with
  | false => exact .of_standsAlone (fun h => absurd (hf ▸ h) Bool.false_ne_true) element
  | true => exact ⟨element, flat hf⟩

theorem cleanWriting_scalar {r : g.Ref} {kind : ScalarKind} {v tag : Value}
    (form : (g.shape r).form = .scalar kind) (typed : Scalar.OfKind kind v)
    (demand : (textDemands g).scalar kind v) (texts : Carried g r v) (ht : IsTag tag) :
    CleanWriting notes ns g r v tag := by
  refine .of_standsAlone (fun _ => .inr ⟨kind, form⟩) fun e he => ?_
  rw [element_eq, writeElement] at he
  simp only [form, Value.whole_view] at he
  obtain ⟨s, hs, rfl⟩ := exists_of_map he
  refine clean_textElement ht ?_
  rcases text_cases typed demand (exists_of_mapError hs) with ⟨rfl, rfl⟩ | hvisible
  · exact texts _ _ (.text form)
  · exact carries_of_visible hvisible

/-- An attribute has the text of a scalar. -/
theorem allowed_of_toText {r : g.Ref} {v : Value} (typed : WellTyped g (textDemands g) r v)
    (allowed : ∀ s, v = .str s → IsAllowedText s) {s : String}
    (h : Scalar.toText .iso8601 (g.shape r).name (g.shape r).kind v = .ok s) :
    IsAllowedText s := by
  cases typed with
  | struct form | list form | map form =>
    simp only [Shape.kind, form, Form.kind, Scalar.toText] at h
    cases h
  | scalar form typed demand =>
    simp only [Shape.kind, form, Form.kind, Scalar.toText] at h
    rcases text_cases typed demand h with ⟨-, rfl⟩ | hvisible
    · exact allowed s rfl
    · exact (carries_of_visible hvisible).1

theorem CleanMember.of_writing {r : g.Ref} {members : List (Member g.size)} {m : Member g.size}
    {fields : List (String × Value)} {v : Value} (form : (g.shape r).form = .struct members)
    (hm : m ∈ members) (hv : (m.name, v) ∈ fields) (typed : WellTyped g (textDemands g) m.shape v)
    (texts : Carried g r (.ofFields fields))
    (h : m.xmlAttribute = false → CleanWriting notes ns g m.shape v m.wireName) :
    CleanMember m v (write (.complete .xml notes ns) g v) where
  attr ha s hs := by
    refine allowed_of_toText typed (fun s heq => ?_) hs
    subst heq
    exact texts _ _ (.attr form hm ha hv)
  children ha := (h ha).inside

theorem cleanWriting_struct {r : g.Ref} {members : List (Member g.size)}
    {fields : List (String × Value)} {tag : Value} (form : (g.shape r).form = .struct members)
    (names : MemberNames g members) (notNull : ∀ p ∈ fields, p.2.isNull = false)
    (clean : ∀ m ∈ members, ∀ v, (m.name, v) ∈ fields →
      CleanMember m v (write (.complete .xml notes ns) g v)) (ht : IsTag tag) :
    CleanWriting notes ns g r (.ofFields fields) tag := by
  refine .of_standsAlone (fun _ => .inl ⟨members, form⟩) fun e he => ?_
  rw [element_eq, writeElement] at he
  simp only [form] at he
  refine clean_writeMembers names (fun m hm v write hv => ?_) ht he
  rw [Value.member?_view_ofFields _ notNull] at hv
  obtain ⟨v, hl, heq⟩ := Option.map_eq_some_iff.mp hv
  cases heq
  exact clean m hm v (Entries.mem_of_lookup hl)

theorem cleanWriting_list {r item : g.Ref} {items : List Value} {tag : Value}
    (form : (g.shape r).form = .list item) (itemTag : IsTag (g.shape r).itemTag)
    (clean : ∀ v ∈ items, ∀ {tag}, IsTag tag → CleanWriting notes ns g item v tag)
    (ht : IsTag tag) : CleanWriting notes ns g r (.list items) tag := by
  refine .of_flattened (fun e he => ?_) fun hf es hes => ?_
  · rw [element_eq, writeElement] at he
    simp only [form, itemsFor, Value.items?_view_list, Codec.needWriter_complete, ok_bind] at he
    obtain ⟨es, hes, he⟩ := exists_of_bind he
    cases he
    exact clean_parentElement ht (clean_items (fun v hv => (clean v hv itemTag).element) hes)
  · rw [inside_eq, writeInside] at hes
    simp only [hf, form, itemsFor, Value.items?_view_list, Codec.needWriter_complete,
      ok_bind] at hes
    exact clean_items (fun v hv => (clean v hv ht).element) hes

theorem cleanWriting_map {r key value : g.Ref} {fields : List (String × Value)} {tag : Value}
    (form : (g.shape r).form = .map key value) (keyTag : IsTag (g.shape r).keyTag)
    (keys : ∀ p ∈ fields, Spot.content.Carries p.1)
    (clean : ∀ p ∈ fields, CleanWriting notes ns g value p.2 (g.shape r).valueTag)
    (ht : IsTag tag) : CleanWriting notes ns g r (.ofFields fields) tag := by
  refine .of_flattened (fun e he => ?_) fun hf es hes => ?_
  · rw [element_eq, writeElement] at he
    simp only [form, entriesFor, Value.entries?_view_ofFields, ok_bind] at he
    obtain ⟨es, hes, he⟩ := exists_of_bind he
    cases he
    have hentry : IsTag (.str "entry") := isTag_str (by decide)
    exact clean_parentElement ht
      (clean_entries keyTag keys (fun p hp => (clean p hp).element) hentry hes)
  · rw [inside_eq, writeInside] at hes
    simp only [hf, form, entriesFor, Value.entries?_view_ofFields, ok_bind] at hes
    exact clean_entries keyTag keys (fun p hp => (clean p hp).element) ht hes

/-- A value whose texts XML carries is written as elements that come back as they were written. -/
theorem cleanWriting {r : g.Ref} {v : Value} (hr : ∀ q, g.Leads r q → WellNamed g q)
    (h : WellTyped g (textDemands g) r v) (texts : Carried g r v) {tag : Value} (ht : IsTag tag) :
    CleanWriting notes ns g r v tag := by
  induction h generalizing tag with
  | @struct r members fields form names known typed demands ih =>
    have hmembers : g.members r = members := by rw [Graph.members, Shape.members, form]
    have hnames : MemberNames g members := hmembers ▸ (hr r (.refl r)).members
    refine cleanWriting_struct form hnames (WellTyped.fields_not_null known typed)
      (fun m hm v hv => ?_) ht
    exact .of_writing form hm hv (typed _ hv m hm rfl) texts fun ha =>
      ih _ hv m hm rfl (fun q hq => hr q (hq.head (Graph.IsPart.member form hm)))
        (texts.child form hm ha hv) (hnames.tags m hm)
  | @list r item items form typed ih =>
    have hpart : ∀ q, g.Leads item q → WellNamed g q :=
      fun q hq => hr q (hq.head (Graph.IsPart.item form))
    exact cleanWriting_list form ((hr r (.refl r)).items item form)
      (fun v hv _ htag => ih v hv hpart (texts.item form hv) htag) ht
  | @map r key value fields form names typed ih =>
    obtain ⟨hkey, hvalue, -⟩ := (hr r (.refl r)).entries key value form
    have hpart : ∀ q, g.Leads value q → WellNamed g q :=
      fun q hq => hr q (hq.head (Graph.IsPart.value form))
    exact cleanWriting_map form hkey (fun p hp => texts _ _ (.key form hp))
      (fun p hp => ih p hp hpart (texts.value form hp) hvalue) ht
  | scalar form typed demand => exact cleanWriting_scalar form typed demand texts ht

/-- A member of a structure whose texts XML carries is written as parts that come back. -/
theorem cleanMember {r : g.Ref} {members : List (Member g.size)} {m : Member g.size}
    {fields : List (String × Value)} {v : Value} (hr : ∀ q, g.Leads m.shape q → WellNamed g q)
    (tag : IsTag m.wireName) (form : (g.shape r).form = .struct members) (hm : m ∈ members)
    (hv : (m.name, v) ∈ fields) (typed : WellTyped g (textDemands g) m.shape v)
    (texts : Carried g r (.ofFields fields)) :
    CleanMember m v (write (.complete .xml notes ns) g v) :=
  .of_writing form hm hv typed texts fun ha =>
    cleanWriting hr typed (texts.child form hm ha hv) tag

end XmlBody

end ServiceWire
