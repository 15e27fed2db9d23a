import ServiceWire.Proofs.Codec.XmlStructure
import ServiceWire.Proofs.Shape.Reachable

/-!
# XML trees read back

A value of a shape is written as an element and read back as the value. A flattened list or map has
two forms: an element of its own where it is an item or an entry, and its items alone where it is a
member of a structure. Both are carried through the induction, the second only for containers that
are not empty: an empty one would leave nothing behind.
-/

namespace ServiceWire.XmlBody

open ServiceWire.Xml (Element)

/-- What the shapes of trees that can be read back have in common. -/
structure Distinct {g : Graph} (s : Shape g.size) : Prop where
  /-- No constructor of its own stands between a structure and its members. -/
  construct : s.construct = none
  names : (s.members.map Member.name).Nodup
  /-- The names on the wire have no namespace. -/
  locals : ∀ m ∈ s.members, IsLocal m.wireName
  /-- Attributes have different names, and so have children. -/
  wireNames : (s.members.map fun m => (m.xmlAttribute, m.wireName.text)).Nodup
  /-- Only scalars are attributes. -/
  scalars : ∀ m ∈ s.members, m.xmlAttribute = true →
    ∃ kind, (g.shape m.shape).form = .scalar kind
  /-- The key of an entry is told apart from its value by the name. -/
  entries : ∀ key value, s.form = .map key value →
    IsLocal s.keyTag ∧ IsLocal s.valueTag ∧ s.keyTag.text ≠ s.valueTag.text

/-- A flattened container that leaves something behind: it is not empty. -/
def Filled {n : Nat} (s : Shape n) (v : Value) : Prop :=
  s.flattened = true →
    match s.form with
    | .list _ => v ≠ .list []
    | .map _ _ => v ≠ .dict []
    | .struct _ | .scalar _ => True

/-- Numbers with a fraction are left out, and flattened members must not be empty. -/
def demands (g : Graph) : Demands g where
  scalar kind _ := Scalar.Exact kind
  member m v := Filled (g.shape m.shape) v

/-- Demands that leave only values which come back: what a scalar is written as is read as the
scalar, and flattened members are not empty. -/
structure Faithful (g : Graph) (d : Demands g) : Prop where
  scalar : ∀ {kind v}, Scalar.OfKind kind v → d.scalar kind v →
    ∃ s, Scalar.textOf .iso8601 kind v = .ok s ∧ Scalar.ofText kind s = .ok v
  member : ∀ {m v}, d.member m v → Filled (g.shape m.shape) v

theorem faithful_demands (g : Graph) : Faithful g (demands g) where
  scalar := Scalar.exists_text
  member := id

variable {g : Graph} {notes : Bool} {ns : Value}

/-- What is read from the elements that a value is written as, in either of its two forms. -/
structure RoundTrip (notes : Bool) (ns : Value) (g : Graph) (r : g.Ref) (v w : Value) : Prop where
  alike : w.Alike v
  element : ∀ tag, ∃ e, (write (.complete .xml notes ns) g v).element r tag = .ok e ∧
    e.tag = tag ∧ (read (.complete .xml notes ns) g e).value r = pure w
  inside : Filled (g.shape r) v → ∀ tag, ∃ block,
    (write (.complete .xml notes ns) g v).inside r tag = .ok block ∧ (∀ e ∈ block, e.tag = tag) ∧
      readBlock (.complete .xml notes ns) g r (readers (.complete .xml notes ns) g block) =
        pure (some w)

/-! ### Elements of their own -/

/-- A shape whose values have an element of their own inside a structure too. -/
def StandsAlone {n : Nat} (s : Shape n) : Prop :=
  s.flattened = true → (∃ members, s.form = .struct members) ∨ ∃ kind, s.form = .scalar kind

theorem writeInside_of_standsAlone {r : g.Ref} (hs : StandsAlone (g.shape r)) (c : Codec)
    (w : View (Writing g)) (tag : Value) :
    writeInside c g w r tag = (do
      c.needWriter (g.shape r)
      let e ← writeElement c g w r tag
      return [e]) := by
  rw [writeInside]
  split
  · rename_i hf hform
    rcases hs hf with ⟨members, h⟩ | ⟨kind, h⟩
    · rw [hform] at h; cases h
    · rw [hform] at h; cases h
  · rename_i hf hform
    rcases hs hf with ⟨members, h⟩ | ⟨kind, h⟩
    · rw [hform] at h; cases h
    · rw [hform] at h; cases h
  · rfl

theorem readBlock_of_standsAlone {r : g.Ref} (hs : StandsAlone (g.shape r)) (c : Codec)
    (p : Element × Reader g) (rest : List (Element × Reader g)) :
    readBlock c g r (p :: rest) = (do
      Reading.ofOutcome (c.needReader (g.shape r))
      let v ← p.2.value r
      return some v) := by
  rw [readBlock]
  split
  · rename_i hf hform
    rcases hs hf with ⟨members, h⟩ | ⟨kind, h⟩
    · rw [hform] at h; cases h
    · rw [hform] at h; cases h
  · rename_i hf hform
    rcases hs hf with ⟨members, h⟩ | ⟨kind, h⟩
    · rw [hform] at h; cases h
    · rw [hform] at h; cases h
  · rfl

/-- The element of a value stands for it inside a structure as well. -/
theorem exists_inside {r : g.Ref} {v w : Value} (hs : StandsAlone (g.shape r))
    (h : ∀ tag, ∃ e, (write (.complete .xml notes ns) g v).element r tag = .ok e ∧
      e.tag = tag ∧ (read (.complete .xml notes ns) g e).value r = pure w) (tag : Value) :
    ∃ block, (write (.complete .xml notes ns) g v).inside r tag = .ok block ∧
      (∀ e ∈ block, e.tag = tag) ∧
        readBlock (.complete .xml notes ns) g r (readers (.complete .xml notes ns) g block) =
          pure (some w) := by
  obtain ⟨e, hwrite, htag, hread⟩ := h tag
  refine ⟨[e], ?_, ?_, ?_⟩
  · rw [element_eq] at hwrite
    rw [inside_eq, writeInside_of_standsAlone hs, Codec.needWriter_complete, hwrite]
    rfl
  · intro e' he'
    rw [List.mem_singleton.mp he', htag]
  · rw [readers, List.map_singleton, readBlock_of_standsAlone hs,
      Codec.needReader_complete notes ns (by decide), hread]
    rfl

/-- Only a flattened value stands inside a structure as anything but its element. -/
theorem RoundTrip.of_flattened {r : g.Ref} {v w : Value} (alike : w.Alike v)
    (element : ∀ tag, ∃ e, (write (.complete .xml notes ns) g v).element r tag = .ok e ∧
      e.tag = tag ∧ (read (.complete .xml notes ns) g e).value r = pure w)
    (flat : (g.shape r).flattened = true → Filled (g.shape r) v → ∀ tag, ∃ block,
      (write (.complete .xml notes ns) g v).inside r tag = .ok block ∧ (∀ e ∈ block, e.tag = tag) ∧
        readBlock (.complete .xml notes ns) g r (readers (.complete .xml notes ns) g block) =
          pure (some w)) : RoundTrip notes ns g r v w where
  alike := alike
  element := element
  inside filled tag := by
    cases hf : (g.shape r).flattened with
    | false => exact exists_inside (fun h => absurd (hf ▸ h) Bool.false_ne_true) element tag
    | true => exact flat hf filled tag

/-! ### Structures -/

theorem exists_struct {r : g.Ref} {members : List (Member g.size)}
    {fields : List (String × Value)} (hs : Distinct (g.shape r))
    (form : (g.shape r).form = .struct members) (names : (fields.map Prod.fst).Nodup)
    (known : ∀ p ∈ fields, ∃ m ∈ members, m.name = p.1) (notNull : ∀ p ∈ fields, p.2.isNull = false)
    (h : ∀ q ∈ present members fields,
      ∃ text block w, Placed notes ns g q text block w ∧ w.Alike q.2) :
    ∃ w, RoundTrip notes ns g r (.ofFields fields) w := by
  have hmembers : (g.shape r).members = members := by rw [Shape.members, form]
  obtain ⟨construct, memberNames, locals, wireNames, -, -⟩ := hs
  rw [hmembers] at memberNames locals wireNames
  choose! text block result hq using h
  have helement : ∀ tag, ∃ e,
      (write (.complete .xml notes ns) g (.ofFields fields)).element r tag = .ok e ∧ e.tag = tag ∧
        (read (.complete .xml notes ns) g e).value r =
          pure (.ofFields ((present members fields).map fun q => (q.1.name, result q))) := by
    intro tag
    refine ⟨.node tag (keyed (attributesOf text (present members fields))) ""
      (childrenOf block (present members fields)), ?_, rfl, ?_⟩
    · have hwrite : members.foldlM (writeMember g
          ((Value.ofFields fields).view (write (.complete .xml notes ns) g))) ([], []) =
            .ok (keyed (attributesOf text (present members fields)),
              childrenOf block (present members fields)) :=
        foldlM_writeMember (Value.member?_view_ofFields _ notNull) locals wireNames [] []
          (by simp) fun q hp => (hq q hp).1
      rw [element_eq, writeElement]
      simp only [form, writeMembers, hwrite]
      rfl
    · have hread := readMembers_eq locals wireNames (fun q hp => (hq q hp).1) memberNames
        (g.shape r)
      rw [value_eq, readValue]
      simp only [form, Element.view, Element.children, Element.attributes]
      rw [readers] at hread
      rw [hread]
      simp only [pure_bind, Shape.build, construct, Reading.ofConversion_ok]
  refine ⟨_, ?_, helement, fun _ => exists_inside (fun _ => .inl ⟨members, form⟩) helement⟩
  exact Value.Alike.of_perm names (present_perm memberNames names known) fun q hp => (hq q hp).2

/-! ### Lists -/

section Lists

variable {r item : g.Ref} {items results : List Value} {elements : List Element} {tag : Value}
  (form : (g.shape r).form = .list item)

include form

/-- The element of a list holds those of its items, which it is read from. -/
theorem exists_element_of_list (tag : Value)
    (written : (items.map fun v => (v, write (.complete .xml notes ns) g v)).mapM
      (fun p => p.2.element item (g.shape r).itemTag) = .ok elements)
    (back : (readers (.complete .xml notes ns) g elements).mapM (fun p => p.2.value item) =
      pure results) :
    ∃ e, (write (.complete .xml notes ns) g (.list items)).element r tag = .ok e ∧ e.tag = tag ∧
      (read (.complete .xml notes ns) g e).value r = pure (.list results) := by
  refine ⟨parentElement tag elements, ?_, rfl, ?_⟩
  · rw [element_eq, writeElement]
    simp only [form, itemsFor, Value.items?_view_list, Codec.needWriter_complete, ok_bind, written]
    rfl
  · rw [readers] at back
    rw [value_eq, readValue]
    simp only [form, Element.view, parentElement, Element.children, back, pure_bind,
      Codec.needReader_complete notes ns (by decide : BodyFormat.xml ≠ .query),
      Reading.ofOutcome_ok]

/-- A flattened list is its items alone, of which there must be one. -/
theorem exists_block_of_list (flat : (g.shape r).flattened = true)
    (filled : Filled (g.shape r) (.list items))
    (written : (items.map fun v => (v, write (.complete .xml notes ns) g v)).mapM
      (fun p => p.2.element item tag) = .ok elements) (tags : ∀ e ∈ elements, e.tag = tag)
    (length : elements.length = items.length)
    (back : (readers (.complete .xml notes ns) g elements).mapM (fun p => p.2.value item) =
      pure results) :
    ∃ block, (write (.complete .xml notes ns) g (.list items)).inside r tag = .ok block ∧
      (∀ e ∈ block, e.tag = tag) ∧
        readBlock (.complete .xml notes ns) g r (readers (.complete .xml notes ns) g block) =
          pure (some (.list results)) := by
  have hne : items ≠ [] := by
    have hlist := filled flat
    rw [form] at hlist
    exact fun h => hlist (by rw [h])
  refine ⟨elements, ?_, tags, ?_⟩
  · rw [inside_eq, writeInside]
    simp only [flat, form, itemsFor, Value.items?_view_list, Codec.needWriter_complete, ok_bind,
      written]
  · obtain ⟨e, rest, rfl⟩ := List.exists_cons_of_ne_nil
      (List.ne_nil_of_length_pos (length ▸ List.length_pos_iff.mpr hne))
    rw [readers, List.map_cons] at back ⊢
    rw [readBlock]
    simp only [flat, form, back, pure_bind,
      Codec.needReader_complete notes ns (by decide : BodyFormat.xml ≠ .query),
      Reading.ofOutcome_ok]

theorem exists_list (h : ∀ v ∈ items, ∃ w, RoundTrip notes ns g item v w) :
    ∃ w, RoundTrip notes ns g r (.list items) w := by
  choose! result hv using h
  choose! element hwrite htag hread using fun v hm => (hv v hm).element
  -- The items have the same elements in both forms of the list, but for their name.
  have hitems : ∀ tag, (items.map fun v => (v, write (.complete .xml notes ns) g v)).mapM
      (fun p => p.2.element item tag) = .ok (items.map fun v => element v tag) := by
    intro tag
    rw [List.mapM_map]
    exact mapM_eq_pure fun v hm => hwrite v hm tag
  have hvalues : ∀ tag,
      (readers (.complete .xml notes ns) g (items.map fun v => element v tag)).mapM
        (fun p => p.2.value item) = pure (items.map result) := by
    intro tag
    rw [readers, List.map_map, List.mapM_map]
    exact mapM_eq_pure fun v hm => hread v hm tag
  refine ⟨_, .of_flattened (Value.Alike.map_list fun v hm => (hv v hm).alike)
    (fun tag => exists_element_of_list form tag (hitems _) (hvalues _))
    fun flat filled tag => exists_block_of_list form flat filled (hitems tag) ?_
      (List.length_map ..) (hvalues tag)⟩
  intro e he
  obtain ⟨v, hm, rfl⟩ := List.mem_map.mp he
  exact htag v hm tag

end Lists

/-! ### Maps -/

/-- An entry of a map as an element. -/
def entryElement (s : Shape g.size) (tag : Value) (key : String) (e : Element) : Element :=
  parentElement tag [textElement s.keyTag key, e]

theorem writeEntry_eq {s : Shape g.size} {value : g.Ref} {v : Value} {e : Element}
    (h : (write (.complete .xml notes ns) g v).element value s.valueTag = .ok e) (tag : Value)
    (key : String) :
    writeEntry (.complete .xml notes ns) g s value tag
        (.str key, v, write (.complete .xml notes ns) g v) = .ok (entryElement s tag key e) := by
  simp only [writeEntry, Scalar.string, Codec.needWriter_complete, h]
  rfl

theorem readEntry_eq {r key value : g.Ref} (form : (g.shape r).form = .map key value)
    (hs : IsLocal (g.shape r).keyTag ∧ IsLocal (g.shape r).valueTag ∧
      (g.shape r).keyTag.text ≠ (g.shape r).valueTag.text)
    {e : Element} {w : Value} (htag : e.tag = (g.shape r).valueTag)
    (h : (read (.complete .xml notes ns) g e).value value = pure w) (tag : Value) (k : String) :
    (read (.complete .xml notes ns) g (entryElement (g.shape r) tag k e)).entry r =
      pure (k, w) := by
  obtain ⟨hk, hv, hne⟩ := hs
  have hkeyTag : (textElement (g.shape r).keyTag k).tag = (g.shape r).keyTag := rfl
  have hkeyKey : (textElement (g.shape r).keyTag k).isNamed (g.shape r).keyTag = true := by
    rw [isNamed_of_tag hkeyTag hk hk]
    exact beq_self_eq_true _
  have hkeyValue : (textElement (g.shape r).keyTag k).isNamed (g.shape r).valueTag = false := by
    rw [isNamed_of_tag hkeyTag hk hv]
    exact beq_false_of_ne hne
  have hvalueKey : e.isNamed (g.shape r).keyTag = false := by
    rw [isNamed_of_tag htag hv hk]
    exact beq_false_of_ne hne.symm
  have hvalueValue : e.isNamed (g.shape r).valueTag = true := by
    rw [isNamed_of_tag htag hv hv]
    exact beq_self_eq_true _
  have htags : ((g.shape r).keyTag == (g.shape r).valueTag) = false := by
    rw [hk.1, hv.1, Value.str_beq_str]
    exact beq_false_of_ne hne
  rw [entry_eq, readEntry]
  simp only [entryElement, Element.view, parentElement, Element.children, List.map_cons,
    List.map_nil, entryKey?, entryValue?, named, List.filter_cons, List.filter_nil, hkeyKey,
    hkeyValue, hvalueKey, hvalueValue, if_true, Bool.false_eq_true, if_false, htags,
    List.getLast?_singleton, Option.map_some, form, h, pure_bind,
    Codec.needReader_complete notes ns (by decide : BodyFormat.xml ≠ .query),
    Reading.ofOutcome_ok]
  rfl

section Maps

variable {r key value : g.Ref} {fields results : List (String × Value)} {elements : List Element}
  {tag : Value} (form : (g.shape r).form = .map key value)

include form

/-- The element of a map holds those of its entries, which it is read from. -/
theorem exists_element_of_map (tag : Value)
    (written : (fields.map fun p =>
      (Value.str p.1, p.2, write (.complete .xml notes ns) g p.2)).mapM
        (writeEntry (.complete .xml notes ns) g (g.shape r) value (.str "entry")) = .ok elements)
    (back : (readers (.complete .xml notes ns) g elements).mapM (fun q => q.2.entry r) =
      pure results) (distinct : Entries.ofPairs results = results) :
    ∃ e, (write (.complete .xml notes ns) g (.ofFields fields)).element r tag = .ok e ∧
      e.tag = tag ∧ (read (.complete .xml notes ns) g e).value r = pure (.ofFields results) := by
  refine ⟨parentElement tag elements, ?_, rfl, ?_⟩
  · rw [element_eq, writeElement]
    simp only [form, entriesFor, Value.entries?_view_ofFields, ok_bind, written]
    rfl
  · rw [readers] at back
    rw [value_eq, readValue]
    simp only [form, Element.view, parentElement, Element.children, back, pure_bind, distinct]

/-- A flattened map is its entries alone, of which there must be one. -/
theorem exists_block_of_map (flat : (g.shape r).flattened = true)
    (filled : Filled (g.shape r) (.ofFields fields))
    (written : (fields.map fun p =>
      (Value.str p.1, p.2, write (.complete .xml notes ns) g p.2)).mapM
        (writeEntry (.complete .xml notes ns) g (g.shape r) value tag) = .ok elements)
    (tags : ∀ e ∈ elements, e.tag = tag) (length : elements.length = fields.length)
    (back : (readers (.complete .xml notes ns) g elements).mapM (fun q => q.2.entry r) =
      pure results) (distinct : Entries.ofPairs results = results) :
    ∃ block, (write (.complete .xml notes ns) g (.ofFields fields)).inside r tag = .ok block ∧
      (∀ e ∈ block, e.tag = tag) ∧
        readBlock (.complete .xml notes ns) g r (readers (.complete .xml notes ns) g block) =
          pure (some (.ofFields results)) := by
  have hne : fields ≠ [] := by
    have hmap := filled flat
    rw [form] at hmap
    exact fun h => hmap (by rw [h]; rfl)
  refine ⟨elements, ?_, tags, ?_⟩
  · rw [inside_eq, writeInside]
    simp only [flat, form, entriesFor, Value.entries?_view_ofFields, ok_bind, written]
  · obtain ⟨e, rest, rfl⟩ := List.exists_cons_of_ne_nil
      (List.ne_nil_of_length_pos (length ▸ List.length_pos_iff.mpr hne))
    rw [readers, List.map_cons] at back ⊢
    rw [readBlock]
    simp only [flat, form, back, pure_bind, distinct]

theorem exists_map
    (hs : IsLocal (g.shape r).keyTag ∧ IsLocal (g.shape r).valueTag ∧
      (g.shape r).keyTag.text ≠ (g.shape r).valueTag.text)
    (names : (fields.map Prod.fst).Nodup)
    (h : ∀ p ∈ fields, ∃ w, RoundTrip notes ns g value p.2 w) :
    ∃ w, RoundTrip notes ns g r (.ofFields fields) w := by
  choose! result hp using h
  choose! element hwrite htag hread using fun p hm => (hp p hm).element
  have htags : ∀ p ∈ fields, (element p (g.shape r).valueTag).tag = (g.shape r).valueTag :=
    fun p hm => htag p hm _
  -- The entries of both forms of the map differ in their name only.
  have hentries : ∀ tag, (fields.map fun p =>
      (Value.str p.1, p.2, write (.complete .xml notes ns) g p.2)).mapM
        (writeEntry (.complete .xml notes ns) g (g.shape r) value tag) =
          .ok (fields.map fun p =>
            entryElement (g.shape r) tag p.1 (element p (g.shape r).valueTag)) := by
    intro tag
    rw [List.mapM_map]
    exact mapM_eq_pure fun p hm => writeEntry_eq (hwrite p hm _) tag p.1
  have hpairs : ∀ tag, (readers (.complete .xml notes ns) g (fields.map fun p =>
      entryElement (g.shape r) tag p.1 (element p (g.shape r).valueTag))).mapM
        (fun q => q.2.entry r) = pure (fields.map fun p => (p.1, result p)) := by
    intro tag
    rw [readers, List.map_map, List.mapM_map]
    exact mapM_eq_pure fun p hm => readEntry_eq form hs (htags p hm) (hread p hm _) tag p.1
  have hdistinct : Entries.ofPairs (fields.map fun p => (p.1, result p)) =
      fields.map fun p => (p.1, result p) := by
    refine Entries.ofPairs_eq_self ?_
    rw [List.map_map]
    exact names
  refine ⟨_, .of_flattened (Value.Alike.of_perm names (by simp) fun p hm => (hp p hm).alike)
    (fun tag => exists_element_of_map form tag (hentries _) (hpairs _) hdistinct)
    fun flat filled tag => exists_block_of_map form flat filled (hentries tag) ?_
      (List.length_map ..) (hpairs tag) hdistinct⟩
  intro e he
  obtain ⟨p, hm, rfl⟩ := List.mem_map.mp he
  rfl

end Maps

theorem exists_scalar {r : g.Ref} {kind : ScalarKind} {v : Value}
    (form : (g.shape r).form = .scalar kind)
    (h : ∃ s, Scalar.textOf .iso8601 kind v = .ok s ∧ Scalar.ofText kind s = .ok v) :
    ∃ w, RoundTrip notes ns g r v w := by
  obtain ⟨text, hwrite, hread⟩ := h
  have helement : ∀ tag, ∃ e, (write (.complete .xml notes ns) g v).element r tag = .ok e ∧
      e.tag = tag ∧ (read (.complete .xml notes ns) g e).value r = pure v := by
    intro tag
    refine ⟨textElement tag text, ?_, rfl, ?_⟩
    · rw [element_eq, writeElement]
      simp only [form, Value.whole_view, hwrite]
      rfl
    · rw [value_eq, readValue]
      simp only [form, Element.view, textElement, Element.text, hread, Reading.ofConversion_ok]
  exact ⟨v, .refl v, helement, fun _ => exists_inside (fun _ => .inr ⟨kind, form⟩) helement⟩

/-! ### Values -/

section Values

variable {d : Demands g} (hd : Faithful g d)

include hd

/-- A member of a structure is read back from what it is written as. -/
theorem exists_placed {m : Member g.size}
    (scalar : m.xmlAttribute = true → ∃ kind, (g.shape m.shape).form = .scalar kind) {v : Value}
    (typed : WellTyped g d m.shape v) (filled : Filled (g.shape m.shape) v)
    (h : ∃ w, RoundTrip notes ns g m.shape v w) :
    ∃ text block w, Placed notes ns g (m, v) text block w ∧ w.Alike v := by
  obtain ⟨w, hw⟩ := h
  cases ha : m.xmlAttribute with
  | false =>
    obtain ⟨block, hwrite, htags, hread⟩ := hw.inside filled m.wireName
    exact ⟨"", block, w, ⟨fun h => absurd (ha.symm.trans h) Bool.false_ne_true,
      fun _ => hwrite, fun _ => htags, fun _ => hread⟩, hw.alike⟩
  | true =>
    obtain ⟨kind, hform⟩ := scalar ha
    obtain ⟨text, hwrite, hread⟩ : ∃ text, Scalar.textOf .iso8601 kind v = .ok text ∧
        Scalar.ofText kind text = .ok v := by
      cases typed with
      | struct form | list form | map form =>
        rw [hform] at form
        cases form
      | scalar form typed hk =>
        rw [hform] at form
        cases form
        exact hd.scalar typed hk
    have hkind : (g.shape m.shape).kind = .scalar kind := by rw [Shape.kind, hform, Form.kind]
    have hchild : m.xmlAttribute ≠ false := by
      rw [ha]
      decide
    refine ⟨text, [], v, ⟨fun _ => ?_, fun h => absurd h hchild, fun h => absurd h hchild,
      fun h => absurd h hchild⟩, .refl v⟩
    rw [hkind]
    exact ⟨hwrite, hread⟩

/-- Every well-typed value is written as elements that are read back as the value, if the shapes
that its shape leads to are distinct. -/
theorem exists_roundTrip_of_leads (notes : Bool) (ns : Value) {r : g.Ref} {v : Value}
    (hr : ∀ q, g.Leads r q → Distinct (g.shape q)) (h : WellTyped g d r v) :
    ∃ w, RoundTrip notes ns g r v w := by
  induction h with
  | @struct r members fields form names known typed demands ih =>
    refine exists_struct (hr r (.refl r)) form names known (WellTyped.fields_not_null known typed) ?_
    intro q hq
    obtain ⟨hqm, hqf⟩ := mem_present hq
    have hmembers : q.1 ∈ (g.shape r).members := by rwa [Shape.members, form]
    have hpart := Graph.IsPart.member form hqm
    exact exists_placed hd ((hr r (.refl r)).scalars q.1 hmembers) (typed _ hqf q.1 hqm rfl)
      (hd.member (demands _ hqf q.1 hqm rfl))
      (ih _ hqf q.1 hqm rfl fun p hp => hr p (hp.head hpart))
  | list form typed ih =>
    exact exists_list form fun v hv => ih v hv fun p hp => hr p (hp.head (Graph.IsPart.item form))
  | map form names typed ih =>
    exact exists_map form ((hr _ (.refl _)).entries _ _ form) names fun p hp =>
      ih p hp fun q hq => hr q (hq.head (Graph.IsPart.value form))
  | scalar form typed hk => exact exists_scalar form (hd.scalar typed hk)

end Values

/-- Every well-typed value is written as elements that are read back as the value. -/
theorem exists_roundTrip (notes : Bool) (ns : Value) (hg : ∀ r, Distinct (g.shape r)) {r : g.Ref}
    {v : Value} (h : WellTyped g (demands g) r v) : ∃ w, RoundTrip notes ns g r v w :=
  exists_roundTrip_of_leads (faithful_demands g) notes ns (fun q _ => hg q) h

/-! ### Whole elements -/

theorem toElement_none {g : Graph} {notes : Bool} {ns : Value} (v : Value) (r : g.Ref)
    (tag : Value) : toElement (.complete .xml notes ns) g v r tag none =
      (write (.complete .xml notes ns) g v).element r tag := by
  rw [toElement]
  split
  · rename_i members hform
    rw [element_eq, writeElement]
    simp only [hform, Option.getD_none]
  · rw [Codec.needWriter_complete]
    rfl

theorem ofElement_eq {g : Graph} {notes : Bool} {ns : Value} (e : Element) (r : g.Ref) :
    ofElement (.complete .xml notes ns) g e r = (read (.complete .xml notes ns) g e).value r := by
  rw [ofElement, Codec.needReader_complete notes ns (by decide), Reading.ofOutcome_ok, pure_bind]

end ServiceWire.XmlBody
