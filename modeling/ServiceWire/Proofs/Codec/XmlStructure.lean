import ServiceWire.Codec.XmlBody
import ServiceWire.Proofs.Codec.Scalar
import ServiceWire.Proofs.Codec.Success
import ServiceWire.Proofs.Value.Alike

/-!
# Structures in XML

A structure is written as the attributes and the children that stand for its members, and read by
looking each member up among them. The children of one member are a block of elements with the
member's name; the blocks of different members have different names, so looking up a name finds its
block, whatever stands before it or behind it. Nothing here asks how a block itself was made.
-/

namespace ServiceWire.XmlBody

open ServiceWire.Xml (Element)

/-! ### Local names -/

/-- A text that is a local name: no namespace stands in front of it. -/
def IsLocal (name : Value) : Prop := name = .str name.text ∧ '\x7d' ∉ name.text.toList

theorem localName_eq_self {s : String} (h : '\x7d' ∉ s.toList) : Xml.localName s = s := by
  have htake : Text.beforeFirst '\x7d' s.toList.reverse = s.toList.reverse := by
    rw [Text.beforeFirst, List.takeWhile_eq_self_iff]
    intro c hc
    have hne : c ≠ '\x7d' := by
      rintro rfl
      exact h (List.mem_reverse.mp hc)
    rw [beq_false_of_ne hne, Bool.not_false]
  rw [Xml.localName, Text.afterLast, htake, List.reverse_reverse, String.ofList_toList]

/-- An element with a local name has that name and no other. -/
theorem isNamed_of_tag {e : Element} {tag name : Value} (he : e.tag = tag) (ht : IsLocal tag)
    (hn : IsLocal name) : e.isNamed name = (tag.text == name.text) := by
  have hlocal : e.localName = .str tag.text := by
    obtain ⟨htext, hbrace⟩ := ht
    generalize tag.text = s at htext hbrace
    subst htext
    simp only [Element.localName, he, localName_eq_self hbrace]
  rw [Element.isNamed, hlocal, hn.1, Value.str_beq_str]
  rfl

/-- The element of a structure depends on the members that are asked for, and on nothing else. -/
theorem writeMembers_congr {g : Graph} {members : List (Member g.size)} {tag : Value}
    {w w' : View (Writing g)} (h : ∀ m ∈ members, w.member? m.name = w'.member? m.name) :
    writeMembers g members tag w = writeMembers g members tag w' := by
  rw [writeMembers, writeMembers]
  refine congrArg _ (foldlM_congr (fun m hm acc => ?_) ([], []))
  rw [writeMember, writeMember, h m hm]

/-! ### Blocks of elements -/

theorem filter_flatMap_eq_nil {α β : Type} {parts : List α} {block : α → List β} {p : β → Bool}
    (h : ∀ a ∈ parts, ∀ b ∈ block a, p b = false) : (parts.flatMap block).filter p = [] := by
  rw [List.filter_eq_nil_iff]
  intro b hb
  obtain ⟨a, ha, hb⟩ := List.mem_flatMap.mp hb
  rw [h a ha b hb]
  exact Bool.false_ne_true

/-- Of blocks one after the other, what only the elements of one block have picks that block. -/
theorem filter_flatMap_eq {α β : Type} {parts : List α} {block : α → List β} {p : β → Bool} {a : α}
    (hn : parts.Nodup) (ha : a ∈ parts) (hin : ∀ b ∈ block a, p b = true)
    (hout : ∀ a' ∈ parts, a' ≠ a → ∀ b ∈ block a', p b = false) :
    (parts.flatMap block).filter p = block a := by
  induction parts with
  | nil => cases ha
  | cons first rest ih =>
    rw [List.nodup_cons] at hn
    rw [List.flatMap_cons, List.filter_append]
    rcases List.mem_cons.mp ha with rfl | ha
    · rw [List.filter_eq_self.mpr hin, filter_flatMap_eq_nil, List.append_nil]
      intro a' ha' b hb
      refine hout a' (List.mem_cons_of_mem _ ha') ?_ b hb
      rintro rfl
      exact hn.1 ha'
    · have hfirst : (block first).filter p = [] := by
        rw [List.filter_eq_nil_iff]
        intro b hb
        have hne : first ≠ a := by
          rintro rfl
          exact hn.1 ha
        rw [hout first (List.mem_cons_self ..) hne b hb]
        exact Bool.false_ne_true
      rw [hfirst, List.nil_append]
      exact ih hn.2 ha fun a' ha' => hout a' (List.mem_cons_of_mem _ ha')

/-! ### Members -/

variable {g : Graph} {notes : Bool} {ns : Value}

/-- What a member of a structure is written as, and what is read from it: the text of an attribute,
or a block of elements with the member's name. -/
structure Placed (notes : Bool) (ns : Value) (g : Graph) (q : Member g.size × Value) (text : String)
    (block : List Element) (w : Value) : Prop where
  asAttribute : q.1.xmlAttribute = true →
    Scalar.toText .iso8601 (g.shape q.1.shape).name (g.shape q.1.shape).kind q.2 = .ok text ∧
      Scalar.fromValue (g.shape q.1.shape).name (g.shape q.1.shape).kind (.str text) = .ok w
  written : q.1.xmlAttribute = false →
    (write (.complete .xml notes ns) g q.2).inside q.1.shape q.1.wireName = .ok block
  tags : q.1.xmlAttribute = false → ∀ e ∈ block, e.tag = q.1.wireName
  read : q.1.xmlAttribute = false →
    readBlock (.complete .xml notes ns) g q.1.shape (readers (.complete .xml notes ns) g block) =
      pure (some w)

/-- The attributes that members are written as. -/
def attributesOf (text : Member g.size × Value → String) (parts : List (Member g.size × Value)) :
    List (String × Value) :=
  (parts.filter fun q => q.1.xmlAttribute).map fun q => (q.1.wireName.text, .str (text q))

/-- The children that members are written as, block after block. -/
def childrenOf (block : Member g.size × Value → List Element)
    (parts : List (Member g.size × Value)) : List Element :=
  (parts.filter fun q => !q.1.xmlAttribute).flatMap block

theorem attributesOf_cons_of_attribute {q : Member g.size × Value} (h : q.1.xmlAttribute = true)
    (text : Member g.size × Value → String) (rest : List (Member g.size × Value)) :
    attributesOf text (q :: rest) =
      (q.1.wireName.text, .str (text q)) :: attributesOf text rest := by
  simp only [attributesOf, List.filter_cons, h, if_true, List.map_cons]

theorem attributesOf_cons_of_child {q : Member g.size × Value} (h : q.1.xmlAttribute = false)
    (text : Member g.size × Value → String) (rest : List (Member g.size × Value)) :
    attributesOf text (q :: rest) = attributesOf text rest := by
  simp only [attributesOf, List.filter_cons, h, Bool.false_eq_true, if_false]

theorem childrenOf_cons_of_attribute {q : Member g.size × Value} (h : q.1.xmlAttribute = true)
    (block : Member g.size × Value → List Element) (rest : List (Member g.size × Value)) :
    childrenOf block (q :: rest) = childrenOf block rest := by
  simp only [childrenOf, List.filter_cons, h, Bool.not_true, Bool.false_eq_true, if_false]

theorem childrenOf_cons_of_child {q : Member g.size × Value} (h : q.1.xmlAttribute = false)
    (block : Member g.size × Value → List Element) (rest : List (Member g.size × Value)) :
    childrenOf block (q :: rest) = block q ++ childrenOf block rest := by
  simp only [childrenOf, List.filter_cons, h, Bool.not_false, if_true, List.flatMap_cons]

/-- Attributes with the texts of their names as keys. -/
def keyed (attributes : List (String × Value)) : List (Value × Value) :=
  attributes.map fun p => (.str p.1, p.2)

theorem lookup_keyed (attributes : List (String × Value)) (name : String) :
    (keyed attributes).lookup (.str name) = attributes.lookup name := by
  induction attributes with
  | nil => rfl
  | cons p rest ih =>
    rw [keyed, List.map_cons, List.lookup_cons, List.lookup_cons, Value.str_beq_str]
    rw [keyed] at ih
    rw [ih]

/-! ### Writing -/

theorem writeMember_attribute {w : View (Writing g)} {m : Member g.size} {v result : Value}
    {write' : Writing g} {text : String} {block : List Element}
    (hm : w.member? m.name = some (v, write')) (hlocal : IsLocal m.wireName) (ha : m.xmlAttribute = true)
    (hp : Placed notes ns g (m, v) text block result) {attributes : List (String × Value)}
    (fresh : m.wireName.text ∉ attributes.map Prod.fst) (children : List Element) :
    writeMember g w (keyed attributes, children) m =
      .ok (keyed (attributes ++ [(m.wireName.text, .str text)]), children) := by
  have hfresh : ∀ p ∈ keyed attributes, (p.1 == .str m.wireName.text) = false := by
    intro p hp
    obtain ⟨q, hq, rfl⟩ := List.mem_map.mp hp
    rw [Value.str_beq_str]
    refine beq_false_of_ne fun heq => fresh ?_
    rw [← heq]
    exact List.mem_map_of_mem hq
  have hput : Entries.put (.str m.wireName.text) (.str text) (keyed attributes) =
      keyed (attributes ++ [(m.wireName.text, .str text)]) := by
    rw [Entries.put_eq_append _ hfresh, keyed, keyed, List.map_append]
    rfl
  have htext := (hp.asAttribute ha).1
  have hkey : m.wireName.asKey = .ok (.str m.wireName.text) := by
    rw [← Value.asKey_str, ← hlocal.1]
  simp only [writeMember, hm, ha, if_true, htext, hkey, ← hput]
  rfl

theorem writeMember_child {w : View (Writing g)} {m : Member g.size} {v result : Value}
    {text : String} {block : List Element}
    (hm : w.member? m.name = some (v, write (.complete .xml notes ns) g v))
    (ha : m.xmlAttribute = false) (hp : Placed notes ns g (m, v) text block result)
    (acc : List (Value × Value) × List Element) :
    writeMember g w acc m = .ok (acc.1, acc.2 ++ block) := by
  have hblock := hp.written ha
  simp only [writeMember, hm, ha, Bool.false_eq_true, if_false, hblock]
  rfl

/-- An attribute added for one member is not that of a later one. -/
theorem fresh_append {m : Member g.size} {rest : List (Member g.size)}
    {attributes : List (String × Value)} (ha : m.xmlAttribute = true)
    (hn : (m.xmlAttribute, m.wireName.text) ∉
      rest.map fun m => (m.xmlAttribute, m.wireName.text))
    (fresh : ∀ m' ∈ rest, m'.xmlAttribute = true → m'.wireName.text ∉ attributes.map Prod.fst)
    (v : Value) : ∀ m' ∈ rest, m'.xmlAttribute = true →
      m'.wireName.text ∉ (attributes ++ [(m.wireName.text, v)]).map Prod.fst := by
  intro m' hm' ha' hmem
  rw [List.map_append, List.mem_append] at hmem
  rcases hmem with hmem | hmem
  · exact fresh m' hm' ha' hmem
  · have hname : m'.wireName.text = m.wireName.text := List.mem_singleton.mp hmem
    refine hn (List.mem_map.mpr ⟨m', hm', ?_⟩)
    rw [ha', hname, ha]

theorem foldlM_writeMember {w : View (Writing g)} {fields : List (String × Value)}
    {text : Member g.size × Value → String} {block : Member g.size × Value → List Element}
    {result : Member g.size × Value → Value}
    (hw : ∀ name, w.member? name =
      (fields.lookup name).map fun v => (v, write (.complete .xml notes ns) g v))
    {members : List (Member g.size)} (hlocal : ∀ m ∈ members, IsLocal m.wireName)
    (hn : (members.map fun m => (m.xmlAttribute, m.wireName.text)).Nodup)
    (attributes : List (String × Value)) (children : List Element)
    (fresh : ∀ m ∈ members, m.xmlAttribute = true → m.wireName.text ∉ attributes.map Prod.fst)
    (hq : ∀ q ∈ present members fields, Placed notes ns g q (text q) (block q) (result q)) :
    members.foldlM (writeMember g w) (keyed attributes, children) =
      .ok (keyed (attributes ++ attributesOf text (present members fields)),
        children ++ childrenOf block (present members fields)) := by
  induction members generalizing attributes children with
  | nil =>
    simp only [present, List.filterMap_nil, attributesOf, childrenOf, List.filter_nil, List.map_nil,
      List.flatMap_nil, List.append_nil]
    rfl
  | cons m rest ih =>
    rw [List.map_cons, List.nodup_cons] at hn
    have hlocal' : ∀ m' ∈ rest, IsLocal m'.wireName :=
      fun m' hm' => hlocal m' (List.mem_cons_of_mem _ hm')
    have fresh' : ∀ m' ∈ rest, m'.xmlAttribute = true →
        m'.wireName.text ∉ attributes.map Prod.fst :=
      fun m' hm' => fresh m' (List.mem_cons_of_mem _ hm')
    have hmember := hw m.name
    rw [List.foldlM_cons]
    cases hl : fields.lookup m.name with
    | none =>
      rw [present_cons_none hl] at hq ⊢
      rw [hl] at hmember
      rw [writeMember, hmember]
      exact ih hlocal' hn.2 attributes children fresh' hq
    | some v =>
      rw [present_cons_some hl] at hq ⊢
      rw [hl] at hmember
      have hplaced := hq (m, v) (List.mem_cons_self ..)
      have hq' : ∀ q ∈ present rest fields, Placed notes ns g q (text q) (block q) (result q) :=
        fun q hmem => hq q (List.mem_cons_of_mem _ hmem)
      cases ha : m.xmlAttribute with
      | true =>
        have hnew := fresh_append ha hn.1 fresh' (.str (text (m, v)))
        rw [writeMember_attribute hmember (hlocal m (List.mem_cons_self ..)) ha hplaced
            (fresh m (List.mem_cons_self ..) ha),
          attributesOf_cons_of_attribute ha, childrenOf_cons_of_attribute ha]
        have hrest := ih hlocal' hn.2 _ children hnew hq'
        rw [List.append_assoc, List.singleton_append] at hrest
        exact hrest
      | false =>
        rw [writeMember_child hmember ha hplaced, attributesOf_cons_of_child ha,
          childrenOf_cons_of_child ha, ← List.append_assoc]
        exact ih hlocal' hn.2 attributes _ fresh' hq'

/-! ### Looking members up -/

theorem nodup_attributesOf {members : List (Member g.size)}
    (hn : (members.map fun m => (m.xmlAttribute, m.wireName.text)).Nodup)
    (text : Member g.size × Value → String) (fields : List (String × Value)) :
    ((attributesOf text (present members fields)).map Prod.fst).Nodup := by
  have hpairs := ((List.filter_sublist (p := fun q : Member g.size × Value => q.1.xmlAttribute)
    (l := present members fields)).map fun q => (q.1.xmlAttribute, q.1.wireName.text)).nodup
      (nodup_present hn fields)
  have heq : ((attributesOf text (present members fields)).map Prod.fst).map (fun t => (true, t)) =
      ((present members fields).filter fun q => q.1.xmlAttribute).map fun q =>
        (q.1.xmlAttribute, q.1.wireName.text) := by
    rw [attributesOf, List.map_map, List.map_map]
    refine List.map_congr_left fun q hq => ?_
    simp only [Function.comp_apply, (List.mem_filter.mp hq).2]
  exact List.Nodup.of_map _ (heq ▸ hpairs)

theorem eq_of_wireName {members : List (Member g.size)}
    (hn : (members.map fun m => (m.xmlAttribute, m.wireName.text)).Nodup) {m m' : Member g.size}
    (hm' : m' ∈ members) (hm : m ∈ members) (ha : m'.xmlAttribute = m.xmlAttribute)
    (ht : m'.wireName.text = m.wireName.text) : m' = m :=
  List.inj_on_of_nodup_map hn hm' hm (by rw [ha, ht])

/-- The attribute under the name of a member is that of the member. -/
theorem lookup_attributesOf {members : List (Member g.size)}
    (hn : (members.map fun m => (m.xmlAttribute, m.wireName.text)).Nodup)
    (text : Member g.size × Value → String) (fields : List (String × Value)) {m : Member g.size}
    (hm : m ∈ members) (ha : m.xmlAttribute = true) :
    (attributesOf text (present members fields)).lookup m.wireName.text =
      (fields.lookup m.name).map fun v => .str (text (m, v)) := by
  cases hl : fields.lookup m.name with
  | some v =>
    refine Entries.lookup_of_mem (nodup_attributesOf hn text fields) ?_
    exact List.mem_map.mpr
      ⟨(m, v), List.mem_filter.mpr ⟨mem_present_iff.mpr ⟨hm, hl⟩, ha⟩, rfl⟩
  | none =>
    rw [Option.map_none, List.lookup_eq_none_iff]
    intro p hp
    obtain ⟨q, hq, rfl⟩ := List.mem_map.mp hp
    obtain ⟨hq, hqa⟩ := List.mem_filter.mp hq
    obtain ⟨hqm, hql⟩ := mem_present_iff.mp hq
    refine bne_iff_ne.mpr fun heq => ?_
    obtain rfl : q.1 = m := eq_of_wireName hn hqm hm (hqa.trans ha.symm) heq.symm
    rw [hl] at hql
    cases hql

/-- A lookup by name finds an element unless an earlier one took it. -/
def picks (name : Value) (taken : List Value) (e : Element) : Bool :=
  e.isNamed name && !taken.any e.isNamed

theorem named_untaken_readers (name : Value) (taken : List Value) (c : Codec)
    (children : List Element) : named name (untaken taken (readers c g children)) =
      readers c g (children.filter (picks name taken)) := by
  rw [named_untaken, readers, List.filter_map]
  rfl

theorem picks_of_tag {e : Element} {name : Value} {taken : List Value} (he : e.tag = name)
    (hname : IsLocal name) (htaken : ∀ t ∈ taken, IsLocal t ∧ t.text ≠ name.text) :
    picks name taken e = true := by
  have hself : e.isNamed name = true := by
    rw [isNamed_of_tag he hname hname]
    exact beq_self_eq_true _
  have hany : taken.any e.isNamed = false := by
    rw [List.any_eq_false]
    intro t ht
    obtain ⟨htl, hne⟩ := htaken t ht
    rw [isNamed_of_tag he hname htl, beq_false_of_ne (Ne.symm hne)]
    exact Bool.false_ne_true
  rw [picks, hself, hany, Bool.not_false, Bool.and_self]

theorem picks_eq_false {e : Element} {tag name : Value} (he : e.tag = tag) (htag : IsLocal tag)
    (hname : IsLocal name) (hne : tag.text ≠ name.text) (taken : List Value) :
    picks name taken e = false := by
  rw [picks, isNamed_of_tag he htag hname, beq_false_of_ne hne, Bool.false_and]

/-- The children under the name of a member are the block of the member. -/
theorem named_childrenOf {members : List (Member g.size)} {fields : List (String × Value)}
    (hlocal : ∀ m ∈ members, IsLocal m.wireName)
    (hn : (members.map fun m => (m.xmlAttribute, m.wireName.text)).Nodup)
    {block : Member g.size × Value → List Element}
    (tags : ∀ q ∈ present members fields, q.1.xmlAttribute = false →
      ∀ e ∈ block q, e.tag = q.1.wireName)
    {m : Member g.size} (hm : m ∈ members) (ha : m.xmlAttribute = false) {taken : List Value}
    (htaken : ∀ t ∈ taken, IsLocal t ∧ t.text ≠ m.wireName.text) (c : Codec) :
    named m.wireName (untaken taken (readers c g (childrenOf block (present members fields)))) =
      readers c g (((fields.lookup m.name).map fun v => block (m, v)).getD []) := by
  have hin : ∀ e : Element, e.tag = m.wireName → picks m.wireName taken e = true :=
    fun e he => picks_of_tag he (hlocal m hm) htaken
  have hout : ∀ q ∈ (present members fields).filter (fun q => !q.1.xmlAttribute), q.1 ≠ m →
      ∀ e ∈ block q, picks m.wireName taken e = false := by
    intro q hq hne e he
    obtain ⟨hq, hqa⟩ := List.mem_filter.mp hq
    have hqa : q.1.xmlAttribute = false := by simpa using hqa
    have hqm := (mem_present hq).1
    exact picks_eq_false (tags q hq hqa e he) (hlocal q.1 hqm) (hlocal m hm)
      (fun heq => hne (eq_of_wireName hn hqm hm (hqa.trans ha.symm) heq)) taken
  rw [named_untaken_readers, childrenOf]
  congr 1
  cases hl : fields.lookup m.name with
  | none =>
    refine filter_flatMap_eq_nil fun q hq => hout q hq ?_
    rintro rfl
    have hql := (mem_present_iff.mp (List.mem_filter.mp hq).1).2
    rw [hl] at hql
    cases hql
  | some v =>
    have hmem : (m, v) ∈ present members fields := mem_present_iff.mpr ⟨hm, hl⟩
    refine filter_flatMap_eq (a := (m, v)) ?_ ?_ ?_ ?_
    · exact ((nodup_present hn fields).of_map _).filter _
    · exact List.mem_filter.mpr ⟨hmem, by rw [ha]; rfl⟩
    · exact fun e he => hin e (tags (m, v) hmem ha e he)
    · intro q hq hne
      refine hout q hq fun heq => hne ?_
      have hql := (mem_present_iff.mp (List.mem_filter.mp hq).1).2
      rw [heq, hl] at hql
      exact Prod.ext heq (Option.some.inj hql).symm

/-! ### Reading -/

section Reading

variable {members : List (Member g.size)} {fields : List (String × Value)}
  {text : Member g.size × Value → String} {block : Member g.size × Value → List Element}
  {result : Member g.size × Value → Value}
  (hlocal : ∀ m ∈ members, IsLocal m.wireName)
  (hn : (members.map fun m => (m.xmlAttribute, m.wireName.text)).Nodup)
  (hq : ∀ q ∈ present members fields, Placed notes ns g q (text q) (block q) (result q))

include hlocal hn hq

/-- A member is read from what it was written as, if the structure has it. -/
theorem readMember_eq {m : Member g.size} (hm : m ∈ members) {taken : List Value}
    (htaken : m.xmlAttribute = false → ∀ t ∈ taken, IsLocal t ∧ t.text ≠ m.wireName.text) :
    readMember (.complete .xml notes ns) g
        (readers (.complete .xml notes ns) g (childrenOf block (present members fields)))
        (keyed (attributesOf text (present members fields))) taken m =
      pure ((fields.lookup m.name).map fun v => result (m, v)) := by
  have hkey : m.wireName.asKey = .ok (.str m.wireName.text) := by
    rw [← Value.asKey_str, ← (hlocal m hm).1]
  have hplaced : ∀ {v}, fields.lookup m.name = some v →
      Placed notes ns g (m, v) (text (m, v)) (block (m, v)) (result (m, v)) :=
    fun hl => hq (m, _) (mem_present_iff.mpr ⟨hm, hl⟩)
  cases ha : m.xmlAttribute with
  | true =>
    rw [readMember, if_pos ha, hkey]
    simp only [Reading.ofConversion_ok, pure_bind, lookup_keyed,
      lookup_attributesOf hn text fields hm ha]
    cases hl : fields.lookup m.name with
    | none => rfl
    | some v =>
      simp only [Option.map_some, ((hplaced hl).asAttribute ha).2, Except.map,
        Reading.ofConversion_ok]
  | false =>
    have hname : (if (untaken taken (readers (.complete .xml notes ns) g
        (childrenOf block (present members fields)))).isEmpty then .ok m.wireName
          else m.wireName.asKey) = Except.ok (ε := Failure) m.wireName := by
      rw [hkey, ← (hlocal m hm).1, ite_self]
    have hblock := named_childrenOf hlocal hn (fun q hp => (hq q hp).tags) hm ha (htaken ha)
      (.complete .xml notes ns)
    rw [readMember, if_neg (by rw [ha]; exact Bool.false_ne_true)]
    simp only [hname, Reading.ofConversion_ok, pure_bind, hblock]
    cases hl : fields.lookup m.name with
    | none => rfl
    | some v => exact (hplaced hl).read ha

/-- The members of a structure are read in their order. -/
theorem readEach_eq {rest : List (Member g.size)} (hsub : rest.Sublist members) (taken : List Value)
    (htaken : ∀ t ∈ taken, IsLocal t ∧
      ∀ m ∈ rest, m.xmlAttribute = false → t.text ≠ m.wireName.text)
    (values : List (String × Value)) (names : (values.map Prod.fst ++ rest.map Member.name).Nodup) :
    readEach (.complete .xml notes ns) g
        (readers (.complete .xml notes ns) g (childrenOf block (present members fields)))
        (keyed (attributesOf text (present members fields))) rest taken values =
      pure (values ++ (present rest fields).map fun q => (q.1.name, result q)) := by
  induction rest generalizing taken values with
  | nil =>
    have hnil : present ([] : List (Member g.size)) fields = [] := rfl
    rw [hnil, List.map_nil, List.append_nil, readEach]
  | cons m rest ih =>
    have hm : m ∈ members := hsub.subset (List.mem_cons_self ..)
    have hrest : rest.Sublist members := (List.sublist_cons_self m rest).trans hsub
    have htaken' : ∀ t ∈ takenBy g m ++ taken, IsLocal t ∧
        ∀ m' ∈ rest, m'.xmlAttribute = false → t.text ≠ m'.wireName.text := by
      intro t ht
      rcases List.mem_append.mp ht with ht | ht
      · rw [takenBy] at ht
        split at ht
        · cases ht
        · rename_i ha
          obtain rfl := List.mem_singleton.mp ht
          refine ⟨hlocal m hm, fun m' hm' ha' heq => ?_⟩
          have hpair := (hsub.map fun m => (m.xmlAttribute, m.wireName.text)).nodup hn
          rw [List.map_cons, List.nodup_cons] at hpair
          refine hpair.1 (List.mem_map.mpr ⟨m', hm', ?_⟩)
          rw [heq, ha', Bool.eq_false_iff.mpr ha]
      · obtain ⟨htl, hne⟩ := htaken t ht
        exact ⟨htl, fun m' hm' => hne m' (List.mem_cons_of_mem _ hm')⟩
    have hmember := readMember_eq hlocal hn hq hm
      fun ha t ht => ⟨(htaken t ht).1, (htaken t ht).2 m (List.mem_cons_self ..) ha⟩
    rw [readEach, hmember, pure_bind]
    cases hl : fields.lookup m.name with
    | none =>
      rw [present_cons_none hl]
      refine ih hrest _ htaken' _ (names.sublist ?_)
      exact (List.sublist_cons_self ..).append_left _
    | some v =>
      have hput : Entries.put m.name (result (m, v)) values =
          values ++ [(m.name, result (m, v))] := by
        refine Entries.put_eq_append _ fun p hp => beq_false_of_ne ?_
        exact (List.nodup_append.mp names).2.2 _ (List.mem_map_of_mem hp) _ (List.mem_cons_self ..)
      simp only [Option.map_some, hput]
      rw [ih hrest _ htaken' _ (by rw [List.map_append, List.append_assoc]; exact names),
        present_cons_some hl, List.map_cons, List.append_assoc, List.singleton_append]

omit hn in
/-- Every child of a structure stands for one of the members. -/
theorem untaken_childrenOf (c : Codec) :
    untaken (members.flatMap (takenBy g))
      (readers c g (childrenOf block (present members fields))) = [] := by
  rw [untaken, List.filter_eq_nil_iff]
  intro p hp
  obtain ⟨e, he, rfl⟩ := List.mem_map.mp hp
  obtain ⟨q, hmem, he⟩ := List.mem_flatMap.mp he
  obtain ⟨hmem, hqa⟩ := List.mem_filter.mp hmem
  have hqa : q.1.xmlAttribute = false := by simpa using hqa
  have hqm := (mem_present hmem).1
  have htaken : q.1.wireName ∈ members.flatMap (takenBy g) := by
    refine List.mem_flatMap.mpr ⟨q.1, hqm, ?_⟩
    rw [takenBy, hqa]
    exact List.mem_singleton_self _
  have hnamed : e.isNamed q.1.wireName = true := by
    rw [isNamed_of_tag ((hq q hmem).tags hqa e he) (hlocal q.1 hqm) (hlocal q.1 hqm)]
    exact beq_self_eq_true _
  have hany : (members.flatMap (takenBy g)).any e.isNamed = true :=
    List.any_eq_true.mpr ⟨_, htaken, hnamed⟩
  simp only [hany, Bool.not_true, Bool.false_eq_true, not_false_eq_true]

/-- A structure is read as the members that it has. -/
theorem readMembers_eq (names : (members.map Member.name).Nodup) (s : Shape g.size) :
    readMembers (.complete .xml notes ns) g s members
        (readers (.complete .xml notes ns) g (childrenOf block (present members fields)))
        (keyed (attributesOf text (present members fields))) =
      pure ((present members fields).map fun q => (q.1.name, result q)) := by
  have heach := readEach_eq hlocal hn hq (.refl members) [] (by simp) [] (by simpa using names)
  rw [readMembers, heach]
  simp only [pure_bind, untaken_childrenOf hlocal hq, List.map_nil, distinct, List.foldl_nil,
    JsonBody.noteUnknown, Reading.note_nil, ite_self, List.nil_append]

end Reading

end ServiceWire.XmlBody
