import ServiceWire.Proofs.Codec.Scalar
import ServiceWire.Proofs.Codec.XmlEdit
import ServiceWire.Proofs.Shape.WellTyped

/-!
# What is read from an element

A service may send any element: with children that no member stands for, with some that are
missing, with some that are there twice. What the reader makes of it, if it makes anything, is a
value of the shape but for one thing: an entry of a map that has no value element has a null for its
value. So the reader is sound for elements whose entries are complete, and for all others up to
such nulls. `Complete` says of an element which values of entries may be missing, `Sparse` says of a
value which ones are, and the first leads to the second.
-/

namespace ServiceWire

namespace Xml.Element

/-- The values of all attributes in a tree are texts. -/
inductive Textual : Element → Prop
  | node {tag : Value} {attributes : List (Value × Value)} {text : String}
      {children : List Element} (values : ∀ p ∈ attributes, ∃ s, p.2 = .str s)
      (each : ∀ e ∈ children, Textual e) : Textual (node tag attributes text children)

theorem Textual.attributes {e : Element} (h : e.Textual) :
    ∀ p ∈ e.attributes, ∃ s, p.2 = .str s := by
  cases h with
  | node values => exact values

theorem Textual.child {e child : Element} (h : e.Textual) (hc : child ∈ e.children) :
    child.Textual := by
  cases h with
  | node _ each => exact each child hc

end Xml.Element

namespace XmlBody

open ServiceWire.Xml (Element)

/-- A value of a shape, with nulls for the values of entries that may be missing: those of maps
whose values have one of the given shapes. -/
inductive Sparse (g : Graph) (gaps : g.Ref → Prop) : g.Ref → Value → Prop
  /-- A structure, whose members in attributes have names that can be keys. -/
  | struct {r : g.Ref} {members : List (Member g.size)} {fields : List (String × Value)}
      (form : (g.shape r).form = .struct members) (names : (fields.map Prod.fst).Nodup)
      (known : ∀ p ∈ fields, ∃ m ∈ members, m.name = p.1)
      (keys : ∀ p ∈ fields, ∀ m ∈ members, m.name = p.1 → m.xmlAttribute = true →
        m.wireName.isKey = true)
      (each : ∀ p ∈ fields, ∀ m ∈ members, m.name = p.1 → Sparse g gaps m.shape p.2) :
      Sparse g gaps r (.ofFields fields)
  | list {r item : g.Ref} {items : List Value} (form : (g.shape r).form = .list item)
      (each : ∀ v ∈ items, Sparse g gaps item v) : Sparse g gaps r (.list items)
  | map {r key value : g.Ref} {fields : List (String × Value)}
      (form : (g.shape r).form = .map key value) (names : (fields.map Prod.fst).Nodup)
      (missing : ∀ p ∈ fields, p.2.isNull = true → gaps value)
      (each : ∀ p ∈ fields, p.2.isNull = false → Sparse g gaps value p.2) :
      Sparse g gaps r (.ofFields fields)
  | scalar {r : g.Ref} {kind : ScalarKind} {v : Value} (form : (g.shape r).form = .scalar kind)
      (typed : Scalar.OfKind kind v) : Sparse g gaps r v

/-- The entries in an element have a value each, but those of maps whose values have one of the
given shapes. -/
inductive Complete (g : Graph) (gaps : g.Ref → Prop) : Place g → Element → Prop
  /-- In a structure the children matter that stand for a member. -/
  | struct {r : g.Ref} {members : List (Member g.size)} {e : Element}
      (form : (g.shape r).form = .struct members)
      (each : ∀ m ∈ members, ∀ child ∈ e.children, standsFor child m = true →
        Complete g gaps (blockPlace g m.shape) child) : Complete g gaps (.shape r) e
  | list {r item : g.Ref} {e : Element} (form : (g.shape r).form = .list item)
      (each : ∀ child ∈ e.children, Complete g gaps (.shape item) child) :
      Complete g gaps (.shape r) e
  | map {r key value : g.Ref} {e : Element} (form : (g.shape r).form = .map key value)
      (each : ∀ child ∈ e.children, Complete g gaps (.entry r) child) :
      Complete g gaps (.shape r) e
  | scalar {r : g.Ref} {kind : ScalarKind} {e : Element}
      (form : (g.shape r).form = .scalar kind) : Complete g gaps (.shape r) e
  /-- The value element of an entry has a name of its own. -/
  | entry {r key value : g.Ref} {e : Element} (form : (g.shape r).form = .map key value)
      (filled : gaps value ∨ ((g.shape r).keyTag == (g.shape r).valueTag) = false ∧
        ∃ child ∈ e.children, child.isNamed (g.shape r).valueTag = true)
      (each : ∀ child ∈ e.children, child.isNamed (g.shape r).valueTag = true →
        Complete g gaps (.shape value) child) : Complete g gaps (.entry r) e

variable {g : Graph} {gaps : g.Ref → Prop} {c : Codec}

/-! ### Values with gaps -/

theorem Sparse.not_null {r : g.Ref} {v : Value} (h : Sparse g gaps r v) : v.isNull = false := by
  cases h with
  | struct => rfl
  | list => rfl
  | map => rfl
  | scalar _ typed => exact typed.not_null

/-- Where more may be missing, all that could be missing before still can. -/
theorem Sparse.mono {more : g.Ref → Prop} (hmore : ∀ q, gaps q → more q) {r : g.Ref} {v : Value}
    (h : Sparse g gaps r v) : Sparse g more r v := by
  induction h with
  | struct form names known keys _ ih => exact .struct form names known keys ih
  | list form _ ih => exact .list form ih
  | map form names missing _ ih =>
    exact .map form names (fun p hp hnull => hmore _ (missing p hp hnull)) ih
  | scalar form typed => exact .scalar form typed

/-- A value in which nothing may be missing is a value of its shape. -/
theorem Sparse.wellTyped {r : g.Ref} {v : Value} (h : Sparse g (fun _ => False) r v) :
    WellTyped g (.none g) r v := by
  induction h with
  | struct form names known _ _ ih =>
    exact .struct form names known ih fun _ _ _ _ _ => trivial
  | list form _ ih => exact .list form ih
  | map form names missing _ ih =>
    exact .map form names fun p hp => ih p hp (Bool.eq_false_iff.mpr (missing p hp))
  | scalar form typed => exact .scalar form typed trivial

/-- A mapping made of entries, of which the last one counts for each key. -/
theorem Sparse.of_entries {r key value : g.Ref} (form : (g.shape r).form = .map key value)
    {entries : List (String × Value)} (missing : ∀ p ∈ entries, p.2.isNull = true → gaps value)
    (each : ∀ p ∈ entries, p.2.isNull = false → Sparse g gaps value p.2) :
    Sparse g gaps r (.ofFields (Entries.ofPairs entries)) :=
  .map form (Entries.nodup_ofPairs entries)
    (fun p hp => missing p (Entries.mem_of_mem_ofPairs hp))
    fun p hp => each p (Entries.mem_of_mem_ofPairs hp)

/-! ### What is read at a place -/

/-- What is read at a place is a value in which only the given shapes leave gaps. -/
def SoundAt (gaps : g.Ref → Prop) : Place g → Reader g → Prop
  | .shape r, reader => ∀ v, (reader.value r).outcome = .ok v → Sparse g gaps r v
  | .entry r, reader => ∀ key value, (g.shape r).form = .map key value →
      ∀ p, (reader.entry r).outcome = .ok p →
        (p.2.isNull = true → gaps value) ∧ (p.2.isNull = false → Sparse g gaps value p.2)
  | .members _, _ => True

/-- A map is read from elements that are each read as an entry. -/
theorem sparse_of_entry {r key value : g.Ref} (form : (g.shape r).form = .map key value)
    {elements : List (Element × Reader g)} (h : ∀ p ∈ elements, SoundAt gaps (.entry r) p.2)
    {entries : List (String × Value)}
    (hentries : (elements.mapM fun p => (p.2.entry r).outcome) = .ok entries) :
    Sparse g gaps r (.ofFields (Entries.ofPairs entries)) := by
  have heach : ∀ q ∈ entries, (q.2.isNull = true → gaps value) ∧
      (q.2.isNull = false → Sparse g gaps value q.2) := by
    intro q hq
    obtain ⟨p, hp, hpq⟩ := exists_of_mem_mapM hentries hq
    exact h p hp key value form q hpq
  exact .of_entries form (fun q hq => (heach q hq).1) fun q hq => (heach q hq).2

/-- A list is read from elements that are each read as an item. -/
theorem sparse_of_item {r item : g.Ref} (form : (g.shape r).form = .list item)
    {elements : List (Element × Reader g)} (h : ∀ p ∈ elements, SoundAt gaps (.shape item) p.2)
    {items : List Value}
    (hitems : (elements.mapM fun p => (p.2.value item).outcome) = .ok items) :
    Sparse g gaps r (.list items) := by
  refine .list form fun v hv => ?_
  obtain ⟨p, hp, hpv⟩ := exists_of_mem_mapM hitems hv
  exact h p hp v hpv

/-- The value of a member is read from the children that stand for it. -/
theorem sparse_of_readBlock {r : g.Ref} {block : List (Element × Reader g)}
    (h : ∀ p ∈ block, SoundAt gaps (blockPlace g r) p.2) {v : Value}
    (hv : (readBlock c g r block).outcome = .ok (some v)) : Sparse g gaps r v := by
  cases block with
  | nil => cases hv
  | cons first rest =>
    rw [readBlock] at hv
    split at hv
    · rename_i item hflat hform
      simp only [blockPlace, hflat, hform] at h
      simp only [Reading.outcome_bind, Reading.outcome_mapM, Reading.outcome_pure] at hv
      obtain ⟨-, -, hv⟩ := exists_of_bind hv
      obtain ⟨items, hitems, hv⟩ := exists_of_bind hv
      cases hv
      exact sparse_of_item hform h hitems
    · rename_i key value hflat hform
      simp only [blockPlace, hflat, hform] at h
      simp only [Reading.outcome_bind, Reading.outcome_mapM, Reading.outcome_pure] at hv
      obtain ⟨entries, hentries, hv⟩ := exists_of_bind hv
      cases hv
      exact sparse_of_entry hform h hentries
    · rename_i hlist hmap
      have hfirst := h first (List.mem_cons_self ..)
      rw [blockPlace_alone hlist hmap] at hfirst
      simp only [Reading.outcome_bind, Reading.outcome_pure] at hv
      obtain ⟨-, -, hv⟩ := exists_of_bind hv
      obtain ⟨w, hw, hv⟩ := exists_of_bind hv
      cases hv
      exact hfirst v hw

/-! ### Members -/

section Members

variable {elements : List (Element × Reader g)} {attributes : List (Value × Value)}
  {members : List (Member g.size)} {m : Member g.size} {taken : List Value}

/-- What is read of a structure was read for one of its members. -/
theorem mem_readEach {before values : List (String × Value)}
    (h : (readEach c g elements attributes members taken before).outcome = .ok values)
    {p : String × Value} (hp : p ∈ values) :
    p ∈ before ∨ ∃ m ∈ members, m.name = p.1 ∧
      ∃ taken, (readMember c g elements attributes taken m).outcome = .ok (some p.2) := by
  induction members generalizing taken before with
  | nil =>
    cases h
    exact .inl hp
  | cons m rest ih =>
    rw [readEach, Reading.outcome_bind] at h
    obtain ⟨v?, hv, h⟩ := exists_of_bind h
    rcases ih h with hbefore | ⟨m', hm', hread⟩
    · cases v? with
      | none => exact .inl hbefore
      | some v =>
        rcases Entries.eq_or_mem_of_mem_put hbefore with rfl | hbefore
        · exact .inr ⟨m, List.mem_cons_self .., rfl, taken, hv⟩
        · exact .inl hbefore
    · exact .inr ⟨m', List.mem_cons_of_mem _ hm', hread⟩

/-- All members of a structure that is read are read. -/
theorem exists_readMember {before values : List (String × Value)}
    (h : (readEach c g elements attributes members taken before).outcome = .ok values)
    (hm : m ∈ members) :
    ∃ taken v?, (readMember c g elements attributes taken m).outcome = .ok v? := by
  induction members generalizing taken before with
  | nil => cases hm
  | cons m' rest ih =>
    rw [readEach, Reading.outcome_bind] at h
    obtain ⟨v?, hv, h⟩ := exists_of_bind h
    rcases List.mem_cons.mp hm with rfl | hm
    · exact ⟨taken, v?, hv⟩
    · exact ih h hm

theorem isKey_of_readMember (attr : m.xmlAttribute = true) {v? : Option Value}
    (h : (readMember c g elements attributes taken m).outcome = .ok v?) :
    m.wireName.isKey = true := by
  rw [readMember, if_pos attr] at h
  simp only [Reading.outcome_bind, Reading.outcome_ofConversion] at h
  obtain ⟨name, hname, -⟩ := exists_of_bind h
  rw [Value.asKey] at hname
  by_contra hkey
  rw [if_neg hkey] at hname
  cases hname

/-- A member in an attribute is a scalar of its text. -/
theorem sparse_of_attribute (attr : m.xmlAttribute = true) {kind : ScalarKind}
    (form : (g.shape m.shape).form = .scalar kind)
    (texts : ∀ p ∈ attributes, ∃ s, p.2 = .str s) {v : Value}
    (h : (readMember c g elements attributes taken m).outcome = .ok (some v)) :
    Sparse g gaps m.shape v := by
  rw [readMember, if_pos attr] at h
  simp only [Reading.outcome_bind, Reading.outcome_ofConversion] at h
  obtain ⟨name, -, h⟩ := exists_of_bind h
  cases hraw : attributes.lookup name with
  | none =>
    rw [hraw] at h
    cases h
  | some raw =>
    rw [hraw] at h
    obtain ⟨s, rfl⟩ : ∃ s, raw = .str s := by
      obtain ⟨p, hp, -, rfl⟩ := Entries.exists_of_lookup hraw
      exact texts p hp
    obtain ⟨w, hw, hv⟩ := exists_of_map (exists_of_mapError h)
    cases hv
    have hkind : (g.shape m.shape).kind = .scalar kind := by rw [Shape.kind, form, Form.kind]
    simp only [Scalar.fromValue, hkind] at hw
    exact .scalar form (Scalar.ofKind_of_ofText hw)

/-- A member in children is read from those of them that stand for it. -/
theorem readBlock_of_readMember (child : m.xmlAttribute = false) {v? : Option Value}
    (h : (readMember c g elements attributes taken m).outcome = .ok v?) :
    (readBlock c g m.shape (named m.wireName (untaken taken elements))).outcome = .ok v? := by
  rw [readMember, child, if_neg Bool.false_ne_true] at h
  simp only [Reading.outcome_bind, Reading.outcome_ofConversion] at h
  obtain ⟨name, hname, h⟩ := exists_of_bind h
  obtain rfl : m.wireName = name := by
    have hname := exists_of_mapError hname
    split at hname
    · exact Except.ok.inj hname
    · rw [Value.asKey] at hname
      split at hname
      · exact Except.ok.inj hname
      · cases hname
  exact h

end Members

/-! ### Elements -/

/-- What is asked of the shapes of a graph, so that what is read of an element can be written. -/
structure Writable (g : Graph) : Prop where
  /-- No constructor of its own stands between a structure and its members. -/
  plain : ∀ r : g.Ref, (g.shape r).construct = none
  /-- Members with one name have one shape. -/
  alike : ∀ r : g.Ref, ∀ m ∈ g.members r, ∀ m' ∈ g.members r, m.name = m'.name →
    m.shape = m'.shape
  /-- The members in attributes are scalars. -/
  scalars : ∀ r : g.Ref, ∀ m ∈ g.members r, m.xmlAttribute = true →
    ∃ kind, (g.shape m.shape).form = .scalar kind

theorem sparse_struct (hg : Writable g) {r : g.Ref} {members : List (Member g.size)}
    (form : (g.shape r).form = .struct members) {e : Element} (texts : e.Textual)
    (h : ∀ m ∈ members, ∀ child ∈ e.children, standsFor child m = true →
      SoundAt gaps (blockPlace g m.shape) (read c g child)) {v : Value}
    (hv : ((read c g e).value r).outcome = .ok v) : Sparse g gaps r v := by
  have hmembers : g.members r = members := by rw [Graph.members, Shape.members, form]
  have halike := hg.alike r
  have hscalars := hg.scalars r
  rw [hmembers] at halike hscalars
  rw [outcome_value_struct hg.plain form] at hv
  obtain ⟨values, hvalues, rfl⟩ := exists_of_map hv
  have hnames := nodup_readMembers hvalues
  rw [outcome_readMembers] at hvalues
  have hsource : ∀ p ∈ values, ∃ m ∈ members, m.name = p.1 ∧ Sparse g gaps m.shape p.2 := by
    intro p hp
    obtain ⟨m, hm, hname, taken, hread⟩ := (mem_readEach hvalues hp).resolve_left List.not_mem_nil
    refine ⟨m, hm, hname, ?_⟩
    cases hattr : m.xmlAttribute with
    | true =>
      obtain ⟨kind, hkind⟩ := hscalars m hm hattr
      exact sparse_of_attribute hattr hkind texts.attributes hread
    | false =>
      refine sparse_of_readBlock (fun q hq => ?_) (readBlock_of_readMember hattr hread)
      rw [named_untaken, List.mem_filter, Bool.and_eq_true] at hq
      obtain ⟨hq, hname, -⟩ := hq
      obtain ⟨child, hchild, rfl⟩ := List.mem_map.mp hq
      exact h m hm child hchild (by rw [standsFor, hattr, hname]; rfl)
  refine .struct form hnames (fun p hp => ?_) (fun p hp m hm hname hattr => ?_)
    fun p hp m hm hname => ?_
  · obtain ⟨m, hm, hname, -⟩ := hsource p hp
    exact ⟨m, hm, hname⟩
  · obtain ⟨taken, v?, hread⟩ := exists_readMember hvalues hm
    exact isKey_of_readMember hattr hread
  · obtain ⟨m', hm', hname', hsparse⟩ := hsource p hp
    rw [halike m hm m' hm' (hname.trans hname'.symm)]
    exact hsparse

/-- An entry has the value that its value element is read as, or none. -/
theorem soundAt_entry {r key value : g.Ref} (form : (g.shape r).form = .map key value) {e : Element}
    (filled : gaps value ∨ ((g.shape r).keyTag == (g.shape r).valueTag) = false ∧
      ∃ child ∈ e.children, child.isNamed (g.shape r).valueTag = true)
    (h : ∀ child ∈ e.children, child.isNamed (g.shape r).valueTag = true →
      SoundAt gaps (.shape value) (read c g child)) :
    SoundAt gaps (.entry r) (read c g e) := by
  intro key' value' form' p hp
  rw [form] at form'
  cases form'
  rw [entry_eq, readEntry] at hp
  split at hp
  · cases hp
  · cases hvalue : entryValue? g (g.shape r) (e.view (read c g)).children with
    | some q =>
      obtain ⟨child, reader⟩ := q
      simp only [hvalue, form, Reading.outcome_bind, Reading.outcome_pure] at hp
      obtain ⟨-, -, hp⟩ := exists_of_bind hp
      obtain ⟨v, hv, hp⟩ := exists_of_bind hp
      cases hp
      rw [entryValue?] at hvalue
      split at hvalue
      · cases hvalue
      · have hmem := List.mem_of_getLast? hvalue
        rw [named, List.mem_filter] at hmem
        obtain ⟨hchild, hname⟩ := hmem
        obtain ⟨child', hchild', heq⟩ := List.mem_map.mp hchild
        cases heq
        have hsparse := h child hchild' hname v hv
        refine ⟨fun hnull => ?_, fun _ => hsparse⟩
        rw [hsparse.not_null] at hnull
        cases hnull
    | none =>
      simp only [hvalue] at hp
      cases hp
      refine ⟨fun _ => ?_, fun hnull => by cases hnull⟩
      rcases filled with hgap | ⟨htags, child, hchild, hname⟩
      · exact hgap
      · rw [entryValue?, htags, if_neg Bool.false_ne_true, List.getLast?_eq_none_iff] at hvalue
        have hmem : (child, read c g child) ∈ named (g.shape r).valueTag
            (e.view (read c g)).children :=
          List.mem_filter.mpr ⟨List.mem_map_of_mem hchild, hname⟩
        rw [hvalue] at hmem
        cases hmem

/-- What is read of an element has nulls only where the entries in the element may have no value. -/
theorem soundAt_of_complete (hg : Writable g) {place : Place g} {e : Element}
    (h : Complete g gaps place e) (texts : e.Textual) : SoundAt gaps place (read c g e) := by
  induction h with
  | struct form each ih =>
    exact fun v hv => sparse_struct hg form texts (fun m hm child hchild hstands =>
      ih m hm child hchild hstands (texts.child hchild)) hv
  | @list r item e form each ih =>
    intro v hv
    rw [value_eq, readValue] at hv
    simp only [form, Reading.outcome_bind, Reading.outcome_mapM, Reading.outcome_pure] at hv
    obtain ⟨-, -, hv⟩ := exists_of_bind hv
    obtain ⟨items, hitems, hv⟩ := exists_of_bind hv
    cases hv
    refine sparse_of_item form (fun p hp => ?_) hitems
    obtain ⟨child, hchild, rfl⟩ := List.mem_map.mp hp
    exact ih child hchild (texts.child hchild)
  | @map r key value e form each ih =>
    intro v hv
    rw [value_eq, readValue] at hv
    simp only [form, Reading.outcome_bind, Reading.outcome_mapM, Reading.outcome_pure] at hv
    obtain ⟨entries, hentries, hv⟩ := exists_of_bind hv
    cases hv
    refine sparse_of_entry form (fun p hp => ?_) hentries
    obtain ⟨child, hchild, rfl⟩ := List.mem_map.mp hp
    exact ih child hchild (texts.child hchild)
  | @scalar r kind e form =>
    intro v hv
    rw [value_eq, readValue] at hv
    simp only [form] at hv
    exact .scalar form (Scalar.ofKind_of_ofText (exists_of_mapError hv))
  | entry form filled each ih =>
    exact soundAt_entry form filled fun child hchild hname =>
      ih child hchild hname (texts.child hchild)

/-- Every element is complete if all values may be missing. -/
theorem complete_of_textual {e : Element} (h : e.Textual) :
    (∀ r, Complete g (fun _ => True) (.shape r) e) ∧
      ∀ r key value, (g.shape r).form = .map key value →
        Complete g (fun _ => True) (.entry r) e := by
  induction h with
  | @node tag attributes text children _ _ ih =>
    have hblock : ∀ r : g.Ref, ∀ child ∈ children,
        Complete g (fun _ => True) (blockPlace g r) child := by
      intro r child hchild
      rw [blockPlace]
      split
      · exact (ih child hchild).1 _
      · rename_i key value _ hform
        exact (ih child hchild).2 r key value hform
      · exact (ih child hchild).1 r
    refine ⟨fun r => ?_, fun r key value form => ?_⟩
    · cases form : (g.shape r).form with
      | struct members => exact .struct form fun m _ child hchild _ => hblock m.shape child hchild
      | list item => exact .list form fun child hchild => (ih child hchild).1 item
      | map key value => exact .map form fun child hchild => (ih child hchild).2 r key value form
      | scalar kind => exact .scalar form
    · exact .entry form (.inl trivial) fun child hchild _ => (ih child hchild).1 value

end XmlBody

end ServiceWire
