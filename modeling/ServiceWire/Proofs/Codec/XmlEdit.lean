import ServiceWire.Codec.XmlBody
import ServiceWire.Proofs.Codec.Agreement
import ServiceWire.Proofs.Entries

/-!
# Edits of XML documents

A service may say more in an element than its description told: a child or an attribute that no
member stands for. Such an edit can be made wherever an element is read as a structure, at any
depth. The members of a structure are looked up by the names of their children, which an edit leaves
as they are and in their order, so an edit changes nothing of what is read: neither the value nor the
fault.
-/

namespace ServiceWire.XmlBody

open ServiceWire.Xml (Element)

/-! ### Edits -/

/-- What an element is read as: a value of a shape, some members of a structure, or an entry of a
map. -/
inductive Place (g : Graph)
  | shape (r : g.Ref)
  | members (ms : List (Member g.size))
  | entry (r : g.Ref)

/-- What the children that stand for a member are read as, given the shape of the member. -/
def blockPlace (g : Graph) (r : g.Ref) : Place g :=
  match (g.shape r).flattened, (g.shape r).form with
  | true, .list item => .shape item
  | true, .map _ _ => .entry r
  | _, _ => .shape r

/-- Whether a child stands for a member. -/
def standsFor {n : Nat} (e : Element) (m : Member n) : Bool :=
  !m.xmlAttribute && e.isNamed m.wireName

/-- An edit of an element that is read as something, wherever a structure is read in it. -/
inductive Edit (g : Graph) : Place g → Element → Element → Prop
  /-- A child that no member stands for. -/
  | child {ms : List (Member g.size)} {tag : Value} {attributes : List (Value × Value)}
      {text : String} (before after : List Element) {e : Element}
      (h : ∀ m ∈ ms, standsFor e m = false) :
      Edit g (.members ms) (.node tag attributes text (before ++ after))
        (.node tag attributes text (before ++ e :: after))
  /-- An attribute that no member stands for. -/
  | attr {ms : List (Member g.size)} {tag key value : Value} (before after : List (Value × Value))
      {text : String} {children : List Element}
      (h : ∀ m ∈ ms, m.xmlAttribute = true → (m.wireName == key) = false) :
      Edit g (.members ms) (.node tag (before ++ after) text children)
        (.node tag (before ++ (key, value) :: after) text children)
  /-- An edit inside a child that stands for a member. -/
  | inside {ms : List (Member g.size)} {tag : Value} {attributes : List (Value × Value)}
      {text : String} (before after : List Element) {e e' : Element} {m : Member g.size}
      (member : ms.find? (standsFor e) = some m) (h : Edit g (blockPlace g m.shape) e e') :
      Edit g (.members ms) (.node tag attributes text (before ++ e :: after))
        (.node tag attributes text (before ++ e' :: after))
  | struct {r : g.Ref} {ms : List (Member g.size)} {e e' : Element}
      (form : (g.shape r).form = .struct ms) (h : Edit g (.members ms) e e') :
      Edit g (.shape r) e e'
  /-- An edit inside an item of a list. -/
  | item {r item : g.Ref} {tag : Value} {attributes : List (Value × Value)} {text : String}
      (before after : List Element) {e e' : Element} (form : (g.shape r).form = .list item)
      (h : Edit g (.shape item) e e') :
      Edit g (.shape r) (.node tag attributes text (before ++ e :: after))
        (.node tag attributes text (before ++ e' :: after))
  /-- An edit inside an entry of a map. -/
  | entry {r key value : g.Ref} {tag : Value} {attributes : List (Value × Value)} {text : String}
      (before after : List Element) {e e' : Element} (form : (g.shape r).form = .map key value)
      (h : Edit g (.entry r) e e') :
      Edit g (.shape r) (.node tag attributes text (before ++ e :: after))
        (.node tag attributes text (before ++ e' :: after))
  /-- An edit inside the value of an entry. -/
  | value {r key value : g.Ref} {tag : Value} {attributes : List (Value × Value)} {text : String}
      (before after : List Element) {e e' : Element} (form : (g.shape r).form = .map key value)
      (named : e.isNamed (g.shape r).valueTag = true) (h : Edit g (.shape value) e e') :
      Edit g (.entry r) (.node tag attributes text (before ++ e :: after))
        (.node tag attributes text (before ++ e' :: after))

variable {g : Graph} {c : Codec}

/-- An edit leaves the name and the text of an element as they are. -/
theorem Edit.same_head {place : Place g} {e e' : Element} (h : Edit g place e e') :
    e'.tag = e.tag ∧ e'.text = e.text := by
  induction h with
  | struct _ _ ih => exact ih
  | _ => exact ⟨rfl, rfl⟩

theorem Edit.isNamed_eq {place : Place g} {e e' : Element} (h : Edit g place e e') (name : Value) :
    e'.isNamed name = e.isNamed name := by
  rw [Element.isNamed, Element.isNamed, Element.localName, Element.localName, h.same_head.1]

/-! ### What is read at a place -/

/-- Two elements with what reads them come to the same at a place. -/
def SameAt : Place g → Element × Reader g → Element × Reader g → Prop
  | .shape r, p, q => (p.2.value r).outcome = (q.2.value r).outcome
  | .entry r, p, q => (p.2.entry r).outcome = (q.2.entry r).outcome
  | .members _, _, _ => True

theorem SameAt.refl (place : Place g) (p : Element × Reader g) : SameAt place p p := by
  cases place with
  | shape r => rfl
  | members ms => trivial
  | entry r => rfl

/-- Two elements are read to the same effect at a place. -/
def ReadSame (c : Codec) (g : Graph) : Place g → Element → Element → Prop
  | .shape r, e, e' => ((read c g e).value r).outcome = ((read c g e').value r).outcome
  | .entry r, e, e' => ((read c g e).entry r).outcome = ((read c g e').entry r).outcome
  | .members ms, e, e' => (∀ m ∈ ms, m.wireName.isKey = true) → ∀ s : Shape g.size,
      (readMembers c g s ms (readers c g e.children) e.attributes).outcome =
        (readMembers c g s ms (readers c g e'.children) e'.attributes).outcome

theorem ReadSame.sameAt {place : Place g} {e e' : Element} (h : ReadSame c g place e e') :
    SameAt place (e, read c g e) (e', read c g e') := by
  cases place with
  | shape r => exact h
  | members ms => trivial
  | entry r => exact h

theorem mapM_eq_of_forall₂ {ε α β γ : Type} {f : α → Except ε γ} {f' : β → Except ε γ}
    {items : List α} {others : List β} (h : List.Forall₂ (fun a b => f a = f' b) items others) :
    items.mapM f = others.mapM f' := by
  induction h with
  | nil => rfl
  | cons hab _ ih => rw [List.mapM_cons, List.mapM_cons, hab, ih]

theorem blockPlace_alone {r : g.Ref}
    (list : ∀ item, (g.shape r).flattened = true → (g.shape r).form = .list item → False)
    (map : ∀ key value, (g.shape r).flattened = true → (g.shape r).form = .map key value → False) :
    blockPlace g r = .shape r := by
  rw [blockPlace]
  split
  · rename_i item hflat hform
    exact (list item hflat hform).elim
  · rename_i key value hflat hform
    exact (map key value hflat hform).elim
  · rfl

/-- A block of elements is read to the same effect if its elements are, at their place. -/
theorem outcome_readBlock {r : g.Ref} {block block' : List (Element × Reader g)}
    (h : List.Forall₂ (SameAt (blockPlace g r)) block block') :
    (readBlock c g r block).outcome = (readBlock c g r block').outcome := by
  cases h with
  | nil => rfl
  | @cons first first' rest rest' hfirst hrest =>
    have hall := List.Forall₂.cons hfirst hrest
    rw [readBlock, readBlock]
    split
    · rename_i item hflat hform
      simp only [blockPlace, hflat, hform] at hall
      simp only [Reading.outcome_bind, Reading.outcome_mapM, Reading.outcome_pure,
        mapM_eq_of_forall₂ hall]
    · rename_i key value hflat hform
      simp only [blockPlace, hflat, hform] at hall
      simp only [Reading.outcome_bind, Reading.outcome_mapM, Reading.outcome_pure,
        mapM_eq_of_forall₂ hall]
    · rename_i hlist hmap
      rw [blockPlace_alone hlist hmap] at hfirst
      simp only [Reading.outcome_bind, Reading.outcome_pure, show _ = _ from hfirst]

/-! ### Members -/

theorem readMember_child {elements : List (Element × Reader g)} {attributes : List (Value × Value)}
    {taken : List Value} {m : Member g.size} (key : m.wireName.isKey = true)
    (child : m.xmlAttribute = false) :
    readMember c g elements attributes taken m =
      readBlock c g m.shape (named m.wireName (untaken taken elements)) := by
  have hkey : (if (untaken taken elements).isEmpty then Except.ok m.wireName
      else m.wireName.asKey) = .ok m.wireName := by
    rw [Value.asKey, if_pos key, ite_self]
  rw [readMember, child]
  simp only [Bool.false_eq_true, if_false, hkey, Reading.ofConversion_ok, pure_bind]

/-- The names of children that are taken once some members have been read. -/
def takenAfter (ms : List (Member g.size)) (taken : List Value) : List Value :=
  ms.foldl (fun acc m => takenBy g m ++ acc) taken

theorem mem_takenAfter {ms : List (Member g.size)} {m : Member g.size} (hm : m ∈ ms)
    (child : m.xmlAttribute = false) (taken : List Value) : m.wireName ∈ takenAfter ms taken := by
  have hkeep : ∀ (rest : List (Member g.size)) (taken : List Value) (v : Value), v ∈ taken →
      v ∈ takenAfter rest taken := by
    intro rest
    induction rest with
    | nil => exact fun _ _ h => h
    | cons m rest ih => exact fun taken v h => ih _ v (List.mem_append_right _ h)
  induction ms generalizing taken with
  | nil => cases hm
  | cons m' rest ih =>
    rcases List.mem_cons.mp hm with rfl | hm
    · refine hkeep rest _ _ (List.mem_append_left _ ?_)
      rw [takenBy, child]
      exact List.mem_singleton_self _
    · exact ih hm _

/-- Members are read to the same effect if each of them is, once those before it have been read. -/
theorem outcome_readEach {elements elements' : List (Element × Reader g)}
    {attributes attributes' : List (Value × Value)} {ms : List (Member g.size)}
    {taken : List Value} (values : List (String × Value))
    (h : ∀ before m after, ms = before ++ m :: after →
      (readMember c g elements attributes (takenAfter before taken) m).outcome =
        (readMember c g elements' attributes' (takenAfter before taken) m).outcome) :
    (readEach c g elements attributes ms taken values).outcome =
      (readEach c g elements' attributes' ms taken values).outcome := by
  induction ms generalizing taken values with
  | nil => rfl
  | cons m rest ih =>
    have hfirst := h [] m rest rfl
    rw [readEach, readEach]
    simp only [Reading.outcome_bind]
    rw [show (readMember c g elements attributes taken m).outcome = _ from hfirst]
    refine bind_congr fun v? => ih _ fun before m' after heq => ?_
    exact h (m :: before) m' after (by rw [heq, List.cons_append])

theorem outcome_readMembers (s : Shape g.size) (ms : List (Member g.size))
    (elements : List (Element × Reader g)) (attributes : List (Value × Value)) :
    (readMembers c g s ms elements attributes).outcome =
      (readEach c g elements attributes ms [] []).outcome := by
  rw [readMembers]
  simp only [Reading.outcome_bind, JsonBody.outcome_noteUnknown, Reading.outcome_pure]
  cases (readEach c g elements attributes ms [] []).outcome with
  | error e => rfl
  | ok values => rfl

/-! ### What an edit does to the members of a structure -/

variable {before after : List (Element × Reader g)} {p q : Element × Reader g}

/-- A child that is not left for a member may as well be missing. -/
theorem named_untaken_of_not {taken : List Value} {name : Value}
    (h : p.1.isNamed name = true → ∃ other ∈ taken, p.1.isNamed other = true) :
    named name (untaken taken (before ++ p :: after)) =
      named name (untaken taken (before ++ after)) := by
  have hp : ¬(p.1.isNamed name && !taken.any p.1.isNamed) = true := by
    rw [Bool.and_eq_true, Bool.not_eq_true', List.any_eq_false]
    rintro ⟨hname, hleft⟩
    obtain ⟨other, hmem, hother⟩ := h hname
    exact hleft other hmem hother
  rw [named_untaken, named_untaken, List.filter_append, List.filter_append, List.filter_cons,
    if_neg hp]

/-- Children in which one comes to the same as another come to the same. -/
theorem forall₂_sameAt {place : Place g} (h : SameAt place p q)
    (before after : List (Element × Reader g)) :
    List.Forall₂ (SameAt place) (before ++ p :: after) (before ++ q :: after) :=
  List.rel_append (List.forall₂_same.mpr fun p _ => SameAt.refl place p)
    (.cons h (List.forall₂_same.mpr fun p _ => SameAt.refl place p))

/-- A child that is left for a member may be another one that comes to the same. -/
theorem forall₂_named_untaken {place : Place g} (names : q.1.isNamed = p.1.isNamed)
    (h : SameAt place p q) (taken : List Value) (name : Value) :
    List.Forall₂ (SameAt place) (named name (untaken taken (before ++ p :: after)))
      (named name (untaken taken (before ++ q :: after))) := by
  rw [named_untaken, named_untaken, List.filter_append, List.filter_append, List.filter_cons,
    List.filter_cons, names]
  split
  · exact forall₂_sameAt h _ _
  · exact List.forall₂_same.mpr fun p _ => SameAt.refl place p

/-- A child that no member stands for changes nothing. -/
theorem outcome_readMembers_child {ms : List (Member g.size)} {s : Shape g.size}
    {attributes : List (Value × Value)} (keys : ∀ m ∈ ms, m.wireName.isKey = true)
    (h : ∀ m ∈ ms, standsFor p.1 m = false) :
    (readMembers c g s ms (before ++ after) attributes).outcome =
      (readMembers c g s ms (before ++ p :: after) attributes).outcome := by
  rw [outcome_readMembers, outcome_readMembers]
  refine outcome_readEach [] fun pre m post heq => ?_
  have hm : m ∈ ms := by rw [heq]; exact List.mem_append_right _ (List.mem_cons_self ..)
  cases hattribute : m.xmlAttribute with
  | true => simp only [readMember, hattribute, if_true]
  | false =>
    rw [readMember_child (keys m hm) hattribute, readMember_child (keys m hm) hattribute,
      named_untaken_of_not]
    intro hname
    have hstands := h m hm
    rw [standsFor, hattribute, hname] at hstands
    cases hstands

/-- An attribute that no member stands for changes nothing. -/
theorem outcome_readMembers_attribute {ms : List (Member g.size)} {s : Shape g.size}
    {elements : List (Element × Reader g)} {before after : List (Value × Value)} {key value : Value}
    (keys : ∀ m ∈ ms, m.wireName.isKey = true)
    (h : ∀ m ∈ ms, m.xmlAttribute = true → (m.wireName == key) = false) :
    (readMembers c g s ms elements (before ++ after)).outcome =
      (readMembers c g s ms elements (before ++ (key, value) :: after)).outcome := by
  rw [outcome_readMembers, outcome_readMembers]
  refine outcome_readEach [] fun pre m post heq => ?_
  have hm : m ∈ ms := by rw [heq]; exact List.mem_append_right _ (List.mem_cons_self ..)
  cases hattribute : m.xmlAttribute with
  | true =>
    have hlookup : (before ++ (key, value) :: after).lookup m.wireName =
        (before ++ after).lookup m.wireName := by
      rw [List.lookup_append, List.lookup_append, List.lookup_cons, h m hm hattribute]
    simp only [readMember, hattribute, if_true, Value.asKey, keys m hm, Reading.ofConversion_ok,
      pure_bind, hlookup]
  | false => simp only [readMember, hattribute, Bool.false_eq_true, if_false]

/-- A child that stands for a member may be another one that comes to the same. -/
theorem outcome_readMembers_inside {ms : List (Member g.size)} {s : Shape g.size}
    {attributes : List (Value × Value)} {m : Member g.size}
    (keys : ∀ m ∈ ms, m.wireName.isKey = true) (member : ms.find? (standsFor p.1) = some m)
    (names : q.1.isNamed = p.1.isNamed) (h : SameAt (blockPlace g m.shape) p q) :
    (readMembers c g s ms (before ++ p :: after) attributes).outcome =
      (readMembers c g s ms (before ++ q :: after) attributes).outcome := by
  rw [outcome_readMembers, outcome_readMembers]
  refine outcome_readEach [] fun pre m' post heq => ?_
  have hm : m' ∈ ms := by rw [heq]; exact List.mem_append_right _ (List.mem_cons_self ..)
  cases hattribute : m'.xmlAttribute with
  | true => simp only [readMember, hattribute, if_true]
  | false =>
    rw [readMember_child (keys m' hm) hattribute, readMember_child (keys m' hm) hattribute]
    by_cases hleft : p.1.isNamed m'.wireName = true →
        ∃ other ∈ takenAfter pre [], p.1.isNamed other = true
    · rw [named_untaken_of_not hleft, named_untaken_of_not (by rw [names]; exact hleft)]
    · -- The child is left for the first member that it stands for.
      push Not at hleft
      have hbefore : pre.find? (standsFor p.1) = none := by
        rw [List.find?_eq_none]
        intro other hother hstands
        rw [standsFor, Bool.and_eq_true, Bool.not_eq_true'] at hstands
        exact hleft.2 _ (mem_takenAfter hother hstands.1 []) hstands.2
      have hfirst : standsFor p.1 m' = true := by
        rw [standsFor, hattribute, hleft.1]
        rfl
      rw [heq, List.find?_append, hbefore, Option.none_or, List.find?_cons_of_pos hfirst] at member
      obtain rfl := Option.some.inj member
      exact outcome_readBlock (forall₂_named_untaken names h _ _)

/-! ### One edit, and any number -/

theorem outcome_value_struct (plain : ∀ r : g.Ref, (g.shape r).construct = none) {r : g.Ref}
    {ms : List (Member g.size)} (form : (g.shape r).form = .struct ms) (e : Element) :
    ((read c g e).value r).outcome =
      (readMembers c g (g.shape r) ms (readers c g e.children) e.attributes).outcome.map
        .ofFields := by
  rw [value_eq, readValue]
  simp only [form, Reading.outcome_bind, Shape.build, plain r]
  rw [show (e.view (read c g)).children = readers c g e.children from rfl,
    show (e.view (read c g)).whole = e from rfl]
  cases (readMembers c g (g.shape r) ms (readers c g e.children) e.attributes).outcome with
  | error e => rfl
  | ok values => rfl

theorem readers_insert (before after : List Element) (e : Element) :
    readers c g (before ++ e :: after) =
      readers c g before ++ (e, read c g e) :: readers c g after := by
  rw [readers, List.map_append, List.map_cons]
  rfl

/-- The last of the children with a name, if one of them is looked at apart from the others. -/
theorem getLast?_named (name : Value) (before after : List (Element × Reader g))
    (p : Element × Reader g) :
    (named name (before ++ p :: after)).getLast? =
      ((named name after).getLast?.or (if p.1.isNamed name then some p else none)).or
        (named name before).getLast? := by
  have hblock : named name (before ++ p :: after) =
      named name before ++ ((if p.1.isNamed name then [p] else []) ++ named name after) := by
    rw [named, List.filter_append, List.filter_cons]
    cases p.1.isNamed name with
    | true => rfl
    | false => rfl
  rw [hblock, List.getLast?_append, List.getLast?_append]
  cases p.1.isNamed name with
  | true => rfl
  | false => rfl

/-- A child of an entry may be another one with its name and text that is read as the same value. -/
theorem outcome_readEntry {r key value : g.Ref} (form : (g.shape r).form = .map key value)
    {e e' : Element} {before after : List (Element × Reader g)} {p q : Element × Reader g}
    (names : q.1.isNamed = p.1.isNamed) (texts : q.1.text = p.1.text)
    (h : SameAt (.shape value) p q) :
    (readEntry c g ⟨e, before ++ p :: after⟩ r).outcome =
      (readEntry c g ⟨e', before ++ q :: after⟩ r).outcome := by
  have hkey : entryKey? g (g.shape r) (before ++ p :: after) =
      entryKey? g (g.shape r) (before ++ q :: after) := by
    rw [entryKey?, entryKey?, getLast?_named, getLast?_named, names]
    cases (named (g.shape r).keyTag after).getLast? with
    | some last => rfl
    | none =>
      split
      · simp [texts]
      · rfl
  rw [readEntry, readEntry]
  simp only [hkey, form]
  cases entryKey? g (g.shape r) (before ++ q :: after) with
  | none => rfl
  | some k =>
    cases htags : (g.shape r).keyTag == (g.shape r).valueTag with
    | true => simp only [entryValue?, htags, if_true]
    | false =>
      simp only [entryValue?, htags, Bool.false_eq_true, if_false, getLast?_named, names]
      cases (named (g.shape r).valueTag after).getLast? with
      | some last => rfl
      | none =>
        cases p.1.isNamed (g.shape r).valueTag with
        | true =>
          simp only [Option.none_or, Option.some_or, if_true, Reading.outcome_bind,
            Reading.outcome_pure, show _ = _ from h]
        | false => rfl

/-- An edit changes nothing of what is read. -/
theorem Edit.readSame (plain : ∀ r : g.Ref, (g.shape r).construct = none)
    (keys : ∀ r : g.Ref, ∀ m ∈ g.members r, m.wireName.isKey = true) {place : Place g}
    {e e' : Element} (h : Edit g place e e') : ReadSame c g place e e' := by
  induction h with
  | child before after hms =>
    intro hkeys s
    simp only [Element.children, Element.attributes, readers_insert]
    rw [readers, List.map_append]
    exact outcome_readMembers_child hkeys hms
  | attr before after hms =>
    exact fun hkeys s => outcome_readMembers_attribute hkeys hms
  | inside before after member hedit ih =>
    intro hkeys s
    simp only [Element.children, Element.attributes, readers_insert]
    exact outcome_readMembers_inside hkeys member (funext hedit.isNamed_eq) ih.sameAt
  | @struct r ms e e' form hedit ih =>
    rw [ReadSame, outcome_value_struct plain form, outcome_value_struct plain form, ih]
    intro m hm
    refine keys r m ?_
    rwa [Graph.members, Shape.members, form]
  | @item r item tag attributes text before after e e' form hedit ih =>
    have hitems := mapM_eq_of_forall₂
      (forall₂_sameAt ih.sameAt (readers c g before) (readers c g after))
    rw [← readers_insert, ← readers_insert] at hitems
    rw [ReadSame, value_eq, value_eq, readValue, readValue]
    simp only [form, Reading.outcome_bind, Reading.outcome_mapM, Reading.outcome_pure]
    change (_ >>= fun _ => (readers c g (before ++ e :: after)).mapM _ >>= _) = _
    rw [hitems]
    rfl
  | @entry r key value tag attributes text before after e e' form hedit ih =>
    have hentries := mapM_eq_of_forall₂
      (forall₂_sameAt ih.sameAt (readers c g before) (readers c g after))
    rw [← readers_insert, ← readers_insert] at hentries
    rw [ReadSame, value_eq, value_eq, readValue, readValue]
    simp only [form, Reading.outcome_bind, Reading.outcome_mapM, Reading.outcome_pure]
    change ((readers c g (before ++ e :: after)).mapM _ >>= _) = _
    rw [hentries]
    rfl
  | value before after form named hedit ih =>
    rw [ReadSame, entry_eq, entry_eq]
    simp only [Element.view, Element.children]
    rw [← readers, ← readers, readers_insert, readers_insert]
    exact outcome_readEntry form (funext hedit.isNamed_eq) hedit.same_head.2 ih.sameAt

theorem ReadSame.refl (place : Place g) (e : Element) : ReadSame c g place e e := by
  cases place with
  | shape r => rfl
  | members ms => exact fun _ _ => rfl
  | entry r => rfl

theorem ReadSame.trans {place : Place g} {e e' e'' : Element} (h : ReadSame c g place e e')
    (h' : ReadSame c g place e' e'') : ReadSame c g place e e'' := by
  cases place with
  | shape r => exact Eq.trans h h'
  | members ms => exact fun keys s => (h keys s).trans (h' keys s)
  | entry r => exact Eq.trans h h'

/-- Any number of edits changes nothing of what is read. -/
theorem readSame_of_edits (plain : ∀ r : g.Ref, (g.shape r).construct = none)
    (keys : ∀ r : g.Ref, ∀ m ∈ g.members r, m.wireName.isKey = true) {place : Place g}
    {e e' : Element} (h : Relation.ReflTransGen (Edit g place) e e') : ReadSame c g place e e' := by
  induction h with
  | refl => exact .refl place e
  | tail _ hedit ih => exact ih.trans (hedit.readSame plain keys)

/-- The members of a structure are read under different names. -/
theorem nodup_readMembers {s : Shape g.size} {ms : List (Member g.size)}
    {elements : List (Element × Reader g)} {attributes : List (Value × Value)}
    {values : List (String × Value)}
    (h : (readMembers c g s ms elements attributes).outcome = .ok values) :
    (values.map Prod.fst).Nodup := by
  have heach : ∀ (rest : List (Member g.size)) (taken : List Value) (before : List (String × Value)),
      (before.map Prod.fst).Nodup →
      (readEach c g elements attributes rest taken before).outcome = .ok values →
      (values.map Prod.fst).Nodup := by
    intro rest
    induction rest with
    | nil =>
      intro taken before hbefore hread
      cases hread
      exact hbefore
    | cons m rest ih =>
      intro taken before hbefore hread
      rw [readEach, Reading.outcome_bind] at hread
      obtain ⟨v?, -, hread⟩ := exists_of_bind hread
      refine ih _ _ ?_ hread
      cases v? with
      | none => exact hbefore
      | some v => exact Entries.nodup_put hbefore m.name v
  rw [outcome_readMembers] at h
  exact heach ms [] [] List.nodup_nil h

end ServiceWire.XmlBody
