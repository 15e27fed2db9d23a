import ServiceWire.Proofs.Codec.Verdict

/-!
# Values with wrong containers

What stands for a list must be a sequence, and what stands for a map must be a mapping. A text is no
sequence of its characters here, a constant byte string is none of its numbers, and a mapping is
none of its keys. `Misfit` says that a value breaks this rule somewhere: itself, or in an item, an
entry or a member of it, at any depth. None of the three forms of bodies writes such a value, each
of which is shown by the steps that lead to the wrong container: a body is only written if every
step succeeds.
-/

namespace ServiceWire

/-- A value that has a wrong container for its shape, or for the shape of a part. A null stands for
nothing, as a member of a structure and under a key of a map. -/
inductive Misfit (g : Graph) : g.Ref → Value → Prop
  | list {r item : g.Ref} {v : Value} (form : (g.shape r).form = .list item)
      (none : v.sequence? = none) : Misfit g r v
  | item {r item : g.Ref} {v x : Value} {items : List Value}
      (form : (g.shape r).form = .list item) (some : v.sequence? = some items) (mem : x ∈ items)
      (part : Misfit g item x) : Misfit g r v
  | map {r key value : g.Ref} {v : Value} (form : (g.shape r).form = .map key value)
      (none : v.isMapping = false) : Misfit g r v
  | entry {r key value : g.Ref} {entries : List (Value × Value)} {p : Value × Value}
      (form : (g.shape r).form = .map key value) (mem : p ∈ entries)
      (notNull : p.2.isNull = false) (part : Misfit g value p.2) : Misfit g r (.dict entries)
  | member {r : g.Ref} {members : List (Member g.size)} {v x : Value} {m : Member g.size}
      (form : (g.shape r).form = .struct members) (mem : m ∈ members)
      (some : v.get? m.name = some x) (notNull : x.isNull = false) (part : Misfit g m.shape x) :
      Misfit g r v

variable {c : Codec} {g : Graph}

theorem Misfit.kind_ne_scalar {r : g.Ref} {v : Value} (h : Misfit g r v) (k : ScalarKind) :
    (g.shape r).kind ≠ .scalar k := by
  cases h <;> simp [Shape.kind, Form.kind, *]

/-- A shape that is no scalar has no text. -/
theorem Scalar.toText_ne_ok {format : TimestampFormat} {name : String} {kind : ShapeKind}
    (h : ∀ k, kind ≠ .scalar k) (v : Value) (s : String) :
    Scalar.toText format name kind v ≠ .ok s := by
  cases kind with
  | scalar k => exact absurd rfl (h k)
  | _ => nofun

/-! ### Views -/

section Views

variable {ρ : Type} (f : Value → ρ)

theorem member?_view_of_present {v x : Value} {name : String} (hx : v.get? name = some x)
    (notNull : x.isNull = false) : (v.view f).member? name = some (x, f x) := by
  rw [Value.member?_view, hx, Option.filter_some, notNull, Bool.not_false, if_pos rfl]
  rfl

theorem entries?_view_of_not_mapping {v : Value} (h : v.isMapping = false) :
    (v.view f).entries? = none := by
  rw [View.entries?]
  exact if_neg (by rw [Value.view, h]; exact Bool.false_ne_true)

theorem entries?_view_dict (entries : List (Value × Value)) :
    ((Value.dict entries).view f).entries? = some (entries.map fun p => (p.1, p.2, f p.2)) := rfl

end Views

/-! ### JSON bodies -/

namespace JsonBody

theorem writeMembers_ne_ok {members : List (Member g.size)} {v x : Value} {m : Member g.size}
    (hm : m ∈ members) (hx : v.get? m.name = some x) (notNull : x.isNull = false)
    (h : ∀ d, write c g x m.shape ≠ .ok d) (d : Value) :
    writeMembers c g members (v.view (write c g)) ≠ .ok d := by
  intro hd
  obtain ⟨entries, hentries, -⟩ := exists_of_map hd
  obtain ⟨before, after, hstep⟩ := exists_of_foldlM hentries hm
  rw [writeMember, member?_view_of_present _ hx notNull] at hstep
  obtain ⟨_, -, hstep⟩ := exists_of_bind hstep
  obtain ⟨d, hwrite, -⟩ := exists_of_bind hstep
  exact h d hwrite

/-- A value with a wrong container has no document. -/
theorem write_ne_ok {r : g.Ref} {v : Value} (h : Misfit g r v) (d : Value) :
    write c g v r ≠ .ok d := by
  -- The induction is on the way to the wrong container, along which each step needs the next.
  induction h generalizing d with
  | list form none =>
    rw [write_eq, writeView]
    simp only [form, items?_view, none]
    intro h
    cases h
  | item form some mem part ih =>
    intro hd
    rw [write_eq, writeView] at hd
    simp only [form, items?_view, some, Option.map_some] at hd
    obtain ⟨_, -, hd⟩ := exists_of_bind hd
    obtain ⟨ds, hitems, -⟩ := exists_of_bind hd
    obtain ⟨d', hd'⟩ := exists_of_mapM hitems (List.mem_map_of_mem mem)
    exact ih d' hd'
  | map form none =>
    rw [write_eq, writeView]
    simp only [form, entries?_view_of_not_mapping _ none]
    intro h
    cases h
  | @entry r key value entries p form mem notNull part ih =>
    intro hd
    rw [write_eq, writeView] at hd
    simp only [form, entries?_view_dict] at hd
    obtain ⟨_, -, hd⟩ := exists_of_bind hd
    obtain ⟨ds, hentries, -⟩ := exists_of_bind hd
    have hp : (p.1, p.2, write c g p.2) ∈ (entries.map fun p => (p.1, p.2, write c g p.2)).filter
        fun p => !p.2.1.isNull :=
      List.mem_filter.mpr ⟨List.mem_map_of_mem mem, by simp only [notNull, Bool.not_false]⟩
    obtain ⟨q, hq⟩ := exists_of_mapM hentries hp
    rw [writeEntry] at hq
    obtain ⟨_, -, hq⟩ := exists_of_bind hq
    obtain ⟨d', hd', -⟩ := exists_of_bind hq
    exact ih d' hd'
  | member form mem some notNull part ih =>
    rw [write_eq, writeView]
    simp only [form]
    exact writeMembers_ne_ok mem some notNull ih d

end JsonBody

/-! ### XML bodies -/

namespace XmlBody

open ServiceWire.Xml (Element)

/-- A member that has no attribute and no elements is not written. -/
theorem writeMembers_ne_ok {members : List (Member g.size)} {v x : Value} {m : Member g.size}
    (hm : m ∈ members) (hx : v.get? m.name = some x) (notNull : x.isNull = false)
    (kind : ∀ k, (g.shape m.shape).kind ≠ .scalar k)
    (h : ∀ tag es, (write c g x).inside m.shape tag ≠ .ok es) (tag : Value) (e : Element) :
    writeMembers g members tag (v.view (write c g)) ≠ .ok e := by
  intro he
  obtain ⟨acc, hacc, -⟩ := exists_of_map he
  obtain ⟨before, after, hstep⟩ := exists_of_foldlM hacc hm
  rw [writeMember, member?_view_of_present _ hx notNull] at hstep
  cases hattribute : m.xmlAttribute with
  | true =>
    simp only [hattribute, if_true] at hstep
    obtain ⟨text, htext, -⟩ := exists_of_bind hstep
    exact Scalar.toText_ne_ok kind x text (exists_of_mapError htext)
  | false =>
    simp only [hattribute, Bool.false_eq_true, if_false] at hstep
    obtain ⟨es, hes, -⟩ := exists_of_bind hstep
    exact h m.wireName es hes

theorem mapM_writeEntry_ne_ok {s : Shape g.size} {value : g.Ref} {tag : Value}
    {entries : List (Value × Value)} {p : Value × Value} (hp : p ∈ entries)
    (h : ∀ tag e, (write c g p.2).element value tag ≠ .ok e) (es : List Element) :
    (entries.map fun p => (p.1, p.2, write c g p.2)).mapM (writeEntry c g s value tag) ≠
      .ok es := by
  intro hes
  obtain ⟨e, he⟩ := exists_of_mapM hes (List.mem_map_of_mem hp)
  rw [writeEntry] at he
  obtain ⟨_, -, he⟩ := exists_of_bind he
  obtain ⟨_, -, he⟩ := exists_of_bind he
  obtain ⟨e', he', -⟩ := exists_of_bind he
  exact h s.valueTag e' he'

/-- What stands inside a structure is written as an element, or its parts are written without it. -/
theorem exists_of_inside {r : g.Ref} {v tag : Value} {es : List Element}
    (h : (write c g v).inside r tag = .ok es) :
    (∃ e, (write c g v).element r tag = .ok e) ∨
    (∃ item items, (g.shape r).form = .list item ∧
      itemsFor g (g.shape r) (v.view (write c g)) = .ok items ∧
      ∀ p ∈ items, ∃ e, p.2.element item tag = .ok e) ∨
    ∃ key value entries, (g.shape r).form = .map key value ∧
      entriesFor g (g.shape r) (v.view (write c g)) = .ok entries ∧
      entries.mapM (writeEntry c g (g.shape r) value tag) = .ok es := by
  rw [inside_eq, writeInside] at h
  split at h
  · next item _ form =>
    obtain ⟨items, hitems, h⟩ := exists_of_bind h
    refine .inr (.inl ⟨item, items, form, hitems, fun p hp => ?_⟩)
    obtain ⟨e, he⟩ := exists_of_mapM h hp
    obtain ⟨_, -, he⟩ := exists_of_bind he
    exact ⟨e, he⟩
  · next key value _ form =>
    obtain ⟨entries, hentries, h⟩ := exists_of_bind h
    exact .inr (.inr ⟨key, value, entries, form, hentries, h⟩)
  · obtain ⟨_, -, h⟩ := exists_of_bind h
    obtain ⟨e, he, -⟩ := exists_of_bind h
    rw [element_eq]
    exact .inl ⟨e, he⟩

/-- Neither an element nor anything inside a structure is written for a value. -/
def Unwritten (c : Codec) (g : Graph) (r : g.Ref) (v : Value) : Prop :=
  (∀ tag e, (write c g v).element r tag ≠ .ok e) ∧ ∀ tag es, (write c g v).inside r tag ≠ .ok es

/-- What has no element for one of its parts has none itself, flattened or not. -/
theorem unwritten_of_list {r item : g.Ref} {v : Value} (form : (g.shape r).form = .list item)
    (h : ∀ items, itemsFor g (g.shape r) (v.view (write c g)) = .ok items →
      ∃ p ∈ items, ∀ tag e, p.2.element item tag ≠ .ok e) : Unwritten c g r v := by
  have helement (tag : Value) (e : Element) : (write c g v).element r tag ≠ .ok e := by
    intro he
    rw [element_eq, writeElement] at he
    simp only [form] at he
    obtain ⟨items, hitems, he⟩ := exists_of_bind he
    obtain ⟨_, -, he⟩ := exists_of_bind he
    obtain ⟨es, hes, -⟩ := exists_of_bind he
    obtain ⟨p, hp, hnone⟩ := h items hitems
    obtain ⟨e', he'⟩ := exists_of_mapM hes hp
    exact hnone _ e' he'
  refine ⟨helement, fun tag es hes => ?_⟩
  rcases exists_of_inside hes with
    ⟨e, he⟩ | ⟨item', items, form', hitems, hall⟩ | ⟨_, _, _, form', _⟩
  · exact helement tag e he
  · rw [form] at form'
    obtain rfl : item = item' := Form.list.inj form'
    obtain ⟨p, hp, hnone⟩ := h items hitems
    obtain ⟨e, he⟩ := hall p hp
    exact hnone tag e he
  · rw [form] at form'
    cases form'

theorem unwritten_of_map {r key value : g.Ref} {v : Value}
    (form : (g.shape r).form = .map key value)
    (h : ∀ entries, entriesFor g (g.shape r) (v.view (write c g)) = .ok entries →
      ∀ tag es, entries.mapM (writeEntry c g (g.shape r) value tag) ≠ .ok es) :
    Unwritten c g r v := by
  have helement (tag : Value) (e : Element) : (write c g v).element r tag ≠ .ok e := by
    intro he
    rw [element_eq, writeElement] at he
    simp only [form] at he
    obtain ⟨entries, hentries, he⟩ := exists_of_bind he
    obtain ⟨es, hes, -⟩ := exists_of_bind he
    exact h entries hentries _ es hes
  refine ⟨helement, fun tag es hes => ?_⟩
  rcases exists_of_inside hes with
    ⟨e, he⟩ | ⟨_, _, form', _⟩ | ⟨_, _, entries, form', hentries, hall⟩
  · exact helement tag e he
  · rw [form] at form'
    cases form'
  · rw [form] at form'
    cases form'
    exact h entries hentries tag es hall

theorem unwritten_of_struct {r : g.Ref} {members : List (Member g.size)} {v : Value}
    (form : (g.shape r).form = .struct members)
    (h : ∀ tag e, writeMembers g members tag (v.view (write c g)) ≠ .ok e) : Unwritten c g r v := by
  have helement (tag : Value) (e : Element) : (write c g v).element r tag ≠ .ok e := by
    rw [element_eq, writeElement]
    simp only [form]
    exact h tag e
  refine ⟨helement, fun tag es hes => ?_⟩
  rcases exists_of_inside hes with ⟨e, he⟩ | ⟨_, _, form', _⟩ | ⟨_, _, _, form', _⟩
  · exact helement tag e he
  · rw [form] at form'
    cases form'
  · rw [form] at form'
    cases form'

/-- A value with a wrong container has no element. -/
theorem unwritten_of_misfit {r : g.Ref} {v : Value} (h : Misfit g r v) : Unwritten c g r v := by
  induction h with
  | list form none =>
    refine unwritten_of_list form fun items hitems => ?_
    rw [itemsFor, items?_view, none] at hitems
    cases hitems
  | @item r item v x items form some mem part ih =>
    refine unwritten_of_list form fun items' hitems => ?_
    rw [itemsFor, items?_view, some] at hitems
    obtain rfl := Except.ok.inj hitems
    exact ⟨(x, write c g x), List.mem_map_of_mem mem, ih.1⟩
  | map form none =>
    refine unwritten_of_map form fun entries hentries => ?_
    rw [entriesFor, entries?_view_of_not_mapping _ none] at hentries
    cases hentries
  | entry form mem notNull part ih =>
    refine unwritten_of_map form fun entries hentries tag es => ?_
    rw [entriesFor, entries?_view_dict] at hentries
    obtain rfl := Except.ok.inj hentries
    exact mapM_writeEntry_ne_ok mem ih.1 es
  | member form mem some notNull part ih =>
    exact unwritten_of_struct form
      (writeMembers_ne_ok mem some notNull part.kind_ne_scalar ih.2)

end XmlBody

/-! ### Form bodies -/

namespace FormBody

theorem writeMembers_ne_ok {members : List (Member g.size)} {v x path : Value} {m : Member g.size}
    (hm : m ∈ members) (hx : v.get? m.name = some x) (notNull : x.isNull = false)
    (h : ∀ path ps, write c g x m.shape path ≠ .ok ps) (ps : Params) :
    writeMembers c g members path (v.view (write c g)) ≠ .ok ps := by
  intro hps
  obtain ⟨parts, hparts, -⟩ := exists_of_map hps
  obtain ⟨part, hstep⟩ := exists_of_mapM hparts hm
  rw [writeMember, member?_view_of_present _ hx notNull] at hstep
  obtain ⟨_, -, hstep⟩ := exists_of_bind hstep
  exact h _ part hstep

/-- The items of a list have parameters only if each has some. -/
theorem exists_of_writeItems {item : g.Ref} {path : Value} {i : Nat}
    {items : List (Value × Writing g)} {ps : Params} (h : writeItems g item path i items = .ok ps)
    {p : Value × Writing g} (hp : p ∈ items) : ∃ path' ps', p.2 item path' = .ok ps' := by
  induction items generalizing i ps with
  | nil => cases hp
  | cons first rest ih =>
    rw [writeItems] at h
    obtain ⟨ps', hfirst, h⟩ := exists_of_bind h
    obtain ⟨others, hrest, -⟩ := exists_of_bind h
    rcases List.mem_cons.mp hp with rfl | hp
    · exact ⟨_, ps', hfirst⟩
    · exact ih hrest hp

/-- The entries of a map have parameters only if the value of each has some. -/
theorem exists_of_writeEntries {s : Shape g.size} {value : g.Ref} {path : Value} {i : Nat}
    {entries : List (Value × Value × Writing g)} {ps : Params}
    (h : writeEntries g s value path i entries = .ok ps) {p : Value × Value × Writing g}
    (hp : p ∈ entries) : ∃ path' ps', p.2.2 value path' = .ok ps' := by
  induction entries generalizing i ps with
  | nil => cases hp
  | cons first rest ih =>
    rw [writeEntries] at h
    obtain ⟨_, -, h⟩ := exists_of_bind h
    obtain ⟨ps', hfirst, h⟩ := exists_of_bind h
    obtain ⟨others, hrest, -⟩ := exists_of_bind h
    rcases List.mem_cons.mp hp with rfl | hp
    · exact ⟨_, ps', hfirst⟩
    · exact ih hrest hp

/-- A value with a wrong container has no parameters. -/
theorem write_ne_ok {r : g.Ref} {v : Value} (h : Misfit g r v) (path : Value) (ps : Params) :
    write c g v r path ≠ .ok ps := by
  induction h generalizing path ps with
  | list form none =>
    rw [write_eq, writeView]
    simp only [form, items?_view, none]
    intro h
    cases h
  | item form some mem part ih =>
    intro hps
    rw [write_eq, writeView] at hps
    simp only [form, items?_view, some, Option.map_some] at hps
    split at hps
    · next hnone => cases hnone
    · next hnil =>
      rw [List.map_eq_nil_iff.mp (Option.some.inj hnil)] at mem
      cases mem
    · next hitems =>
      obtain rfl := Option.some.inj hitems
      obtain ⟨_, -, hps⟩ := exists_of_bind hps
      obtain ⟨path', ps', hx⟩ := exists_of_writeItems hps (List.mem_map_of_mem mem)
      exact ih path' ps' hx
  | map form none =>
    rw [write_eq, writeView]
    simp only [form, entries?_view_of_not_mapping _ none]
    intro h
    cases h
  | entry form mem notNull part ih =>
    intro hps
    rw [write_eq, writeView] at hps
    simp only [form, entries?_view_dict] at hps
    obtain ⟨_, -, hps⟩ := exists_of_bind hps
    obtain ⟨path', ps', hx⟩ := exists_of_writeEntries hps (List.mem_map_of_mem mem)
    exact ih path' ps' hx
  | member form mem some notNull part ih =>
    rw [write_eq, writeView]
    simp only [form]
    exact writeMembers_ne_ok mem some notNull ih ps

end FormBody

end ServiceWire
