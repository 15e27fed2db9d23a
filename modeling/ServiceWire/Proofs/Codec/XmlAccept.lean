import ServiceWire.Proofs.Codec.Verdict
import ServiceWire.Proofs.Codec.XmlRoundTrip
import ServiceWire.Proofs.Codec.XmlSound

/-!
# What is read from an element and can be written

The writer takes every value that the reader makes of an element with complete entries. Of the nulls
that stand for missing values it takes those in the place of a structure, which becomes an empty
element, and no others. So a value that was read is written if and only if it is `Sparse` with gaps
for structures alone.
-/

namespace ServiceWire

theorem verdict_eq_ok_iff {ε α : Type} {x : Except ε α} :
    verdict x = .ok () ↔ ∃ a, x = .ok a := by
  cases x with
  | error e => exact ⟨fun h => (by cases h), fun ⟨_, h⟩ => by cases h⟩
  | ok a => exact ⟨fun _ => ⟨a, rfl⟩, fun _ => rfl⟩

theorem forM_eq_ok_iff {ε α : Type} {step : α → Except ε Unit} {items : List α} :
    forM items step = .ok () ↔ ∀ a ∈ items, step a = .ok () := by
  induction items with
  | nil => exact ⟨fun _ => List.forall_mem_nil _, fun _ => rfl⟩
  | cons a rest ih =>
    rw [List.forM_cons, List.forall_mem_cons]
    constructor
    · intro h
      obtain ⟨⟨⟩, ha, hrest⟩ := exists_of_bind h
      exact ⟨ha, ih.mp hrest⟩
    · rintro ⟨ha, hrest⟩
      rw [ha, ok_bind]
      exact ih.mpr hrest

namespace XmlBody

open ServiceWire.Xml (Element)

variable {g : Graph} {gaps : g.Ref → Prop} {notes : Bool} {ns : Value}

/-! ### Values with gaps, form by form -/

theorem Sparse.struct_iff {r : g.Ref} {members : List (Member g.size)}
    {fields : List (String × Value)} (form : (g.shape r).form = .struct members)
    (h : Sparse g (fun _ => True) r (.ofFields fields)) :
    Sparse g gaps r (.ofFields fields) ↔
      ∀ p ∈ fields, ∀ m ∈ members, m.name = p.1 → Sparse g gaps m.shape p.2 := by
  generalize hv : Value.ofFields fields = v at h ⊢
  constructor
  · intro hs
    cases hs with
    | struct form' _ _ _ each =>
      rw [form] at form'
      cases form'
      obtain rfl := Value.ofFields_injective hv
      exact each
    | list form' | map form' | scalar form' =>
      rw [form] at form'
      cases form'
  · intro each
    cases h with
    | struct form' names known keys _ =>
      rw [form] at form'
      cases form'
      obtain rfl := Value.ofFields_injective hv
      exact .struct form names known keys each
    | list form' | map form' | scalar form' =>
      rw [form] at form'
      cases form'

theorem Sparse.list_iff {r item : g.Ref} (form : (g.shape r).form = .list item)
    (items : List Value) :
    Sparse g gaps r (.list items) ↔ ∀ v ∈ items, Sparse g gaps item v := by
  refine ⟨fun hs => ?_, .list form⟩
  generalize hv : Value.list items = v at hs
  cases hs with
  | list form' each =>
    rw [form] at form'
    cases form'
    cases hv
    exact each
  | struct form' | map form' | scalar form' =>
    rw [form] at form'
    cases form'

theorem Sparse.map_iff {r key value : g.Ref} (form : (g.shape r).form = .map key value)
    {fields : List (String × Value)} (names : (fields.map Prod.fst).Nodup) :
    Sparse g gaps r (.ofFields fields) ↔
      ∀ p ∈ fields, (p.2.isNull = true → gaps value) ∧
        (p.2.isNull = false → Sparse g gaps value p.2) := by
  constructor
  · intro hs
    generalize hv : Value.ofFields fields = v at hs
    cases hs with
    | map form' _ missing each =>
      rw [form] at form'
      cases form'
      obtain rfl := Value.ofFields_injective hv
      exact fun p hp => ⟨missing p hp, each p hp⟩
    | struct form' | list form' | scalar form' =>
      rw [form] at form'
      cases form'
  · exact fun h => .map form names (fun p hp => (h p hp).1) fun p hp => (h p hp).2

theorem Sparse.scalar_iff {r : g.Ref} {kind : ScalarKind} (form : (g.shape r).form = .scalar kind)
    (v : Value) : Sparse g gaps r v ↔ Scalar.OfKind kind v := by
  refine ⟨fun hs => ?_, .scalar form⟩
  cases hs with
  | scalar form' typed =>
    rw [form] at form'
    cases form'
    exact typed
  | struct form' | list form' | map form' =>
    rw [form] at form'
    cases form'

/-! ### Verdicts on what was read -/

/-- A shape is a structure. -/
def Structured (g : Graph) (r : g.Ref) : Prop := ∃ members, (g.shape r).form = .struct members

/-- A null is written in the place of a structure alone. -/
theorem verdict_element_null (r : g.Ref) (tag : Value) :
    verdict ((write (.complete .xml notes ns) g .null).element r tag) = .ok () ↔
      Structured g r := by
  rw [element_eq, writeElement]
  cases form : (g.shape r).form with
  | struct members =>
    simp only [writeMembers, verdict_map]
    rw [@verdict_foldlM _ _ _ _ fun _ => .ok (), forM_eq_ok_iff]
    · exact ⟨fun _ => ⟨members, form⟩, fun _ _ _ => rfl⟩
    · exact fun m _ acc => rfl
  | list item | map key value =>
    constructor
    · intro h
      cases h
    · rintro ⟨members, h⟩
      rw [form] at h
      cases h
  | scalar kind =>
    constructor
    · intro h
      cases kind <;> cases h
    · rintro ⟨members, h⟩
      rw [form] at h
      cases h

/-- What stands alone inside a structure is written there if and only if its element is. -/
theorem verdict_inside_of_standsAlone {r : g.Ref} (hs : StandsAlone (g.shape r)) (v tag : Value) :
    verdict ((write (.complete .xml notes ns) g v).inside r tag) =
      verdict ((write (.complete .xml notes ns) g v).element r tag) := by
  rw [inside_eq, element_eq, writeInside_of_standsAlone hs, Codec.needWriter_complete]
  exact verdict_bind_ok fun e => ⟨_, rfl⟩

theorem standsAlone_of_not_flattened {s : Shape g.size} (h : s.flattened = false) :
    StandsAlone s := by
  intro hflat
  rw [h] at hflat
  cases hflat

theorem verdict_writeEntry_str (s : Shape g.size) (value : g.Ref) (tag : Value)
    (p : String × Value) :
    verdict (writeEntry (.complete .xml notes ns) g s value tag
      (.str p.1, p.2, write (.complete .xml notes ns) g p.2)) =
        verdict ((write (.complete .xml notes ns) g p.2).element value s.valueTag) := by
  simp only [writeEntry, Scalar.string, Except.mapError, ok_bind, Codec.needWriter_complete]
  exact verdict_bind_ok fun e => ⟨_, rfl⟩

/-- The writer's verdict on a value, as an element and inside one, is that it has gaps for
structures alone. -/
structure Judged (notes : Bool) (ns : Value) (r : g.Ref) (v : Value) : Prop where
  element : ∀ tag, verdict ((write (.complete .xml notes ns) g v).element r tag) = .ok () ↔
    Sparse g (Structured g) r v
  inside : ∀ tag, verdict ((write (.complete .xml notes ns) g v).inside r tag) = .ok () ↔
    Sparse g (Structured g) r v

theorem judged_of_element {r : g.Ref} {v : Value}
    (alone : (∃ members, (g.shape r).form = .struct members) ∨
      ∃ kind, (g.shape r).form = .scalar kind)
    (h : ∀ tag, verdict ((write (.complete .xml notes ns) g v).element r tag) = .ok () ↔
      Sparse g (Structured g) r v) : Judged notes ns r v :=
  ⟨h, fun tag => by rw [verdict_inside_of_standsAlone fun _ => alone]; exact h tag⟩

theorem judged_scalar {r : g.Ref} {kind : ScalarKind} {v : Value}
    (form : (g.shape r).form = .scalar kind) (typed : Scalar.OfKind kind v) :
    Judged notes ns r v := by
  refine judged_of_element (.inr ⟨kind, form⟩) fun tag => ?_
  obtain ⟨s, hs⟩ := Scalar.exists_textOf typed .iso8601
  rw [element_eq, writeElement]
  simp only [form, Value.whole_view, hs]
  exact ⟨fun _ => .scalar form typed, fun _ => rfl⟩

theorem judged_list {r item : g.Ref} {items : List Value} (form : (g.shape r).form = .list item)
    (h : ∀ v ∈ items, Judged notes ns item v) : Judged notes ns r (.list items) := by
  have hitems : ∀ tag, verdict (items.mapM fun v =>
      (write (.complete .xml notes ns) g v).element item tag) = .ok () ↔
        Sparse g (Structured g) r (.list items) := fun tag => by
    rw [verdict_mapM, forM_eq_ok_iff, Sparse.list_iff form]
    exact forall₂_congr fun v hv => (h v hv).element tag
  have helement : ∀ tag, verdict ((write (.complete .xml notes ns) g (.list items)).element r
      tag) = .ok () ↔ Sparse g (Structured g) r (.list items) := fun tag => by
    rw [← hitems (g.shape r).itemTag, element_eq, writeElement]
    simp only [form, itemsFor, Value.items?_view_list, Codec.needWriter_complete, ok_bind,
      List.mapM_map, Function.comp_def]
    rw [verdict_bind_ok (f := fun es => pure (parentElement tag es)) fun es => ⟨_, rfl⟩]
  refine ⟨helement, fun tag => ?_⟩
  cases hflat : (g.shape r).flattened with
  | false =>
    rw [verdict_inside_of_standsAlone (standsAlone_of_not_flattened hflat)]
    exact helement tag
  | true =>
    rw [← hitems tag, inside_eq, writeInside]
    simp only [hflat, form, itemsFor, Value.items?_view_list, Codec.needWriter_complete, ok_bind,
      List.mapM_map, Function.comp_def]

theorem judged_map {r key value : g.Ref} {fields : List (String × Value)}
    (form : (g.shape r).form = .map key value) (names : (fields.map Prod.fst).Nodup)
    (h : ∀ p ∈ fields, p.2.isNull = false → Judged notes ns value p.2) :
    Judged notes ns r (.ofFields fields) := by
  have hentries : ∀ tag, verdict (fields.mapM fun p =>
      writeEntry (.complete .xml notes ns) g (g.shape r) value tag
        (.str p.1, p.2, write (.complete .xml notes ns) g p.2)) = .ok () ↔
          Sparse g (Structured g) r (.ofFields fields) := fun tag => by
    rw [verdict_mapM, forM_eq_ok_iff, Sparse.map_iff form names]
    refine forall₂_congr fun p hp => ?_
    rw [verdict_writeEntry_str]
    cases hnull : p.2.isNull with
    | false =>
      rw [(h p hp hnull).element]
      simp
    | true =>
      rw [Value.eq_null_of_isNull hnull, verdict_element_null]
      simp
  have helement : ∀ tag, verdict ((write (.complete .xml notes ns) g (.ofFields fields)).element r
      tag) = .ok () ↔ Sparse g (Structured g) r (.ofFields fields) := fun tag => by
    rw [← hentries (.str "entry"), element_eq, writeElement]
    simp only [form, entriesFor, Value.entries?_view_ofFields, ok_bind, List.mapM_map,
      Function.comp_def]
    rw [verdict_bind_ok (f := fun es => pure (parentElement tag es)) fun es => ⟨_, rfl⟩]
  refine ⟨helement, fun tag => ?_⟩
  cases hflat : (g.shape r).flattened with
  | false =>
    rw [verdict_inside_of_standsAlone (standsAlone_of_not_flattened hflat)]
    exact helement tag
  | true =>
    rw [← hentries tag, inside_eq, writeInside]
    simp only [hflat, form, entriesFor, Value.entries?_view_ofFields, ok_bind, List.mapM_map,
      Function.comp_def]

/-- What is written of a member that a structure has, apart from what it becomes. -/
theorem verdict_writeMember {fields : List (String × Value)}
    (notNull : ∀ p ∈ fields, p.2.isNull = false) (m : Member g.size)
    (acc : List (Value × Value) × List Element) :
    verdict (writeMember g ((Value.ofFields fields).view (write (.complete .xml notes ns) g)) acc
        m) = match fields.lookup m.name with
      | none => .ok ()
      | some v =>
        if m.xmlAttribute then
          verdict ((Scalar.toText .iso8601 (g.shape m.shape).name (g.shape m.shape).kind
            v).mapError Fault.failure) >>= fun _ =>
              verdict (m.wireName.asKey.mapError Fault.failure)
        else verdict ((write (.complete .xml notes ns) g v).inside m.shape m.wireName) := by
  rw [writeMember, Value.member?_view_ofFields _ notNull]
  cases fields.lookup m.name with
  | none => rfl
  | some v =>
    simp only [Option.map_some]
    split
    · exact verdict_bind fun text => verdict_bind_ok fun name => ⟨_, rfl⟩
    · exact verdict_bind_ok fun es => ⟨_, rfl⟩

theorem judged_struct {r : g.Ref} {members : List (Member g.size)}
    {fields : List (String × Value)} (form : (g.shape r).form = .struct members)
    (sparse : Sparse g (fun _ => True) r (.ofFields fields))
    (names : (fields.map Prod.fst).Nodup)
    (keys : ∀ p ∈ fields, ∀ m ∈ members, m.name = p.1 → m.xmlAttribute = true →
      m.wireName.isKey = true)
    (scalars : ∀ m ∈ members, m.xmlAttribute = true →
      ∃ kind, (g.shape m.shape).form = .scalar kind)
    (notNull : ∀ p ∈ fields, p.2.isNull = false)
    (h : ∀ p ∈ fields, ∀ m ∈ members, m.name = p.1 → Judged notes ns m.shape p.2) :
    Judged notes ns r (.ofFields fields) := by
  refine judged_of_element (.inl ⟨members, form⟩) fun tag => ?_
  have heach := (Sparse.struct_iff form sparse).mp sparse
  rw [element_eq, writeElement, Sparse.struct_iff form sparse]
  simp only [form, writeMembers, verdict_map]
  rw [verdict_foldlM fun m _ acc => verdict_writeMember notNull m acc, forM_eq_ok_iff]
  have hmember : ∀ m ∈ members, ∀ v, (m.name, v) ∈ fields →
      ((if m.xmlAttribute then
          verdict ((Scalar.toText .iso8601 (g.shape m.shape).name (g.shape m.shape).kind
            v).mapError Fault.failure) >>= fun _ =>
              verdict (m.wireName.asKey.mapError Fault.failure)
        else verdict ((write (.complete .xml notes ns) g v).inside m.shape m.wireName)) = .ok () ↔
          Sparse g (Structured g) m.shape v) := by
    intro m hm v hv
    cases hattr : m.xmlAttribute with
    | false => exact (h _ hv m hm rfl).inside m.wireName
    | true =>
      obtain ⟨kind, hkind⟩ := scalars m hm hattr
      have typed := (Sparse.scalar_iff hkind v).mp (heach _ hv m hm rfl)
      obtain ⟨s, hs⟩ := Scalar.exists_textOf typed .iso8601
      have htext : Scalar.toText .iso8601 (g.shape m.shape).name (g.shape m.shape).kind v =
          .ok s := by
        rw [Shape.kind, hkind]
        exact hs
      have hkey : m.wireName.asKey = .ok m.wireName := if_pos (keys _ hv m hm rfl hattr)
      rw [htext, hkey]
      exact ⟨fun _ => .scalar hkind typed, fun _ => rfl⟩
  constructor
  · intro hall p hp m hm hname
    have hstep := hall m hm
    rw [hname, Entries.lookup_of_mem names hp] at hstep
    exact (hmember m hm p.2 (by rwa [hname])).mp hstep
  · intro hall m hm
    cases hl : fields.lookup m.name with
    | none => rfl
    | some v =>
      have hv := Entries.mem_of_lookup hl
      exact (hmember m hm v hv).mpr (hall _ hv m hm rfl)

/-- Whatever is a value of a shape but for missing values is written if and only if only structures
are missing. -/
theorem judged_of_sparse (notes : Bool) (ns : Value)
    (scalars : ∀ r : g.Ref, ∀ m ∈ g.members r, m.xmlAttribute = true →
      ∃ kind, (g.shape m.shape).form = .scalar kind) {r : g.Ref} {v : Value}
    (h : Sparse g (fun _ => True) r v) : Judged notes ns r v := by
  induction h with
  | @struct r members fields form names known keys each ih =>
    have hscalars := scalars r
    rw [Graph.members, Shape.members, form] at hscalars
    refine judged_struct form (.struct form names known keys each) names keys hscalars
      (fun p hp => ?_) ih
    obtain ⟨m, hm, hname⟩ := known p hp
    exact (each p hp m hm hname).not_null
  | list form each ih => exact judged_list form ih
  | map form names missing each ih => exact judged_map form names ih
  | scalar form typed => exact judged_scalar form typed

/-- What is read of an element can be written if its entries are complete: it is a value of the
shape, without a null in it. Of all that is read, the writer takes what has nulls for values of
entries only in the place of structures. -/
theorem exists_toElement_of_ofElement (notes : Bool) (ns : Value) (hg : Writable g)
    {e : Element} (texts : e.Textual) {r : g.Ref} {v : Value}
    (h : (ofElement (.complete .xml notes ns) g e r).outcome = .ok v) :
    (Complete g (fun _ => False) (.shape r) e →
      WellTyped g (.none g) r v ∧ v.nullFree = true ∧
        ∀ tag, ∃ e', toElement (.complete .xml notes ns) g v r tag none = .ok e') ∧
      ∀ tag, (∃ e', toElement (.complete .xml notes ns) g v r tag none = .ok e') ↔
        Sparse g (Structured g) r v := by
  rw [ofElement_eq] at h
  have hsparse := soundAt_of_complete hg ((complete_of_textual texts).1 r) texts v h
  have hwritten : ∀ tag, (∃ e', toElement (.complete .xml notes ns) g v r tag none = .ok e') ↔
      Sparse g (Structured g) r v := fun tag => by
    rw [toElement_none, ← verdict_eq_ok_iff]
    exact (judged_of_sparse notes ns hg.scalars hsparse).element tag
  refine ⟨fun complete => ?_, hwritten⟩
  have hfull := soundAt_of_complete hg complete texts v h
  exact ⟨hfull.wellTyped, hfull.wellTyped.nullFree, fun tag =>
    (hwritten tag).mpr (hfull.mono fun _ hgap => hgap.elim)⟩

/-- A page with a number in an attribute and labels, which are texts under texts. -/
def labelled : Graph where
  size := 3
  shapes := #v[
    { name := "Page"
      form := .struct [{ name := "number", shape := ⟨2, by decide⟩, xmlAttribute := true },
        { name := "labels", shape := ⟨1, by decide⟩ }] },
    { name := "Labels", form := .map ⟨2, by decide⟩ ⟨2, by decide⟩ },
    { name := "Text", form := .scalar .string }]

/-- Labels with one entry, whose key is a colour, and with some elements beside the key. -/
def colourElement (others : List Element) : Element :=
  parentElement (.str "labels")
    [parentElement (.str "entry") (textElement (.str "key") "colour" :: others)]

/-- A page with a label, and with a child that no member stands for. -/
def pageElement : Element :=
  .node (.str "Page") [(.str "number", .str "7")] ""
    [textElement (.str "note") "", colourElement [textElement (.str "value") "red"]]

/-- What the page says. -/
def page : Value :=
  .ofFields [("number", .str "7"), ("labels", .ofFields [("colour", .str "red")])]

theorem writable_labelled : Writable labelled where
  plain := by decide
  alike := by decide
  scalars := by
    rintro ⟨_ | _ | _ | i, hi⟩ m hm hattr
    · rcases List.mem_cons.mp hm with rfl | hm
      · exact ⟨.string, rfl⟩
      · rw [List.mem_singleton.mp hm] at hattr
        cases hattr
    · cases hm
    · cases hm
    · exact absurd hi (Nat.not_lt.mpr (Nat.le_add_left 3 i))

theorem textual_textElement (tag : Value) (text : String) : (textElement tag text).Textual :=
  .node (List.forall_mem_nil _) (List.forall_mem_nil _)

theorem textual_pageElement : pageElement.Textual := by
  refine .node (List.forall_mem_singleton.mpr ⟨"7", rfl⟩) ?_
  refine List.forall_mem_cons.mpr ⟨textual_textElement _ _, List.forall_mem_singleton.mpr ?_⟩
  refine .node (List.forall_mem_nil _) (List.forall_mem_singleton.mpr ?_)
  refine .node (List.forall_mem_nil _) ?_
  exact List.forall_mem_cons.mpr ⟨textual_textElement _ _,
    List.forall_mem_singleton.mpr (textual_textElement _ _)⟩

theorem complete_colourElement :
    Complete labelled (fun _ => False) (.shape ⟨1, by decide⟩)
      (colourElement [textElement (.str "value") "red"]) := by
  refine .map rfl (List.forall_mem_singleton.mpr ?_)
  have hvalue : textElement (.str "value") "red" ∈ (parentElement (.str "entry")
      [textElement (.str "key") "colour", textElement (.str "value") "red"]).children :=
    List.mem_cons_of_mem _ (List.mem_singleton_self _)
  exact .entry rfl (.inr ⟨by decide, _, hvalue, by decide⟩) fun child _ _ => .scalar rfl

theorem complete_pageElement :
    Complete labelled (fun _ => False) (.shape ⟨0, by decide⟩) pageElement := by
  refine .struct rfl fun m hm child hchild hstands => ?_
  rcases List.mem_cons.mp hm with rfl | hm
  · cases hstands
  · obtain rfl := List.mem_singleton.mp hm
    rcases List.mem_cons.mp hchild with rfl | hchild
    · exact absurd hstands (by decide)
    · rw [List.mem_singleton.mp hchild]
      exact complete_colourElement

/-- A page whose label has a value is read and can be written. -/
theorem exists_toElement_of_ofElement_page :
    (ofElement (.complete .xml true .null) labelled pageElement ⟨0, by decide⟩).outcome =
        .ok page ∧
      page.nullFree = true ∧ ∃ e, toElement (.complete .xml true .null) labelled page
        ⟨0, by decide⟩ (.str "Page") none = .ok e := by
  have hread : (ofElement (.complete .xml true .null) labelled pageElement
      ⟨0, by decide⟩).outcome = .ok page := rfl
  obtain ⟨-, hnull, hwrite⟩ := (exists_toElement_of_ofElement true .null writable_labelled
    textual_pageElement hread).1 complete_pageElement
  exact ⟨hread, hnull, hwrite (.str "Page")⟩

/-- A label without a value is read as a null, which cannot be written. -/
theorem toElement_gap :
    (ofElement (.complete .xml true .null) labelled (colourElement [])
        ⟨1, by decide⟩).outcome = .ok (.ofFields [("colour", .null)]) ∧
      (Value.ofFields [("colour", .null)]).nullFree = false ∧
      toElement (.complete .xml true .null) labelled (.ofFields [("colour", .null)])
        ⟨1, by decide⟩ (.str "labels") none = .error (.failure (.expected "string" "NoneType")) :=
  ⟨rfl, rfl, rfl⟩

end XmlBody

end ServiceWire
