import ServiceWire.Proofs.Codec.JsonEdit
import ServiceWire.Proofs.Codec.JsonText
import ServiceWire.Proofs.Codec.Scalar
import ServiceWire.Proofs.Json.Keyed
import ServiceWire.Proofs.Shape.WellTyped

/-!
# What is read from a JSON document

A service may send anything: nulls in any place, fields that no member stands for, values of the
wrong type. What the reader makes of it, if it makes anything, is a value of the shape, and says
what the document says: a structure has the members that the document has values for and no others,
a list has the items that are not null, a map the entries that are not null, and so on inside.
`Mirrors` is this relation, which follows the document. Whatever mirrors a document is well-typed,
and the writer accepts it.
-/

namespace ServiceWire

namespace Json

theorem isNull_toValue (d : Json) : d.toValue.isNull = d.isNull := by
  cases d with
  | _ => rfl

/-- An object is a mapping with text keys. -/
theorem toValue_fields (fields : List (String × Json)) :
    (object fields).toValue = .ofFields (fields.map fun p => (p.1, p.2.toValue)) := by
  rw [toValue, toEntries_eq, Value.ofFields, List.map_map]
  rfl

theorem toValue_items (items : List Json) :
    (array items).toValue = .list (items.map toValue) := by
  rw [toValue, toValues_eq]

end Json

namespace JsonBody

/-! ### What a document says -/

/-- The fields of an object have a value for a member: under its name on the wire, and not null. -/
def Tells {n : Nat} (fields : List (String × Json)) (m : Member n) (d : Json) : Prop :=
  ∃ key, m.wireName = .str key ∧ (key, d) ∈ fields ∧ d.isNull = false

/-- A value of a shape says what a document says, at any depth. -/
inductive Mirrors (g : Graph) : g.Ref → Json → Value → Prop
  /-- A structure has exactly the members that the object has values for. -/
  | struct {r : g.Ref} {members : List (Member g.size)} {fields : List (String × Json)}
      {values : List (String × Value)} (form : (g.shape r).form = .struct members)
      (names : (values.map Prod.fst).Nodup)
      (present : ∀ name, name ∈ values.map Prod.fst ↔
        ∃ m ∈ members, m.name = name ∧ ∃ d, Tells fields m d)
      (each : ∀ m ∈ members, ∀ d, Tells fields m d → ∀ v, (m.name, v) ∈ values →
        Mirrors g m.shape d v) : Mirrors g r (.object fields) (.ofFields values)
  /-- A list has the items that are not null, in order. -/
  | list {r item : g.Ref} {items : List Json} {values : List Value}
      (form : (g.shape r).form = .list item)
      (length : (items.filter fun d => !d.isNull).length = values.length)
      (each : ∀ p ∈ (items.filter fun d => !d.isNull).zip values, Mirrors g item p.1 p.2) :
      Mirrors g r (.array items) (.list values)
  /-- A map has the entries that are not null, in order. -/
  | map {r key value : g.Ref} {fields : List (String × Json)} {values : List (String × Value)}
      (form : (g.shape r).form = .map key value) (names : (values.map Prod.fst).Nodup)
      (keys : (fields.filter fun p => !p.2.isNull).map Prod.fst = values.map Prod.fst)
      (each : ∀ p ∈ (fields.filter fun p => !p.2.isNull).zip values,
        Mirrors g value p.1.2 p.2.2) : Mirrors g r (.object fields) (.ofFields values)
  /-- A scalar is what its kind makes of the document. -/
  | scalar {r : g.Ref} {kind : ScalarKind} {d : Json} {v : Value}
      (form : (g.shape r).form = .scalar kind) (read : Scalar.ofDocument kind d.toValue = .ok v) :
      Mirrors g r d v

/-- Names on the wire whose texts are different are different. -/
theorem Distinct.nodup_wireNames {n : Nat} {s : Shape n} (h : Distinct s) :
    (s.members.map Member.wireName).Nodup := by
  refine List.Nodup.of_map Value.text ?_
  rw [List.map_map]
  exact h.wireNames

variable {c : Codec} {g : Graph}

/-! ### Structures -/

theorem memberOf_of_wireName {members : List (Member g.size)}
    (wireNames : (members.map Member.wireName).Nodup) {m : Member g.size} (hm : m ∈ members)
    {key : String} (h : m.wireName = .str key) : memberOf g members (.str key) = some m := by
  cases hfind : memberOf g members (.str key) with
  | none =>
    have hself := List.find?_eq_none.mp hfind m (List.mem_reverse.mpr hm)
    exact absurd ((Value.beq_str_iff _ _).mpr h) hself
  | some m' =>
    obtain ⟨hm', hkey⟩ := mem_of_memberOf hfind
    rw [List.inj_on_of_nodup_map wireNames hm' hm
      (((Value.beq_str_iff _ _).mp hkey).trans h.symm)]

/-- What an entry adds to a structure was read for the member it stands for. -/
theorem exists_of_fieldOf {members : List (Member g.size)} {p : Value × Value × Reader g}
    {q : String × Value} (h : fieldOf c g members p = some (.ok q)) :
    ∃ m, memberOf g members p.1 = some m ∧ p.2.1.isNull = false ∧ q.1 = m.name ∧
      (p.2.2 m.shape).outcome = .ok q.2 := by
  obtain ⟨m, hm, hname⟩ := name_of_fieldOf h
  refine ⟨m, hm, ?_⟩
  rw [fieldOf, hm] at h
  dsimp only at h
  split at h
  · cases h
  · rename_i hnull
    obtain ⟨-, -, h⟩ := exists_of_bind (Option.some.inj h)
    obtain ⟨v, hv, h⟩ := exists_of_bind h
    cases h
    exact ⟨Bool.eq_false_iff.mpr hnull, rfl, hv⟩

/-- The values of the members of a structure, as they are read from the fields of an object. -/
structure FieldsRead (c : Codec) (g : Graph) (members : List (Member g.size))
    (fields : List (String × Json)) (values : List (String × Value)) : Prop where
  names : (values.map Prod.fst).Nodup
  /-- Each value was read for a member from its field. -/
  source : ∀ p ∈ values, ∃ m ∈ members, m.name = p.1 ∧ ∃ d, Tells fields m d ∧
    (read c g d.toValue m.shape).outcome = .ok p.2
  /-- No field of a member was left out. -/
  total : ∀ m ∈ members, ∀ d, Tells fields m d → m.name ∈ values.map Prod.fst

theorem fieldsRead_of_readMembers {s : Shape g.size} {members : List (Member g.size)}
    (memberNames : (members.map Member.name).Nodup)
    (wireNames : (members.map Member.wireName).Nodup) {fields : List (String × Json)}
    (keys : (fields.map Prod.fst).Nodup) {values : List (String × Value)}
    (h : (readMembers c g s members
      ((Json.object fields).toValue.view (read c g))).outcome = .ok values) :
    FieldsRead c g members fields values := by
  rw [Json.toValue_fields, outcome_readMembers_ofFields] at h
  obtain ⟨-, -, h⟩ := exists_of_bind h
  obtain ⟨pairs, hpairs, rfl⟩ := exists_of_map h
  have hkeys : ((fields.map fun p => (p.1, p.2.toValue)).map Prod.fst).Nodup := by
    rw [List.map_map]
    exact keys
  have hnames := nodup_of_fieldsOf memberNames hkeys hpairs
  rw [Entries.ofPairs_eq_self hnames]
  refine ⟨hnames, fun p hp => ?_, fun m hm d hd => ?_⟩
  · obtain ⟨x, hx, hxp⟩ := exists_of_mem_mapM hpairs hp
    obtain ⟨entry, hentry, hfield⟩ := List.mem_filterMap.mp hx
    obtain ⟨q, hq, rfl⟩ := List.mem_map.mp hentry
    obtain ⟨m, hm, hnull, hname, hread⟩ := exists_of_fieldOf (hfield.trans (congrArg some hxp))
    obtain ⟨hmem, hkey⟩ := mem_of_memberOf hm
    rw [Json.isNull_toValue] at hnull
    exact ⟨m, hmem, hname.symm, q.2, ⟨q.1, (Value.beq_str_iff _ _).mp hkey, hq, hnull⟩, hread⟩
  · obtain ⟨key, hkey, hfield, hnull⟩ := hd
    have hm' : memberOf g members (.str key) = some m := memberOf_of_wireName wireNames hm hkey
    have hentry : (key, d.toValue) ∈ fields.map fun p => (p.1, p.2.toValue) :=
      List.mem_map.mpr ⟨_, hfield, rfl⟩
    have hsome : (fieldOf c g members (.str key, d.toValue, read c g d.toValue)).isSome = true := by
      rw [fieldOf, hm']
      dsimp only
      rw [Json.isNull_toValue, hnull, if_neg Bool.false_ne_true]
      rfl
    obtain ⟨x, hx⟩ := Option.isSome_iff_exists.mp hsome
    obtain ⟨q, hq, hxq⟩ := exists_of_forall₂_left (forall₂_of_mapM hpairs)
      (List.mem_filterMap.mpr ⟨_, hentry, hx⟩)
    obtain ⟨m', hm'', hname⟩ := name_of_fieldOf (hx.trans (congrArg some hxq))
    obtain rfl := Option.some.inj (hm'.symm.trans hm'')
    exact List.mem_map.mpr ⟨q, hq, hname⟩

/-! ### What is read -/

/-- Only an object is read as a mapping. -/
theorem exists_object_of_entries? {ρ : Type} {f : Value → ρ} {d : Json}
    {entries : List (Value × Value × ρ)} (h : (d.toValue.view f).entries? = some entries) :
    ∃ fields, d = .object fields := by
  cases d with
  | object fields => exact ⟨fields, rfl⟩
  | _ => cases h

/-- Only an array is read as a list. -/
theorem exists_array_of_listItems? {ρ : Type} {f : Value → ρ} {d : Json}
    {items : List (Value × ρ)} (h : (d.toValue.view f).listItems? = some items) :
    ∃ items, d = .array items := by
  cases d with
  | array items => exact ⟨items, rfl⟩
  | _ => cases h

/-- What is read from the parts of a document mirrors them. -/
def PartsMirror (c : Codec) (g : Graph) (d : Json) : Prop :=
  ∀ e ∈ d.parts, ∀ {r : g.Ref} {v : Value}, (read c g e.toValue r).outcome = .ok v →
    Mirrors g r e v

theorem mirrors_struct (plain : ∀ r : g.Ref, (g.shape r).construct = none) {r : g.Ref}
    {members : List (Member g.size)} (form : (g.shape r).form = .struct members)
    (memberNames : (members.map Member.name).Nodup)
    (wireNames : (members.map Member.wireName).Nodup) {d : Json} (keys : d.names.Nodup)
    (ih : PartsMirror c g d) {v : Value} (h : (read c g d.toValue r).outcome = .ok v) :
    Mirrors g r d v := by
  rw [read_struct plain form] at h
  obtain ⟨values, hvalues, rfl⟩ := exists_of_map h
  obtain ⟨fields, rfl⟩ : ∃ fields, d = .object fields := by
    cases hentries : (d.toValue.view (read c g)).entries? with
    | none =>
      rw [readMembers, hentries] at hvalues
      cases hvalues
    | some entries => exact exists_object_of_entries? hentries
  have hfields := fieldsRead_of_readMembers memberNames wireNames keys hvalues
  refine .struct form hfields.names (fun name => ⟨fun hname => ?_, ?_⟩) fun m hm d hd v hv => ?_
  · obtain ⟨p, hp, rfl⟩ := List.mem_map.mp hname
    obtain ⟨m, hm, hname, d, hd, -⟩ := hfields.source p hp
    exact ⟨m, hm, hname, d, hd⟩
  · rintro ⟨m, hm, rfl, d, hd⟩
    exact hfields.total m hm d hd
  · obtain ⟨m', hm', hname, d', hd', hread⟩ := hfields.source _ hv
    obtain rfl := List.inj_on_of_nodup_map memberNames hm' hm hname
    obtain ⟨key, hkey, hfield, -⟩ := hd
    obtain ⟨key', hkey', hfield', -⟩ := hd'
    obtain rfl : key = key' := Value.str.inj (hkey.symm.trans hkey')
    have heq := List.inj_on_of_nodup_map keys hfield hfield' rfl
    obtain rfl : d = d' := (Prod.mk.inj heq).2
    exact ih d (List.mem_map.mpr ⟨_, hfield, rfl⟩) hread

theorem mirrors_list {r item : g.Ref} (form : (g.shape r).form = .list item) {d : Json}
    (ih : PartsMirror c g d) {v : Value} (h : (read c g d.toValue r).outcome = .ok v) :
    Mirrors g r d v := by
  obtain ⟨items, rfl⟩ : ∃ items, d = .array items := by
    rw [read_eq, readView] at h
    simp only [form] at h
    split at h
    · cases h
    · rename_i hitems
      exact exists_array_of_listItems? hitems
  have hfilter : (items.map Json.toValue).filter (fun d => !d.isNull) =
      (items.filter fun d => !d.isNull).map Json.toValue := by
    rw [List.filter_map]
    simp only [Function.comp_def, Json.isNull_toValue]
  rw [Json.toValue_items, outcome_read_list form, hfilter, List.mapM_map] at h
  obtain ⟨-, -, h⟩ := exists_of_bind h
  obtain ⟨values, hvalues, rfl⟩ := exists_of_map h
  obtain ⟨length, each⟩ := List.forall₂_iff_zip.mp (forall₂_of_mapM hvalues)
  refine .list form length fun p hp => ih p.1 ?_ (each hp)
  exact List.mem_of_mem_filter (List.of_mem_zip hp).1

theorem mirrors_map {r key value : g.Ref} (form : (g.shape r).form = .map key value) {d : Json}
    (keys : d.names.Nodup) (ih : PartsMirror c g d) {v : Value}
    (h : (read c g d.toValue r).outcome = .ok v) : Mirrors g r d v := by
  obtain ⟨fields, rfl⟩ : ∃ fields, d = .object fields := by
    rw [read_eq, readView] at h
    simp only [form] at h
    split at h
    · cases h
    · rename_i hentries
      exact exists_object_of_entries? hentries
  have hfilter : (fields.map fun p => (p.1, p.2.toValue)).filter (fun p => !p.2.isNull) =
      (fields.filter fun p => !p.2.isNull).map fun p => (p.1, p.2.toValue) := by
    rw [List.filter_map]
    simp only [Function.comp_def, Json.isNull_toValue]
  rw [Json.toValue_fields, outcome_read_map form, hfilter] at h
  obtain ⟨-, -, h⟩ := exists_of_bind h
  obtain ⟨values, hvalues, rfl⟩ := exists_of_map h
  have hnames := names_of_mapM (f := fun d => (read c g d value).outcome) hvalues
  rw [List.map_map] at hnames
  have hnodup : (values.map Prod.fst).Nodup := by
    rw [hnames]
    exact keys.sublist (List.filter_sublist.map _)
  rw [List.mapM_map] at hvalues
  obtain ⟨-, each⟩ := List.forall₂_iff_zip.mp (forall₂_of_mapM hvalues)
  refine .map form hnodup hnames.symm fun p hp => ?_
  obtain ⟨w, hw, hpair⟩ := exists_of_map (each hp)
  have hmem := List.mem_of_mem_filter (List.of_mem_zip hp).1
  rw [← hpair]
  exact ih p.1.2 (List.mem_map.mpr ⟨_, hmem, rfl⟩) hw

/-- What is read from a document mirrors it. -/
theorem mirrors_of_read (plain : ∀ r : g.Ref, (g.shape r).construct = none)
    (names : ∀ r : g.Ref, ((g.members r).map Member.name).Nodup)
    (wireNames : ∀ r : g.Ref, ((g.members r).map Member.wireName).Nodup) {d : Json}
    (hd : d.Keyed) {r : g.Ref} {v : Value} (h : (read c g d.toValue r).outcome = .ok v) :
    Mirrors g r d v := by
  induction hd generalizing r v with
  | @intro d keys _ ih =>
    have hparts : PartsMirror c g d := fun e he _ _ h => ih e he h
    cases hform : (g.shape r).form with
    | struct members =>
      have hnames := names r
      have hwire := wireNames r
      rw [Graph.members, Shape.members, hform] at hnames hwire
      exact mirrors_struct plain hform hnames hwire keys hparts h
    | list item => exact mirrors_list hform hparts h
    | map key value => exact mirrors_map hform keys hparts h
    | scalar kind =>
      rw [read_eq, readView] at h
      simp only [hform, Value.whole_view] at h
      exact .scalar hform (exists_of_mapError h)

/-! ### What mirrors a document -/

/-- The members that a value has must have names on the wire that can be keys. -/
def writable (g : Graph) : Demands g where
  scalar _ _ := True
  member m _ := m.wireName.isKey = true

/-- What mirrors a document is a value of the shape. The names on the wire of its members are texts,
as all names in the document are. -/
theorem Mirrors.wellTyped (names : ∀ r : g.Ref, ((g.members r).map Member.name).Nodup)
    {r : g.Ref} {d : Json} {v : Value} (h : Mirrors g r d v) : WellTyped g (writable g) r v := by
  induction h with
  | @struct r members fields values form nodup present each ih =>
    have hnames := names r
    rw [Graph.members, Shape.members, form] at hnames
    have htold : ∀ p ∈ values, ∀ m ∈ members, m.name = p.1 → ∃ d, Tells fields m d := by
      intro p hp m hm hname
      obtain ⟨m', hm', hname', hd⟩ := (present p.1).mp (List.mem_map_of_mem hp)
      obtain rfl := List.inj_on_of_nodup_map hnames hm hm' (hname.trans hname'.symm)
      exact hd
    refine .struct form nodup (fun p hp => ?_) (fun p hp m hm hname => ?_)
      fun p hp m hm hname => ?_
    · obtain ⟨m, hm, hname, -⟩ := (present p.1).mp (List.mem_map_of_mem hp)
      exact ⟨m, hm, hname⟩
    · obtain ⟨d, hd⟩ := htold p hp m hm hname
      exact ih m hm d hd p.2 (by rwa [hname])
    · obtain ⟨d, key, hkey, -⟩ := htold p hp m hm hname
      show m.wireName.isKey = true
      rw [hkey, Value.isKey]
  | list form length each ih =>
    have hitems := (List.forall₂_iff_zip.mpr ⟨length, fun hp => ih _ hp⟩).flip
    refine .list form fun v hv => ?_
    obtain ⟨d, -, hd⟩ := exists_of_forall₂_left hitems hv
    exact hd
  | @map r key value fields values form nodup keys each ih =>
    have length : (fields.filter fun p => !p.2.isNull).length = values.length := by
      rw [← List.length_map, keys, List.length_map]
    have hentries := (List.forall₂_iff_zip.mpr ⟨length, fun hp => ih _ hp⟩).flip
    refine .map form nodup fun p hp => ?_
    obtain ⟨q, -, hq⟩ := exists_of_forall₂_left hentries hp
    exact hq
  | scalar form read => exact .scalar form (Scalar.ofKind_of_ofDocument read) trivial

section Written

variable (notes : Bool) (ns : Value)

theorem exists_write_struct {r : g.Ref} {members : List (Member g.size)}
    {fields : List (String × Value)} (form : (g.shape r).form = .struct members)
    (notNull : ∀ p ∈ fields, p.2.isNull = false)
    (keys : ∀ p ∈ fields, ∀ m ∈ members, m.name = p.1 → m.wireName.isKey = true)
    (ih : ∀ p ∈ fields, ∀ m ∈ members, m.name = p.1 →
      ∃ d, write (.complete .json notes ns) g p.2 m.shape = .ok d) :
    ∃ d, write (.complete .json notes ns) g (.ofFields fields) r = .ok d := by
  obtain ⟨entries, hentries⟩ : ∃ entries, members.foldlM (writeMember (.complete .json notes ns)
      g ((Value.ofFields fields).view (write (.complete .json notes ns) g))) [] =
        .ok entries := by
    refine exists_foldlM (fun m hm acc => ?_) []
    rw [writeMember, Value.member?_view_ofFields _ notNull]
    cases hl : fields.lookup m.name with
    | none => exact ⟨acc, rfl⟩
    | some x =>
      have hx := Entries.mem_of_lookup hl
      obtain ⟨d, hd⟩ := ih _ hx m hm rfl
      have hkey : m.wireName.asKey = .ok m.wireName := if_pos (keys _ hx m hm rfl)
      simp only [Option.map_some, Codec.needWriter_complete, ok_bind, hd, hkey, Except.mapError]
      exact ⟨_, rfl⟩
  refine ⟨.dict entries, ?_⟩
  rw [write_eq, writeView]
  simp only [form, writeMembers, hentries]
  rfl

theorem exists_write_list {r item : g.Ref} {items : List Value}
    (form : (g.shape r).form = .list item)
    (ih : ∀ v ∈ items, ∃ d, write (.complete .json notes ns) g v item = .ok d) :
    ∃ d, write (.complete .json notes ns) g (.list items) r = .ok d := by
  obtain ⟨ds, hds⟩ := exists_mapM ih
  refine ⟨.list ds, ?_⟩
  rw [write_eq, writeView]
  simp only [form, Value.items?_view_list, Codec.needWriter_complete, ok_bind, List.mapM_map,
    Function.comp_def, hds]
  rfl

theorem exists_write_map {r key value : g.Ref} {fields : List (String × Value)}
    (form : (g.shape r).form = .map key value) (notNull : ∀ p ∈ fields, p.2.isNull = false)
    (ih : ∀ p ∈ fields, ∃ d, write (.complete .json notes ns) g p.2 value = .ok d) :
    ∃ d, write (.complete .json notes ns) g (.ofFields fields) r = .ok d := by
  have hall : (fields.map fun p => (Value.str p.1, p.2,
      write (.complete .json notes ns) g p.2)).filter (fun p => !p.2.1.isNull) =
        fields.map fun p => (.str p.1, p.2, write (.complete .json notes ns) g p.2) :=
    filter_map_eq_map fun p hp => by rw [notNull p hp]; rfl
  obtain ⟨ds, hds⟩ : ∃ ds, fields.mapM (fun p => writeEntry g value
      (.str p.1, p.2, write (.complete .json notes ns) g p.2)) = .ok ds := by
    refine exists_mapM fun p hp => ?_
    obtain ⟨d, hd⟩ := ih p hp
    refine ⟨(.str p.1, d), ?_⟩
    simp only [writeEntry, Scalar.string, hd]
    rfl
  refine ⟨.dict ds, ?_⟩
  rw [write_eq, writeView]
  simp only [form, Value.entries?_view_ofFields, Codec.needWriter_complete, ok_bind, hall,
    List.mapM_map, Function.comp_def, hds]
  rfl

/-- Every value of a shape is written, if the names on the wire of its members can be keys. -/
theorem exists_write {r : g.Ref} {v : Value} (h : WellTyped g (writable g) r v) :
    ∃ d, write (.complete .json notes ns) g v r = .ok d := by
  induction h with
  | struct form names known typed demands ih =>
    exact exists_write_struct notes ns form (WellTyped.fields_not_null known typed) demands ih
  | list form typed ih => exact exists_write_list notes ns form ih
  | map form names typed ih =>
    exact exists_write_map notes ns form (fun p hp => (typed p hp).not_null) ih
  | scalar form typed =>
    obtain ⟨d, hd⟩ := Scalar.exists_toDocument typed
    refine ⟨d, ?_⟩
    rw [write_eq, writeView]
    simp only [form, Value.whole_view, hd]
    rfl

end Written

/-! ### Whole documents -/

/-- What is read from a document mirrors it, is a value of the shape without a null in it, and can
be written. -/
theorem mirrors_of_ofDocument (notes : Bool) (ns : Value)
    (plain : ∀ r : g.Ref, (g.shape r).construct = none)
    (names : ∀ r : g.Ref, ((g.members r).map Member.name).Nodup)
    (wireNames : ∀ r : g.Ref, ((g.members r).map Member.wireName).Nodup) {d : Json}
    (hd : d.Keyed) {r : g.Ref} {v : Value}
    (h : (ofDocument (.complete .json notes ns) g d.toValue r none).outcome = .ok v) :
    Mirrors g r d v ∧ WellTyped g (Demands.none g) r v ∧ v.nullFree = true ∧
      ∃ w, toDocument (.complete .json notes ns) g v r none = .ok w := by
  rw [ofDocument_none] at h
  have hmirrors := mirrors_of_read plain names wireNames hd h
  have htyped := hmirrors.wellTyped names
  refine ⟨hmirrors, htyped.plain, htyped.nullFree, ?_⟩
  rw [toDocument_none]
  exact exists_write notes ns htyped

/-- A tree in words of its own: a field that no member stands for, and nulls in two places. -/
def strayDocument : Json :=
  .object [("l", .str "y"), ("age", .int 3),
    ("branches", .array [.null, .object [("branches", .null), ("l", .str "x")]])]

/-- What the document says of a tree. -/
def stray : Value := .ofFields [("label", .str "y"), ("branches", .list [leaf "x"])]

theorem keyed_strayDocument : strayDocument.Keyed := by
  have hparse : Json.parse? strayDocument.render = some strayDocument := by cbv
  exact Json.keyed_of_parse? hparse

/-- A tree with a null among its branches is read without it. -/
theorem mirrors_of_ofDocument_stray :
    (ofDocument (.complete .json true .null) trees strayDocument.toValue ⟨0, by decide⟩
        none).outcome = .ok stray ∧
      Mirrors trees ⟨0, by decide⟩ strayDocument stray ∧ stray.nullFree = true ∧
      ∃ w, toDocument (.complete .json true .null) trees stray ⟨0, by decide⟩ none = .ok w := by
  have hread : (ofDocument (.complete .json true .null) trees strayDocument.toValue
      ⟨0, by decide⟩ none).outcome = .ok stray := rfl
  obtain ⟨hmirrors, -, hnull, hwrite⟩ := mirrors_of_ofDocument true .null
    (fun r => (distinct_trees r).construct) (fun r => (distinct_trees r).names)
    (fun r => (distinct_trees r).nodup_wireNames) keyed_strayDocument hread
  exact ⟨hread, hmirrors, hnull, hwrite⟩

end JsonBody

end ServiceWire
