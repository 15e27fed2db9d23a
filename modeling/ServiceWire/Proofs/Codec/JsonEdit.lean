import ServiceWire.Codec.JsonBody
import ServiceWire.Proofs.Codec.Agreement
import ServiceWire.Proofs.Value.Alike

/-!
# Edits of JSON documents

A service may say more in a document than its description told: a field that no member stands for,
a null in the place of a member that is absent, or the fields in another order. Such an edit can be
made wherever a document is read as a structure, at any depth. The fields of a structure are looked
up one by one, each by its own name, so an edit leaves what they add to the structure as it is, but
for the order; and a fault is a fault before and after.
-/

namespace ServiceWire

open Value (Alike)

namespace JsonBody

/-! ### Edits -/

/-- What a document is read as: a value of a shape, or some members of a structure. -/
inductive Place (g : Graph)
  | shape (r : g.Ref)
  | members (ms : List (Member g.size))

/-- An edit of a document that is read as something, wherever a structure is read in it. -/
inductive Edit (g : Graph) : Place g → Value → Value → Prop
  /-- A field that no member stands for. -/
  | unknown {ms : List (Member g.size)} (before after : List (String × Value)) {key : String}
      {v : Value} (h : ∀ m ∈ ms, (m.wireName == .str key) = false) :
      Edit g (.members ms) (.ofFields (before ++ after)) (.ofFields (before ++ (key, v) :: after))
  /-- A null in the place of what is absent. -/
  | null {ms : List (Member g.size)} (before after : List (String × Value)) {key : String}
      (absent : key ∉ (before ++ after).map Prod.fst) :
      Edit g (.members ms) (.ofFields (before ++ after))
        (.ofFields (before ++ (key, .null) :: after))
  /-- The fields in another order. -/
  | permute {ms : List (Member g.size)} {fields others : List (String × Value)}
      (names : (fields.map Prod.fst).Nodup) (h : fields.Perm others) :
      Edit g (.members ms) (.ofFields fields) (.ofFields others)
  /-- An edit inside the value of a member. -/
  | inside {ms : List (Member g.size)} (before after : List (String × Value)) {key : String}
      {d d' : Value} {m : Member g.size} (member : memberOf g ms (.str key) = some m)
      (h : Edit g (.shape m.shape) d d') :
      Edit g (.members ms) (.ofFields (before ++ (key, d) :: after))
        (.ofFields (before ++ (key, d') :: after))
  | struct {r : g.Ref} {ms : List (Member g.size)} {d d' : Value}
      (form : (g.shape r).form = .struct ms) (h : Edit g (.members ms) d d') :
      Edit g (.shape r) d d'
  /-- An edit inside an item of a list. -/
  | item {r item : g.Ref} (before after : List Value) {d d' : Value}
      (form : (g.shape r).form = .list item) (h : Edit g (.shape item) d d') :
      Edit g (.shape r) (.list (before ++ d :: after)) (.list (before ++ d' :: after))
  /-- An edit inside a value of a map. -/
  | value {r key value : g.Ref} (before after : List (String × Value)) {k : String} {d d' : Value}
      (form : (g.shape r).form = .map key value)
      (names : ((before ++ (k, d) :: after).map Prod.fst).Nodup) (h : Edit g (.shape value) d d') :
      Edit g (.shape r) (.ofFields (before ++ (k, d) :: after))
        (.ofFields (before ++ (k, d') :: after))

variable {g : Graph} {c : Codec}

/-- What is edited is there, before and after. -/
theorem Edit.notNull {place : Place g} {d d' : Value} (h : Edit g place d d') :
    d.isNull = false ∧ d'.isNull = false := by
  induction h with
  | struct _ _ ih => exact ih
  | _ => exact ⟨rfl, rfl⟩

/-! ### What the fields of a document add to a structure -/

/-- What an entry of a document adds to the fields of a structure, if it adds anything. -/
def fieldOf (c : Codec) (g : Graph) (ms : List (Member g.size)) (p : Value × Value × Reader g) :
    Option (Except Fault (String × Value)) :=
  match memberOf g ms p.1 with
  | none => none
  | some m =>
    if p.2.1.isNull then none
    else some do
      c.needReader (g.shape m.shape)
      let v ← (p.2.2 m.shape).outcome
      return (m.name, v)

theorem outcome_readFields (ms : List (Member g.size)) (entries : List (Value × Value × Reader g))
    (values : List (String × Value)) :
    (readFields c g ms entries values).outcome =
      ((entries.filterMap (fieldOf c g ms)).mapM id).map (Entries.putAll values) := by
  induction entries generalizing values with
  | nil => rfl
  | cons p rest ih =>
    obtain ⟨key, raw, read⟩ := p
    rw [readFields, List.filterMap_cons, fieldOf]
    cases memberOf g ms key with
    | none => exact ih values
    | some m =>
      cases raw.isNull with
      | true => exact ih values
      | false =>
        simp only [Bool.false_eq_true, if_false, Reading.outcome_bind, Reading.outcome_ofOutcome,
          ih, List.mapM_cons]
        cases c.needReader (g.shape m.shape) with
        | error e => rfl
        | ok u =>
          cases (read m.shape).outcome with
          | error e => rfl
          | ok v =>
            simp only [ok_bind, id, pure_bind]
            cases (rest.filterMap (fieldOf c g ms)).mapM id with
            | error e => rfl
            | ok more => rfl

/-- What the fields of a document add to a structure, one after the other. -/
def fieldsOf (c : Codec) (g : Graph) (ms : List (Member g.size)) (fields : List (String × Value)) :
    List (Except Fault (String × Value)) :=
  fields.filterMap fun p => fieldOf c g ms (.str p.1, p.2, read c g p.2)

theorem outcome_readMembers {w : View (Reader g)} {entries : List (Value × Value × Reader g)}
    (h : w.entries? = some entries) (s : Shape g.size) (ms : List (Member g.size)) :
    (readMembers c g s ms w).outcome =
      (checkNames g ms).mapError .failure >>= fun _ =>
        ((entries.filterMap (fieldOf c g ms)).mapM id).map Entries.ofPairs := by
  rw [readMembers, h]
  simp only [Reading.outcome_bind, Reading.outcome_ofConversion, outcome_readFields,
    outcome_noteUnknown, Reading.outcome_pure]
  cases checkNames g ms with
  | error f => rfl
  | ok u =>
    cases (entries.filterMap (fieldOf c g ms)).mapM id with
    | error e => rfl
    | ok values => rfl

theorem outcome_readMembers_ofFields (s : Shape g.size) (ms : List (Member g.size))
    (fields : List (String × Value)) :
    (readMembers c g s ms ((Value.ofFields fields).view (read c g))).outcome =
      (checkNames g ms).mapError .failure >>= fun _ =>
        ((fieldsOf c g ms fields).mapM id).map Entries.ofPairs := by
  rw [outcome_readMembers (Value.entries?_view_ofFields _ fields), fieldsOf, List.filterMap_map]
  rfl

/-- The members of a structure are read under different names. -/
theorem nodup_readMembers {w : View (Reader g)} {s : Shape g.size} {ms : List (Member g.size)}
    {values : List (String × Value)} (h : (readMembers c g s ms w).outcome = .ok values) :
    (values.map Prod.fst).Nodup := by
  cases hentries : w.entries? with
  | none =>
    rw [readMembers, hentries] at h
    cases h
  | some entries =>
    rw [outcome_readMembers hentries] at h
    obtain ⟨u, -, h⟩ := exists_of_bind h
    obtain ⟨pairs, -, rfl⟩ := exists_of_map h
    exact Entries.nodup_ofPairs pairs

/-! ### What an edit does to them -/

/-- Documents are read alike at a place: as values that are alike, or as fields that say the same,
and both or none of them. -/
def ReadAlike (c : Codec) (g : Graph) : Place g → Value → Value → Prop
  | .shape r, d, d' => Agree Alike (read c g d r).outcome (read c g d' r).outcome
  | .members ms, d, d' => (ms.map Member.name).Nodup → ∀ s : Shape g.size,
      Agree SameFields (readMembers c g s ms (d.view (read c g))).outcome
        (readMembers c g s ms (d'.view (read c g))).outcome

theorem ReadAlike.refl (place : Place g) (d : Value) : ReadAlike c g place d d := by
  cases place with
  | shape r => exact Agree.refl Alike.refl _
  | members ms => exact fun _ _ => .self fun _ h => .refl (nodup_readMembers h)

theorem ReadAlike.trans {place : Place g} {d d' d'' : Value} (h : ReadAlike c g place d d')
    (h' : ReadAlike c g place d' d'') : ReadAlike c g place d d'' := by
  cases place with
  | shape r => exact Agree.trans (R := Alike) (fun _ _ _ h h' => h.trans h') h h'
  | members ms =>
    exact fun names s =>
      Agree.trans (R := SameFields) (fun _ _ _ h h' => h.trans h') (h names s) (h' names s)

/-- Fields that add the same, in some way, are read as fields that say the same. -/
theorem readAlike_of_fieldsOf {ms : List (Member g.size)} {fields others : List (String × Value)}
    (h : (ms.map Member.name).Nodup →
      Agree (fun a b => SameFields (Entries.ofPairs a) (Entries.ofPairs b))
        ((fieldsOf c g ms fields).mapM id) ((fieldsOf c g ms others).mapM id)) :
    ReadAlike c g (.members ms) (.ofFields fields) (.ofFields others) := by
  intro hnames s
  rw [outcome_readMembers_ofFields, outcome_readMembers_ofFields]
  exact (Agree.refl (fun _ => rfl) _).bind (R := Eq) fun _ _ _ => (h hnames).map fun _ _ hab => hab

theorem sameFields_ofPairs {pairs others : List (String × Value)}
    (h : List.Forall₂ SameField pairs others) :
    SameFields (Entries.ofPairs pairs) (Entries.ofPairs others) :=
  SameFields.nil.putEach h

/-- A field that adds nothing may stand anywhere. -/
theorem fieldsOf_insert {ms : List (Member g.size)} {before after : List (String × Value)}
    {key : String} {v : Value} (h : fieldOf c g ms (.str key, v, read c g v) = none) :
    fieldsOf c g ms (before ++ (key, v) :: after) = fieldsOf c g ms (before ++ after) := by
  simp only [fieldsOf, List.filterMap_append, List.filterMap_cons, h]

theorem fieldOf_unknown {ms : List (Member g.size)} {key : String} {p : Value × Reader g}
    (h : ∀ m ∈ ms, (m.wireName == .str key) = false) : fieldOf c g ms (.str key, p) = none := by
  have hnone : memberOf g ms (.str key) = none := by
    rw [memberOf, List.find?_eq_none]
    intro m hm
    rw [h m (List.mem_reverse.mp hm)]
    exact Bool.false_ne_true
  rw [fieldOf, hnone]

theorem fieldOf_null {ms : List (Member g.size)} {key : Value} {read : Reader g} :
    fieldOf c g ms (key, .null, read) = none := by
  rw [fieldOf]
  cases memberOf g ms key with
  | none => rfl
  | some m => rfl

/-- The same conversions, of which one succeeds with a field if and only if another does with one
that stands for it. -/
theorem agree_mapM_id {fields others : List (Except Fault (String × Value))}
    (h : List.Forall₂ (Agree SameField) fields others) :
    Agree (List.Forall₂ SameField) (fields.mapM id) (others.mapM id) :=
  Agree.mapM h fun _ _ hab => hab

theorem mem_of_memberOf {ms : List (Member g.size)} {key : Value} {m : Member g.size}
    (h : memberOf g ms key = some m) : m ∈ ms ∧ (m.wireName == key) = true := by
  rw [memberOf] at h
  exact ⟨List.mem_reverse.mp (List.mem_of_find?_eq_some h), by simpa using List.find?_some h⟩

/-- Different keys stand for members with different names. -/
theorem name_ne_of_memberOf {ms : List (Member g.size)} (names : (ms.map Member.name).Nodup)
    {key key' : String} {m m' : Member g.size} (hm : memberOf g ms (.str key) = some m)
    (hm' : memberOf g ms (.str key') = some m') (hne : key ≠ key') : m.name ≠ m'.name := by
  intro heq
  obtain ⟨hmem, hkey⟩ := mem_of_memberOf hm
  obtain ⟨hmem', hkey'⟩ := mem_of_memberOf hm'
  obtain rfl := List.inj_on_of_nodup_map names hmem hmem' heq
  rw [Value.beq_str_iff] at hkey hkey'
  exact hne (Value.str.inj (hkey.symm.trans hkey'))

theorem name_of_fieldOf {ms : List (Member g.size)} {p : Value × Value × Reader g}
    {q : String × Value} (h : fieldOf c g ms p = some (.ok q)) :
    ∃ m, memberOf g ms p.1 = some m ∧ q.1 = m.name := by
  rw [fieldOf] at h
  cases hm : memberOf g ms p.1 with
  | none =>
    rw [hm] at h
    cases h
  | some m =>
    simp only [hm] at h
    split at h
    · cases h
    · obtain ⟨u, -, h⟩ := exists_of_bind (Option.some.inj h)
      obtain ⟨v, -, h⟩ := exists_of_bind h
      cases h
      exact ⟨m, rfl, rfl⟩

/-- The fields of a structure that are read of a document have different names. -/
theorem nodup_of_fieldsOf {ms : List (Member g.size)} (names : (ms.map Member.name).Nodup)
    {fields pairs : List (String × Value)} (keys : (fields.map Prod.fst).Nodup)
    (h : (fieldsOf c g ms fields).mapM id = .ok pairs) : (pairs.map Prod.fst).Nodup := by
  have hfields : (fieldsOf c g ms fields).Pairwise fun x y =>
      ∀ q q', x = .ok q → y = .ok q' → q.1 ≠ q'.1 := by
    rw [fieldsOf, List.pairwise_filterMap]
    rw [List.Nodup, List.pairwise_map] at keys
    refine keys.imp fun hne x hx y hy q q' hq hq' => ?_
    obtain ⟨m, hm, hname⟩ := name_of_fieldOf (hx.trans (congrArg _ hq))
    obtain ⟨m', hm', hname'⟩ := name_of_fieldOf (hy.trans (congrArg _ hq'))
    rw [hname, hname']
    exact name_ne_of_memberOf names hm hm' hne
  generalize fieldsOf c g ms fields = conversions at h hfields
  induction conversions generalizing pairs with
  | nil =>
    cases h
    exact List.nodup_nil
  | cons x rest ih =>
    obtain ⟨hfirst, hrest⟩ := List.pairwise_cons.mp hfields
    rw [List.mapM_cons] at h
    obtain ⟨q, hq, h⟩ := exists_of_bind h
    obtain ⟨qs, hqs, h⟩ := exists_of_bind h
    cases h
    refine List.nodup_cons.mpr ⟨fun hmem => ?_, ih hqs hrest⟩
    obtain ⟨q', hq', hname⟩ := List.mem_map.mp hmem
    obtain ⟨y, hy, hyq⟩ := exists_of_mem_mapM hqs hq'
    exact hfirst y hy q q' hq hyq hname.symm

theorem forall₂_refl {fields : List (Except Fault (String × Value))} :
    List.Forall₂ (Agree SameField) fields fields :=
  List.forall₂_same.mpr fun x _ => .refl SameField.refl x

/-! ### One edit, and any number -/

/-- A structure without a constructor of its own is the mapping of its fields. -/
theorem read_struct (plain : ∀ r : g.Ref, (g.shape r).construct = none) {r : g.Ref}
    {ms : List (Member g.size)} (form : (g.shape r).form = .struct ms) (d : Value) :
    (read c g d r).outcome =
      (readMembers c g (g.shape r) ms (d.view (read c g))).outcome.map .ofFields := by
  rw [read_eq, readView]
  simp only [form, Reading.outcome_bind, Shape.build, plain r]
  cases (readMembers c g (g.shape r) ms (d.view (read c g))).outcome with
  | error e => rfl
  | ok values => rfl

/-- A list is read item by item, without nulls. -/
theorem outcome_read_list {r item : g.Ref} (form : (g.shape r).form = .list item)
    (items : List Value) :
    (read c g (.list items) r).outcome = c.needReader (g.shape item) >>= fun _ =>
      ((items.filter fun d => !d.isNull).mapM fun d => (read c g d item).outcome).map .list := by
  have hfilter : (items.map fun d => (d, read c g d)).filter (fun p => !p.1.isNull) =
      (items.filter fun d => !d.isNull).map fun d => (d, read c g d) := by
    rw [List.filter_map]
    rfl
  rw [read_eq, readView]
  simp only [form, Value.listItems?_view_list, Reading.outcome_bind, Reading.outcome_ofOutcome,
    Reading.outcome_mapM, hfilter, List.mapM_map, Function.comp_def]
  cases (items.filter fun d => !d.isNull).mapM fun d => (read c g d item).outcome with
  | error e => rfl
  | ok vs => rfl

/-- Keys may be made texts before their values are read or afterwards. -/
theorem mapM_text_key (f : Value → Except Fault Value) (fields : List (String × Value)) :
    (fields.mapM fun p => f p.2 >>= fun v => .ok (Value.str p.1, v)) =
      (fields.mapM fun p => (f p.2).map fun v => (p.1, v)).map
        (List.map fun q => (Value.str q.1, q.2)) := by
  induction fields with
  | nil => rfl
  | cons p rest ih =>
    rw [List.mapM_cons, List.mapM_cons, ih]
    cases f p.2 with
    | error e => rfl
    | ok v =>
      cases rest.mapM fun p => (f p.2).map fun v => (p.1, v) with
      | error e => rfl
      | ok pairs => rfl

/-- A map is read entry by entry, without nulls. -/
theorem outcome_read_map {r key value : g.Ref} (form : (g.shape r).form = .map key value)
    (fields : List (String × Value)) :
    (read c g (.ofFields fields) r).outcome = c.needReader (g.shape value) >>= fun _ =>
      ((fields.filter fun p => !p.2.isNull).mapM fun p =>
        (read c g p.2 value).outcome.map fun v => (p.1, v)).map .ofFields := by
  have hfilter : (fields.map fun p => (Value.str p.1, p.2, read c g p.2)).filter
      (fun p => !p.2.1.isNull) =
        (fields.filter fun p => !p.2.isNull).map fun p => (.str p.1, p.2, read c g p.2) := by
    rw [List.filter_map]
    rfl
  have hkeys := mapM_text_key (fun d => (read c g d value).outcome)
    (fields.filter fun p => !p.2.isNull)
  rw [read_eq, readView]
  simp only [form, Value.entries?_view_ofFields, Reading.outcome_bind, Reading.outcome_ofOutcome,
    Reading.outcome_mapM, Reading.outcome_pure, hfilter, List.mapM_map, Function.comp_def]
  refine bind_congr fun _ => ?_
  rw [hkeys]
  cases (fields.filter fun p => !p.2.isNull).mapM fun p =>
      (read c g p.2 value).outcome.map fun v => (p.1, v) with
  | error e => rfl
  | ok pairs => rfl

theorem names_of_mapM {f : Value → Except Fault Value} {fields pairs : List (String × Value)}
    (h : (fields.mapM fun p => (f p.2).map fun v => (p.1, v)) = .ok pairs) :
    pairs.map Prod.fst = fields.map Prod.fst := by
  refine (map_eq_map_of_mapM (fun p q hq => ?_) h).symm
  obtain ⟨v, -, rfl⟩ := exists_of_map hq
  rfl

/-- The value of one field may be read from another document, if that is read alike. -/
theorem readAlike_inside {ms : List (Member g.size)} {m : Member g.size} {key : String}
    {d d' : Value} (before after : List (String × Value))
    (member : memberOf g ms (.str key) = some m) (notNull : d.isNull = false ∧ d'.isNull = false)
    (h : ReadAlike c g (.shape m.shape) d d') :
    ReadAlike c g (.members ms) (.ofFields (before ++ (key, d) :: after))
      (.ofFields (before ++ (key, d') :: after)) := by
  refine readAlike_of_fieldsOf fun _ => (agree_mapM_id ?_).mono fun _ _ => sameFields_ofPairs
  have hfield : Agree SameField
      (c.needReader (g.shape m.shape) >>= fun _ => (read c g d m.shape).outcome >>= fun v =>
        pure (m.name, v))
      (c.needReader (g.shape m.shape) >>= fun _ => (read c g d' m.shape).outcome >>= fun v =>
        pure (m.name, v)) :=
    (Agree.refl (fun _ => rfl) _).bind (R := Eq) fun _ _ _ =>
      Agree.bind h fun v v' halike => .ok ⟨rfl, halike⟩
  simp only [fieldsOf, List.filterMap_append, List.filterMap_cons, fieldOf, member, notNull,
    Bool.false_eq_true, if_false]
  exact List.rel_append forall₂_refl (.cons hfield forall₂_refl)

/-- So may an item of a list. -/
theorem readAlike_item {r item : g.Ref} {d d' : Value} (before after : List Value)
    (form : (g.shape r).form = .list item) (notNull : d.isNull = false ∧ d'.isNull = false)
    (h : ReadAlike c g (.shape item) d d') :
    ReadAlike c g (.shape r) (.list (before ++ d :: after)) (.list (before ++ d' :: after)) := by
  have hitems : List.Forall₂ (fun d d' => Agree Alike (read c g d item).outcome
      (read c g d' item).outcome) ((before ++ d :: after).filter fun d => !d.isNull)
        ((before ++ d' :: after).filter fun d => !d.isNull) := by
    simp only [List.filter_append, List.filter_cons, notNull, Bool.not_false, if_true]
    exact List.rel_append (List.forall₂_same.mpr fun d _ => .refl Alike.refl _)
      (.cons h (List.forall₂_same.mpr fun d _ => .refl Alike.refl _))
  rw [ReadAlike, outcome_read_list form, outcome_read_list form]
  refine (Agree.refl (fun _ => rfl) _).bind (R := Eq) fun _ _ _ => ?_
  exact (Agree.mapM hitems fun _ _ h => h).map fun _ _ => Alike.of_items

/-- So may the value of an entry of a map. -/
theorem readAlike_value {r key value : g.Ref} {k : String} {d d' : Value}
    (before after : List (String × Value)) (form : (g.shape r).form = .map key value)
    (keys : ((before ++ (k, d) :: after).map Prod.fst).Nodup)
    (notNull : d.isNull = false ∧ d'.isNull = false) (h : ReadAlike c g (.shape value) d d') :
    ReadAlike c g (.shape r) (.ofFields (before ++ (k, d) :: after))
      (.ofFields (before ++ (k, d') :: after)) := by
  have hfields : List.Forall₂ (fun p q => p.1 = q.1 ∧ Agree Alike (read c g p.2 value).outcome
      (read c g q.2 value).outcome) ((before ++ (k, d) :: after).filter fun p => !p.2.isNull)
        ((before ++ (k, d') :: after).filter fun p => !p.2.isNull) := by
    simp only [List.filter_append, List.filter_cons, notNull, Bool.not_false, if_true]
    exact List.rel_append (List.forall₂_same.mpr fun p _ => ⟨rfl, .refl Alike.refl _⟩)
      (.cons ⟨rfl, h⟩ (List.forall₂_same.mpr fun p _ => ⟨rfl, .refl Alike.refl _⟩))
  rw [ReadAlike, outcome_read_map form, outcome_read_map form]
  refine (Agree.refl (fun _ => rfl) _).bind (R := Eq) fun _ _ _ => ?_
  have hpairs := Agree.mapM (R := SameField) hfields fun p q hpq =>
    hpq.2.map (f := fun v => (p.1, v)) (g := fun v => (q.1, v)) fun _ _ h => ⟨hpq.1, h⟩
  refine (hpairs.and_left fun a ha =>
    names_of_mapM (f := fun d => (read c g d value).outcome) ha).map fun a b hab => ?_
  have hnames : (a.map Prod.fst).Nodup := by
    rw [hab.2]
    exact keys.sublist (List.filter_sublist.map _)
  exact Alike.of_entries hnames (SameField.names_eq hab.1 ▸ hnames) hab.1

/-- An edit changes nothing of what is read. -/
theorem Edit.readAlike (plain : ∀ r : g.Ref, (g.shape r).construct = none)
    (names : ∀ r : g.Ref, ((g.members r).map Member.name).Nodup) {place : Place g} {d d' : Value}
    (h : Edit g place d d') : ReadAlike c g place d d' := by
  induction h with
  | @unknown ms before after key v hkey =>
    refine readAlike_of_fieldsOf fun _ => ?_
    rw [fieldsOf_insert (fieldOf_unknown hkey)]
    exact (agree_mapM_id forall₂_refl).mono fun _ _ => sameFields_ofPairs
  | @null ms before after key absent =>
    refine readAlike_of_fieldsOf fun _ => ?_
    rw [fieldsOf_insert fieldOf_null]
    exact (agree_mapM_id forall₂_refl).mono fun _ _ => sameFields_ofPairs
  | @permute ms fields others keys hperm =>
    refine readAlike_of_fieldsOf fun hnames => ?_
    refine ((Agree.mapM_perm (hperm.filterMap _)).and_left fun a ha =>
      nodup_of_fieldsOf hnames keys ha).mono fun a b hab => ?_
    rw [Entries.ofPairs_eq_self hab.2,
      Entries.ofPairs_eq_self ((hab.1.map Prod.fst).nodup_iff.mp hab.2)]
    exact .of_perm hab.2 hab.1
  | inside before after member hedit ih => exact readAlike_inside before after member hedit.notNull ih
  | @struct r ms d d' form hedit ih =>
    rw [ReadAlike, read_struct plain form, read_struct plain form]
    have hnames := names r
    rw [Graph.members, Shape.members, form] at hnames
    exact (ih hnames (g.shape r)).map fun _ _ => SameFields.alike
  | item before after form hedit ih => exact readAlike_item before after form hedit.notNull ih
  | value before after form keys hedit ih =>
    exact readAlike_value before after form keys hedit.notNull ih

/-- Any number of edits changes nothing of what is read. -/
theorem readAlike_of_edits (plain : ∀ r : g.Ref, (g.shape r).construct = none)
    (names : ∀ r : g.Ref, ((g.members r).map Member.name).Nodup) {place : Place g} {d d' : Value}
    (h : Relation.ReflTransGen (Edit g place) d d') : ReadAlike c g place d d' := by
  induction h with
  | refl => exact .refl place d
  | tail _ hedit ih => exact ih.trans (hedit.readAlike plain names)

end JsonBody

end ServiceWire
