import ServiceWire.Codec.JsonBody
import ServiceWire.Proofs.Codec.Scalar
import ServiceWire.Proofs.Codec.Success
import ServiceWire.Proofs.Shape.Reachable
import ServiceWire.Proofs.Value.Alike

/-!
# JSON bodies read back

A value of a shape is written as a document and read back as the value, for any shapes whose
members have different names, here and on the wire. What the writer does with a structure depends
on its members, what the reader does on the entries of the document: the two meet in the list of
the members that the structure has (`present`). Everything else follows the value.
-/

namespace ServiceWire.JsonBody

/-- What the shapes of bodies that can be read back have in common. -/
structure Distinct {n : Nat} (s : Shape n) : Prop where
  /-- No constructor of its own stands between a structure and its members. -/
  construct : s.construct = none
  names : (s.members.map Member.name).Nodup
  /-- The names on the wire are texts. -/
  texts : ∀ m ∈ s.members, m.wireName = .str m.wireName.text
  wireNames : (s.members.map fun m => m.wireName.text).Nodup

/-- Timestamps must be on whole seconds. -/
def demands (g : Graph) : Demands g where
  scalar _ v := Scalar.Whole v
  member _ _ := True

variable {g : Graph} {notes : Bool} {ns : Value}

/-! ### Structures -/

theorem readMemberOf {members : List (Member g.size)} {m : Member g.size}
    (texts : ∀ m ∈ members, m.wireName = .str m.wireName.text)
    (wireNames : (members.map fun m => m.wireName.text).Nodup) (hm : m ∈ members) :
    memberOf g members (.str m.wireName.text) = some m := by
  have hself : (m.wireName == Value.str m.wireName.text) = true := by
    rw [texts m hm, Value.str_beq_str]
    exact beq_self_eq_true _
  have hsome : (memberOf g members (.str m.wireName.text)).isSome = true :=
    List.find?_isSome.mpr ⟨m, List.mem_reverse.mpr hm, hself⟩
  obtain ⟨m', hfind⟩ := Option.isSome_iff_exists.mp hsome
  have hm' : m' ∈ members := List.mem_reverse.mp (List.mem_of_find?_eq_some hfind)
  have hname := List.find?_some hfind
  rw [texts m' hm', Value.str_beq_str, beq_iff_eq] at hname
  rw [hfind, List.inj_on_of_nodup_map wireNames hm' hm hname]

/-- The document of a structure depends on the members that are asked for, and on nothing else. -/
theorem writeMembers_congr {c : Codec} {members : List (Member g.size)} {w w' : View (Writing g)}
    (h : ∀ m ∈ members, w.member? m.name = w'.member? m.name) :
    writeMembers c g members w = writeMembers c g members w' := by
  rw [writeMembers, writeMembers]
  refine congrArg _ (foldlM_congr (fun m hm entries => ?_) [])
  rw [writeMember, writeMember, h m hm]

theorem writeMember_of_lookup {w : View (Writing g)} {fields : List (String × Value)}
    {m : Member g.size}
    (hw : ∀ name, w.member? name =
      (fields.lookup name).map fun v => (v, write (.complete .json notes ns) g v))
    (hm : m.wireName = .str m.wireName.text) (entries : List (Value × Value)) :
    writeMember (.complete .json notes ns) g w entries m =
      match fields.lookup m.name with
      | none => .ok entries
      | some v => (write (.complete .json notes ns) g v m.shape).map fun d =>
          Entries.put (.str m.wireName.text) d entries := by
  rw [writeMember, hw]
  cases fields.lookup m.name with
  | none => rfl
  | some v =>
    simp only [Option.map_some, Codec.needWriter_complete]
    rw [hm]
    cases write (.complete .json notes ns) g v m.shape with
    | error e => rfl
    | ok d => rfl

theorem foldlM_writeMember {w : View (Writing g)} {fields : List (String × Value)}
    (document : Member g.size × Value → Value)
    (hw : ∀ name, w.member? name =
      (fields.lookup name).map fun v => (v, write (.complete .json notes ns) g v))
    {members : List (Member g.size)} {entries : List (Value × Value)}
    (texts : ∀ m ∈ members, m.wireName = .str m.wireName.text)
    (wireNames : (members.map fun m => m.wireName.text).Nodup)
    (fresh : ∀ m ∈ members, ∀ p ∈ entries, (p.1 == .str m.wireName.text) = false)
    (hd : ∀ q ∈ present members fields,
      write (.complete .json notes ns) g q.2 q.1.shape = .ok (document q)) :
    members.foldlM (writeMember (.complete .json notes ns) g w) entries =
      .ok (entries ++
        (present members fields).map fun q => (.str q.1.wireName.text, document q)) := by
  induction members generalizing entries with
  | nil => rw [present, List.filterMap_nil, List.map_nil, List.append_nil]; rfl
  | cons m rest ih =>
    rw [List.map_cons, List.nodup_cons] at wireNames
    have htexts : ∀ m' ∈ rest, m'.wireName = .str m'.wireName.text :=
      fun m' hm' => texts m' (List.mem_cons_of_mem _ hm')
    have hfresh : ∀ m' ∈ rest, ∀ p ∈ entries, (p.1 == .str m'.wireName.text) = false :=
      fun m' hm' => fresh m' (List.mem_cons_of_mem _ hm')
    rw [List.foldlM_cons, writeMember_of_lookup hw (texts m (List.mem_cons_self ..))]
    cases hl : fields.lookup m.name with
    | none =>
      rw [present_cons_none hl] at hd ⊢
      exact ih htexts wireNames.2 hfresh hd
    | some v =>
      rw [present_cons_some hl] at hd ⊢
      simp only [hd (m, v) (List.mem_cons_self ..), Except.map]
      rw [Entries.put_eq_append _ (fresh m (List.mem_cons_self ..))]
      have hnew : ∀ m' ∈ rest, ∀ p ∈ entries ++ [(Value.str m.wireName.text, document (m, v))],
          (p.1 == .str m'.wireName.text) = false := by
        intro m' hm' p hmem
        rcases List.mem_append.mp hmem with h | h
        · exact hfresh m' hm' p h
        · obtain rfl := List.mem_singleton.mp h
          rw [Value.str_beq_str]
          exact beq_false_of_ne fun heq => wireNames.1 (heq ▸ List.mem_map_of_mem hm')
      have hrest := ih htexts wireNames.2 hnew fun q hq => hd q (List.mem_cons_of_mem _ hq)
      rw [List.append_assoc, List.singleton_append] at hrest
      rw [List.map_cons]
      exact hrest

/-- The entries that a structure was written as are read as the members that it has. -/
theorem readFields_eq {members : List (Member g.size)}
    {document result : Member g.size × Value → Value} {parts : List (Member g.size × Value)}
    (values : List (String × Value)) (texts : ∀ m ∈ members, m.wireName = .str m.wireName.text)
    (wireNames : (members.map fun m => m.wireName.text).Nodup)
    (sub : ∀ q ∈ parts, q.1 ∈ members)
    (names : (values.map Prod.fst ++ parts.map fun q => q.1.name).Nodup)
    (notNull : ∀ q ∈ parts, (document q).isNull = false)
    (hr : ∀ q ∈ parts,
      read (.complete .json notes ns) g (document q) q.1.shape = pure (result q)) :
    readFields (.complete .json notes ns) g members
        (parts.map fun q => (.str q.1.wireName.text, document q,
          read (.complete .json notes ns) g (document q))) values =
      pure (values ++ parts.map fun q => (q.1.name, result q)) := by
  induction parts generalizing values with
  | nil => rw [List.map_nil, List.map_nil, List.append_nil, readFields]
  | cons q rest ih =>
    have hq : q ∈ q :: rest := List.mem_cons_self ..
    have hput : Entries.put q.1.name (result q) values = values ++ [(q.1.name, result q)] := by
      refine Entries.put_eq_append _ fun p hp => beq_false_of_ne ?_
      exact (List.nodup_append.mp names).2.2 _ (List.mem_map_of_mem hp) _ (by simp)
    rw [List.map_cons, readFields, readMemberOf texts wireNames (sub q hq)]
    simp only [notNull q hq, Bool.false_eq_true, if_false,
      Codec.needReader_complete notes ns (by decide : BodyFormat.json ≠ .query),
      Reading.ofOutcome_ok, pure_bind, hr q hq, hput]
    rw [ih _ (fun p hp => sub p (List.mem_cons_of_mem _ hp)) ?_
      (fun p hp => notNull p (List.mem_cons_of_mem _ hp))
      (fun p hp => hr p (List.mem_cons_of_mem _ hp))]
    · rw [List.map_cons, List.append_assoc, List.singleton_append]
    · rw [List.map_append, List.append_assoc]
      exact names

theorem checkNames_of_texts {members : List (Member g.size)}
    (texts : ∀ m ∈ members, m.wireName = .str m.wireName.text) : checkNames g members = .ok () := by
  refine if_pos (List.all_eq_true.mpr fun m hm => ?_)
  rw [texts m hm, Value.isKey]

theorem noteUnknown_nil (c : Codec) (shape : String) : noteUnknown c shape [] = pure () := by
  rw [noteUnknown, List.map_nil, Reading.note_nil, ite_self]

theorem readMembers_eq (s : Shape g.size) {members : List (Member g.size)}
    (document : Member g.size × Value → Value) {result : Member g.size × Value → Value}
    {parts : List (Member g.size × Value)}
    (texts : ∀ m ∈ members, m.wireName = .str m.wireName.text)
    (wireNames : (members.map fun m => m.wireName.text).Nodup)
    (sub : ∀ q ∈ parts, q.1 ∈ members) (names : (parts.map fun q => q.1.name).Nodup)
    (notNull : ∀ q ∈ parts, (document q).isNull = false)
    (hr : ∀ q ∈ parts,
      read (.complete .json notes ns) g (document q) q.1.shape = pure (result q)) :
    readMembers (.complete .json notes ns) g s members
        ((Value.dict (parts.map fun q => (.str q.1.wireName.text, document q))).view
          (read (.complete .json notes ns) g)) =
      pure (parts.map fun q => (q.1.name, result q)) := by
  have hunknown : (((parts.map fun q => (Value.str q.1.wireName.text, document q,
      read (.complete .json notes ns) g (document q))).map Prod.fst).filter fun key =>
        (memberOf g members key).isNone) = [] := by
    rw [List.filter_eq_nil_iff]
    intro key hkey
    rw [List.map_map] at hkey
    obtain ⟨q, hp, rfl⟩ := List.mem_map.mp hkey
    simp only [Function.comp_apply, readMemberOf texts wireNames (sub q hp), Option.isNone_some,
      Bool.false_eq_true, not_false_eq_true]
  have hfields := readFields_eq [] texts wireNames sub (by simpa using names) notNull hr
  rw [readMembers, Value.entries?_view_dict, List.map_map]
  simp only [Function.comp_def, checkNames_of_texts texts, Reading.ofConversion_ok, pure_bind,
    hfields, hunknown, noteUnknown_nil, List.nil_append]

/-! ### Values -/

/-- What is written for a value of a shape, and what is read from it. -/
structure RoundTrip (notes : Bool) (ns : Value) (g : Graph) (r : g.Ref) (v : Value) (d : Json)
    (w : Value) : Prop where
  written : write (.complete .json notes ns) g v r = .ok d.toValue
  notNull : d.toValue.isNull = false
  read : read (.complete .json notes ns) g d.toValue r = pure w
  alike : w.Alike v

/-- The members that a structure has are written as the entries of a document. -/
theorem writeMembers_eq {members : List (Member g.size)} {fields : List (String × Value)}
    {document : Member g.size × Value → Json}
    (texts : ∀ m ∈ members, m.wireName = .str m.wireName.text)
    (wireNames : (members.map fun m => m.wireName.text).Nodup)
    (notNull : ∀ p ∈ fields, p.2.isNull = false)
    (h : ∀ q ∈ present members fields,
      write (.complete .json notes ns) g q.2 q.1.shape = .ok (document q).toValue) :
    writeMembers (.complete .json notes ns) g members
        ((Value.ofFields fields).view (write (.complete .json notes ns) g)) =
      .ok (.dict ((present members fields).map fun q =>
        (.str q.1.wireName.text, (document q).toValue))) := by
  have hwrite : members.foldlM (writeMember (.complete .json notes ns) g
      ((Value.ofFields fields).view (write (.complete .json notes ns) g))) [] =
        .ok ((present members fields).map fun q =>
          (.str q.1.wireName.text, (document q).toValue)) :=
    foldlM_writeMember (fun q => (document q).toValue)
      (Value.member?_view_ofFields _ notNull) texts wireNames (by simp) h
  rw [writeMembers, hwrite]
  rfl

/-- The document of members by their names on the wire. -/
theorem toValue_object (parts : List (Member g.size × Value))
    (document : Member g.size × Value → Json) :
    (Json.object (parts.map fun q => (q.1.wireName.text, document q))).toValue =
      .dict (parts.map fun q => (.str q.1.wireName.text, (document q).toValue)) := by
  rw [Json.toValue, Json.toEntries_eq, List.map_map]
  rfl

/-- Some members of a structure are written as the entries of a document that are read back as
these members. -/
theorem exists_members (s : Shape g.size) {members : List (Member g.size)}
    {fields : List (String × Value)} (memberNames : (members.map Member.name).Nodup)
    (texts : ∀ m ∈ members, m.wireName = .str m.wireName.text)
    (wireNames : (members.map fun m => m.wireName.text).Nodup)
    (notNull : ∀ p ∈ fields, p.2.isNull = false)
    (h : ∀ q ∈ present members fields, ∃ d w, RoundTrip notes ns g q.1.shape q.2 d w) :
    ∃ (entries : List (String × Json)) (result : Member g.size × Value → Value),
      writeMembers (.complete .json notes ns) g members
          ((Value.ofFields fields).view (write (.complete .json notes ns) g)) =
        .ok (Json.object entries).toValue ∧
      readMembers (.complete .json notes ns) g s members
          ((Json.object entries).toValue.view (read (.complete .json notes ns) g)) =
        pure ((present members fields).map fun q => (q.1.name, result q)) ∧
      ∀ q ∈ present members fields, (result q).Alike q.2 := by
  choose! document result hq using h
  refine ⟨(present members fields).map fun q => (q.1.wireName.text, document q), result, ?_, ?_,
    fun q hp => (hq q hp).alike⟩
  · rw [toValue_object]
    exact writeMembers_eq texts wireNames notNull fun q hp => (hq q hp).written
  · rw [toValue_object]
    exact readMembers_eq s (fun q => (document q).toValue) texts wireNames
      (fun q hp => (mem_present hp).1) (nodup_present memberNames fields)
      (fun q hp => (hq q hp).notNull) fun q hp => (hq q hp).read

theorem exists_struct {r : g.Ref} {members : List (Member g.size)}
    {fields : List (String × Value)} (hs : Distinct (g.shape r))
    (form : (g.shape r).form = .struct members) (names : (fields.map Prod.fst).Nodup)
    (known : ∀ p ∈ fields, ∃ m ∈ members, m.name = p.1) (notNull : ∀ p ∈ fields, p.2.isNull = false)
    (h : ∀ q ∈ present members fields, ∃ d w, RoundTrip notes ns g q.1.shape q.2 d w) :
    ∃ d w, RoundTrip notes ns g r (.ofFields fields) d w := by
  have hmembers : (g.shape r).members = members := by rw [Shape.members, form]
  obtain ⟨construct, memberNames, texts, wireNames⟩ := hs
  rw [hmembers] at memberNames texts wireNames
  obtain ⟨entries, result, hwrite, hread, halike⟩ :=
    exists_members (g.shape r) memberNames texts wireNames notNull h
  refine ⟨.object entries, .ofFields ((present members fields).map fun q => (q.1.name, result q)),
    ?_, rfl, ?_, ?_⟩
  · rw [write_eq, writeView]
    simp only [form, hwrite]
  · rw [read_eq, readView]
    simp only [form, hread, pure_bind, Shape.build, construct, Reading.ofConversion_ok]
  · exact Value.Alike.of_perm names (present_perm memberNames names known) halike

theorem exists_list {r item : g.Ref} {items : List Value} (form : (g.shape r).form = .list item)
    (h : ∀ v ∈ items, ∃ d w, RoundTrip notes ns g item v d w) :
    ∃ d w, RoundTrip notes ns g r (.list items) d w := by
  choose! document result hv using h
  have hdocument : (Json.array (items.map document)).toValue =
      .list (items.map fun v => (document v).toValue) := by
    rw [Json.toValue, Json.toValues_eq, List.map_map]
    rfl
  refine ⟨.array (items.map document), .list (items.map result), ?_, rfl, ?_, ?_⟩
  · have hwrite : (items.map fun v => (v, write (.complete .json notes ns) g v)).mapM
        (fun p => p.2 item) = .ok (items.map fun v => (document v).toValue) := by
      rw [List.mapM_map]
      exact mapM_eq_pure fun v hm => (hv v hm).written
    rw [write_eq, writeView]
    simp only [form, Value.items?_view_list, Codec.needWriter_complete, hwrite, hdocument]
    rfl
  · have hfilter : ((items.map fun v => (document v).toValue).map fun d =>
        (d, read (.complete .json notes ns) g d)).filter (fun p => !p.1.isNull) =
          items.map fun v =>
            ((document v).toValue, read (.complete .json notes ns) g (document v).toValue) := by
      rw [List.map_map]
      exact filter_map_eq_map fun v hm => by rw [Function.comp_apply, (hv v hm).notNull]; rfl
    have hread : (items.map fun v => ((document v).toValue,
        read (.complete .json notes ns) g (document v).toValue)).mapM (fun p => p.2 item) =
          pure (items.map result) := by
      rw [List.mapM_map]
      exact mapM_eq_pure fun v hm => (hv v hm).read
    rw [hdocument, read_eq, readView]
    simp only [form, Value.listItems?_view_list, Reading.ofOutcome_ok, pure_bind, hfilter, hread,
      Codec.needReader_complete notes ns (by decide : BodyFormat.json ≠ .query)]
  · exact Value.Alike.map_list fun v hm => (hv v hm).alike

theorem exists_map {r key value : g.Ref} {fields : List (String × Value)}
    (form : (g.shape r).form = .map key value) (names : (fields.map Prod.fst).Nodup)
    (notNull : ∀ p ∈ fields, p.2.isNull = false)
    (h : ∀ p ∈ fields, ∃ d w, RoundTrip notes ns g value p.2 d w) :
    ∃ d w, RoundTrip notes ns g r (.ofFields fields) d w := by
  choose! document result hp using h
  have hdocument : (Json.object (fields.map fun p => (p.1, document p))).toValue =
      .dict (fields.map fun p => (.str p.1, (document p).toValue)) := by
    rw [Json.toValue, Json.toEntries_eq, List.map_map]
    rfl
  refine ⟨.object (fields.map fun p => (p.1, document p)),
    .ofFields (fields.map fun p => (p.1, result p)), ?_, rfl, ?_, ?_⟩
  · have hfilter : (fields.map fun p => (Value.str p.1, p.2,
        write (.complete .json notes ns) g p.2)).filter (fun p => !p.2.1.isNull) =
          fields.map fun p => (.str p.1, p.2, write (.complete .json notes ns) g p.2) :=
      filter_map_eq_map fun p hm => by rw [notNull p hm]; rfl
    have hwrite : (fields.map fun p => (Value.str p.1, p.2,
        write (.complete .json notes ns) g p.2)).mapM (writeEntry g value) =
          .ok (fields.map fun p => (.str p.1, (document p).toValue)) := by
      rw [List.mapM_map]
      refine mapM_eq_pure fun p hm => ?_
      simp only [Function.comp_apply, writeEntry, Scalar.string, (hp p hm).written]
      rfl
    rw [write_eq, writeView]
    simp only [form, Value.entries?_view_ofFields, Codec.needWriter_complete, hfilter, hwrite,
      hdocument]
    rfl
  · have hfilter : ((fields.map fun p => (Value.str p.1, (document p).toValue)).map fun q =>
        (q.1, q.2, read (.complete .json notes ns) g q.2)).filter (fun q => !q.2.1.isNull) =
          fields.map fun p => (.str p.1, (document p).toValue,
            read (.complete .json notes ns) g (document p).toValue) := by
      rw [List.map_map]
      exact filter_map_eq_map fun p hm => by rw [Function.comp_apply, (hp p hm).notNull]; rfl
    have hread : (fields.map fun p => (Value.str p.1, (document p).toValue,
        read (.complete .json notes ns) g (document p).toValue)).mapM (fun q => do
          let v ← q.2.2 value
          return (q.1, v)) = pure (fields.map fun p => (.str p.1, result p)) := by
      rw [List.mapM_map]
      refine mapM_eq_pure fun p hm => ?_
      simp only [Function.comp_apply, (hp p hm).read, pure_bind]
    rw [hdocument, read_eq, readView]
    simp only [form, Value.entries?_view_dict, Reading.ofOutcome_ok, pure_bind, hfilter, hread,
      Codec.needReader_complete notes ns (by decide : BodyFormat.json ≠ .query)]
    rw [Value.ofFields, List.map_map]
    rfl
  · exact Value.Alike.of_perm names (by simp) fun p hm => (hp p hm).alike

theorem exists_scalar {r : g.Ref} {kind : ScalarKind} {v : Value}
    (form : (g.shape r).form = .scalar kind) (typed : Scalar.OfKind kind v) (hw : Scalar.Whole v) :
    ∃ d w, RoundTrip notes ns g r v d w := by
  obtain ⟨d, hwrite, hnull, hread⟩ := Scalar.exists_document typed hw
  refine ⟨d, v, ?_, hnull, ?_, .refl v⟩
  · rw [write_eq, writeView]
    simp only [form, Value.whole_view, hwrite]
    rfl
  · rw [read_eq, readView]
    simp only [form, Value.whole_view, hread, Reading.ofConversion_ok]

/-- Every well-typed value has a document that is read back as the value, if the shapes that its own
shape leads to can be read back. -/
theorem exists_roundTrip_of_leads (notes : Bool) (ns : Value) {r : g.Ref} {v : Value}
    (hr : ∀ q, g.Leads r q → Distinct (g.shape q)) (h : WellTyped g (demands g) r v) :
    ∃ d w, RoundTrip notes ns g r v d w := by
  induction h with
  | struct form names known typed demands ih =>
    refine exists_struct (hr _ (.refl _)) form names known (WellTyped.fields_not_null known typed) ?_
    intro q hq
    have hm := (mem_present hq).1
    exact ih (q.1.name, q.2) (mem_present hq).2 q.1 hm rfl fun p hp =>
      hr p (hp.head (Graph.IsPart.member form hm))
  | list form typed ih =>
    exact exists_list form fun v hv => ih v hv fun p hp => hr p (hp.head (Graph.IsPart.item form))
  | map form names typed ih =>
    exact exists_map form names (fun p hp => (typed p hp).not_null) fun p hp =>
      ih p hp fun q hq => hr q (hq.head (Graph.IsPart.value form))
  | scalar form typed demands => exact exists_scalar form typed demands

/-- Every well-typed value has a document that is read back as the value. -/
theorem exists_roundTrip (notes : Bool) (ns : Value) (hg : ∀ r, Distinct (g.shape r)) {r : g.Ref}
    {v : Value} (h : WellTyped g (demands g) r v) : ∃ d w, RoundTrip notes ns g r v d w :=
  exists_roundTrip_of_leads notes ns (fun q _ => hg q) h

end ServiceWire.JsonBody
