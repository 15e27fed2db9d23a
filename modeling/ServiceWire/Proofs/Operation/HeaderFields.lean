import ServiceWire.Operation.ResponseReader
import ServiceWire.Proofs.Codec.Scalar
import ServiceWire.Proofs.Http.Headers
import ServiceWire.Proofs.Value.Alike

/-!
# Members in header fields

A member that is located in the header has one field, or, if it is a map, a field for each entry,
whose name begins with the member's. What is written for a value of the member is read back as the
value, as long as the fields that belong to the member by their names are those that were written
for it. Which fields belong to a member does not depend on the case of names.
-/

namespace ServiceWire

variable {g : Graph}

/-- The shapes whose values header fields carry: scalars that their texts tell apart, and maps of
such scalars. -/
inductive HeaderForm (g : Graph) (r : g.Ref) : Prop
  | scalar {kind : ScalarKind} (form : (g.shape r).form = .scalar kind)
      (exact : Scalar.Exact kind)
  | map {key value : g.Ref} {kind : ScalarKind} (form : (g.shape r).form = .map key value)
      (scalar : (g.shape value).form = .scalar kind) (exact : Scalar.Exact kind)

/-- The values that header fields carry: scalars that are the same afterwards, and maps of such
scalars that are not empty. -/
def HeaderValue : Value → Prop
  | .dict entries => entries ≠ [] ∧ ∀ p ∈ entries, Scalar.InHeader p.2
  | v => Scalar.InHeader v

theorem headerValue_ofFields {entries : List (String × Value)} :
    HeaderValue (.ofFields entries) ↔ entries ≠ [] ∧ ∀ p ∈ entries, Scalar.InHeader p.2 := by
  rw [Value.ofFields, HeaderValue, ne_eq, List.map_eq_nil_iff, List.forall_mem_map]

/-- The names of the header fields of a member that has a value: for each key of a map the member's
name and the key, for any other value the member's name, which is kept free if there is no value. -/
def fieldNames (g : Graph) (m : Member g.size) (x? : Option Value) : List String :=
  match (g.shape m.shape).form with
  | .map _ _ => (x?.elim [] Value.named).map fun p => m.wireName.text ++ p.1.text
  | _ => [m.wireName.text]

/-- Whether a header field belongs to a member by its name. -/
def belongsTo (g : Graph) (m : Member g.size) (name : String) : Bool :=
  match (g.shape m.shape).form with
  | .map _ _ =>
    Text.startsWith (Text.lower name).toList (Text.lower m.wireName.text).toList
  | _ => Text.lower name == Text.lower m.wireName.text

theorem belongsTo_of_mem_fieldNames {m : Member g.size} {x? : Option Value} {name : String}
    (hname : name ∈ fieldNames g m x?) (ascii : Text.IsAscii name) :
    belongsTo g m name = true := by
  cases hform : (g.shape m.shape).form with
  | map =>
    rw [fieldNames, hform] at hname
    obtain ⟨p, -, rfl⟩ := List.mem_map.mp hname
    rw [belongsTo, hform]
    exact Text.startsWith_lower ascii
  | struct | list | scalar =>
    rw [fieldNames, hform] at hname
    rw [belongsTo, hform, List.mem_singleton.mp hname]
    exact beq_self_eq_true _

theorem wireName_mem_fieldNames {m : Member g.size} (h : (g.shape m.shape).kind ≠ .map)
    (x? : Option Value) : m.wireName.text ∈ fieldNames g m x? := by
  rw [fieldNames]
  cases hform : (g.shape m.shape).form with
  | map => exact absurd (by rw [Shape.kind, hform]; rfl) h
  | struct | list | scalar => exact List.mem_singleton_self _

theorem belongsTo_of_not_map {m : Member g.size} (h : (g.shape m.shape).kind ≠ .map)
    {name : String} (hname : Text.lower name ≠ Text.lower m.wireName.text) :
    belongsTo g m name = false := by
  rw [belongsTo]
  cases hform : (g.shape m.shape).form with
  | map => exact absurd (by rw [Shape.kind, hform]; rfl) h
  | struct | list | scalar => exact beq_false_of_ne hname

/-- Header fields of a request as a response has them. -/
def received (fields : List (String × String)) : List (String × Value) :=
  fields.map fun p => (p.1, .str p.2)

/-- What is written for a member with a value, and what is read from it: all fields that belong to
the member must be those that were written for it. -/
structure Carried (g : Graph) (m : Member g.size) (x : Value) (own : List (String × String)) :
    Prop where
  written : RequestWriter.headerFields m x = .ok (textKeys own)
  names : own.map Prod.fst = fieldNames g m (some x)
  read : ∀ fields : List (String × Value), (fields.map fun p => Text.lower p.1).Nodup →
    (∀ p ∈ own, Text.IsAscii p.1) → fields.filter (fun p => belongsTo g m p.1) = received own →
      ResponseReader.readHeader (.ofPairs fields) m = .ok (some x)

namespace RequestWriter

theorem scalarText_of_form {format : Scalar.TimestampFormat} {r : g.Ref} {kind : ScalarKind}
    (form : (g.shape r).form = .scalar kind) (v : Value) :
    scalarText g format r v = Scalar.textOf format kind v := by
  rw [scalarText, Shape.kind, form]
  rfl

end RequestWriter

namespace ResponseReader

theorem scalarOf_of_form {r : g.Ref} {kind : ScalarKind} (form : (g.shape r).form = .scalar kind)
    (s : String) : scalarOf g r (.str s) = Scalar.ofText kind s := by
  rw [scalarOf, Shape.kind, form]
  rfl

variable {fields : List (String × Value)} {m : Member g.size}

/-! ### Scalars -/

section Scalar

variable {kind : ScalarKind} (form : (g.shape m.shape).form = .scalar kind)
  (text : m.wireName = .str m.wireName.text)

include form text

theorem readHeader_scalar (h : Headers) :
    readHeader h m = match (h.get? m.wireName.text).filter fun v => !v.isNull with
      | none => .ok none
      | some raw => (scalarOf g m.shape raw).map some := by
  have hname : Headers.nameOf m.wireName = .ok m.wireName.text := by rw [text]; rfl
  rw [readHeader, hname, ok_bind]
  simp only [form]
  cases (h.get? m.wireName.text).filter fun v => !v.isNull with
  | none => rfl
  | some raw => rfl

theorem carried_scalar {x : Value} (typed : Scalar.OfKind kind x) (exact : Scalar.Exact kind)
    (hx : Scalar.InHeader x) : ∃ own, Carried g m x own := by
  obtain ⟨s, hwrite, hread⟩ := Scalar.exists_headerText typed exact hx
  refine ⟨[(m.wireName.text, s)], ?_, ?_, fun fields hnames _ hown => ?_⟩
  · have hkey : m.wireName.asKey = .ok (.str m.wireName.text) := by rw [text, Value.asKey_str]; rfl
    rw [RequestWriter.headerFields, form]
    simp only [RequestWriter.scalarText_of_form form, hwrite, ok_bind, hkey]
    rfl
  · rw [fieldNames, form]
    rfl
  · have hmem : (m.wireName.text, Value.str s) ∈ fields := by
      refine List.mem_of_mem_filter (p := fun p => belongsTo g m p.1) ?_
      rw [hown]
      exact List.mem_singleton_self _
    have hget := Headers.get?_ofPairs hnames hmem
    rw [readHeader_scalar form text]
    simp only [hget, Option.filter_some, Value.isNull, Bool.not_false, if_true,
      scalarOf_of_form form, hread]
    rfl

end Scalar

/-! ### Maps -/

/-- The value that the text of a field is read as. -/
def readText (value : g.Ref) (q : String × Value) : Value :=
  (scalarOf g value q.2).toOption.getD .null

/-- What follows the name of a member is the key of an entry. -/
theorem ofList_drop_wireName
    (length : (Text.lower m.wireName.text).length = m.wireName.text.length) (key : String) :
    String.ofList ((m.wireName.text ++ key).toList.drop (Text.lower m.wireName.text).length) =
      key := by
  rw [length, String.toList_append, ← String.length_toList, List.drop_left, String.ofList_toList]

section Map

variable {key value : g.Ref} {kind : ScalarKind} (form : (g.shape m.shape).form = .map key value)
  (text : m.wireName = .str m.wireName.text)

include form text

/-- A map has an entry for each field that belongs to its member: the rest of the field's name and
what is read of its value. -/
theorem readHeader_map (result : String × Value → Value)
    (names : (fields.map fun p => Text.lower p.1).Nodup)
    (h : ∀ p ∈ fields.filter (fun p => belongsTo g m p.1), scalarOf g value p.2 = .ok (result p)) :
    readHeader (.ofPairs fields) m =
      let entries := (fields.filter fun p => belongsTo g m p.1).map fun p =>
        (String.ofList (p.1.toList.drop (Text.lower m.wireName.text).length), result p)
      .ok (if entries.isEmpty then none else some (.ofFields (Entries.ofPairs entries))) := by
  have hname : Headers.nameOf m.wireName = .ok m.wireName.text := by rw [text]; rfl
  have hbelongs (name : String) : belongsTo g m name = Text.startsWith (Text.lower name).toList
      (Text.lower m.wireName.text).toList := by
    rw [belongsTo, form]
  have hfound : fields.mapM (readPrefixed value (Text.lower m.wireName.text)) =
      .ok (fields.map fun p => if belongsTo g m p.1 then
        some (String.ofList (p.1.toList.drop (Text.lower m.wireName.text).length), result p)
        else none) := by
    refine mapM_eq_pure fun p hp => ?_
    rw [readPrefixed, ← hbelongs]
    cases hp' : belongsTo g m p.1 with
    | true =>
      rw [if_pos rfl, if_pos rfl, h p (List.mem_filter.mpr ⟨hp, hp'⟩)]
      rfl
    | false => rfl
  have hentries : (fields.map fun p => if belongsTo g m p.1 then
      some (String.ofList (p.1.toList.drop (Text.lower m.wireName.text).length), result p)
      else none).filterMap id = (fields.filter fun p => belongsTo g m p.1).map fun p =>
        (String.ofList (p.1.toList.drop (Text.lower m.wireName.text).length), result p) := by
    rw [List.filterMap_map, ← List.filterMap_eq_map, List.filterMap_filter]
    rfl
  rw [readHeader, hname, ok_bind]
  simp only [form, Headers.toList_ofPairs names, hfound, ok_bind, hentries]
  rfl

/-- The fields that were written for the entries of a map are read as these entries. -/
theorem readHeader_map_received {entries : List (String × Value)}
    {textOf : String × Value → String} (scalar : (g.shape value).form = .scalar kind)
    (notEmpty : entries ≠ []) (names : (entries.map Prod.fst).Nodup)
    (read : ∀ p ∈ entries, Scalar.ofText kind (textOf p) = .ok p.2)
    (length : (Text.lower m.wireName.text).length = m.wireName.text.length)
    (lower : (fields.map fun p => Text.lower p.1).Nodup)
    (own : fields.filter (fun p => belongsTo g m p.1) =
      received (entries.map fun p => (m.wireName.text ++ p.1, textOf p))) :
    readHeader (.ofPairs fields) m = .ok (some (.ofFields entries)) := by
  have hvalue : ∀ p ∈ entries, scalarOf g value (.str (textOf p)) = .ok p.2 := fun p hp => by
    rw [scalarOf_of_form scalar, read p hp]
  have hresult : ∀ p ∈ entries,
      readText value (m.wireName.text ++ p.1, .str (textOf p)) = p.2 := fun p hp => by
    rw [readText, hvalue p hp]
    rfl
  have hentries : (received (entries.map fun p => (m.wireName.text ++ p.1, textOf p))).map
      (fun q => (String.ofList (q.1.toList.drop (Text.lower m.wireName.text).length),
        readText value q)) = entries := by
    rw [received, List.map_map, List.map_map]
    refine (List.map_congr_left fun p hp => ?_).trans (List.map_id _)
    simp only [Function.comp_apply, ofList_drop_wireName length, hresult p hp, id]
  have hempty : entries.isEmpty = false := List.isEmpty_eq_false_iff.mpr notEmpty
  rw [readHeader_map form text (readText value) lower fun q hq => ?_]
  · simp only [own, hentries, hempty, Bool.false_eq_true, if_false, Entries.ofPairs_eq_self names]
  · rw [own, received, List.map_map] at hq
    obtain ⟨p, hp, rfl⟩ := List.mem_map.mp hq
    simp only [Function.comp_apply, hresult p hp, hvalue p hp]

omit text in
/-- The entries of a map are written as a field each, under the member's name before the key. -/
theorem headerFields_map {entries : List (String × Value)} {textOf : String × Value → String}
    (scalar : (g.shape value).form = .scalar kind)
    (write : ∀ p ∈ entries, Scalar.textOf .rfc822 kind p.2 = .ok (textOf p)) :
    RequestWriter.headerFields m (.ofFields entries) =
      .ok (textKeys (entries.map fun p => (m.wireName.text ++ p.1, textOf p))) := by
  have hfields : (entries.map fun p => (Value.str p.1, p.2)).mapM (fun p => do
      let s ← RequestWriter.scalarText g .rfc822 value p.2
      return (Value.str (m.wireName.text ++ p.1.text), s)) =
        .ok (entries.map fun p => (Value.str (m.wireName.text ++ p.1), textOf p)) := by
    rw [List.mapM_map]
    refine mapM_eq_pure fun p hp => ?_
    simp only [Function.comp_apply, RequestWriter.scalarText_of_form scalar, write p hp]
    rfl
  rw [RequestWriter.headerFields, form, textKeys, List.map_map]
  exact hfields

theorem carried_map {d : Demands g} {x : Value} (scalar : (g.shape value).form = .scalar kind)
    (exact : Scalar.Exact kind) (typed : WellTyped g d m.shape x) (hx : HeaderValue x) :
    ∃ own, Carried g m x own := by
  obtain ⟨entries, rfl, hnames, htyped⟩ := typed.exists_entries form
  obtain ⟨hne, hvalues⟩ := headerValue_ofFields.mp hx
  have htexts : ∀ p ∈ entries, ∃ s, Scalar.textOf .rfc822 kind p.2 = .ok s ∧
      Scalar.ofText kind s = .ok p.2 := fun p hp =>
    Scalar.exists_headerText ((htyped p hp).ofKind (by rw [Shape.kind, scalar]; rfl)) exact
      (hvalues p hp)
  choose! textOf hwrite hread using htexts
  refine ⟨entries.map fun p => (m.wireName.text ++ p.1, textOf p),
    headerFields_map form scalar hwrite, ?_, fun fields hlower hascii hown => ?_⟩
  · rw [fieldNames, form, List.map_map]
    change _ = (entries.map fun p => (Value.str p.1, p.2)).map _
    rw [List.map_map]
    rfl
  · have hlength : (Text.lower m.wireName.text).length = m.wireName.text.length := by
      obtain ⟨p, hp⟩ := List.exists_mem_of_ne_nil _ hne
      exact Text.length_lower (hascii _ (List.mem_map_of_mem hp)).of_append
    exact readHeader_map_received form text scalar hne hnames hread hlength hlower hown

end Map

/-! ### Members -/

variable (hform : HeaderForm g m.shape) (text : m.wireName = .str m.wireName.text)

include hform text

/-- A well-typed value of a member is carried by header fields. -/
theorem exists_carried {d : Demands g} {x : Value} (typed : WellTyped g d m.shape x)
    (hx : HeaderValue x) : ∃ own, Carried g m x own := by
  cases hform with
  | scalar form exact =>
    have hkind := typed.ofKind (by rw [Shape.kind, form]; rfl)
    refine carried_scalar form text hkind exact ?_
    cases hkind <;> exact hx
  | map form scalar exact => exact carried_map form text scalar exact typed hx

/-- A member that no field belongs to has no value. -/
theorem readHeader_absent (names : (fields.map fun p => Text.lower p.1).Nodup)
    (h : fields.filter (fun p => belongsTo g m p.1) = []) :
    readHeader (.ofPairs fields) m = .ok none := by
  cases hform with
  | scalar form exact =>
    have hget : (Headers.ofPairs fields).get? m.wireName.text = none := by
      refine Headers.get?_ofPairs_none names fun p hp => ?_
      have hp := List.filter_eq_nil_iff.mp h p hp
      rw [belongsTo, form] at hp
      simpa using hp
    rw [readHeader_scalar form text, hget]
    rfl
  | map form scalar exact =>
    rw [readHeader_map form text (fun _ => .null) names, h]
    · rfl
    · rw [h]
      exact fun p hp => by cases hp

end ResponseReader

/-! ### All header fields of a request -/

/-- The members of a structure that are located in the header. -/
def headerMembers (g : Graph) (r : g.Ref) : List (Member g.size) :=
  (g.members r).filter fun m => m.location == .header

theorem mem_headerMembers {r : g.Ref} {m : Member g.size} (hm : m ∈ g.members r)
    (hloc : m.location = .header) : m ∈ headerMembers g r :=
  List.mem_filter.mpr ⟨hm, beq_iff_eq.mpr hloc⟩

/-- The header fields of members, each of which has its own. -/
def allFields (members : List (Member g.size)) (own : Member g.size → List (String × String)) :
    List (String × String) :=
  (members.filter fun m => m.location == .header).flatMap own

namespace RequestWriter

variable {fields : List (String × Value)}

theorem valueOf_ofFields (notNull : ∀ p ∈ fields, p.2.isNull = false) (name : String) :
    valueOf (.ofFields fields) name = fields.lookup name := by
  rw [valueOf, Value.get?_ofFields]
  cases hl : fields.lookup name with
  | none => rfl
  | some x => rw [Option.filter_some, notNull _ (Entries.mem_of_lookup hl), Bool.not_false, if_pos rfl]

/-- The header fields of members are put beside each other if their names are different. -/
theorem foldlM_bind {own : Member g.size → List (String × String)} {members : List (Member g.size)}
    (notNull : ∀ p ∈ fields, p.2.isNull = false)
    (located : ∀ m ∈ members, m.location = .header ∨ m.location = .body)
    (written : ∀ m ∈ members, m.location = .header → ∀ x, fields.lookup m.name = some x →
      headerFields m x = .ok (textKeys (own m)))
    (absent : ∀ m ∈ members, m.location = .header → fields.lookup m.name = none → own m = [])
    (before : List (String × String))
    (names : ((before ++ allFields members own).map Prod.fst).Nodup) :
    members.foldlM (bind (.ofFields fields)) { headers := textKeys before } =
      .ok { headers := textKeys (before ++ allFields members own) } := by
  induction members generalizing before with
  | nil => rw [allFields, List.filter_nil, List.flatMap_nil, List.append_nil]; rfl
  | cons m rest ih =>
    have hrest : ∀ before, ((before ++ allFields rest own).map Prod.fst).Nodup →
        rest.foldlM (bind (.ofFields fields)) { headers := textKeys before } =
          .ok { headers := textKeys (before ++ allFields rest own) } :=
      ih (fun m' hm' => located m' (List.mem_cons_of_mem _ hm'))
        (fun m' hm' => written m' (List.mem_cons_of_mem _ hm'))
        fun m' hm' => absent m' (List.mem_cons_of_mem _ hm')
    rw [List.foldlM_cons, bind, valueOf_ofFields notNull]
    rcases located m (List.mem_cons_self ..) with hloc | hloc
    · have hall : allFields (m :: rest) own = own m ++ allFields rest own := by
        rw [allFields, List.filter_cons, hloc]
        rfl
      rw [hall, ← List.append_assoc] at names ⊢
      cases hx : fields.lookup m.name with
      | none =>
        rw [absent m (List.mem_cons_self ..) hloc hx, List.append_nil] at names ⊢
        exact hrest _ names
      | some x =>
        have hput : Entries.putAll before (own m) = before ++ own m := by
          refine Entries.putAll_eq_append ?_
          rw [List.map_append, List.nodup_append] at names
          rw [← List.map_append]
          exact names.1
        simp only [hloc, written m (List.mem_cons_self ..) hloc x hx, ok_bind,
          Entries.putAll_textKeys, hput]
        exact hrest _ names
    · have hall : allFields (m :: rest) own = allFields rest own := by
        rw [allFields, List.filter_cons, hloc]
        rfl
      rw [hall] at names ⊢
      cases fields.lookup m.name with
      | none => exact hrest _ names
      | some x =>
        simp only [hloc]
        exact hrest _ names

end RequestWriter

/-! ### Whose field a field is -/

/-- The name of the header field that says what the body is. -/
def contentTypeField : String := "Content-Type"

/-- The header fields of a request are told apart by their names, whatever their case: the names
that are the members' own are different from each other and from that of the content type, and no
name begins with that of a map unless it is the map's own. -/
structure Apart (g : Graph) (r : g.Ref) (v : Value) (hasType : Prop) : Prop where
  ascii : ∀ m ∈ headerMembers g r, ∀ name ∈ fieldNames g m (v.get? m.name), Text.IsAscii name
  distinct : ((contentTypeField :: (headerMembers g r).flatMap fun m =>
    fieldNames g m (v.get? m.name)).map Text.lower).Nodup
  others : ∀ m ∈ headerMembers g r, (g.shape m.shape).kind = .map →
    ∀ m' ∈ headerMembers g r, m'.name ≠ m.name → (v.get? m'.name).isSome →
      ∀ name ∈ fieldNames g m' (v.get? m'.name), belongsTo g m name = false
  contentType : ∀ m ∈ headerMembers g r, (g.shape m.shape).kind = .map → hasType →
    belongsTo g m contentTypeField = false

/-- Of what comes of different items, only that of one item passes. -/
theorem filter_flatMap_eq {α β : Type} {items : List α} {f : α → List β} {p : β → Bool} {a : α}
    (hn : items.Nodup) (ha : a ∈ items) (self : ∀ b ∈ f a, p b = true)
    (others : ∀ a' ∈ items, a' ≠ a → ∀ b ∈ f a', p b = false) :
    (items.flatMap f).filter p = f a := by
  obtain ⟨before, after, rfl⟩ := List.append_of_mem ha
  have hnone {part : List α} (hsub : ∀ a' ∈ part, a' ∈ before ++ a :: after) (hne : a ∉ part) :
      (part.flatMap f).filter p = [] := by
    refine List.filter_eq_nil_iff.mpr fun b hb => ?_
    obtain ⟨a', ha', hb⟩ := List.mem_flatMap.mp hb
    rw [others a' (hsub a' ha') (fun heq => hne (heq ▸ ha')) b hb]
    exact Bool.false_ne_true
  obtain ⟨-, hafter, hbefore⟩ := List.nodup_append.mp hn
  rw [List.flatMap_append, List.flatMap_cons, List.filter_append, List.filter_append,
    hnone (fun a' h => List.mem_append_left _ h) fun h => hbefore a h a (List.mem_cons_self ..) rfl,
    hnone (fun a' h => List.mem_append_right _ (List.mem_cons_of_mem _ h))
      (List.nodup_cons.mp hafter).1,
    List.filter_eq_self.mpr self, List.append_nil, List.nil_append]

/-- What comes of different items has nothing in common if no result comes twice. -/
theorem disjoint_of_nodup_flatMap {α β : Type} {items : List α} {f : α → List β}
    (h : (items.flatMap f).Nodup) {a b : α} (ha : a ∈ items) (hb : b ∈ items) (hne : a ≠ b) :
    List.Disjoint (f a) (f b) := by
  have : Std.Symm (Function.onFun List.Disjoint f) := ⟨fun _ _ h => h.symm⟩
  exact (List.nodup_flatMap.mp h).2.forall ha hb hne

theorem flatMap_sublist {α β : Type} {f f' : α → List β} {items : List α}
    (h : ∀ a ∈ items, (f a).Sublist (f' a)) : (items.flatMap f).Sublist (items.flatMap f') := by
  induction items with
  | nil => exact .refl _
  | cons a rest ih =>
    exact (h a (List.mem_cons_self ..)).append (ih fun b hb => h b (List.mem_cons_of_mem _ hb))

/-- The field that says what the body is, if there is one. -/
def typeFields (type? : Option String) : List (String × String) :=
  type?.toList.map fun type => (contentTypeField, type)

namespace Apart

variable {r : g.Ref} {v : Value} {hasType : Prop}

/-- A name that is a member's own is no other member's. -/
theorem belongsTo_eq_false (h : Apart g r v hasType) {m m' : Member g.size}
    (hm : m ∈ headerMembers g r) (hm' : m' ∈ headerMembers g r) (hne : m'.name ≠ m.name)
    (hsome : (v.get? m'.name).isSome) {name : String}
    (hname : name ∈ fieldNames g m' (v.get? m'.name)) : belongsTo g m name = false := by
  by_cases hkind : (g.shape m.shape).kind = .map
  · exact h.others m hm hkind m' hm' hne hsome name hname
  · have hdistinct := (List.nodup_cons.mp h.distinct).2
    rw [List.map_flatMap] at hdistinct
    have hdisjoint := disjoint_of_nodup_flatMap hdistinct hm' hm fun heq => hne (heq ▸ rfl)
    have hwire := wireName_mem_fieldNames hkind (v.get? m.name)
    refine belongsTo_of_not_map hkind fun heq => ?_
    exact hdisjoint (List.mem_map_of_mem hname) (heq ▸ List.mem_map_of_mem hwire)

/-- The name of the content type is no member's. -/
theorem belongsTo_contentType (h : Apart g r v hasType) (htype : hasType) {m : Member g.size}
    (hm : m ∈ headerMembers g r) : belongsTo g m contentTypeField = false := by
  by_cases hkind : (g.shape m.shape).kind = .map
  · exact h.contentType m hm hkind htype
  · have hlower : Text.lower contentTypeField ≠ Text.lower m.wireName.text := fun heq => by
      refine (List.nodup_cons.mp h.distinct).1 ?_
      rw [heq]
      refine List.mem_map_of_mem ?_
      exact List.mem_flatMap.mpr ⟨m, hm, wireName_mem_fieldNames hkind _⟩
    exact belongsTo_of_not_map hkind hlower

section Own

variable (h : Apart g r v hasType) {own : Member g.size → List (String × String)}
  (hown : ∀ m ∈ headerMembers g r, (own m).map Prod.fst =
    if (v.get? m.name).isSome then fieldNames g m (v.get? m.name) else [])
  {type? : Option String} (htype : type?.isSome → hasType)

include hown

/-- What is written for a member has names that are its own. -/
theorem mem_fieldNames {m : Member g.size} (hm : m ∈ headerMembers g r) {p : String × String}
    (hp : p ∈ own m) : (v.get? m.name).isSome ∧ p.1 ∈ fieldNames g m (v.get? m.name) := by
  have hname := List.mem_map_of_mem (f := Prod.fst) hp
  rw [hown m hm] at hname
  split at hname
  · rename_i hsome
    exact ⟨hsome, hname⟩
  · cases hname

theorem names_sublist : ((allFields (g.members r) own).map Prod.fst).Sublist
    ((headerMembers g r).flatMap fun m => fieldNames g m (v.get? m.name)) := by
  rw [allFields, List.map_flatMap]
  refine flatMap_sublist fun m hm => ?_
  rw [hown m hm]
  split
  · exact .refl _
  · exact List.nil_sublist _

include h

theorem contentTypeField_notMem : contentTypeField ∉ (allFields (g.members r) own).map Prod.fst :=
  fun hmem => (List.nodup_cons.mp h.distinct).1
    (List.mem_map_of_mem ((names_sublist hown).subset hmem))

include htype

/-- The header fields of a request have different names, whatever their case. -/
theorem nodup_names :
    ((allFields (g.members r) own ++ typeFields type?).map fun p => Text.lower p.1).Nodup := by
  have htypes : ((typeFields type?).map Prod.fst).Sublist [contentTypeField] := by
    cases type? with
    | none => exact List.nil_sublist _
    | some type => exact .refl _
  have hall := ((htypes.append (names_sublist hown)).map Text.lower).nodup h.distinct
  rw [← List.map_append, List.map_map] at hall
  exact (List.perm_append_comm.map _).nodup_iff.mp hall

/-- The fields that belong to a member by their names are those that were written for it. -/
theorem filter_belongsTo (names : ((g.members r).map Member.name).Nodup) {m : Member g.size}
    (hm : m ∈ headerMembers g r) :
    (received (allFields (g.members r) own ++ typeFields type?)).filter
      (fun p => belongsTo g m p.1) = received (own m) := by
  have hnodup : (headerMembers g r).Nodup := (names.of_map _).sublist List.filter_sublist
  have hfields : (allFields (g.members r) own).filter (fun p => belongsTo g m p.1) = own m := by
    refine filter_flatMap_eq hnodup hm (fun p hp => ?_) fun m' hm' hne p hp => ?_
    · have hname := (mem_fieldNames hown hm hp).2
      exact belongsTo_of_mem_fieldNames hname (h.ascii m hm _ hname)
    · obtain ⟨hsome, hname⟩ := mem_fieldNames hown hm' hp
      refine h.belongsTo_eq_false hm hm' (fun heq => hne ?_) hsome hname
      exact List.inj_on_of_nodup_map names (List.mem_filter.mp hm').1 (List.mem_filter.mp hm).1 heq
  have htypes : (typeFields type?).filter (fun p => belongsTo g m p.1) = [] := by
    refine List.filter_eq_nil_iff.mpr fun p hp => ?_
    obtain ⟨type, hsome, rfl⟩ := List.mem_map.mp hp
    rw [h.belongsTo_contentType (htype (Option.isSome_iff_exists.mpr ⟨type, by simpa using hsome⟩)) hm]
    exact Bool.false_ne_true
  rw [received, List.filter_map]
  refine congrArg _ ?_
  rw [List.filter_append]
  exact (congrArg₂ _ hfields htypes).trans (List.append_nil _)

end Own

end Apart

/-- Each member that is located in the header has the fields that its value is written as. -/
structure OwnFields (g : Graph) (r : g.Ref) (fields : List (String × Value))
    (own : Member g.size → List (String × String)) : Prop where
  carried : ∀ m ∈ headerMembers g r, ∀ x, fields.lookup m.name = some x → Carried g m x (own m)
  absent : ∀ m ∈ headerMembers g r, fields.lookup m.name = none → own m = []

/-- The members of a well-typed value have header fields. -/
theorem OwnFields.exists_of_wellTyped {d : Demands g} {r : g.Ref} {fields : List (String × Value)}
    (forms : ∀ m ∈ g.members r, m.location = .header → HeaderForm g m.shape)
    (texts : ∀ m ∈ g.members r, m.wireName = .str m.wireName.text)
    (typed : ∀ q ∈ present (g.members r) fields, WellTyped g d q.1.shape q.2)
    (values : ∀ m ∈ headerMembers g r, ∀ x, fields.lookup m.name = some x → HeaderValue x) :
    ∃ own, OwnFields g r fields own := by
  have hown : ∀ m ∈ headerMembers g r, ∃ own : List (String × String),
      (∀ x, fields.lookup m.name = some x → Carried g m x own) ∧
        (fields.lookup m.name = none → own = []) := by
    intro m hm
    obtain ⟨hmem, hloc⟩ := List.mem_filter.mp hm
    cases hx : fields.lookup m.name with
    | none => exact ⟨[], fun x h => (by cases h), fun _ => rfl⟩
    | some x =>
      obtain ⟨own, hown⟩ := ResponseReader.exists_carried (forms m hmem (beq_iff_eq.mp hloc))
        (texts m hmem) (typed (m, x) (mem_present_iff.mpr ⟨hmem, hx⟩)) (values m hm x hx)
      refine ⟨own, fun x' h => ?_, fun h => by cases h⟩
      obtain rfl := Option.some.inj h
      exact hown
  choose! own hown using hown
  exact ⟨own, fun m hm => (hown m hm).1, fun m hm => (hown m hm).2⟩

theorem OwnFields.names {r : g.Ref} {fields : List (String × Value)}
    {own : Member g.size → List (String × String)} (h : OwnFields g r fields own) :
    ∀ m ∈ headerMembers g r, (own m).map Prod.fst =
      if ((Value.ofFields fields).get? m.name).isSome then
        fieldNames g m ((Value.ofFields fields).get? m.name) else [] := by
  intro m hm
  rw [Value.get?_ofFields]
  cases hx : fields.lookup m.name with
  | none =>
    rw [h.absent m hm hx]
    rfl
  | some x => exact (h.carried m hm x hx).names

namespace Apart

variable {r : g.Ref} {hasType : Prop}

/-- Each member is read from the header fields of a request as the value that it has. -/
theorem readHeader_eq {fields : List (String × Value)} (h : Apart g r (.ofFields fields) hasType)
    (names : ((g.members r).map Member.name).Nodup)
    (texts : ∀ m ∈ g.members r, m.wireName = .str m.wireName.text)
    (forms : ∀ m ∈ headerMembers g r, HeaderForm g m.shape)
    {own : Member g.size → List (String × String)} (hown : OwnFields g r fields own)
    {type? : Option String} (htype : type?.isSome → hasType) {m : Member g.size}
    (hm : m ∈ headerMembers g r) :
    ResponseReader.readHeader
      (.ofPairs (received (allFields (g.members r) own ++ typeFields type?))) m =
        .ok (fields.lookup m.name) := by
  have hlower := h.nodup_names hown.names htype
  have hfilter := h.filter_belongsTo hown.names htype names hm
  have hreceived : ((received (allFields (g.members r) own ++ typeFields type?)).map fun p =>
      Text.lower p.1).Nodup := by
    rw [received, List.map_map]
    exact hlower
  have htext := texts m (List.mem_filter.mp hm).1
  cases hx : fields.lookup m.name with
  | none =>
    rw [hown.absent m hm hx] at hfilter
    exact ResponseReader.readHeader_absent (forms m hm) htext hreceived hfilter
  | some x =>
    refine (hown.carried m hm x hx).read _ hreceived (fun p hp => ?_) hfilter
    exact h.ascii m hm _ (mem_fieldNames hown.names hm hp).2

end Apart

end ServiceWire
