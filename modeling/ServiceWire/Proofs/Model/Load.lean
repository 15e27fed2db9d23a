import ServiceWire.Model.Basic
import ServiceWire.Proofs.Model.Members

/-!
# Loading shape definitions

A service model is loaded from shape definitions exactly if these are well formed; all else is
reported as a defect of the configuration. The shapes of a loaded model are those of the
definitions: each is found under its name, has what its definition says, and refers to the shapes
that are found under the names it refers to, whatever the order of the definitions.
-/

namespace ServiceWire

/-- Lists that are related item by item have the same names if related items do. -/
theorem map_eq_of_forall₂ {α β γ : Type} {R : α → β → Prop} {f : α → γ} {f' : β → γ}
    {items : List α} {others : List β} (h : List.Forall₂ R items others)
    (hf : ∀ a b, R a b → f' b = f a) : others.map f' = items.map f := by
  induction h with
  | nil => rfl
  | cons hab _ ih => rw [List.map_cons, List.map_cons, ih, hf _ _ hab]

namespace Definitions

variable {table : Table} {all : List Draft}

/-! ### Members of all structures -/

theorem isStruct_iff (h : Built table all) {name : String} {fields : List (String × Json)}
    (hmem : name ∈ names all) (hdef : Defines table name fields) :
    ((draft? all name).any fun d => d.form == .struct) = true ↔ kind? fields = some .struct := by
  obtain ⟨d, hd⟩ := Option.isSome_iff_exists.mp (draft?_isSome_iff.mpr hmem)
  obtain ⟨hin, rfl⟩ := mem_of_draft? hd
  rw [hd, Option.any_some, beq_iff_eq, (h.draftOf hin).kind hdef, Option.some.injEq]
  cases d.form <;> simp [DraftForm.kind]

/-- The members of a definition under its name. -/
def namedMembers (all : List Draft) (n : Nat) (p : String × Json) :
    Except Fault (String × List (Member n)) :=
  match p.2 with
  | .object fields => do
    let ms ← membersOf all n p.1 fields
    return (p.1, ms)
  | _ => return (p.1, [])

/-- The definitions of structures. -/
def structures (table : Table) (all : List Draft) : Table :=
  table.filter fun p => (draft? all p.1).any fun d => d.form == .struct

theorem allMembers_eq (table : Table) (all : List Draft) (n : Nat) :
    allMembers table all n = (structures table all).mapM (namedMembers all n) := rfl

theorem namedMembers_eq_ok {n : Nat} {name : String} {fields : List (String × Json)}
    {q : String × List (Member n)} (h : namedMembers all n (name, .object fields) = .ok q) :
    membersOf all n name fields = .ok q.2 ∧ q.1 = name := by
  obtain ⟨ms, hms, h⟩ := exists_of_bind h
  cases h
  exact ⟨hms, rfl⟩

/-- Members are bound for each definition whose name is defined as a structure. -/
theorem mem_structures_iff (h : Built table all)
    (hall : ∀ name, name ∈ names all ↔ Defined table name) {p : String × Json} :
    p ∈ structures table all ↔ p ∈ table ∧ IsStruct table p.1 := by
  rw [structures, List.mem_filter]
  refine and_congr_right fun hp => ?_
  have hmem : p.1 ∈ names all := (hall p.1).mpr (List.mem_map_of_mem hp)
  constructor
  · intro hstruct
    obtain ⟨d, -, hd, hdraft⟩ := h.exists_draftOf hmem
    obtain ⟨fields, hdef⟩ := hdraft.exists_defines
    rw [hd] at hdef
    exact ⟨fields, hdef, (isStruct_iff h hmem hdef).mp hstruct⟩
  · rintro ⟨fields, hdef, hkind⟩
    exact (isStruct_iff h hmem hdef).mpr hkind

theorem mem_structures (h : Built table all) (hall : ∀ name, name ∈ names all ↔ Defined table name)
    {name : String} {fields : List (String × Json)} (hdef : Defines table name fields)
    (hkind : kind? fields = some .struct) : (name, .object fields) ∈ structures table all :=
  (mem_structures_iff h hall).mpr ⟨Entries.mem_of_lookup hdef, fields, hdef, hkind⟩

/-- The definition of a structure is one of its type. -/
theorem exists_of_mem_structures (ht : TypedTable table) (h : Built table all)
    (hall : ∀ name, name ∈ names all ↔ Defined table name) {p : String × Json}
    (hp : p ∈ structures table all) : ∃ fields, p.2 = .object fields ∧ Typed fields ∧
      Defines table p.1 fields ∧ kind? fields = some .struct := by
  obtain ⟨hmem, hstruct⟩ := List.mem_filter.mp hp
  obtain ⟨fields, hfields, typed⟩ := ht.typed p hmem
  have hdef : Defines table p.1 fields := by
    rw [Defines, ← hfields]
    exact Entries.lookup_of_mem ht.names hmem
  exact ⟨fields, hfields, typed, hdef,
    (isStruct_iff h ((hall p.1).mpr hdef.defined) hdef).mp hstruct⟩

/-- The members of all structures are bound exactly if each definition says what it must. -/
theorem exists_allMembers_iff (ht : TypedTable table) (h : Built table all)
    (hall : ∀ name, name ∈ names all ↔ Defined table name) :
    (∃ ms, allMembers table all all.length = .ok ms) ↔
      ∀ name fields, Defines table name fields → kind? fields = some .struct →
        Membered table fields := by
  rw [allMembers_eq]
  constructor
  · rintro ⟨ms, hms⟩ name fields hdef hkind
    obtain ⟨q, -, hq⟩ :=
      exists_of_forall₂_left (forall₂_of_mapM hms) (mem_structures h hall hdef hkind)
    exact (exists_membersOf_iff h.nodup hall (ht.typed_of_defines hdef) name).mp
      ⟨q.2, (namedMembers_eq_ok hq).1⟩
  · intro membered
    refine exists_mapM fun p hp => ?_
    obtain ⟨fields, hfields, typed, hdef, hkind⟩ := exists_of_mem_structures ht h hall hp
    obtain ⟨ms, hms⟩ := (exists_membersOf_iff h.nodup hall typed p.1).mpr
      (membered p.1 fields hdef hkind)
    refine ⟨(p.1, ms), ?_⟩
    simp only [namedMembers, hfields, hms]
    rfl

theorem noFailure_allMembers (hr : ReadableTable table) (h : Built table all)
    (hall : ∀ name, name ∈ names all ↔ Defined table name) (n : Nat) :
    NoFailure (allMembers table all n) := by
  rw [allMembers_eq]
  refine .mapM fun p hp => ?_
  obtain ⟨hmem, hstruct⟩ := (mem_structures_iff h hall).mp hp
  rw [namedMembers.eq_def]
  split
  · next fields hfields =>
    have hmembers := hr.members p hmem fields hfields hstruct
    exact .bind (noFailure_membersOf hmembers n p.1) fun ms => .ok _
  · exact .ok _

/-- The members that were bound for a structure are found under its name. -/
theorem lookup_allMembers (ht : TypedTable table) (h : Built table all)
    (hall : ∀ name, name ∈ names all ↔ Defined table name)
    {members : List (String × List (Member all.length))}
    (hms : allMembers table all all.length = .ok members) {name : String}
    {fields : List (String × Json)} (hdef : Defines table name fields)
    (hkind : kind? fields = some .struct) :
    ∃ ms, members.lookup name = some ms ∧ membersOf all all.length name fields = .ok ms := by
  rw [allMembers_eq] at hms
  have hforall := (List.forall₂_and_left _ _).mpr ⟨fun p hp => hp, forall₂_of_mapM hms⟩
  obtain ⟨q, hmem, -, hq⟩ := exists_of_forall₂_left hforall (mem_structures h hall hdef hkind)
  obtain ⟨hms, rfl⟩ := namedMembers_eq_ok hq
  have hkeys : members.map Prod.fst = (structures table all).map Prod.fst := by
    refine map_eq_of_forall₂ hforall fun p q hpq => ?_
    obtain ⟨fields, hfields, -⟩ := exists_of_mem_structures ht h hall hpq.1
    have hq := hpq.2
    rw [← Prod.mk.eta (p := p), hfields] at hq
    exact (namedMembers_eq_ok hq).2
  refine ⟨q.2, Entries.lookup_of_mem ?_ hmem, hms⟩
  rw [hkeys]
  exact ht.names.sublist (List.filter_sublist.map _)

/-! ### Shapes -/

/-- A shape is what its definition says; what it refers to is found under the name given there. -/
inductive ShapeOf {n : Nat} (found : String → Fin n → Prop) (name : String)
    (fields : List (String × Json)) : Shape n → Prop
  | struct {members : List (Member n)} (kind : kind? fields = some .struct)
      (each : List.Forall₂ (MemberOf found fields) (memberRefs fields) members) :
      ShapeOf found name fields
        { structTraits fields with name := name, form := .struct members }
  | scalar {k : ScalarKind} (kind : kind? fields = some (.scalar k)) :
      ShapeOf found name fields { commonTraits fields with name := name, form := .scalar k }
  | list {item : String} {ref : List (String × Json)} {i : Fin n}
      (kind : kind? fields = some .list) (part : part? fields "member" = some (item, ref))
      (target : found item i) :
      ShapeOf found name fields { listTraits fields ref with name := name, form := .list i }
  | map {key value : String} {keyRef valueRef : List (String × Json)} {i j : Fin n}
      (kind : kind? fields = some .map) (keyPart : part? fields "key" = some (key, keyRef))
      (valuePart : part? fields "value" = some (value, valueRef)) (keyTarget : found key i)
      (valueTarget : found value j) :
      ShapeOf found name fields
        { mapTraits fields keyRef valueRef with name := name, form := .map i j }

theorem MemberOf.imp {n : Nat} {found found' : String → Fin n → Prop}
    {fields : List (String × Json)} {p : String × Json} {m : Member n}
    (hm : MemberOf found fields p m) (h : ∀ target i, found target i → found' target i) :
    MemberOf found' fields p m := by
  obtain ⟨target, ref, href, hfound, hrest⟩ := hm.reference
  exact ⟨hm.name, ⟨target, ref, href, h target _ hfound, hrest⟩, hm.payload, hm.required⟩

theorem ShapeOf.imp {n : Nat} {found found' : String → Fin n → Prop} {name : String}
    {fields : List (String × Json)} {s : Shape n} (hs : ShapeOf found name fields s)
    (h : ∀ target i, found target i → found' target i) : ShapeOf found' name fields s := by
  cases hs with
  | struct kind each => exact .struct kind (each.imp fun p m hm => hm.imp h)
  | scalar kind => exact .scalar kind
  | list kind part target => exact .list kind part (h _ _ target)
  | map kind keyPart valuePart keyTarget valueTarget =>
    exact .map kind keyPart valuePart (h _ _ keyTarget) (h _ _ valueTarget)

/-- Each draft becomes the shape of its definition. -/
theorem exists_shapeOf (ht : TypedTable table) (h : Built table all)
    (hall : ∀ name, name ∈ names all ↔ Defined table name)
    {members : List (String × List (Member all.length))}
    (hms : allMembers table all all.length = .ok members) {d : Draft} (hd : d ∈ all) :
    ∃ fields s, Defines table d.name fields ∧ shapeOf all all.length members d = .ok s ∧
      s.name = d.name ∧ ShapeOf (Named all) d.name fields s := by
  cases h.draftOf hd with
  | @struct name fields hdef kind =>
    obtain ⟨ms, hlookup, hmembers⟩ := lookup_allMembers ht h hall hms hdef kind
    have heach := membersOf_eq_ok h.nodup (ht.typed_of_defines hdef) hmembers
    refine ⟨fields, _, hdef, rfl, rfl, ?_⟩
    rw [hlookup, Option.getD_some]
    exact .struct kind heach
  | scalar hdef kind => exact ⟨_, _, hdef, rfl, rfl, .scalar kind⟩
  | @list name item fields ref hdef kind part mem =>
    obtain ⟨i, hi, hname⟩ := exists_refOf h.nodup mem name
    refine ⟨fields, _, hdef, ?_, rfl, .list kind part hname⟩
    simp only [shapeOf, hi]
    rfl
  | @map name key value fields keyRef valueRef keyFields hdef kind keyPart valuePart keyMem _ _
      valueMem =>
    obtain ⟨i, hi, hkey⟩ := exists_refOf h.nodup keyMem name
    obtain ⟨j, hj, hvalue⟩ := exists_refOf h.nodup valueMem name
    refine ⟨fields, _, hdef, ?_, rfl, .map kind keyPart valuePart hkey hvalue⟩
    simp only [shapeOf, hi, hj]
    rfl

/-! ### The graph -/

/-- The shapes of a graph are those of definitions, one for each name. -/
structure Faithful (table : Table) (g : Graph) : Prop where
  defined : ∀ r, Defined table (g.shape r).name
  unique : ∀ r r', (g.shape r).name = (g.shape r').name → r = r'
  shapes : ∀ name fields, Defines table name fields → ∃ r, (g.shape r).name = name ∧
    ShapeOf (fun target q => (g.shape q).name = target) name fields (g.shape r)

/-- A shape keeps the name of its draft. -/
theorem name_of_shapeOf {n : Nat} {members : List (String × List (Member n))} {d : Draft}
    {s : Shape n} (h : shapeOf all n members d = .ok s) : s.name = d.name := by
  rw [shapeOf] at h
  cases hform : d.form with
  | struct | scalar =>
    rw [hform] at h
    cases h
    rfl
  | list member =>
    rw [hform] at h
    obtain ⟨i, -, h⟩ := exists_of_bind h
    cases h
    rfl
  | map key value =>
    rw [hform] at h
    obtain ⟨i, -, h⟩ := exists_of_bind h
    obtain ⟨j, -, h⟩ := exists_of_bind h
    cases h
    rfl

/-- The shapes of a graph have the names of the drafts. -/
theorem name_of_forall₂ {members : List (String × List (Member all.length))}
    {shapes : List (Shape all.length)}
    (hshapes : List.Forall₂ (fun d s => shapeOf all all.length members d = .ok s) all shapes)
    (hlength : shapes.toArray.size = all.length) (i : Fin all.length) :
    (Graph.shape ⟨all.length, ⟨shapes.toArray, hlength⟩⟩ i).name = all[i].name := by
  have hat : shapeOf all all.length members all[i] =
      .ok (Graph.shape ⟨all.length, ⟨shapes.toArray, hlength⟩⟩ i) :=
    hshapes.get i.isLt (hshapes.length_eq ▸ i.isLt)
  exact name_of_shapeOf hat

/-- The shapes that any definitions are made into have different names. -/
theorem unique_of_graph {g : Graph} (h : graph table = .ok g) (r r' : g.Ref)
    (heq : (g.shape r).name = (g.shape r').name) : r = r' := by
  rw [graph] at h
  obtain ⟨all, hdrafts, h⟩ := exists_of_bind h
  obtain ⟨members, -, h⟩ := exists_of_bind h
  obtain ⟨shapes, hshapes, h⟩ := exists_of_bind h
  split at h
  · cases h
    have hforall := forall₂_of_mapM hshapes
    rw [name_of_forall₂ hforall, name_of_forall₂ hforall] at heq
    exact eq_of_name_eq (built_of_drafts hdrafts).1.nodup heq
  · cases h

/-- A graph whose shapes are those of the drafts has what the definitions say. -/
theorem faithful_of_forall₂ (ht : TypedTable table) (h : Built table all)
    (hall : ∀ name, name ∈ names all ↔ Defined table name)
    {members : List (String × List (Member all.length))}
    (hms : allMembers table all all.length = .ok members) {shapes : List (Shape all.length)}
    (hshapes : List.Forall₂ (fun d s => shapeOf all all.length members d = .ok s) all shapes)
    (hlength : shapes.toArray.size = all.length) :
    Faithful table ⟨all.length, ⟨shapes.toArray, hlength⟩⟩ := by
  have hat (i : Fin all.length) : shapeOf all all.length members all[i] =
      .ok (Graph.shape ⟨all.length, ⟨shapes.toArray, hlength⟩⟩ i) :=
    hshapes.get i.isLt (hshapes.length_eq ▸ i.isLt)
  have hname := name_of_forall₂ hshapes hlength
  refine ⟨fun r => ?_, fun r r' heq => ?_, fun name fields hdef => ?_⟩
  · rw [hname]
    exact (hall _).mp (List.mem_map_of_mem (List.getElem_mem r.isLt))
  · rw [hname, hname] at heq
    exact eq_of_name_eq h.nodup heq
  · obtain ⟨i, -, hi⟩ := exists_refOf h.nodup ((hall name).mpr hdef.defined) name
    obtain ⟨fields', s, hdef', hs, -, hof⟩ :=
      exists_shapeOf ht h hall hms (List.getElem_mem i.isLt)
    rw [Fin.getElem_fin] at hi
    rw [hi] at hdef' hof
    obtain rfl := hdef'.unique hdef
    refine ⟨i, (hname i).trans hi, ?_⟩
    rw [Except.ok.inj ((hat i).symm.trans hs)]
    exact hof.imp fun target q hq => (hname q).trans hq

/-- Definitions are made into a graph exactly if they are well formed, and the graph has what they
say. -/
theorem exists_graph (ht : TypedTable table) (h : WellFormed table) :
    ∃ g, graph table = .ok g ∧ Faithful table g := by
  obtain ⟨all, hdrafts⟩ := (exists_drafts_iff ht).mpr ⟨h.formed, h.acyclic⟩
  obtain ⟨hbuilt, hall⟩ := built_of_drafts hdrafts
  obtain ⟨members, hms⟩ := (exists_allMembers_iff ht hbuilt hall).mpr h.membered
  obtain ⟨shapes, hshapes⟩ : ∃ shapes, all.mapM (shapeOf all all.length members) = .ok shapes := by
    refine exists_mapM fun d hd => ?_
    obtain ⟨-, s, -, hs, -⟩ := exists_shapeOf ht hbuilt hall hms hd
    exact ⟨s, hs⟩
  have hforall := forall₂_of_mapM hshapes
  have hlength : shapes.length = all.length := hforall.length_eq.symm
  refine ⟨_, ?_, faithful_of_forall₂ ht hbuilt hall hms hforall (by simpa using hlength)⟩
  rw [graph, hdrafts, ok_bind, hms, ok_bind, hshapes, ok_bind, dif_pos hlength]
  rfl

theorem wellFormed_of_graph (ht : TypedTable table) {g : Graph} (h : graph table = .ok g) :
    WellFormed table := by
  obtain ⟨all, hdrafts, h⟩ := exists_of_bind h
  obtain ⟨members, hms, -⟩ := exists_of_bind h
  obtain ⟨formed, acyclic⟩ := (exists_drafts_iff ht).mp ⟨all, hdrafts⟩
  obtain ⟨hbuilt, hall⟩ := built_of_drafts hdrafts
  exact ⟨formed, (exists_allMembers_iff ht hbuilt hall).mp ⟨members, hms⟩, acyclic⟩

theorem noFailure_shapeOf (n : Nat) (members : List (String × List (Member n))) (d : Draft) :
    NoFailure (shapeOf all n members d) := by
  rw [shapeOf]
  cases d.form with
  | struct | scalar => exact .ok _
  | list member => exact .bind (noFailure_refOf rfl d.name n) fun m => .ok _
  | map key value =>
    exact .bind (noFailure_refOf rfl d.name n) fun k =>
      .bind (noFailure_refOf rfl d.name n) fun v => .ok _

/-- Definitions that can be read are made into a graph, or found defective. -/
theorem ReadableTable.noFailure_graph (hr : ReadableTable table) : NoFailure (graph table) := by
  refine (noFailure_drafts hr).bind_of_ok fun all hdrafts => ?_
  obtain ⟨hbuilt, hall⟩ := built_of_drafts hdrafts
  refine .bind (noFailure_allMembers hr hbuilt hall _) fun members => ?_
  refine .bind (.mapM fun d _ => noFailure_shapeOf _ members d) fun shapes => ?_
  split
  · exact .ok _
  · exact .defect _

theorem noFailure_graph (ht : TypedTable table) : NoFailure (graph table) :=
  ht.readable.noFailure_graph

/-- Definitions that are made into a graph can be read. -/
theorem readableTable_of_graph {g : Graph} (h : graph table = .ok g) : ReadableTable table := by
  obtain ⟨all, hdrafts, h⟩ := exists_of_bind h
  obtain ⟨members, hms, -⟩ := exists_of_bind h
  obtain ⟨hbuilt, hall⟩ := built_of_drafts hdrafts
  have hformed {name : String} {fields : List (String × Json)} (hdef : Defines table name fields) :
      Formed table fields := hbuilt.formed ((hall name).mpr hdef.defined) hdef
  refine ⟨fun name fields hdef => (hformed hdef).isAtom_type,
    fun name fields kind hdef => (hformed hdef).readableRef,
    fun p hp fields hfields hstruct => ?_⟩
  rw [allMembers_eq] at hms
  obtain ⟨q, hq⟩ := exists_of_mapM hms ((mem_structures_iff hbuilt hall).mpr ⟨hp, hstruct⟩)
  rw [← Prod.mk.eta (p := p), hfields] at hq
  exact readableMembers_of_membersOf (namedMembers_eq_ok hq).1

end Definitions

namespace ServiceModel

open Definitions

/-- The description of a service without operations and customizations: its shapes, and any
metadata. -/
structure Describes (d : Json) (table : Table) : Prop where
  shapes : d.get? "shapes" = some (.object table)
  metadata : ∀ m, d.get? "metadata" = some m → ∃ fields, m = .object fields
  operations : d.get? "operations" = none
  customizations : d.get? "customizations" = none

/-- A model without operations is the graph of its shapes. -/
theorem load_eq {d : Json} {table : Table} (hd : Describes d table) :
    ∃ metadata, load d = (Definitions.graph table).map fun g => ⟨metadata, g, []⟩ := by
  obtain ⟨shapes, metadata, operations, customizations⟩ := hd
  cases d with
  | object fields =>
    have hsection : sectionOf (some (.object table)) = .ok table := by cases table <;> rfl
    obtain ⟨entries, hentries⟩ :
        ∃ entries, Json.mappingOf (fields.lookup "metadata") = .ok entries := by
      cases hlookup : fields.lookup "metadata" with
      | none => exact ⟨[], rfl⟩
      | some m =>
        obtain ⟨entries, rfl⟩ := metadata m hlookup
        exact ⟨entries, by cases entries <;> rfl⟩
    refine ⟨entries, ?_⟩
    rw [Json.get?] at shapes operations customizations
    simp only [load, field, shapes, operations, customizations, hentries, hsection, Except.mapError,
      ok_bind]
    cases Definitions.graph table with
    | error e => rfl
    | ok g => rfl
  | _ => cases shapes

theorem shape_str (m : ServiceModel) (name : String) :
    m.shape (.str name) =
      match m.graph.find? name with
      | some r => .ok r
      | none => .error (.defect (.unknownShape (.str name))) := by
  rw [shape, Value.asKey_str]
  rfl

/-- A name is found as the one shape that has it. -/
theorem shape_eq_ok_iff {m : ServiceModel}
    (unique : ∀ r r', (m.graph.shape r).name = (m.graph.shape r').name → r = r') {name : String}
    {r : m.graph.Ref} :
    m.shape (.str name) = .ok r ↔ (m.graph.shape r).name = name := by
  rw [shape_str]
  cases hfind : m.graph.find? name with
  | none =>
    refine ⟨fun hr => (by cases hr), fun hname => ?_⟩
    exact absurd (beq_iff_eq.mpr hname) (List.find?_eq_none.mp hfind r (List.mem_finRange r))
  | some q =>
    have hq := List.find?_some hfind
    rw [beq_iff_eq] at hq
    constructor
    · intro hr
      cases hr
      exact hq
    · intro hname
      rw [unique q r (hq.trans hname.symm)]

/-- Descriptions whose definitions have their types are loaded exactly if these are well formed,
and rejected with a defect otherwise. Each shape of a loaded model is the one found under its name
and is what its definition says; what it refers to are the shapes found under the names given
there. A payload that is the empty text is none. -/
theorem load_iff_wellFormed {d : Json} {table : Table} (hd : Describes d table)
    (ht : TypedTable table) :
    ((∃ m, load d = .ok m) ↔ WellFormed table) ∧
      (∀ e, load d = .error e → ∃ defect, e = .defect defect) ∧
      ∀ m, load d = .ok m →
        (∀ r, Defined table (m.graph.shape r).name ∧
          m.shape (.str (m.graph.shape r).name) = .ok r) ∧
        ∀ name fields, Defines table name fields → ∃ r, m.shape (.str name) = .ok r ∧
          ShapeOf (fun target q => m.shape (.str target) = .ok q) name fields
            (m.graph.shape r) := by
  obtain ⟨metadata, hload⟩ := load_eq hd
  rw [hload]
  refine ⟨⟨?_, fun h => ?_⟩, fun e he => ?_, fun m hm => ?_⟩
  · rintro ⟨m, hm⟩
    obtain ⟨g, hg, -⟩ := exists_of_map hm
    exact wellFormed_of_graph ht hg
  · obtain ⟨g, hg, -⟩ := exists_graph ht h
    exact ⟨_, by rw [hg]; rfl⟩
  · exact ((noFailure_graph ht).map _).exists_defect he
  · obtain ⟨g, hg, rfl⟩ := exists_of_map hm
    obtain ⟨g', hg', hfaithful⟩ := exists_graph ht (wellFormed_of_graph ht hg)
    obtain rfl : g' = g := Except.ok.inj (hg'.symm.trans hg)
    have hfound {name : String} {r : g'.Ref} (h : (g'.shape r).name = name) :
        shape ⟨metadata, g', []⟩ (.str name) = .ok r :=
      (shape_eq_ok_iff (m := ⟨metadata, g', []⟩) hfaithful.unique).mpr h
    refine ⟨fun r => ⟨hfaithful.defined r, hfound rfl⟩, fun name fields hdef => ?_⟩
    obtain ⟨r, hr, hof⟩ := hfaithful.shapes name fields hdef
    exact ⟨r, hfound hr, hof.imp fun target q hq => hfound hq⟩

/-- Trees with labels and tags: the branches of a tree are trees. -/
def forest : Table :=
  [("Branches", .object [("type", .str "list"), ("member", .object [("shape", .str "Tree")])]),
    ("Tree", .object [("type", .str "structure"), ("payload", .str "branches"),
      ("required", .array [.str "label"]),
      ("members", .object [
        ("label", .object [("shape", .str "Label"), ("location", .str "header")]),
        ("branches", .object [("shape", .str "Branches")]),
        ("tags", .object [("shape", .str "Tags")])])]),
    ("Label", .object [("type", .str "string")]),
    ("Tags", .object [("type", .str "map"), ("key", .object [("shape", .str "Label")]),
      ("value", .object [("shape", .str "Label")])])]

/-- The description of a service that has shapes only. -/
def ofShapes (table : Table) : Json := .object [("shapes", .object table)]

theorem describes_ofShapes (table : Table) : Describes (ofShapes table) table :=
  ⟨rfl, fun _ h => (by cases h), rfl, rfl⟩

theorem refTyped_shape (name : String) (more : List (String × Json)) :
    RefTyped (.object (("shape", .str name) :: more)) := by
  intro ref target href hshape
  cases href
  cases hshape
  exact ⟨name, rfl⟩

theorem typedTable_forest : TypedTable forest := by
  refine ⟨by decide, ?_⟩
  simp only [forest, List.forall_mem_cons, List.not_mem_nil, false_implies, implies_true, and_true]
  refine ⟨⟨_, rfl, ?_⟩, ⟨_, rfl, ?_⟩, ⟨_, rfl, ?_⟩, ⟨_, rfl, ?_⟩⟩
  all_goals
    constructor
    all_goals simp [List.lookup, refTyped_shape]
  · rintro name ref (⟨-, rfl⟩ | ⟨-, rfl⟩ | ⟨-, rfl⟩)
    · exact refTyped_shape _ _
    · exact refTyped_shape _ _
    · exact refTyped_shape _ _
  · exact ⟨["label"], rfl⟩

/-- Trees are loaded, and the items of a tree's branches are that very shape of trees. -/
theorem load_iff_wellFormed_forest :
    WellFormed forest ∧ ∃ m tree branches, load (ofShapes forest) = .ok m ∧
      m.shape (.str "Tree") = .ok tree ∧ m.shape (.str "Branches") = .ok branches ∧
      (m.graph.shape branches).form = .list tree := by
  have hok : (load (ofShapes forest)).isOk = true := by decide +kernel
  obtain ⟨m, hm⟩ : ∃ m, load (ofShapes forest) = .ok m := by
    cases h : load (ofShapes forest) with
    | error e =>
      rw [h] at hok
      cases hok
    | ok m => exact ⟨m, rfl⟩
  obtain ⟨hiff, -, hfaithful⟩ :=
    load_iff_wellFormed (describes_ofShapes forest) typedTable_forest
  obtain ⟨branches, hbranches, hof⟩ := (hfaithful m hm).2 "Branches" _ rfl
  refine ⟨hiff.mp ⟨m, hm⟩, m, ?_⟩
  generalize hs : m.graph.shape branches = s at hof
  cases hof with
  | list kind part target =>
    cases part
    exact ⟨_, branches, hm, target, hbranches, by rw [hs]⟩
  | struct kind | scalar kind | map kind => cases kind

/-- A structure without members whose payload is the empty text. -/
def hollow : Table := [("Hollow", .object [("type", .str "structure"), ("payload", .str "")])]

theorem typedTable_hollow : TypedTable hollow := by
  refine ⟨by decide, ?_⟩
  simp only [hollow, List.forall_mem_cons, List.not_mem_nil, false_implies, implies_true, and_true]
  refine ⟨_, rfl, ?_⟩
  constructor
  all_goals simp [List.lookup]

/-- It is not so that each payload that is given must be one of the members: the empty text is
given, is no member and is accepted. -/
theorem load_hollow :
    TypedTable hollow ∧ ¬((∃ m, load (ofShapes hollow) = .ok m) ↔ WellFormed hollow ∧
      ∀ name fields s, Defines hollow name fields → kind? fields = some .struct →
        fields.lookup "payload" = some (.str s) → s ∈ (memberRefs fields).map Prod.fst) := by
  have hok : (load (ofShapes hollow)).isOk = true := by decide +kernel
  refine ⟨typedTable_hollow, fun hiff => ?_⟩
  cases h : load (ofShapes hollow) with
  | error e =>
    rw [h] at hok
    cases hok
  | ok m =>
    have hmem := (hiff.mp ⟨m, h⟩).2 "Hollow" _ "" rfl (by decide) rfl
    cases hmem

end ServiceModel

end ServiceWire
