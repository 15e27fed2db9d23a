import ServiceWire.Proofs.Model.Readable

/-!
# Resolving shape definitions

The drafts that definitions are resolved to are built one by one, each from its definition and the
drafts before it. So no definition contains itself, and what a draft refers to is there. The walk
keeps the names that are being made: each of them contains the name that is looked at, so a walk
through well-formed definitions meets none of them again, and it ends since there are only so many
names to enter.
-/

namespace ServiceWire.Definitions

open Relation

variable {table : Table}

/-! ### Drafts that are built in order -/

/-- The names of drafts. -/
def names (all : List Draft) : List String := all.map Draft.name

/-- The traits of a list. -/
def listTraits (fields ref : List (String × Json)) : Traits :=
  { commonTraits fields with itemName := Json.fieldValue ref "locationName" }

/-- The traits of a map. -/
def mapTraits (fields keyRef valueRef : List (String × Json)) : Traits :=
  { commonTraits fields with
    keyName := Json.fieldValue keyRef "locationName"
    valueName := Json.fieldValue valueRef "locationName" }

/-- The kind of the shape of a draft. -/
def DraftForm.kind : DraftForm → ShapeKind
  | .struct => .struct
  | .list _ => .list
  | .map _ _ => .map
  | .scalar k => .scalar k

theorem DraftForm.eq_scalar {f : DraftForm} {k : ScalarKind} (h : f.kind = .scalar k) :
    f = .scalar k := by
  cases f with
  | scalar k' => exact congrArg _ (ShapeKind.scalar.inj h)
  | _ => cases h

/-- A draft is made from a definition whose parts are known. -/
inductive DraftOf (table : Table) (known : List String) : Draft → Prop
  | struct {name : String} {fields : List (String × Json)} (h : Defines table name fields)
      (kind : kind? fields = some .struct) :
      DraftOf table known { structTraits fields with name := name, form := .struct }
  | scalar {name : String} {fields : List (String × Json)} {k : ScalarKind}
      (h : Defines table name fields) (kind : kind? fields = some (.scalar k)) :
      DraftOf table known { commonTraits fields with name := name, form := .scalar k }
  | list {name item : String} {fields ref : List (String × Json)} (h : Defines table name fields)
      (kind : kind? fields = some .list) (part : part? fields "member" = some (item, ref))
      (mem : item ∈ known) :
      DraftOf table known { listTraits fields ref with name := name, form := .list item }
  | map {name key value : String} {fields keyRef valueRef keyFields : List (String × Json)}
      (h : Defines table name fields) (kind : kind? fields = some .map)
      (keyPart : part? fields "key" = some (key, keyRef))
      (valuePart : part? fields "value" = some (value, valueRef)) (keyMem : key ∈ known)
      (keyDefined : Defines table key keyFields)
      (keyKind : kind? keyFields = some (.scalar .string)) (valueMem : value ∈ known) :
      DraftOf table known
        { mapTraits fields keyRef valueRef with name := name, form := .map key value }

/-- Drafts that are built one by one, each after those that it refers to. -/
inductive Built (table : Table) : List Draft → Prop
  | nil : Built table []
  | snoc {done : List Draft} {d : Draft} (before : Built table done) (new : d.name ∉ names done)
      (made : DraftOf table (names done) d) : Built table (done ++ [d])

theorem names_snoc (done : List Draft) (d : Draft) : names (done ++ [d]) = names done ++ [d.name] :=
  List.map_append

theorem mem_names_snoc {done : List Draft} {d : Draft} {name : String} :
    name ∈ names (done ++ [d]) ↔ name ∈ names done ∨ name = d.name := by
  rw [names_snoc, List.mem_append, List.mem_singleton]

theorem Defines.unique {name : String} {fields fields' : List (String × Json)}
    (h : Defines table name fields) (h' : Defines table name fields') : fields = fields' :=
  Json.object.inj (Option.some.inj (h.symm.trans h'))

/-- What a definition contains is what its kind asks for. -/
theorem Contains.part {name part : String} {fields : List (String × Json)}
    (hc : Contains table name part) (h : Defines table name fields) :
    (kind? fields = some .list ∧ ∃ ref, part? fields "member" = some (part, ref)) ∨
      (kind? fields = some .map ∧ ((∃ ref, part? fields "key" = some (part, ref)) ∨
        ∃ ref, part? fields "value" = some (part, ref))) := by
  cases hc with
  | item h' kind hpart =>
    obtain rfl := h'.unique h
    exact .inl ⟨kind, _, hpart⟩
  | key h' kind hpart =>
    obtain rfl := h'.unique h
    exact .inr ⟨kind, .inl ⟨_, hpart⟩⟩
  | value h' kind hpart =>
    obtain rfl := h'.unique h
    exact .inr ⟨kind, .inr ⟨_, hpart⟩⟩

namespace DraftOf

variable {known : List String} {d : Draft}

theorem mono (h : DraftOf table known d) {more : List String} (hmore : known ⊆ more) :
    DraftOf table more d := by
  cases h with
  | struct h kind => exact .struct h kind
  | scalar h kind => exact .scalar h kind
  | list h kind part mem => exact .list h kind part (hmore mem)
  | map h kind keyPart valuePart keyMem keyDefined keyKind valueMem =>
    exact .map h kind keyPart valuePart (hmore keyMem) keyDefined keyKind (hmore valueMem)

theorem exists_defines (h : DraftOf table known d) : ∃ fields, Defines table d.name fields := by
  cases h with
  | struct h | scalar h | list h | map h => exact ⟨_, h⟩

/-- A draft is of the kind that its definition names. -/
theorem kind (h : DraftOf table known d) {fields : List (String × Json)}
    (hf : Defines table d.name fields) : kind? fields = some d.form.kind := by
  cases h with
  | struct h kind | scalar h kind | list h kind | map h kind =>
    obtain rfl := h.unique hf
    exact kind

/-- A definition that a draft is made from is well formed, if what is known is defined. -/
theorem formed (h : DraftOf table known d) (hknown : ∀ n ∈ known, Defined table n)
    {fields : List (String × Json)} (hf : Defines table d.name fields) : Formed table fields := by
  cases h with
  | struct h kind =>
    obtain rfl := h.unique hf
    exact .struct kind
  | scalar h kind =>
    obtain rfl := h.unique hf
    exact .scalar kind
  | list h kind part mem =>
    obtain rfl := h.unique hf
    exact .list kind part (hknown _ mem)
  | map h kind keyPart valuePart keyMem keyDefined keyKind valueMem =>
    obtain rfl := h.unique hf
    exact .map kind keyPart valuePart keyDefined keyKind (hknown _ valueMem)

/-- What the definition of a draft contains is known. -/
theorem mem_of_contains (h : DraftOf table known d) {part : String}
    (hc : Contains table d.name part) : part ∈ known := by
  cases h with
  | struct h kind =>
    rcases hc.part h with ⟨kind', -⟩ | ⟨kind', -⟩ <;> cases kind.symm.trans kind'
  | scalar h kind =>
    rcases hc.part h with ⟨kind', -⟩ | ⟨kind', -⟩ <;> cases kind.symm.trans kind'
  | list h kind hpart mem =>
    rcases hc.part h with ⟨-, ref, hpart'⟩ | ⟨kind', -⟩
    · cases hpart.symm.trans hpart'
      exact mem
    · cases kind.symm.trans kind'
  | map h kind keyPart valuePart keyMem keyDefined keyKind valueMem =>
    rcases hc.part h with ⟨kind', -⟩ | ⟨-, ⟨ref, hpart⟩ | ⟨ref, hpart⟩⟩
    · cases kind.symm.trans kind'
    · cases keyPart.symm.trans hpart
      exact keyMem
    · cases valuePart.symm.trans hpart
      exact valueMem

end DraftOf

namespace Built

variable {all : List Draft}

theorem nodup (h : Built table all) : (names all).Nodup := by
  induction h with
  | nil => exact List.nodup_nil
  | @snoc done d before new made ih =>
    rw [names_snoc, List.nodup_append]
    refine ⟨ih, List.nodup_singleton _, fun a ha b hb heq => new ?_⟩
    rwa [← List.mem_singleton.mp hb, ← heq]

theorem draftOf (h : Built table all) {d : Draft} (hd : d ∈ all) :
    DraftOf table (names all) d := by
  induction h with
  | nil => cases hd
  | @snoc done d' before new made ih =>
    have hmore : names done ⊆ names (done ++ [d']) := fun n hn => mem_names_snoc.mpr (.inl hn)
    rcases List.mem_append.mp hd with hd | hd
    · exact (ih hd).mono hmore
    · obtain rfl := List.mem_singleton.mp hd
      exact made.mono hmore

theorem exists_draftOf (h : Built table all) {name : String} (hname : name ∈ names all) :
    ∃ d ∈ all, d.name = name ∧ DraftOf table (names all) d := by
  obtain ⟨d, hd, rfl⟩ := List.mem_map.mp hname
  exact ⟨d, hd, rfl, h.draftOf hd⟩

theorem defined (h : Built table all) {name : String} (hname : name ∈ names all) :
    Defined table name := by
  obtain ⟨d, -, rfl, hd⟩ := h.exists_draftOf hname
  obtain ⟨fields, hfields⟩ := hd.exists_defines
  exact hfields.defined

theorem formed (h : Built table all) {name : String} (hname : name ∈ names all)
    {fields : List (String × Json)} (hf : Defines table name fields) : Formed table fields := by
  obtain ⟨d, -, rfl, hd⟩ := h.exists_draftOf hname
  exact hd.formed (fun n hn => h.defined hn) hf

/-- What is built contains only what is built. -/
theorem mem_of_contains (h : Built table all) {name part : String} (hname : name ∈ names all)
    (hc : Contains table name part) : part ∈ names all := by
  obtain ⟨d, -, rfl, hd⟩ := h.exists_draftOf hname
  exact hd.mem_of_contains hc

theorem mem_of_transGen (h : Built table all) {name part : String} (hname : name ∈ names all)
    (hc : TransGen (Contains table) name part) : part ∈ names all := by
  induction hc with
  | single hc => exact h.mem_of_contains hname hc
  | tail _ hc ih => exact h.mem_of_contains ih hc

/-- Nothing that is built contains itself: what the last draft contains comes before it. -/
theorem acyclic (h : Built table all) {name : String} (hname : name ∈ names all) :
    ¬TransGen (Contains table) name name := by
  induction h generalizing name with
  | nil => cases hname
  | @snoc done d before new made ih =>
    rcases mem_names_snoc.mp hname with hname | rfl
    · exact ih hname
    · intro hc
      obtain ⟨part, hpart, hback⟩ := TransGen.head'_iff.mp hc
      have hmem := made.mem_of_contains hpart
      rcases reflTransGen_iff_eq_or_transGen.mp hback with heq | hback
      · exact new (heq ▸ hmem)
      · exact new (before.mem_of_transGen hmem hback)

end Built

/-! ### What a resolution adds -/

theorem draft?_isSome_iff {done : List Draft} {name : String} :
    (draft? done name).isSome ↔ name ∈ names done := by
  rw [draft?, List.find?_isSome, names, List.mem_map]
  simp only [beq_iff_eq]

theorem mem_of_draft? {done : List Draft} {name : String} {d : Draft}
    (h : draft? done name = some d) : d ∈ done ∧ d.name = name := by
  have hname := List.find?_some h
  exact ⟨List.mem_of_find?_eq_some h, beq_iff_eq.mp hname⟩

/-- The drafts after a resolution: what was there is kept, and nothing that is being made is
added. -/
structure Extends (table : Table) (entered : List String) (done more : List Draft) : Prop where
  built : Built table more
  keeps : names done ⊆ names more
  fresh : ∀ n ∈ names more, n ∈ names done ∨ n ∉ entered

namespace Extends

variable {entered : List String} {done more : List Draft}

theorem refl (h : Built table done) : Extends table entered done done :=
  ⟨h, List.Subset.refl _, fun _ hn => .inl hn⟩

theorem trans {most : List Draft} (h : Extends table entered done more)
    (h' : Extends table entered more most) : Extends table entered done most := by
  refine ⟨h'.built, fun n hn => h'.keeps (h.keeps hn), fun n hn => ?_⟩
  rcases h'.fresh n hn with hn | hn
  · exact h.fresh n hn
  · exact .inr hn

/-- The draft of a name is added after those that were made while the name was entered. -/
theorem snoc {d : Draft} (h : Extends table (d.name :: entered) done more)
    (new : d.name ∉ names done) (hent : d.name ∉ entered)
    (made : DraftOf table (names more) d) : Extends table entered done (more ++ [d]) := by
  refine ⟨.snoc h.built (fun hmem => ?_) made, fun n hn => ?_, fun n hn => ?_⟩
  · rcases h.fresh _ hmem with hmem | hmem
    · exact new hmem
    · exact hmem (List.mem_cons_self ..)
  · exact mem_names_snoc.mpr (.inl (h.keeps hn))
  · rcases mem_names_snoc.mp hn with hn | rfl
    · exact (h.fresh n hn).imp_right fun hn hmem => hn (List.mem_cons_of_mem _ hmem)
    · exact .inr hent

end Extends

/-- What is made of a definition whose name has been entered. -/
def make (table : Table) (left : Nat) (inside : List String) (done : List Draft) (name : String)
    (fields : List (String × Json)) : ShapeKind → Except Fault (String × List Draft)
  | .struct => .ok (name, done ++ [{ structTraits fields with name := name, form := .struct }])
  | .scalar k => .ok (name, done ++ [{ commonTraits fields with name := name, form := .scalar k }])
  | .list => do
    let p ← (reference name fields "member").mapError .defect
    let q ← resolve table left inside done p.1 (some name)
    return (name, q.2 ++ [{ listTraits fields p.2 with name := name, form := .list q.1 }])
  | .map => do
    let p ← (reference name fields "key").mapError .defect
    let q ← (reference name fields "value").mapError .defect
    let key ← resolve table left inside done p.1 (some name)
    let value ← resolve table left inside key.2 q.1 (some name)
    if (draft? value.2 key.1).any fun d => d.form == .scalar .string then
      return (name, value.2 ++
        [{ mapTraits fields p.2 q.2 with name := name, form := .map key.1 value.1 }])
    else throw (.defect (.mapKeyNotString name))

theorem resolve_of_mem (left : Nat) (entered : List String) {done : List Draft} {name : String}
    (source : Option String) (h : name ∈ names done) :
    resolve table left entered done (.str name) source = .ok (name, done) := by
  rw [resolve.eq_def]
  exact if_pos (draft?_isSome_iff.mpr h)

/-- A name that is new is entered, and its definition is made into a draft. -/
theorem resolve_of_not_mem (left : Nat) (entered : List String) {done : List Draft} {name : String}
    (source : Option String) (h : name ∉ names done) :
    resolve table left entered done (.str name) source = (do
      let fields ← (definition table name source).mapError .defect
      let kind ← kindOf name fields
      match left, entered.contains name with
      | left + 1, false => make table left (name :: entered) done name fields kind
      | _, _ => throw (.defect (.selfContained name))) := by
  have hdone : ¬(draft? done name).isSome := mt draft?_isSome_iff.mp h
  rw [resolve.eq_def]
  refine (if_neg hdone).trans ?_
  cases left with
  | zero => rfl
  | succ left =>
    congr 1
    funext fields
    congr 1
    funext kind
    cases entered.contains name with
    | true => rfl
    | false => cases kind <;> rfl

/-- What a resolution that succeeds says: a name was asked for, and it is there with what it
contains. -/
def Sound (table : Table) (left : Nat) : Prop :=
  ∀ ⦃entered : List String⦄ ⦃done more : List Draft⦄ ⦃target : Json⦄ ⦃source : Option String⦄
    ⦃name : String⦄, Built table done →
      resolve table left entered done target source = .ok (name, more) →
        target = .str name ∧ name ∈ names more ∧ Extends table entered done more

/-- The key of a map is a text if its draft is one. -/
theorem Built.exists_string {done : List Draft} (h : Built table done) {key : String}
    (hkey : ((draft? done key).any fun d => d.form == .scalar .string) = true) :
    ∃ fields, Defines table key fields ∧ kind? fields = some (.scalar .string) := by
  cases hd : draft? done key with
  | none =>
    rw [hd] at hkey
    cases hkey
  | some d =>
    obtain ⟨hmem, rfl⟩ := mem_of_draft? hd
    rw [hd, Option.any_some, beq_iff_eq] at hkey
    obtain ⟨fields, hdef⟩ := (h.draftOf hmem).exists_defines
    refine ⟨fields, hdef, ?_⟩
    rw [(h.draftOf hmem).kind hdef, hkey]
    rfl

theorem Sound.make {left : Nat} (ih : Sound table left) {entered : List String}
    {done more : List Draft} {name name' : String} {fields : List (String × Json)}
    {kind : ShapeKind} (hb : Built table done) (new : name ∉ names done) (hent : name ∉ entered)
    (hdef : Defines table name fields) (hkind : kind? fields = some kind)
    (h : make table left (name :: entered) done name fields kind = .ok (name', more)) :
    name' = name ∧ name ∈ names more ∧ Extends table entered done more := by
  have hself {done : List Draft} {d : Draft} : d.name ∈ names (done ++ [d]) :=
    mem_names_snoc.mpr (.inr rfl)
  cases kind with
  | struct =>
    cases h
    exact ⟨rfl, hself, (Extends.refl hb).snoc new hent (.struct hdef hkind)⟩
  | scalar k =>
    cases h
    exact ⟨rfl, hself, (Extends.refl hb).snoc new hent (.scalar hdef hkind)⟩
  | list =>
    obtain ⟨⟨target, ref⟩, href, h⟩ := exists_of_bind h
    obtain ⟨⟨item, mid⟩, hitem, h⟩ := exists_of_bind h
    cases h
    obtain ⟨rfl, hmem, hext⟩ := ih hb hitem
    have hpart := part?_eq_some_iff.mpr (reference_eq_ok_iff.mp (exists_of_mapError href))
    exact ⟨rfl, hself, hext.snoc new hent (.list hdef hkind hpart hmem)⟩
  | map =>
    obtain ⟨⟨target, keyRef⟩, hkeyRef, h⟩ := exists_of_bind h
    obtain ⟨⟨target', valueRef⟩, hvalueRef, h⟩ := exists_of_bind h
    obtain ⟨⟨key, mid⟩, hkey, h⟩ := exists_of_bind h
    obtain ⟨⟨value, last⟩, hvalue, h⟩ := exists_of_bind h
    obtain ⟨rfl, hkeyMem, hkeyExt⟩ := ih hb hkey
    obtain ⟨rfl, hvalueMem, hvalueExt⟩ := ih hkeyExt.built hvalue
    have hkeyPart := part?_eq_some_iff.mpr (reference_eq_ok_iff.mp (exists_of_mapError hkeyRef))
    have hvaluePart :=
      part?_eq_some_iff.mpr (reference_eq_ok_iff.mp (exists_of_mapError hvalueRef))
    dsimp only at h
    split at h
    · rename_i hstring
      cases h
      obtain ⟨keyFields, hkeyDef, hkeyKind⟩ := hvalueExt.built.exists_string hstring
      exact ⟨rfl, hself, (hkeyExt.trans hvalueExt).snoc new hent (.map hdef hkind hkeyPart
        hvaluePart (hvalueExt.keeps hkeyMem) hkeyDef hkeyKind hvalueMem)⟩
    · cases h

/-- Every resolution that succeeds is sound, by induction on how many names can be entered. -/
theorem sound (table : Table) (left : Nat) : Sound table left := by
  have step {left : Nat} (ih : ∀ l, left = l + 1 → Sound table l) : Sound table left := by
    intro entered done more target source name hb h
    obtain ⟨s, rfl⟩ : ∃ s, target = .str s := by
      rw [resolve.eq_def] at h
      cases target with
      | str s => exact ⟨s, rfl⟩
      | _ => cases h
    by_cases hmem : s ∈ names done
    · rw [resolve_of_mem left entered source hmem] at h
      cases h
      exact ⟨rfl, hmem, .refl hb⟩
    · rw [resolve_of_not_mem left entered source hmem] at h
      obtain ⟨fields, hfields, h⟩ := exists_of_bind h
      obtain ⟨kind, hkind, h⟩ := exists_of_bind h
      have hdef := definition_eq_ok_iff.mp (exists_of_mapError hfields)
      cases hent : entered.contains s with
      | true =>
        rw [hent] at h
        cases left <;> cases h
      | false =>
        rw [hent] at h
        cases left with
        | zero => cases h
        | succ l =>
          have hnot : s ∉ entered := by simpa using hent
          obtain ⟨rfl, hself, hext⟩ :=
            (ih l rfl).make hb hmem hnot hdef (kindOf_eq_ok_iff.mp hkind) h
          exact ⟨rfl, hself, hext⟩
  induction left with
  | zero => exact step fun l hl => absurd hl (Nat.zero_ne_add_one l)
  | succ left ih => exact step fun l hl => Nat.succ.inj hl ▸ ih

/-! ### Resolutions that fail -/

/-- What a part of a definition that can be read refers to can be looked for. -/
theorem ReadableTable.isAtom_of_reference (h : ReadableTable table) {name role : String}
    {fields ref : List (String × Json)} {kind : ShapeKind} {target : Json}
    (hdef : Defines table name fields) (hkind : kind? fields = some kind)
    (hrole : role ∈ partRoles kind) (href : reference name fields role = .ok (target, ref)) :
    target.isAtom = true := by
  obtain ⟨hlookup, hshape⟩ := reference_eq_ok_iff.mp href
  exact h.parts name fields kind hdef hkind role hrole _ hlookup ref target rfl hshape

theorem noFailure_make (hr : ReadableTable table) {left : Nat}
    (ih : ∀ (entered : List String) (done : List Draft) (target : Json) (source : Option String),
      target.isAtom = true → NoFailure (resolve table left entered done target source))
    (inside : List String) (done : List Draft) {name : String} {fields : List (String × Json)}
    {kind : ShapeKind} (hdef : Defines table name fields) (hkind : kind? fields = some kind) :
    NoFailure (make table left inside done name fields kind) := by
  cases kind with
  | struct => exact .ok _
  | scalar k => exact .ok _
  | list =>
    refine (NoFailure.mapError _).bind_of_ok fun p hp => ?_
    have hitem := hr.isAtom_of_reference hdef hkind (by decide) (exists_of_mapError hp)
    exact .bind (ih _ _ _ _ hitem) fun q => .ok _
  | map =>
    refine (NoFailure.mapError _).bind_of_ok fun p hp => ?_
    refine (NoFailure.mapError _).bind_of_ok fun q hq => ?_
    have hkey := hr.isAtom_of_reference hdef hkind (by decide) (exists_of_mapError hp)
    have hvalue := hr.isAtom_of_reference hdef hkind (by decide) (exists_of_mapError hq)
    refine .bind (ih _ _ _ _ hkey) fun mid => .bind (ih _ _ _ _ hvalue) fun last => ?_
    split
    · exact .ok _
    · exact .defect _

/-- A name is resolved, or found defective, if what its definition is made into is. -/
theorem noFailure_resolve_of_make (hr : ReadableTable table) {left : Nat} {entered : List String}
    {done : List Draft} {name : String} (source : Option String)
    (hmake : ∀ l, left = l + 1 → ∀ fields kind, Defines table name fields →
      kind? fields = some kind → NoFailure (make table l (name :: entered) done name fields kind)) :
    NoFailure (resolve table left entered done (.str name) source) := by
  by_cases hmem : name ∈ names done
  · rw [resolve_of_mem left entered source hmem]
    exact .ok _
  · rw [resolve_of_not_mem left entered source hmem]
    refine (NoFailure.mapError _).bind_of_ok fun fields hfields => ?_
    have hdef := definition_eq_ok_iff.mp (exists_of_mapError hfields)
    refine (noFailure_kindOf (hr.type name fields hdef) name).bind_of_ok fun kind hkind => ?_
    split
    · exact hmake _ rfl fields kind hdef (kindOf_eq_ok_iff.mp hkind)
    · exact .defect _

/-- What can be looked for and is no name is defined nowhere. -/
theorem noFailure_resolve_of_str {left : Nat} {entered : List String} {done : List Draft}
    {target : Json} {source : Option String} (hatom : target.isAtom = true)
    (hstr : ∀ name, NoFailure (resolve table left entered done (.str name) source)) :
    NoFailure (resolve table left entered done target source) := by
  cases target with
  | str name => exact hstr name
  | array | object => exact absurd hatom Bool.false_ne_true
  | _ =>
    rw [resolve.eq_def]
    exact .defect _

/-- A resolution that fails reports a defect, if what is asked for can be looked for. -/
theorem noFailure_resolve (hr : ReadableTable table) (left : Nat) (entered : List String)
    (done : List Draft) (target : Json) (source : Option String) (hatom : target.isAtom = true) :
    NoFailure (resolve table left entered done target source) := by
  induction left generalizing entered done target source with
  | zero =>
    exact noFailure_resolve_of_str hatom fun name => noFailure_resolve_of_make hr source
      fun l hl => absurd hl (Nat.zero_ne_add_one l)
  | succ left ih =>
    refine noFailure_resolve_of_str hatom fun name => noFailure_resolve_of_make hr source
      fun l hl fields kind hdef hkind => ?_
    obtain rfl := Nat.succ.inj hl
    exact noFailure_make hr ih _ done hdef hkind

/-! ### Resolutions that succeed -/

/-- The draft of a defined text says that it is one. -/
theorem Built.any_string {done : List Draft} (h : Built table done) {key : String}
    {fields : List (String × Json)} (hmem : key ∈ names done) (hdef : Defines table key fields)
    (hkind : kind? fields = some (.scalar .string)) :
    ((draft? done key).any fun d => d.form == .scalar .string) = true := by
  obtain ⟨d, hd⟩ := Option.isSome_iff_exists.mp (draft?_isSome_iff.mpr hmem)
  obtain ⟨hin, rfl⟩ := mem_of_draft? hd
  have hform := ((h.draftOf hin).kind hdef).symm.trans hkind
  rw [hd, Option.any_some, DraftForm.eq_scalar (Option.some.inj hform), beq_self_eq_true]

/-- The names that are being made: each contains the name that is looked at, and there is room for
all that are defined. -/
structure Room (table : Table) (left : Nat) (entered : List String) (name : String) : Prop where
  defined : Defined table name
  nodup : entered.Nodup
  leads : ∀ e ∈ entered, TransGen (Contains table) e name
  room : table.length ≤ left + entered.length

namespace Room

variable {left : Nat} {entered : List String} {name : String}

/-- Where no definition contains itself, the name that is looked at is not being made. -/
theorem not_mem (h : Room table left entered name)
    (acyclic : ∀ n, ¬TransGen (Contains table) n n) : name ∉ entered :=
  fun hmem => acyclic name (h.leads name hmem)

theorem exists_left (h : Room table left entered name)
    (acyclic : ∀ n, ¬TransGen (Contains table) n n) : ∃ l, left = l + 1 := by
  have hsub : name :: entered ⊆ table.map Prod.fst := by
    refine List.cons_subset.mpr ⟨h.defined, fun e he => ?_⟩
    obtain ⟨part, hpart, -⟩ := TransGen.head'_iff.mp (h.leads e he)
    exact hpart.defined
  have hlength := (List.subperm_of_subset
    (List.nodup_cons.mpr ⟨h.not_mem acyclic, h.nodup⟩) hsub).length_le
  rw [List.length_cons, List.length_map] at hlength
  have hroom := h.room
  exact Nat.exists_eq_add_one.mpr (by omega)

/-- There is room for what a definition contains. -/
theorem inside (h : Room table (left + 1) entered name)
    (acyclic : ∀ n, ¬TransGen (Contains table) n n) {part : String}
    (hpart : Contains table name part) (defined : Defined table part) :
    Room table left (name :: entered) part where
  defined := defined
  nodup := List.nodup_cons.mpr ⟨h.not_mem acyclic, h.nodup⟩
  leads := List.forall_mem_cons.mpr ⟨.single hpart, fun e he => (h.leads e he).tail hpart⟩
  room := by
    have hroom := h.room
    rw [List.length_cons]
    omega

end Room

/-- A walk through definitions that are well formed ends with the draft of the name. -/
theorem exists_resolve (ht : TypedTable table)
    (formed : ∀ name fields, Defines table name fields → Formed table fields)
    (acyclic : ∀ n, ¬TransGen (Contains table) n n) {left : Nat} {entered : List String}
    {done : List Draft} {name : String} (source : Option String) (hb : Built table done)
    (hroom : Room table left entered name) :
    ∃ more, resolve table left entered done (.str name) source = .ok (name, more) := by
  induction left generalizing entered done name source with
  | zero =>
    obtain ⟨l, hl⟩ := hroom.exists_left acyclic
    exact absurd hl (Nat.zero_ne_add_one l)
  | succ left ih =>
    by_cases hmem : name ∈ names done
    · exact ⟨done, resolve_of_mem _ entered source hmem⟩
    · obtain ⟨fields, hdef, -⟩ := ht.exists_defines hroom.defined
      have hent : entered.contains name = false := by simpa using hroom.not_mem acyclic
      have hmake {kind : ShapeKind} (hkind : kind? fields = some kind) :
          resolve table (left + 1) entered done (.str name) source =
            make table left (name :: entered) done name fields kind := by
        rw [resolve_of_not_mem _ entered source hmem, definition_eq_ok_iff.mpr hdef,
          Except.mapError, ok_bind, kindOf_eq_ok_iff.mpr hkind, ok_bind, hent]
      cases formed name fields hdef with
      | struct kind => exact ⟨_, hmake kind⟩
      | scalar kind => exact ⟨_, hmake kind⟩
      | list kind hpart defined =>
        obtain ⟨mid, hmid⟩ := ih (some name) hb
          (hroom.inside acyclic (.item hdef kind hpart) defined)
        rw [hmake kind, make, reference_of_part hpart, Except.mapError, ok_bind, hmid, ok_bind]
        exact ⟨_, rfl⟩
      | map kind keyPart valuePart keyDefined keyKind valueDefined =>
        obtain ⟨mid, hmid⟩ := ih (some name) hb
          (hroom.inside acyclic (.key hdef kind keyPart) keyDefined.defined)
        obtain ⟨-, hkeyMem, hkeyExt⟩ := sound table left hb hmid
        obtain ⟨last, hlast⟩ := ih (some name) hkeyExt.built
          (hroom.inside acyclic (.value hdef kind valuePart) valueDefined)
        obtain ⟨-, -, hvalueExt⟩ := sound table left hkeyExt.built hlast
        have hstring := hvalueExt.built.any_string (hvalueExt.keeps hkeyMem) keyDefined keyKind
        rw [hmake kind, make, reference_of_part keyPart, reference_of_part valuePart,
          Except.mapError, ok_bind, Except.mapError, ok_bind, hmid, ok_bind, hlast, ok_bind,
          if_pos hstring]
        exact ⟨_, rfl⟩

/-! ### The drafts of all definitions -/

/-- The drafts after a definition of the table. -/
def resolveNext (table : Table) (done : List Draft) (p : String × Json) :
    Except Fault (List Draft) :=
  (resolve table table.length [] done (.str p.1) none).map Prod.snd

theorem drafts_eq (table : Table) : drafts table = table.foldlM (resolveNext table) [] := rfl

theorem built_of_foldlM {items : Table} {done all : List Draft} (hb : Built table done)
    (h : items.foldlM (resolveNext table) done = .ok all) :
    Built table all ∧ names done ⊆ names all ∧ ∀ p ∈ items, p.1 ∈ names all := by
  induction items generalizing done with
  | nil =>
    cases h
    exact ⟨hb, List.Subset.refl _, fun p hp => by cases hp⟩
  | cons p rest ih =>
    rw [List.foldlM_cons] at h
    obtain ⟨mid, hmid, h⟩ := exists_of_bind h
    obtain ⟨⟨name, _⟩, hresolve, rfl⟩ := exists_of_map hmid
    obtain ⟨hname, hmem, hext⟩ := sound table _ hb hresolve
    obtain ⟨hbuilt, hkeeps, hrest⟩ := ih hext.built h
    refine ⟨hbuilt, fun n hn => hkeeps (hext.keeps hn), List.forall_mem_cons.mpr ⟨?_, hrest⟩⟩
    rw [Json.str.inj hname]
    exact hkeeps hmem

/-- The drafts of definitions are built in order, one for each name. -/
theorem built_of_drafts {all : List Draft} (h : drafts table = .ok all) :
    Built table all ∧ ∀ name, name ∈ names all ↔ Defined table name := by
  obtain ⟨hbuilt, -, hmem⟩ := built_of_foldlM .nil h
  refine ⟨hbuilt, fun name => ⟨fun hname => hbuilt.defined hname, fun hname => ?_⟩⟩
  obtain ⟨p, hp, rfl⟩ := List.mem_map.mp hname
  exact hmem p hp

theorem exists_foldlM (ht : TypedTable table)
    (formed : ∀ name fields, Defines table name fields → Formed table fields)
    (acyclic : ∀ n, ¬TransGen (Contains table) n n) {items : Table} (hitems : items ⊆ table)
    {done : List Draft} (hb : Built table done) :
    ∃ all, items.foldlM (resolveNext table) done = .ok all := by
  induction items generalizing done with
  | nil => exact ⟨done, rfl⟩
  | cons p rest ih =>
    obtain ⟨hp, hrest⟩ := List.cons_subset.mp hitems
    have hroom : Room table table.length [] p.1 :=
      ⟨List.mem_map_of_mem hp, List.nodup_nil, fun e he => (by cases he), Nat.le_refl _⟩
    obtain ⟨mid, hmid⟩ := exists_resolve ht formed acyclic none hb hroom
    obtain ⟨-, -, hext⟩ := sound table _ hb hmid
    obtain ⟨all, hall⟩ := ih hrest hext.built
    refine ⟨all, ?_⟩
    rw [List.foldlM_cons, resolveNext, hmid, Except.map, ok_bind, hall]

/-- Definitions have drafts exactly if each is formed and none contains itself. -/
theorem exists_drafts_iff (ht : TypedTable table) :
    (∃ all, drafts table = .ok all) ↔
      (∀ name fields, Defines table name fields → Formed table fields) ∧
        ∀ n, ¬TransGen (Contains table) n n := by
  constructor
  · rintro ⟨all, hall⟩
    obtain ⟨hbuilt, hmem⟩ := built_of_drafts hall
    refine ⟨fun name fields hdef => ?_, fun n hn => ?_⟩
    · exact hbuilt.formed ((hmem name).mpr hdef.defined) hdef
    · obtain ⟨part, hpart, -⟩ := TransGen.head'_iff.mp hn
      exact hbuilt.acyclic ((hmem n).mpr hpart.defined) hn
  · rintro ⟨formed, acyclic⟩
    exact exists_foldlM ht formed acyclic (List.Subset.refl _) .nil

theorem noFailure_drafts (hr : ReadableTable table) : NoFailure (drafts table) := by
  rw [drafts_eq]
  exact .foldlM (fun p _ done => .map (noFailure_resolve hr _ _ _ _ _ rfl) _) _

end ServiceWire.Definitions
