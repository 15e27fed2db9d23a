import ServiceWire.Proofs.Model.Resolve

/-!
# Members of structures

Once all definitions have drafts, each name that a structure refers to is the number of one draft.
The members of a structure are bound exactly if each refers to something that is defined and has a
place, and a payload that is given is one of them; they stand in the order of the definition.
-/

namespace ServiceWire

/-- The first item that passes is the only one that does. -/
theorem find?_eq_some_of_unique {α : Type} {p : α → Bool} {items : List α} {a : α}
    (ha : a ∈ items) (hp : p a = true) (unique : ∀ b, p b = true → b = a) :
    items.find? p = some a := by
  cases hfind : items.find? p with
  | none => exact absurd hp (List.find?_eq_none.mp hfind a ha)
  | some b => rw [unique b (List.find?_some hfind)]

namespace Definitions

variable {table : Table} {all : List Draft}

/-! ### References to drafts -/

theorem eq_of_name_eq (hn : (names all).Nodup) {i j : Fin all.length}
    (h : all[i].name = all[j].name) : i = j := by
  have hlength : (names all).length = all.length := List.length_map _
  have hget : (names all)[i.val] = (names all)[j.val] := by simpa [names] using h
  exact Fin.ext ((hn.getElem_inj_iff).mp hget)

theorem any_name_iff {name : String} (i : Fin all.length) :
    ((all[i.val]?).any fun d => d.name == name) = true ↔ all[i].name = name := by
  rw [List.getElem?_eq_getElem i.isLt, Option.any_some, beq_iff_eq]
  rfl

/-- The draft with a number is the one that has a name. -/
def Named (all : List Draft) (name : String) (i : Fin all.length) : Prop := all[i].name = name

/-- A name is the number of its draft. -/
theorem refOf_eq_ok_iff (hn : (names all).Nodup) {name source : String} {i : Fin all.length} :
    refOf all all.length (.str name) source = .ok i ↔ all[i].name = name := by
  constructor
  · intro h
    simp only [refOf] at h
    split at h
    · rename_i j hj
      cases h
      have hany := List.find?_some hj
      exact (any_name_iff i).mp hany
    · cases h
  · intro h
    have hfind := find?_eq_some_of_unique (List.mem_finRange i) ((any_name_iff i).mpr h)
      fun j hj => eq_of_name_eq hn (((any_name_iff j).mp hj).trans h.symm)
    simp only [refOf, hfind]

/-- A name that has a draft is the number of one. -/
theorem exists_refOf (hn : (names all).Nodup) {name : String} (h : name ∈ names all)
    (source : String) :
    ∃ i : Fin all.length, refOf all all.length (.str name) source = .ok i ∧ all[i].name = name := by
  obtain ⟨d, hd, rfl⟩ := List.mem_map.mp h
  obtain ⟨i, hi, rfl⟩ := List.mem_iff_getElem.mp hd
  exact ⟨⟨i, hi⟩, (refOf_eq_ok_iff hn).mpr rfl, rfl⟩

/-- What can be looked for is found, or is a defect. -/
theorem noFailure_refOf {target : Json} (h : target.isAtom = true) (source : String) (n : Nat) :
    NoFailure (refOf all n target source) := by
  cases target with
  | str name =>
    simp only [refOf]
    split
    · exact .ok _
    · exact .defect _
  | array | object => exact absurd h Bool.false_ne_true
  | _ => exact .defect _

/-- What is found can be looked for. -/
theorem isAtom_of_refOf {target : Json} {source : String} {n : Nat} {i : Fin n}
    (h : refOf all n target source = .ok i) : target.isAtom = true := by
  cases target with
  | array | object => cases h
  | _ => rfl

/-! ### A member -/

theorem locationOf_eq_ok_iff {shape member : String} {ref : List (String × Json)} {l : Location} :
    locationOf shape member ref = .ok l ↔ location? ref = some l := by
  rw [locationOf, location?]
  cases ref.lookup "location" with
  | none => exact ⟨fun h => by cases h; rfl, fun h => by cases h; rfl⟩
  | some d =>
    cases d with
    | str s =>
      simp only
      cases Location.ofLabel? s with
      | none => exact ⟨nofun, nofun⟩
      | some l' => rw [Except.ok.injEq, Option.some.injEq]
    | _ => exact ⟨nofun, nofun⟩

/-- The names of the members that a definition requires. -/
def requiredNames (fields : List (String × Json)) : List String :=
  match fields.lookup "required" with
  | some (.array items) => items.filterMap fun e =>
    match e with
    | .str s => some s
    | _ => none
  | _ => []

/-- A member is what its reference says; what the reference refers to is found as a shape. -/
structure MemberOf {n : Nat} (found : String → Fin n → Prop) (fields : List (String × Json))
    (p : String × Json) (m : Member n) : Prop where
  name : m.name = p.1
  reference : ∃ target ref, ref? p.2 = some (target, ref) ∧ found target m.shape ∧
    location? ref = some m.location ∧ m.locationName = Json.fieldValue ref "locationName" ∧
    m.xmlAttribute = flag ref "xmlAttribute"
  payload : m.payload = true ↔ fields.lookup "payload" = some (.str p.1)
  required : m.required = true ↔ p.1 ∈ requiredNames fields

theorem Typed.refTyped {fields : List (String × Json)} (typed : Typed fields)
    {p : String × Json} (hp : p ∈ memberRefs fields) : RefTyped p.2 := by
  rw [memberRefs] at hp
  split at hp
  · rename_i refs hlookup
    obtain ⟨refs', heq, hrefs⟩ := typed.members _ hlookup
    cases heq
    exact hrefs p hp
  · cases hp

/-- A reference that can be read is bound, or found defective. -/
theorem noFailure_memberOf {p : String × Json} (h : ReadableRef p.2) (n : Nat) (shape : String)
    (payload : Json) (required : List String) :
    NoFailure (memberOf all n shape payload required p) := by
  rw [memberOf.eq_def]
  split
  · next ref href =>
    split
    · exact .defect _
    · next target htarget =>
      have hatom := h ref target href htarget
      exact .bind (.mapError _) fun l => .bind (noFailure_refOf hatom shape n) fun i => .ok _
  · exact .defect _

/-- A reference that is bound can be read. -/
theorem readableRef_of_memberOf {p : String × Json} {n : Nat} {shape : String} {payload : Json}
    {required : List String} {m : Member n} (h : memberOf all n shape payload required p = .ok m) :
    ReadableRef p.2 := by
  intro ref target href hshape
  simp only [memberOf, href, hshape] at h
  obtain ⟨l, -, h⟩ := exists_of_bind h
  obtain ⟨i, hi, -⟩ := exists_of_bind h
  exact isAtom_of_refOf hi

/-- A reference can be read if what it refers to has a draft and its location is known. -/
theorem exists_memberOf (hn : (names all).Nodup) {p : String × Json} {name : String}
    {ref : List (String × Json)} (href : ref? p.2 = some (name, ref)) (hname : name ∈ names all)
    (hloc : (location? ref).isSome) (shape : String) (payload : Json) (required : List String) :
    ∃ m, memberOf all all.length shape payload required p = .ok m := by
  obtain ⟨l, hl⟩ := Option.isSome_iff_exists.mp hloc
  obtain ⟨i, hi, -⟩ := exists_refOf hn hname shape
  obtain ⟨hobject, hshape⟩ := ref?_eq_some_iff.mp href
  simp only [memberOf, hobject, hshape]
  rw [locationOf_eq_ok_iff.mpr hl, Except.mapError, ok_bind, hi, ok_bind]
  exact ⟨_, rfl⟩

/-- A reference that is read has what it says. -/
theorem memberOf_eq_ok (hn : (names all).Nodup) {fields : List (String × Json)}
    (typed : Typed fields) {shape : String} {p : String × Json} (hp : p ∈ memberRefs fields)
    {m : Member all.length}
    (h : memberOf all all.length shape ((fields.lookup "payload").getD .null)
      (requiredNames fields) p = .ok m) :
    MemberOf (Named all) fields p m := by
  rw [memberOf.eq_def] at h
  split at h
  · rename_i ref hobject
    split at h
    · cases h
    · rename_i target hshape
      obtain ⟨name, rfl⟩ := typed.refTyped hp ref target hobject hshape
      obtain ⟨l, hl, h⟩ := exists_of_bind h
      obtain ⟨i, hi, h⟩ := exists_of_bind h
      cases h
      refine ⟨rfl, ⟨name, ref, ref?_eq_some_iff.mpr ⟨hobject, hshape⟩,
        (refOf_eq_ok_iff hn).mp hi, locationOf_eq_ok_iff.mp (exists_of_mapError hl), rfl, rfl⟩,
        ?_, List.contains_iff_mem⟩
      cases fields.lookup "payload" with
      | none => simp
      | some d => cases d <;> simp
  · cases h

/-! ### The members of a structure -/

theorem collected_texts (names : List String) :
    Json.collected (.array (names.map .str)) = .ok (names.map .str) :=
  if_neg (by simp)

theorem nameSet_required {fields : List (String × Json)} (typed : Typed fields) :
    Json.nameSet (fields.lookup "required") = .ok (requiredNames fields) := by
  rw [requiredNames]
  cases hlookup : fields.lookup "required" with
  | none => rfl
  | some d =>
    obtain ⟨names, rfl⟩ := typed.required d hlookup
    cases names with
    | nil => rfl
    | cons name rest =>
      have htruthy : (Json.array ((name :: rest).map .str)).truthy = true := rfl
      rw [Json.nameSet, Option.filter_some, if_pos htruthy]
      simp only [collected_texts]
      rfl

theorem members_eq {fields : List (String × Json)} (h : Json.IsSection (fields.lookup "members")) :
    ((fields.lookup "members").filter Json.truthy).getD (.object []) =
      .object (memberRefs fields) :=
  Json.getD_filter_eq_iff.mpr ⟨h, rfl⟩

/-- A payload that is given is one of the members. -/
def PayloadFits (fields : List (String × Json)) : Prop :=
  ∀ s, fields.lookup "payload" = some (.str s) → s ≠ "" → s ∈ (memberRefs fields).map Prod.fst

theorem membersOf_of_payloadFits {fields : List (String × Json)} (typed : Typed fields)
    (h : PayloadFits fields) (n : Nat) (shape : String) :
    membersOf all n shape fields =
      (memberRefs fields).mapM (memberOf all n shape ((fields.lookup "payload").getD .null)
        (requiredNames fields)) := by
  rw [membersOf, nameSet_required typed, Except.mapError, ok_bind,
    members_eq typed.readableMembers.mapping]
  cases hpayload : fields.lookup "payload" with
  | none => rfl
  | some d =>
    obtain ⟨s, rfl⟩ := typed.payload d hpayload
    by_cases hs : s = ""
    · rw [hs]
      rfl
    · have htruthy : (Json.str s).truthy = true := by simpa [Json.truthy] using hs
      have hhas : Entries.has (memberRefs fields) s = true :=
        Entries.mem_keys_iff.mp (h s hpayload hs)
      simp only [Option.getD_some, htruthy, if_true, includes, hhas]
      rfl

/-- A payload that is none of the members is a defect. -/
theorem membersOf_of_not_payloadFits {fields : List (String × Json)} (typed : Typed fields)
    (h : ¬PayloadFits fields) (n : Nat) (shape : String) :
    ∃ d, membersOf all n shape fields = .error (.defect d) := by
  rw [PayloadFits] at h
  push Not at h
  obtain ⟨s, hpayload, hs, hmem⟩ := h
  have htruthy : (Json.str s).truthy = true := by simpa [Json.truthy] using hs
  have hhas : Entries.has (memberRefs fields) s = false :=
    Bool.eq_false_iff.mpr (mt Entries.mem_keys_iff.mpr hmem)
  rw [membersOf, nameSet_required typed, Except.mapError, ok_bind,
    members_eq typed.readableMembers.mapping, hpayload]
  simp only [Option.getD_some, htruthy, if_true, includes, hhas]
  exact ⟨_, rfl⟩

theorem exists_includes_iff {refs : List (String × Json)} {payload : Json} :
    (∃ b, includes (.object refs) payload = .ok b) ↔ payload.isAtom = true := by
  cases payload with
  | array | object => exact ⟨nofun, fun h => absurd h Bool.false_ne_true⟩
  | _ => exact ⟨fun _ => rfl, fun _ => ⟨_, rfl⟩⟩

/-- The members of a structure are bound, or found defective, if they can be read. -/
theorem noFailure_membersOf {fields : List (String × Json)} (h : ReadableMembers fields) (n : Nat)
    (shape : String) : NoFailure (membersOf all n shape fields) := by
  obtain ⟨required, hrequired⟩ := Json.exists_nameSet_iff.mpr h.required
  have hrefs (payload : Json) :
      NoFailure ((memberRefs fields).mapM (memberOf all n shape payload required)) :=
    .mapM fun p hp => noFailure_memberOf (h.refs p hp) n shape payload required
  rw [membersOf, hrequired, Except.mapError, ok_bind, members_eq h.mapping]
  cases htruthy : ((fields.lookup "payload").getD .null).truthy with
  | false => exact hrefs _
  | true =>
    obtain ⟨b, hb⟩ := (@exists_includes_iff (memberRefs fields) _).mpr
      (Json.ifGiven_iff_getD.mp h.payload htruthy)
    simp only [if_true, hb, Except.mapError, ok_bind]
    cases b with
    | true => exact hrefs _
    | false => exact .defect _

/-- Once the members of a structure are bound, a payload that was given was looked for, and each
member was bound. -/
theorem exists_of_membersOf {fields : List (String × Json)} {n : Nat} {shape : String}
    {ms : List (Member n)} (h : membersOf all n shape fields = .ok ms) :
    ∃ required refs, Json.nameSet (fields.lookup "required") = .ok required ∧
      ((fields.lookup "members").filter Json.truthy).getD (.object []) = .object refs ∧
      Json.IfGiven (fun d => d.isAtom = true) (fields.lookup "payload") ∧
      ∀ p ∈ refs, ∃ m,
        memberOf all n shape ((fields.lookup "payload").getD .null) required p = .ok m := by
  rw [membersOf] at h
  obtain ⟨required, hrequired, h⟩ := exists_of_bind h
  rw [Json.ifGiven_iff_getD]
  generalize ((fields.lookup "members").filter Json.truthy).getD (.object []) = members at h
  generalize (fields.lookup "payload").getD .null = payload at h
  simp only at h
  split at h
  · obtain ⟨b, hb, h⟩ := exists_of_bind h
    cases b with
    | false => cases h
    | true =>
      cases members with
      | object refs =>
        have hatom := exists_includes_iff.mp ⟨true, exists_of_mapError hb⟩
        exact ⟨required, refs, exists_of_mapError hrequired, rfl, fun _ => hatom,
          fun p hp => exists_of_mapM h hp⟩
      | _ => cases h
  · next hempty =>
    cases members with
    | object refs =>
      exact ⟨required, refs, exists_of_mapError hrequired, rfl, fun h => absurd h hempty,
        fun p hp => exists_of_mapM h hp⟩
    | _ => cases h

/-- The members of a structure that are bound can be read. -/
theorem readableMembers_of_membersOf {fields : List (String × Json)} {n : Nat} {shape : String}
    {ms : List (Member n)} (h : membersOf all n shape fields = .ok ms) :
    ReadableMembers fields := by
  obtain ⟨required, refs, hrequired, hmembers, hpayload, hrefs⟩ := exists_of_membersOf h
  obtain ⟨hmapping, rfl⟩ := Json.getD_filter_eq_iff.mp hmembers
  refine ⟨Json.exists_nameSet_iff.mp ⟨required, hrequired⟩, hmapping, fun p hp => ?_, hpayload⟩
  obtain ⟨m, hm⟩ := hrefs p hp
  exact readableRef_of_memberOf hm

/-- The members of a structure are those that its definition says, in its order. -/
theorem membersOf_eq_ok (hn : (names all).Nodup) {fields : List (String × Json)}
    (typed : Typed fields) {shape : String} {ms : List (Member all.length)}
    (h : membersOf all all.length shape fields = .ok ms) :
    List.Forall₂ (MemberOf (Named all) fields)
      (memberRefs fields) ms := by
  by_cases hfits : PayloadFits fields
  · rw [membersOf_of_payloadFits typed hfits] at h
    have hms := (List.forall₂_and_left _ _).mpr ⟨fun p hp => hp, forall₂_of_mapM h⟩
    exact hms.imp fun p m hm => memberOf_eq_ok hn typed hm.1 hm.2
  · obtain ⟨d, hd⟩ := @membersOf_of_not_payloadFits all _ typed hfits all.length shape
    rw [hd] at h
    cases h

/-- The members of a structure are bound exactly if its definition says what it must. -/
theorem exists_membersOf_iff (hn : (names all).Nodup)
    (hall : ∀ name, name ∈ names all ↔ Defined table name) {fields : List (String × Json)}
    (typed : Typed fields) (shape : String) :
    (∃ ms, membersOf all all.length shape fields = .ok ms) ↔ Membered table fields := by
  constructor
  · rintro ⟨ms, hms⟩
    refine ⟨fun p hp => ?_, ?_⟩
    · obtain ⟨m, -, hm⟩ := exists_of_forall₂_left (membersOf_eq_ok hn typed hms) hp
      obtain ⟨target, ref, href, hfound, hloc, -⟩ := hm.reference
      refine ⟨target, ref, href, (hall target).mp ?_, by rw [hloc]; rfl⟩
      rw [← hfound]
      exact List.mem_map_of_mem (List.getElem_mem _)
    · by_contra hfits
      obtain ⟨d, hd⟩ := @membersOf_of_not_payloadFits all _ typed hfits all.length shape
      rw [hd] at hms
      cases hms
  · intro h
    rw [membersOf_of_payloadFits typed h.payload]
    refine exists_mapM fun p hp => ?_
    obtain ⟨name, ref, href, hdefined, hloc⟩ := h.members p hp
    exact exists_memberOf hn href ((hall name).mpr hdefined) hloc shape _ _

end Definitions

end ServiceWire
