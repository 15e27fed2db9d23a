import ServiceWire.Model.Basic
import ServiceWire.Proofs.Codec.Success

/-!
# Parts of documents

What a part of a document must be to be read as a section, as a collection of names, or as a
mapping. Where a part may be left out, one that is empty is read as well, whatever it is.
-/

namespace ServiceWire.Json

/-- A part that is there and not empty has a property. -/
def IfGiven (P : Json → Prop) (d? : Option Json) : Prop := ∀ d, d?.filter truthy = some d → P d

theorem ifGiven_of_filter_eq_none {P : Json → Prop} {d? : Option Json}
    (h : d?.filter truthy = none) : IfGiven P d? := by
  intro d hd
  cases h.symm.trans hd

theorem ifGiven_iff {P : Json → Prop} {d? : Option Json} {d : Json}
    (h : d?.filter truthy = some d) : IfGiven P d? ↔ P d :=
  ⟨fun hd => hd d h, fun hd _ he => Option.some.inj (h.symm.trans he) ▸ hd⟩

/-- What is left out counts as null, which is empty. -/
theorem ifGiven_iff_getD {P : Json → Prop} {d? : Option Json} :
    IfGiven P d? ↔ ((d?.getD .null).truthy = true → P (d?.getD .null)) := by
  cases d? with
  | none => exact ⟨fun _ => nofun, fun _ => nofun⟩
  | some d =>
    rw [IfGiven, Option.getD_some]
    constructor
    · intro h htruthy
      exact h d (Option.filter_eq_some_iff.mpr ⟨rfl, htruthy⟩)
    · intro h e he
      obtain ⟨heq, htruthy⟩ := Option.filter_eq_some_iff.mp he
      cases heq
      exact h htruthy

/-! ### Sections -/

/-- A document with fields. -/
def IsObject (d : Json) : Prop := ∃ fields, d = .object fields

/-- A part that can be read as a section. -/
abbrev IsSection (d? : Option Json) : Prop := IfGiven IsObject d?

/-- The fields of a part; one that is no object has none. -/
def fieldsOf : Option Json → List (String × Json)
  | some (.object fields) => fields
  | _ => []

/-- With no fields in the place of what is empty, a part is an object exactly if it can be read as a
section. -/
theorem getD_filter_eq_iff {d? : Option Json} {fields : List (String × Json)} :
    (d?.filter truthy).getD (.object []) = .object fields ↔
      IsSection d? ∧ fields = fieldsOf d? := by
  cases hgiven : d?.filter truthy with
  | none =>
    have hfields : fieldsOf d? = [] := by
      cases d? with
      | none => rfl
      | some d =>
        cases d with
        | object fields => cases fields <;> first | rfl | cases hgiven
        | _ => rfl
    rw [Option.getD_none, hfields, object.injEq, eq_comm]
    exact ⟨fun h => ⟨ifGiven_of_filter_eq_none hgiven, h⟩, fun h => h.2⟩
  | some d =>
    obtain rfl := (Option.filter_eq_some_iff.mp hgiven).1
    rw [Option.getD_some, IsSection, ifGiven_iff hgiven]
    cases d with
    | object fields' =>
      rw [object.injEq, eq_comm]
      exact ⟨fun h => ⟨⟨fields', rfl⟩, h⟩, fun h => h.2⟩
    | _ => exact ⟨nofun, fun ⟨⟨_, h⟩, _⟩ => by cases h⟩

/-- A part is read as a section if it can be, and what is read are its fields. -/
theorem sectionFields_eq_ok_iff {d? : Option Json} {fields : List (String × Json)} :
    sectionFields d? = .ok fields ↔ IsSection d? ∧ fields = fieldsOf d? := by
  rw [← getD_filter_eq_iff, sectionFields]
  cases d?.filter truthy with
  | none => rw [Except.ok.injEq, Option.getD_none, object.injEq]
  | some d =>
    cases d with
    | object fields' => rw [Except.ok.injEq, Option.getD_some, object.injEq]
    | _ => exact ⟨nofun, nofun⟩

theorem sectionFields_eq {d? : Option Json} (h : IsSection d?) :
    sectionFields d? = .ok (fieldsOf d?) :=
  sectionFields_eq_ok_iff.mpr ⟨h, rfl⟩

/-- What is done with a section succeeds exactly if it can be read and its fields are what is asked
for. -/
theorem exists_section_iff {β : Type} {d? : Option Json}
    {f : List (String × Json) → Except Failure β} :
    (∃ b, (sectionFields d? >>= f) = .ok b) ↔ IsSection d? ∧ ∃ b, f (fieldsOf d?) = .ok b := by
  constructor
  · rintro ⟨b, h⟩
    obtain ⟨fields, hfields, h⟩ := exists_of_bind h
    obtain ⟨hsection, rfl⟩ := sectionFields_eq_ok_iff.mp hfields
    exact ⟨hsection, b, h⟩
  · rintro ⟨hsection, b, h⟩
    refine ⟨b, ?_⟩
    rw [sectionFields_eq hsection, ok_bind, h]

/-! ### Names -/

/-- A document that names can be looked for under: no list and no object. -/
def isAtom : Json → Bool
  | array _ | object _ => false
  | _ => true

/-- A document that can be collected as names. -/
def IsNames : Json → Prop
  | array items => ∀ e ∈ items, e.isAtom = true
  | object _ | str _ => True
  | _ => False

theorem exists_collected_iff {d : Json} : (∃ items, d.collected = .ok items) ↔ d.IsNames := by
  cases d with
  | array items =>
    by_cases hatoms : ∀ e ∈ items, e.isAtom = true
    · refine ⟨fun _ => hatoms, fun _ => ⟨items, if_neg ?_⟩⟩
      rw [List.any_eq_true]
      rintro ⟨e, he, hcontainer⟩
      have hatom := hatoms e he
      cases e with
      | array | object => exact absurd hatom Bool.false_ne_true
      | _ => exact absurd hcontainer Bool.false_ne_true
    · refine ⟨fun ⟨_, h⟩ => absurd h ?_, fun h => absurd h hatoms⟩
      push Not at hatoms
      obtain ⟨e, he, hatom⟩ := hatoms
      rw [collected, if_pos]
      · exact nofun
      · refine List.any_eq_true.mpr ⟨e, he, ?_⟩
        cases e with
        | array | object => rfl
        | _ => exact absurd rfl hatom
  | object fields | str s => exact ⟨fun _ => trivial, fun _ => ⟨_, rfl⟩⟩
  | _ => exact ⟨nofun, nofun⟩

/-- An optional collection of names is read exactly if it can be collected. -/
theorem exists_nameSet_iff {d? : Option Json} :
    (∃ names, nameSet d? = .ok names) ↔ IfGiven IsNames d? := by
  rw [nameSet]
  cases hgiven : d?.filter truthy with
  | none => exact ⟨fun _ => ifGiven_of_filter_eq_none hgiven, fun _ => ⟨[], rfl⟩⟩
  | some d =>
    rw [ifGiven_iff hgiven, ← exists_collected_iff]
    constructor
    · rintro ⟨names, h⟩
      obtain ⟨items, hitems, -⟩ := exists_of_map h
      exact ⟨items, hitems⟩
    · rintro ⟨items, hitems⟩
      simp only [hitems]
      exact ⟨_, rfl⟩

/-! ### Mappings -/

/-- A document that stands for a key and a value. -/
def IsPair : Json → Prop
  | array [k, _] => k.isAtom = true
  | object [_, _] => True
  | str s => s.toList.length = 2
  | _ => False

/-- A document that can be read as a mapping. -/
def IsMapping : Json → Prop
  | object _ => True
  | array items => ∀ e ∈ items, e.IsPair
  | _ => False

theorem exists_pairOf_iff {d : Json} : (∃ p, d.pairOf = .ok p) ↔ d.IsPair := by
  cases d with
  | array items =>
    match items with
    | [k, v] =>
      cases k with
      | array items | object fields => exact ⟨nofun, nofun⟩
      | _ => exact ⟨fun _ => rfl, fun _ => ⟨_, rfl⟩⟩
    | [] | [_] | _ :: _ :: _ :: _ => exact ⟨nofun, nofun⟩
  | object fields =>
    match fields with
    | [_, _] => exact ⟨fun _ => trivial, fun _ => ⟨_, rfl⟩⟩
    | [] | [_] | _ :: _ :: _ :: _ => exact ⟨nofun, nofun⟩
  | str s =>
    rw [IsPair, pairOf]
    match s.toList with
    | [a, b] => exact ⟨fun _ => rfl, fun _ => ⟨_, rfl⟩⟩
    | [] | [_] | _ :: _ :: _ :: _ => exact ⟨nofun, by simp⟩
  | _ => exact ⟨nofun, nofun⟩

/-- An optional mapping is read exactly if it can be read as one. A text never can: its characters
are no pairs. -/
theorem exists_mappingOf_iff {d? : Option Json} :
    (∃ entries, mappingOf d? = .ok entries) ↔ IfGiven IsMapping d? := by
  rw [mappingOf]
  cases hgiven : d?.filter truthy with
  | none => exact ⟨fun _ => ifGiven_of_filter_eq_none hgiven, fun _ => ⟨[], rfl⟩⟩
  | some d =>
    rw [ifGiven_iff hgiven]
    cases d with
    | object fields => exact ⟨fun _ => trivial, fun _ => ⟨_, rfl⟩⟩
    | array items =>
      constructor
      · rintro ⟨entries, h⟩ e he
        obtain ⟨pairs, hpairs, -⟩ := exists_of_bind h
        exact exists_pairOf_iff.mp (exists_of_mapM hpairs he)
      · intro h
        obtain ⟨pairs, hpairs⟩ := exists_mapM fun e he => exists_pairOf_iff.mpr (h e he)
        simp only [hpairs, ok_bind]
        exact ⟨_, rfl⟩
    | str s =>
      refine ⟨fun ⟨entries, h⟩ => ?_, nofun⟩
      obtain ⟨pairs, hpairs, -⟩ := exists_of_bind h
      have htruthy := (Option.filter_eq_some_iff.mp hgiven).2
      obtain ⟨c, hc⟩ : ∃ c, c ∈ s.toList := by
        refine List.exists_mem_of_ne_nil _ fun hnil => ?_
        rw [String.toList_eq_nil_iff] at hnil
        rw [hnil] at htruthy
        cases htruthy
      have hpair := exists_pairOf_iff.mp (exists_of_mapM hpairs (List.mem_map_of_mem hc))
      rw [IsPair, String.toList_singleton] at hpair
      cases hpair
    | _ => exact ⟨nofun, nofun⟩

end ServiceWire.Json
