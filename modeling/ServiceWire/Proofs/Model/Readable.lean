import ServiceWire.Proofs.Json.Section
import ServiceWire.Proofs.Model.WellFormed

/-!
# Shape definitions that can be read

Shape definitions are read to their end, or found defective, if what they name can be looked for,
and if the members of structures are sections and their required names can be collected. What a
definition says beyond its kind is not looked at. Definitions whose fields have their types can be
read.
-/

namespace ServiceWire.Definitions

open Json

/-- What a reference refers to can be looked for, if it is given. -/
def ReadableRef (d : Json) : Prop :=
  ∀ ref target, d = .object ref → ref.lookup "shape" = some target → target.isAtom = true

/-- What the definition of a structure says about its members can be read. -/
structure ReadableMembers (fields : List (String × Json)) : Prop where
  required : IfGiven IsNames (fields.lookup "required")
  mapping : IsSection (fields.lookup "members")
  refs : ∀ p ∈ memberRefs fields, ReadableRef p.2
  payload : IfGiven (fun d => d.isAtom = true) (fields.lookup "payload")

/-- The roles of the parts of a shape. -/
def partRoles : ShapeKind → List String
  | .list => ["member"]
  | .map => ["key", "value"]
  | .struct | .scalar _ => []

/-- A name is defined as a structure. -/
def IsStruct (table : Table) (name : String) : Prop :=
  ∃ fields, Defines table name fields ∧ kind? fields = some .struct

/-- Definitions that can be read. -/
structure ReadableTable (table : Table) : Prop where
  type : ∀ name fields, Defines table name fields → ∀ d, fields.lookup "type" = some d →
    d.isAtom = true
  parts : ∀ name fields kind, Defines table name fields → kind? fields = some kind →
    ∀ role ∈ partRoles kind, ∀ d, fields.lookup role = some d → ReadableRef d
  members : ∀ p ∈ table, ∀ fields, p.2 = .object fields → IsStruct table p.1 →
    ReadableMembers fields

/-! ### Definitions of their types -/

theorem RefTyped.readable {d : Json} (h : RefTyped d) : ReadableRef d := by
  intro ref target href hshape
  obtain ⟨s, rfl⟩ := h ref target href hshape
  rfl

theorem Typed.readableMembers {fields : List (String × Json)} (h : Typed fields) :
    ReadableMembers fields := by
  have given {P : Json → Prop} {key : String} (hP : ∀ d, fields.lookup key = some d → P d) :
      IfGiven P (fields.lookup key) := fun d hd => hP d (Option.filter_eq_some_iff.mp hd).1
  refine ⟨given fun d hd => ?_, given fun d hd => ?_, fun p hp => ?_, given fun d hd => ?_⟩
  · obtain ⟨names, rfl⟩ := h.required d hd
    simp [IsNames, isAtom]
  · obtain ⟨refs, rfl, -⟩ := h.members d hd
    exact ⟨refs, rfl⟩
  · rw [memberRefs] at hp
    split at hp
    · next refs hrefs =>
      obtain ⟨refs', heq, typed⟩ := h.members _ hrefs
      cases heq
      exact (typed p hp).readable
    · cases hp
  · obtain ⟨s, rfl⟩ := h.payload d hd
    rfl

/-- Definitions whose fields have their types can be read. -/
theorem TypedTable.readable {table : Table} (h : TypedTable table) : ReadableTable table where
  type name fields hdef d hd := by
    obtain ⟨s, rfl⟩ := (h.typed_of_defines hdef).type d hd
    rfl
  parts name fields kind hdef _ role hrole d hd := by
    refine ((h.typed_of_defines hdef).part role ?_ d hd).readable
    cases kind with
    | list => simp_all [partRoles]
    | map => simp_all [partRoles]
    | _ => cases hrole
  members p hp fields hfields _ := by
    obtain ⟨fields', hfields', typed⟩ := h.typed p hp
    cases hfields.symm.trans hfields'
    exact typed.readableMembers

/-! ### Definitions that are formed -/

/-- The parts that a kind asks for have names, if a definition has the parts. -/
theorem readableRef_of_part {fields ref : List (String × Json)} {role name : String}
    (h : part? fields role = some (name, ref)) {d : Json} (hd : fields.lookup role = some d) :
    ReadableRef d := by
  intro ref' target href hshape
  obtain ⟨hlookup, hname⟩ := part?_eq_some_iff.mp h
  cases hlookup.symm.trans hd
  cases href
  cases hname.symm.trans hshape
  rfl

namespace Formed

variable {table : Table} {fields : List (String × Json)}

theorem exists_kind (h : Formed table fields) : ∃ kind, kind? fields = some kind := by
  cases h with
  | struct kind | scalar kind | list kind | map kind => exact ⟨_, kind⟩

/-- A definition that is formed names its kind by a text. -/
theorem isAtom_type (h : Formed table fields) (d : Json) (hd : fields.lookup "type" = some d) :
    d.isAtom = true := by
  obtain ⟨kind, hkind⟩ := h.exists_kind
  rw [kind?, hd] at hkind
  cases d with
  | str s => rfl
  | _ => cases hkind

/-- A definition that is formed refers to its parts by their names. -/
theorem readableRef (h : Formed table fields) {kind : ShapeKind} (hkind : kind? fields = some kind)
    (role : String) (hrole : role ∈ partRoles kind) (d : Json) (hd : fields.lookup role = some d) :
    ReadableRef d := by
  cases h with
  | struct kind' | scalar kind' =>
    cases hkind.symm.trans kind'
    cases hrole
  | list kind' part =>
    cases hkind.symm.trans kind'
    rw [partRoles, List.mem_singleton] at hrole
    exact readableRef_of_part (hrole ▸ part) hd
  | map kind' keyPart valuePart =>
    cases hkind.symm.trans kind'
    rcases List.mem_pair.mp hrole with rfl | rfl
    · exact readableRef_of_part keyPart hd
    · exact readableRef_of_part valuePart hd

end Formed

/-! ### Kinds -/

/-- A kind that can be looked for and is not known is a defect. -/
theorem noFailure_kindOf {fields : List (String × Json)}
    (h : ∀ d, fields.lookup "type" = some d → d.isAtom = true) (name : String) :
    NoFailure (kindOf name fields) := by
  rw [kindOf.eq_def]
  cases htype : fields.lookup "type" with
  | none => exact .defect _
  | some d =>
    cases d with
    | array | object => exact absurd (h _ htype) Bool.false_ne_true
    | str s =>
      simp only [Option.getD_some]
      cases ShapeKind.ofLabel? s with
      | none => exact .defect _
      | some k => exact .ok k
    | _ => exact .defect _

end ServiceWire.Definitions
