import ServiceWire.Proofs.Model.Load

/-!
# Descriptions of services that can be read

A description is loaded, or found defective, if all that it says can be read: its shapes, its
operations, and the mappings of its metadata and customizations. No other description is ever
loaded.
-/

namespace ServiceWire

open Json

namespace ServiceModel

/-- A document that refers to a shape by what can be looked for. -/
def IsShapeRef (d : Json) : Prop :=
  ∃ ref, d = .object ref ∧ ((ref.lookup "shape").getD .null).isAtom = true

/-- The definition of an operation can be read. -/
structure ReadableOperation (d : Json) : Prop where
  mapping : IsSection (some d)
  http : IsSection ((fieldsOf (some d)).lookup "http")
  method : ∀ v, (fieldsOf ((fieldsOf (some d)).lookup "http")).lookup "method" = some v →
    ∃ s, v = .str s
  input : IfGiven IsShapeRef ((fieldsOf (some d)).lookup "input")
  output : IfGiven IsShapeRef ((fieldsOf (some d)).lookup "output")

/-- The description of a service can be read. -/
structure Readable (d : Json) : Prop where
  metadata : IfGiven IsMapping (d.get? "metadata")
  shapes : Definitions.ReadableTable (fieldsOf (d.get? "shapes"))
  operations : ∀ p ∈ fieldsOf (d.get? "operations"), ReadableOperation p.2
  customizations : IfGiven IsMapping (d.get? "customizations")
  rootOutputs : ∀ entries, mappingOf (d.get? "customizations") = .ok entries →
    IfGiven IsNames (entries.lookup "useRootXmlElementForResult")

/-! ### Operations -/

section Operation

variable {g : Graph}

/-- A shape that can be looked for is found, or is a defect. -/
theorem noFailure_shapeRef {d? : Option Json} (h : IfGiven IsShapeRef d?) (operation : String) :
    NoFailure (shapeRef g operation d?) := by
  rw [shapeRef.eq_def]
  cases hgiven : d?.filter truthy with
  | none => exact .ok none
  | some d =>
    obtain ⟨ref, rfl, hatom⟩ := h d hgiven
    simp only
    generalize (ref.lookup "shape").getD .null = target at hatom
    cases target with
    | array | object => exact absurd hatom Bool.false_ne_true
    | str name =>
      simp only
      split
      · exact .ok _
      · exact .defect _
    | _ => exact .defect _

theorem isShapeRef_of_shapeRef {d? : Option Json} {operation : String} {r? : Option g.Ref}
    (h : shapeRef g operation d? = .ok r?) : IfGiven IsShapeRef d? := by
  intro d hgiven
  rw [shapeRef.eq_def, hgiven] at h
  cases d with
  | object ref =>
    refine ⟨ref, rfl, ?_⟩
    simp only at h
    generalize (ref.lookup "shape").getD .null = target at h
    cases target with
    | array | object => cases h
    | _ => rfl
  | _ => cases h

theorem exists_forShapes_iff {name method uri : Value} {input output : Option g.Ref}
    {rootElement : Option Bool} :
    (∃ o, Operation.forShapes g name input output method uri rootElement = .ok o) ↔
      ∃ s, method = .str s := by
  cases method with
  | str s => exact ⟨fun _ => ⟨s, rfl⟩, fun _ => ⟨_, rfl⟩⟩
  | _ => exact ⟨nofun, nofun⟩

theorem exists_fieldOr_iff {fields : List (String × Json)} {key other : String} :
    (∃ s, fieldOr fields key other = .str s) ↔
      ∀ v, fields.lookup key = some v → ∃ s, v = .str s := by
  rw [fieldOr]
  cases fields.lookup key with
  | none => exact ⟨fun _ => nofun, fun _ => ⟨other, rfl⟩⟩
  | some d =>
    have hvalue : (∃ s, d.toValue = .str s) ↔ ∃ s, d = .str s := by
      cases d with
      | str s => exact ⟨fun _ => ⟨s, rfl⟩, fun _ => ⟨s, rfl⟩⟩
      | _ => exact ⟨nofun, nofun⟩
    rw [Option.getD_some, hvalue]
    exact ⟨fun h v hv => Option.some.inj hv ▸ h, fun h => h d rfl⟩

/-- An operation that can be read is bound, or found defective. -/
theorem noFailure_operationOf {p : String × Json} (h : ReadableOperation p.2)
    (rootOutputs : List String) : NoFailure (operationOf g rootOutputs p) := by
  rw [operationOf, sectionFields_eq h.mapping, Except.mapError, ok_bind,
    getD_filter_eq_iff.mpr ⟨h.http, rfl⟩]
  refine .bind (noFailure_shapeRef h.input p.1) fun input => ?_
  refine .bind (noFailure_shapeRef h.output p.1) fun output => ?_
  exact .of_exists (exists_forShapes_iff.mpr (exists_fieldOr_iff.mpr h.method))

/-- An operation that is bound can be read. -/
theorem readableOperation_of_operationOf {p : String × Json} {rootOutputs : List String}
    {o : Operation g} (h : operationOf g rootOutputs p = .ok o) : ReadableOperation p.2 := by
  rw [operationOf] at h
  obtain ⟨fields, hfields, h⟩ := exists_of_bind h
  obtain ⟨hmapping, rfl⟩ := sectionFields_eq_ok_iff.mp (exists_of_mapError hfields)
  obtain ⟨input, hinput, h⟩ := exists_of_bind h
  obtain ⟨output, houtput, h⟩ := exists_of_bind h
  generalize hhttp : ((((fieldsOf (some p.2)).lookup "http").filter truthy).getD (.object [])) =
    http at h
  cases http with
  | object fields =>
    obtain ⟨http, rfl⟩ := getD_filter_eq_iff.mp hhttp
    have hforShapes := exists_forShapes_iff.mp ⟨o, exists_of_mapError h⟩
    exact ⟨hmapping, http, exists_fieldOr_iff.mp hforShapes, isShapeRef_of_shapeRef hinput,
      isShapeRef_of_shapeRef houtput⟩
  | _ => cases h

end Operation

/-! ### Descriptions -/

theorem sectionOf_eq (d? : Option Json) :
    sectionOf d? = (sectionFields d?).mapError fun _ => .modelSections := by
  rw [sectionOf, sectionFields]
  cases d?.filter truthy with
  | none => rfl
  | some d => cases d <;> rfl

/-- The sections of a description are its fields. -/
theorem eq_of_sectionOf {d? : Option Json} {table : List (String × Json)}
    (h : sectionOf d? = .ok table) : table = fieldsOf d? := by
  rw [sectionOf_eq] at h
  exact (sectionFields_eq_ok_iff.mp (exists_of_mapError h)).2

/-- A description that can be read is loaded, or found defective. -/
theorem noFailure_load {fields : List (String × Json)} (h : Readable (.object fields)) :
    NoFailure (load (.object fields)) := by
  change NoFailure ((sectionOf (fields.lookup "shapes")).mapError Fault.defect >>= _)
  refine .bind_of_ok (.mapError _) fun table htable => ?_
  refine .bind_of_ok (.mapError _) fun operations hoperations => ?_
  obtain rfl := eq_of_sectionOf (exists_of_mapError htable)
  obtain rfl := eq_of_sectionOf (exists_of_mapError hoperations)
  refine .bind h.shapes.noFailure_graph fun g => ?_
  refine .bind (.of_exists (exists_mappingOf_iff.mpr h.metadata)) fun metadata => ?_
  refine .bind_of_ok (.of_exists (exists_mappingOf_iff.mpr h.customizations))
    fun customizations hcustomizations => ?_
  have hroots := h.rootOutputs customizations (exists_of_mapError hcustomizations)
  refine .bind (.of_exists (exists_nameSet_iff.mpr hroots)) fun rootOutputs => ?_
  refine .bind (.mapM fun p hp => ?_) fun bound => .ok _
  exact .bind (noFailure_operationOf (h.operations p hp) rootOutputs) fun o => .ok _

/-- A description that is loaded can be read. -/
theorem readable_of_load {d : Json} {m : ServiceModel} (h : load d = .ok m) : Readable d := by
  cases d with
  | object fields =>
    change ((sectionOf (fields.lookup "shapes")).mapError Fault.defect >>= _) = _ at h
    obtain ⟨table, htable, h⟩ := exists_of_bind h
    obtain ⟨operations, hoperations, h⟩ := exists_of_bind h
    obtain ⟨g, hg, h⟩ := exists_of_bind h
    obtain ⟨metadata, hmetadata, h⟩ := exists_of_bind h
    obtain ⟨customizations, hcustomizations, h⟩ := exists_of_bind h
    obtain ⟨rootOutputs, hroots, h⟩ := exists_of_bind h
    obtain ⟨bound, hbound, -⟩ := exists_of_bind h
    obtain rfl := eq_of_sectionOf (exists_of_mapError htable)
    obtain rfl := eq_of_sectionOf (exists_of_mapError hoperations)
    have hcustomizations := exists_of_mapError hcustomizations
    refine ⟨exists_mappingOf_iff.mp ⟨metadata, exists_of_mapError hmetadata⟩,
      Definitions.readableTable_of_graph hg, fun p hp => ?_,
      exists_mappingOf_iff.mp ⟨customizations, hcustomizations⟩, fun entries hentries => ?_⟩
    · obtain ⟨q, hq⟩ := exists_of_mapM hbound hp
      obtain ⟨o, ho, -⟩ := exists_of_bind hq
      exact readableOperation_of_operationOf ho
    · cases hcustomizations.symm.trans hentries
      exact exists_nameSet_iff.mp ⟨rootOutputs, exists_of_mapError hroots⟩
  | _ => cases h

end ServiceModel

end ServiceWire
