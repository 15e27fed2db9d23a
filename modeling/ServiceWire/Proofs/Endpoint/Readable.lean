import ServiceWire.Endpoint.Partition
import ServiceWire.Proofs.Fault
import ServiceWire.Proofs.Json.Section

/-!
# Endpoint tables that can be read

A table is read to its end, or found defective, if each partition is an object whose parts can be
read: sections where there are sections, protocols that can be gone through, and a text where there
is a pattern. No other table is ever loaded.
-/

namespace ServiceWire

open Json

namespace Endpoint

/-- A document that can be gone through. -/
def IsSequence : Json → Prop
  | .array _ | .object _ | .str _ => True
  | _ => False

theorem exists_protocolsOf_iff {d? : Option Json} :
    (∃ ps, protocolsOf d? = .ok ps) ↔ IfGiven IsSequence d? := by
  rw [protocolsOf]
  cases hgiven : d?.filter truthy with
  | none => exact ⟨fun _ => ifGiven_of_filter_eq_none hgiven, fun _ => ⟨[], rfl⟩⟩
  | some d =>
    rw [ifGiven_iff hgiven]
    cases d with
    | array items | object fields | str s => exact ⟨fun _ => trivial, fun _ => ⟨_, rfl⟩⟩
    | _ => exact ⟨nofun, nofun⟩

/-- The description of an endpoint can be read. -/
structure Readable (d : Json) : Prop where
  mapping : IsSection (some d)
  scope : IsSection ((fieldsOf (some d)).lookup "credentialScope")
  protocols : IfGiven IsSequence ((fieldsOf (some d)).lookup "protocols")

theorem exists_load_iff {d : Json} : (∃ e, load d = .ok e) ↔ Readable d := by
  rw [load, exists_section_iff, exists_section_iff]
  constructor
  · rintro ⟨mapping, scope, e, h⟩
    obtain ⟨ps, hps, -⟩ := exists_of_bind h
    exact ⟨mapping, scope, exists_protocolsOf_iff.mp ⟨ps, hps⟩⟩
  · rintro ⟨mapping, scope, protocols⟩
    obtain ⟨ps, hps⟩ := exists_protocolsOf_iff.mpr protocols
    refine ⟨mapping, scope, ?_⟩
    rw [hps, ok_bind]
    exact ⟨_, rfl⟩

end Endpoint

namespace Partition

/-- The description of a service can be read. -/
structure ReadableService (d : Json) : Prop where
  mapping : IsSection (some d)
  endpoints : IsSection ((fieldsOf (some d)).lookup "endpoints")
  each : ∀ p ∈ fieldsOf ((fieldsOf (some d)).lookup "endpoints"), Endpoint.Readable p.2

/-- A pattern for regions is a text whose only mistakes are those of its form. -/
def IsRule (d : Json) : Prop :=
  ∃ text, d = .str text ∧ ∀ f, Pattern.read text = .error f → f = .plain .malformedPattern

/-- The parts of a partition can be read. -/
structure ReadableFields (fields : List (String × Json)) : Prop where
  regions : IsSection (fields.lookup "regions")
  eachRegion : ∀ p ∈ fieldsOf (fields.lookup "regions"), IsSection (some p.2)
  services : IsSection (fields.lookup "services")
  eachService : ∀ p ∈ fieldsOf (fields.lookup "services"), ReadableService p.2
  rule : IfGiven IsRule (fields.lookup "regionRegex")

theorem exists_loadRegion_iff {p : String × Json} :
    (∃ r, loadRegion p = .ok r) ↔ IsSection (some p.2) := by
  rw [loadRegion, exists_section_iff]
  exact ⟨fun h => h.1, fun h => ⟨h, _, rfl⟩⟩

theorem exists_loadEndpoint_iff {p : String × Json} :
    (∃ e, loadEndpoint p = .ok e) ↔ Endpoint.Readable p.2 := by
  rw [← Endpoint.exists_load_iff, loadEndpoint]
  constructor
  · rintro ⟨e, h⟩
    obtain ⟨e, he, -⟩ := exists_of_bind h
    exact ⟨e, he⟩
  · rintro ⟨e, he⟩
    rw [he]
    exact ⟨_, rfl⟩

theorem exists_loadService_iff {p : String × Json} :
    (∃ s, loadService p = .ok s) ↔ ReadableService p.2 := by
  rw [loadService, exists_section_iff, exists_section_iff]
  constructor
  · rintro ⟨mapping, endpoints, s, h⟩
    obtain ⟨es, hes, -⟩ := exists_of_bind h
    exact ⟨mapping, endpoints, fun q hq => exists_loadEndpoint_iff.mp (exists_of_mapM hes hq)⟩
  · rintro ⟨mapping, endpoints, each⟩
    obtain ⟨es, hes⟩ := exists_mapM fun q hq => exists_loadEndpoint_iff.mpr (each q hq)
    refine ⟨mapping, endpoints, ?_⟩
    rw [hes, ok_bind]
    exact ⟨_, rfl⟩

/-- A pattern that can be read is read, or its form is a defect. -/
theorem noFailure_loadRule {d : Json} (h : d.truthy = true → IsRule d) (name : Value) :
    NoFailure (loadRule name d) := by
  rw [loadRule.eq_def]
  split
  · exact .ok _
  · next htruthy =>
    rw [Bool.not_eq_true', Bool.not_eq_false] at htruthy
    obtain ⟨text, rfl, hform⟩ := h htruthy
    simp only
    split
    · exact .ok _
    · exact .defect _
    · next f hother hf => exact absurd (hform f hf) hother

/-- A pattern that is read can be read. -/
theorem isRule_of_loadRule {d : Json} {name : Value} {rule : RegionRule}
    (h : loadRule name d = .ok rule) (htruthy : d.truthy = true) : IsRule d := by
  rw [loadRule.eq_def, if_neg (by simp [htruthy])] at h
  cases d with
  | str text =>
    refine ⟨text, rfl, fun f hf => ?_⟩
    simp only at h
    split at h
    · next hp => cases hf.symm.trans hp
    · cases h
    · cases h
  | _ => cases h

/-- The description of a partition can be read. -/
def Readable (d : Json) : Prop := ∃ fields, d = .object fields ∧ ReadableFields fields

theorem noFailure_need (fields : List (String × Json)) (key : String) :
    NoFailure (need fields key) := by
  rw [need]
  split
  · exact .ok _
  · exact .defect _

/-- A partition that can be read is loaded, or found defective. -/
theorem noFailure_load {d : Json} (h : Readable d) : NoFailure (load d) := by
  obtain ⟨fields, rfl, h⟩ := h
  change NoFailure (need fields "partition" >>= _)
  refine .bind (noFailure_need fields _) fun name => ?_
  refine .bind (noFailure_need fields _) fun dnsSuffix => ?_
  refine .bind (.of_exists ?_) fun regions => ?_
  · exact exists_section_iff.mpr ⟨h.regions, exists_mapM fun p hp =>
      exists_loadRegion_iff.mpr (h.eachRegion p hp)⟩
  refine .bind (.of_exists ?_) fun services => ?_
  · exact exists_section_iff.mpr ⟨h.services, exists_mapM fun p hp =>
      exists_loadService_iff.mpr (h.eachService p hp)⟩
  exact .bind (noFailure_loadRule (ifGiven_iff_getD.mp h.rule) name) fun rule => .ok _

/-- A partition that is loaded can be read. -/
theorem readable_of_load {d : Json} {p : Partition} (h : load d = .ok p) : Readable d := by
  cases d with
  | object fields =>
    change (need fields "partition" >>= _) = _ at h
    obtain ⟨name, -, h⟩ := exists_of_bind h
    obtain ⟨dnsSuffix, -, h⟩ := exists_of_bind h
    obtain ⟨regions, hregions, h⟩ := exists_of_bind h
    obtain ⟨services, hservices, h⟩ := exists_of_bind h
    obtain ⟨rule, hrule, -⟩ := exists_of_bind h
    obtain ⟨regionSection, rs, hrs⟩ := exists_section_iff.mp ⟨_, exists_of_mapError hregions⟩
    obtain ⟨serviceSection, ss, hss⟩ := exists_section_iff.mp ⟨_, exists_of_mapError hservices⟩
    exact ⟨fields, rfl,
      { regions := regionSection
        eachRegion := fun q hq => exists_loadRegion_iff.mp (exists_of_mapM hrs hq)
        services := serviceSection
        eachService := fun q hq => exists_loadService_iff.mp (exists_of_mapM hss hq)
        rule := ifGiven_iff_getD.mpr (isRule_of_loadRule hrule) }⟩
  | _ => cases h

end Partition

namespace PartitionTable

/-- The partitions that a document lists can be read, if it lists any. -/
def Readable (d : Json) : Prop :=
  ∀ items, d.get? "partitions" = some (.array items) → ∀ p ∈ items, Partition.Readable p

/-- A table that can be read is loaded, or found defective. -/
theorem noFailure_load {d : Json} (h : Readable d) : NoFailure (load d) := by
  rw [load.eq_def]
  split
  · split
    · next items hitems =>
      exact .bind (.mapM fun p hp => Partition.noFailure_load (h items hitems p hp)) fun ps => .ok _
    · exact .defect _
  · exact .defect _

/-- A table that is loaded can be read. -/
theorem readable_of_load {d : Json} {t : PartitionTable} (h : load d = .ok t) : Readable d := by
  intro items hitems p hp
  cases d with
  | object fields =>
    rw [get?] at hitems
    simp only [load, hitems] at h
    obtain ⟨ps, hps, -⟩ := exists_of_bind h
    obtain ⟨r, hr⟩ := exists_of_mapM hps hp
    exact Partition.readable_of_load hr
  | _ => cases hitems

end PartitionTable

end ServiceWire
