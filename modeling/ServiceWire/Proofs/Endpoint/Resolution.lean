import ServiceWire.Proofs.Codegen.EndpointModule
import ServiceWire.Proofs.Endpoint.Suffix

/-!
# What the metadata of a service say

The metadata of a service are collected on a walk through the table in which later partitions take
the place of earlier ones, while the suffixes of regions are collected on another in which the
earlier ones stay. Here both are put in terms of the table itself. Of the host names, and of the
signing regions, that matching entries give for a region, the one of the last partition counts; of
the partitions that a region could have its suffix from, the first counts, where to be named comes
before to fit a pattern.
-/

namespace ServiceWire

namespace Partition

/-- The entry of a partition that matches a service: the one with exactly this name, or else the
first whose name differs in case only. -/
def matching (service : String) (p : Partition) : Option (List (String × Endpoint)) :=
  ((p.services.find? fun s => s.1 = service) <|>
    p.services.find? fun s => Text.lower s.1 = Text.lower service).map Prod.snd

theorem matching_eq (service : String) (p : Partition) :
    p.matching service = p.serviceEndpoints service := by
  have hexact : p.services.lookup service =
      (p.services.find? fun s => s.1 = service).map Prod.snd := by
    have h := Entries.lookup_map Prod.fst Prod.snd p.services service
    rw [List.map_id'' fun _ => rfl] at h
    exact h
  rw [matching, serviceEndpoints, hexact]
  cases p.services.find? fun s => s.1 = service with
  | some s => rfl
  | none => rfl

/-- What an endpoint gives for a region, if it is the region's. -/
def givenBy (value : Endpoint → Value) (region : String) (e : String × Endpoint) : Option Value :=
  if e.1 = region ∧ (value e.2).isNull = false then some (value e.2) else none

/-- What the matching entry of a partition gives for a region. An entry has one endpoint for a
region; if it had several, the last would count. -/
def given (value : Endpoint → Value) (service region : String) (p : Partition) : Option Value :=
  (p.matching service).bind fun endpoints => endpoints.reverse.findSome? (givenBy value region)

end Partition

namespace PartitionTable

/-- What the last partition whose matching entry gives something for a region gives for it. -/
def lastGiven (value : Endpoint → Value) (service region : String) (t : PartitionTable) :
    Option Value :=
  t.partitions.reverse.findSome? (Partition.given value service region)

/-- The suffix of a region: that of the first partition that names it, be it only under a service,
or else of the first whose pattern it fits. -/
def suffixOf (t : PartitionTable) (region : String) : Option Value :=
  (t.firstMention region <|> t.partitions.find? fun p => p.matchesRegion region).map
    Partition.dnsSuffix

end PartitionTable

namespace EndpointMetadata

open Codegen.EndpointModule (serviceTables overrideAll overrides)

/-! ### What is collected -/

theorem lookup_override (region key : String) (v : Value) (entries : List (String × Value)) :
    (override region v entries).lookup key =
      (if region = key ∧ v.isNull = false then some v else none).or (entries.lookup key) := by
  rw [override]
  cases v.isNull with
  | true => simp
  | false =>
    rw [if_neg Bool.false_ne_true, Entries.lookup_put]
    by_cases h : region = key
    · simp [h]
    · simp [h, Ne.symm h]

/-- Of the endpoints of a region the last that gives a value counts, before any value that was there
already. -/
theorem lookup_overrideAll (value : Endpoint → Value) (region : String)
    (endpoints : List (String × Endpoint)) (entries : List (String × Value)) :
    (overrideAll value entries endpoints).lookup region =
      (endpoints.reverse.findSome? (Partition.givenBy value region)).or
        (entries.lookup region) := by
  induction endpoints generalizing entries with
  | nil => rfl
  | cons e rest ih =>
    have hstep : overrideAll value entries (e :: rest) =
        overrideAll value (override e.1 (value e.2) entries) rest := rfl
    rw [hstep, ih, lookup_override, List.reverse_cons, List.findSome?_append,
      List.findSome?_singleton, Option.or_assoc]
    rfl

/-- Of several tables the last that gives a value for a region counts. -/
theorem lookup_overrides (value : Endpoint → Value) (region : String)
    (tables : List (List (String × Endpoint))) :
    (overrides value tables).lookup region =
      tables.reverse.findSome? fun endpoints =>
        endpoints.reverse.findSome? (Partition.givenBy value region) := by
  have hfrom (entries : List (String × Value)) :
      (tables.foldl (overrideAll value) entries).lookup region =
        (tables.reverse.findSome? fun endpoints =>
          endpoints.reverse.findSome? (Partition.givenBy value region)).or
            (entries.lookup region) := by
    induction tables generalizing entries with
    | nil => rfl
    | cons endpoints rest ih =>
      rw [List.foldl_cons, ih, lookup_overrideAll, List.reverse_cons, List.findSome?_append,
        List.findSome?_singleton, Option.or_assoc]
  rw [overrides, hfrom, List.lookup_nil, Option.or_none]

/-- What the tables of a service give is what the partitions give. -/
theorem lookup_overrides_serviceTables (value : Endpoint → Value) (t : PartitionTable)
    (service region : String) :
    (overrides value (serviceTables t service)).lookup region =
      t.lastGiven value service region := by
  have hgiven (ps : List Partition) :
      ((ps.filterMap fun p => p.serviceEndpoints service).findSome? fun endpoints =>
          endpoints.reverse.findSome? (Partition.givenBy value region)) =
        ps.findSome? (Partition.given value service region) := by
    induction ps with
    | nil => rfl
    | cons p rest ih =>
      simp only [List.filterMap_cons, List.findSome?_cons, Partition.given, Partition.matching_eq]
      cases p.serviceEndpoints service with
      | none => simpa using ih
      | some endpoints => simp [List.findSome?_cons, ih]
  rw [lookup_overrides, serviceTables, ← List.filterMap_reverse, hgiven]
  rfl

/-- Only a value that is there is given. -/
theorem isNull_of_lastGiven {value : Endpoint → Value} {t : PartitionTable}
    {service region : String} {v : Value} (h : t.lastGiven value service region = some v) :
    v.isNull = false := by
  obtain ⟨p, -, hp⟩ := List.exists_of_findSome?_eq_some h
  obtain ⟨endpoints, -, hendpoints⟩ := Option.bind_eq_some_iff.mp hp
  obtain ⟨e, -, he⟩ := List.exists_of_findSome?_eq_some hendpoints
  rw [Partition.givenBy] at he
  split at he
  · rename_i hgiven
    cases he
    exact hgiven.2
  · cases he

theorem flatMap_eq_regions (tables : List (List (String × Endpoint))) :
    Codegen.EndpointModule.regions tables =
      tables.flatMap fun endpoints => endpoints.map Prod.fst := by
  have hfrom (acc : List String) :
      tables.foldl (fun acc endpoints => acc ++ endpoints.map Prod.fst) acc =
        acc ++ tables.flatMap fun endpoints => endpoints.map Prod.fst := by
    induction tables generalizing acc with
    | nil => exact (List.append_nil acc).symm
    | cons endpoints rest ih =>
      rw [List.foldl_cons, ih, List.flatMap_cons, List.append_assoc]
  exact hfrom []

/-! ### What is answered -/

/-- The DNS suffix of a region by the metadata of any service. -/
theorem dnsSuffixFor_eq {t : PartitionTable} {m : EndpointMetadata}
    (suffixes : m.dnsSuffixes = t.dnsSuffixes)
    (patterns : m.patterns = t.patternSuffixes.map fun p => (p.1.text, p.2)) (region : String) :
    m.dnsSuffixFor region = .ok ((t.suffixOf region).getD m.settings.defaultDnsSuffix) := by
  rw [dnsSuffixFor, suffixes, patterns, PartitionTable.lookup_dnsSuffixes, PartitionTable.suffixOf]
  cases t.firstMention region with
  | some p => rfl
  | none => exact suffixByPattern_patternSuffixes t region m.settings.defaultDnsSuffix

/-- There are no metadata of a service exactly if no partition of the table has a matching entry.
Otherwise the regions are those of the matching entries, in order; the host name in a region is the
one that the last matching entry with a host name for the region gives, or else made of the service,
the region and the suffix; and the region to sign for is the one that the last matching entry with
a signing region gives, or else the region itself. -/
theorem ofTable_answers (t : PartitionTable) (service : String) (settings : RegionSettings) :
    match ofTable t service settings with
    | .error d =>
      d = .serviceNotFound service ∧ ∀ p ∈ t.partitions, p.matching service = none
    | .ok m =>
      (∃ p ∈ t.partitions, (p.matching service).isSome) ∧
      m.regions = (t.partitions.filterMap (Partition.matching service)).flatMap
        (fun endpoints => endpoints.map Prod.fst) ∧
      ∀ region,
        m.endpointFor region = .ok ((t.lastGiven Endpoint.hostname service region).getD (.str
          s!"{service}.{region}.{((t.suffixOf region).getD settings.defaultDnsSuffix).text}")) ∧
        m.signingRegionFor region =
          (t.lastGiven Endpoint.signingRegion service region).getD (.str region) := by
  have htables : t.partitions.filterMap (Partition.matching service) = serviceTables t service :=
    List.filterMap_congr fun p _ => p.matching_eq service
  rw [Codegen.EndpointModule.ofTable_eq]
  cases hempty : (serviceTables t service).isEmpty with
  | true =>
    refine ⟨rfl, fun p hp => ?_⟩
    rw [← htables, List.isEmpty_iff, List.filterMap_eq_nil_iff] at hempty
    exact hempty p hp
  | false =>
    have hne : serviceTables t service ≠ [] := by
      rintro h
      rw [h] at hempty
      cases hempty
    refine ⟨?_, ?_, fun region => ⟨?_, ?_⟩⟩
    · obtain ⟨endpoints, hmem⟩ := List.exists_mem_of_ne_nil _ hne
      rw [← htables] at hmem
      obtain ⟨p, hp, hmatch⟩ := List.mem_filterMap.mp hmem
      exact ⟨p, hp, by rw [hmatch]; rfl⟩
    · rw [htables]
      exact flatMap_eq_regions _
    · rw [endpointFor]
      dsimp only
      rw [lookup_overrides_serviceTables, dnsSuffixFor_eq rfl rfl]
      cases hgiven : t.lastGiven Endpoint.hostname service region with
      | none => rfl
      | some v =>
        rw [Option.filter_some, isNull_of_lastGiven hgiven]
        rfl
    · rw [signingRegionFor]
      dsimp only
      rw [lookup_overrides_serviceTables]

end EndpointMetadata

end ServiceWire
