import ServiceWire.Endpoint.Metadata
import ServiceWire.Proofs.Codec.Success
import ServiceWire.Proofs.Entries

/-!
# The suffix of a region and its partition

There are two ways from a region to a DNS suffix. The partition of a region is the first that names
it among its own regions, or else the first whose pattern it fits. The metadata of a service have
the suffixes of all regions that the table mentions, where the first partition to mention a region
decides, be it only under a service; the patterns are for the others. Both lead to the same suffix
unless a region is mentioned under a service of one partition before another names it.
-/

namespace ServiceWire

namespace Entries

variable {κ ν : Type} [BEq κ] [LawfulBEq κ]

theorem lookup_putNew (key k : κ) (value : ν) (entries : List (κ × ν)) :
    (putNew key value entries).lookup k =
      (entries.lookup k).or (if k == key then some value else none) := by
  rw [putNew]
  cases h : entries.lookup key with
  | some v =>
    by_cases hk : k = key
    · rw [hk, h, Option.some_or]
    · rw [if_neg (by simpa using hk), Option.or_none]
  | none =>
    rw [List.lookup_append, List.lookup_cons, List.lookup_nil]
    cases k == key with
    | true => rfl
    | false => rfl

/-- Of the pairs with one key, the first counts where values are not put in place of others. -/
theorem lookup_foldl_putNew (pairs entries : List (κ × ν)) (key : κ) :
    (pairs.foldl (fun acc p => putNew p.1 p.2 acc) entries).lookup key =
      (entries.lookup key).or (pairs.lookup key) := by
  induction pairs generalizing entries with
  | nil => rw [List.foldl_nil, List.lookup_nil, Option.or_none]
  | cons p rest ih =>
    rw [List.foldl_cons, ih, lookup_putNew, Option.or_assoc, List.lookup_cons]
    cases key == p.1 with
    | true => rfl
    | false => rfl

end Entries

/-! ### Mentioned regions -/

namespace Partition

/-- Whether a partition names a region: among its own regions, or with an endpoint of one of its
services. -/
def mentions (p : Partition) (region : String) : Bool :=
  p.hasRegion region || p.services.any fun s => Entries.has s.2 region

theorem mentions_of_hasRegion {p : Partition} {region : String} (h : p.hasRegion region = true) :
    p.mentions region = true := by
  rw [mentions, h, Bool.true_or]

/-- The mentioned regions are the partition's own and those with an endpoint. -/
theorem mem_mentionedRegions_iff {p : Partition} {region : String} :
    region ∈ p.mentionedRegions ↔ p.mentions region = true := by
  rw [mentionedRegions, List.mem_append, mentions, Bool.or_eq_true]
  refine or_congr Entries.mem_keys_iff ?_
  rw [List.mem_flatMap, List.any_eq_true]
  exact exists_congr fun s => and_congr_right fun _ => Entries.mem_keys_iff

theorem lookup_mentionedRegions (p : Partition) (region : String) :
    (p.mentionedRegions.map fun r => (r, p.dnsSuffix)).lookup region =
      if p.mentions region then some p.dnsSuffix else none := by
  have hlookup (rs : List String) : (rs.map fun r => (r, p.dnsSuffix)).lookup region =
      if region ∈ rs then some p.dnsSuffix else none := by
    induction rs with
    | nil => rfl
    | cons r rest ih =>
      rw [List.map_cons, List.lookup_cons, ih]
      by_cases h : region = r
      · simp [h]
      · rw [beq_false_of_ne h]
        simp [h]
  rw [hlookup]
  simp only [mem_mentionedRegions_iff]

end Partition

namespace PartitionTable

/-- The first partition that mentions a region. -/
def firstMention (t : PartitionTable) (region : String) : Option Partition :=
  t.partitions.find? fun p => p.mentions region

theorem lookup_dnsSuffixes (t : PartitionTable) (region : String) :
    t.dnsSuffixes.lookup region = (t.firstMention region).map Partition.dnsSuffix := by
  rw [dnsSuffixes, Entries.lookup_foldl_putNew, List.lookup_nil, Option.none_or, firstMention]
  induction t.partitions with
  | nil => rfl
  | cons p rest ih =>
    rw [List.flatMap_cons, List.lookup_append, ih, Partition.lookup_mentionedRegions,
      List.find?_cons]
    cases p.mentions region with
    | true => rfl
    | false => rfl

/-- A partition names none of the regions that the table does not mention. -/
theorem partitionForRegion_of_unmentioned {t : PartitionTable} {region : String}
    (h : t.firstMention region = none) :
    t.partitionForRegion region = t.partitions.find? fun p => p.matchesRegion region := by
  have hnone : (t.partitions.find? fun p => p.hasRegion region) = none := by
    rw [List.find?_eq_none]
    intro p hp hregion
    exact List.find?_eq_none.mp h p hp (Partition.mentions_of_hasRegion hregion)
  rw [partitionForRegion, hnone]
  rfl

/-- If the first partition that mentions a region names it, it is the partition of the region. -/
theorem partitionForRegion_of_firstMention {t : PartitionTable} {region : String} {p : Partition}
    (h : t.firstMention region = some p) (named : p.hasRegion region = true) :
    t.partitionForRegion region = some p := by
  have hsome : (t.partitions.find? fun p => p.hasRegion region) = some p := by
    obtain ⟨-, before, after, heq, hbefore⟩ := List.find?_eq_some_iff_append.mp h
    refine List.find?_eq_some_iff_append.mpr ⟨named, before, after, heq, fun q hq => ?_⟩
    have hq := hbefore q hq
    rw [Bool.not_eq_true'] at hq ⊢
    exact Bool.eq_false_iff.mpr fun hregion =>
      Bool.eq_false_iff.mp hq (Partition.mentions_of_hasRegion hregion)
  rw [partitionForRegion, hsome]
  rfl

end PartitionTable

namespace EndpointMetadata

/-- The patterns of a table lead to the suffix of the first partition whose pattern a region
fits. -/
theorem suffixByPattern_patternSuffixes (t : PartitionTable) (region : String) (other : Value) :
    suffixByPattern region other (t.patternSuffixes.map fun p => (p.1.text, p.2)) =
      .ok (((t.partitions.find? fun p => p.matchesRegion region).map Partition.dnsSuffix).getD
        other) := by
  rw [PartitionTable.patternSuffixes]
  induction t.partitions with
  | nil => rfl
  | cons p rest ih =>
    rw [List.filterMap_cons, List.find?_cons, Partition.matchesRegion]
    cases p.pattern? with
    | none => exact ih
    | some r =>
      dsimp only [Option.map_some, Option.any_some]
      rw [List.map_cons, suffixByPattern, r.isRead, ok_bind, ih]
      cases r.pattern.matchesStart region with
      | true => rfl
      | false => rfl

/-- The DNS suffix that the metadata of a service have for a region is the one of the first
partition that mentions it, and of the partition of the region if none does. It is the one of the
partition of the region whenever the first partition to mention the region names it, and also when
no partition mentions it; a region without a partition has the suffix of the settings. -/
theorem dnsSuffixFor_ofTable {t : PartitionTable} {service : String} {settings : RegionSettings}
    {m : EndpointMetadata} (h : ofTable t service settings = .ok m) (region : String) :
    m.dnsSuffixFor region =
        .ok (((t.firstMention region <|> t.partitionForRegion region).map
          Partition.dnsSuffix).getD settings.defaultDnsSuffix) ∧
      ((∀ p, t.firstMention region = some p → p.hasRegion region = true) →
        m.dnsSuffixFor region =
          .ok (((t.partitionForRegion region).map Partition.dnsSuffix).getD
            settings.defaultDnsSuffix)) := by
  have hanswer : m.dnsSuffixFor region =
      .ok (((t.firstMention region <|> t.partitionForRegion region).map
        Partition.dnsSuffix).getD settings.defaultDnsSuffix) := by
    rw [ofTable] at h
    split at h
    · cases h
      rw [dnsSuffixFor]
      dsimp only
      rw [PartitionTable.lookup_dnsSuffixes]
      cases hfirst : t.firstMention region with
      | some p => rfl
      | none =>
        rw [PartitionTable.partitionForRegion_of_unmentioned hfirst]
        exact suffixByPattern_patternSuffixes t region settings.defaultDnsSuffix
    · cases h
  refine ⟨hanswer, fun named => ?_⟩
  rw [hanswer]
  cases hfirst : t.firstMention region with
  | none => rfl
  | some p =>
    rw [PartitionTable.partitionForRegion_of_firstMention hfirst (named p hfirst)]
    rfl

/-- A partition of the north, with a service that is also in the south. -/
def northern : Partition where
  name := .str "north"
  dnsSuffix := .str "north.test"
  rule := .absent .null
  regions := [("n1", .str "")]
  services := [("files", [("n1", {}), ("s1", {})])]

/-- A partition of the south, which names one region; others begin with its letter. -/
def southern : Partition where
  name := .str "south"
  dnsSuffix := .str "south.test"
  rule := .pattern ⟨"s", .seq (.one { items := [.range 115 115] }) .empty, rfl⟩
  regions := [("s1", .str "")]
  services := []

/-- The north and the south. -/
def poles : PartitionTable where
  partitions := [northern, southern]

/-- A region that is named first, and one that only fits a pattern, have the suffixes of their
partitions. -/
theorem dnsSuffixFor_ofTable_poles :
    ∃ m, ofTable poles "files" {} = .ok m ∧
      (∀ p, poles.firstMention "n1" = some p → p.hasRegion "n1" = true) ∧
      poles.partitionForRegion "n1" = some northern ∧
      m.dnsSuffixFor "n1" = .ok (.str "north.test") ∧
      poles.partitionForRegion "s2" = some southern ∧
      m.dnsSuffixFor "s2" = .ok (.str "south.test") := by
  have hn1 : ∀ p, poles.firstMention "n1" = some p → p.hasRegion "n1" = true := by
    intro p hp
    have hfirst : poles.firstMention "n1" = some northern := rfl
    obtain rfl : northern = p := Option.some.inj (hfirst.symm.trans hp)
    rfl
  have hs2 : ∀ p, poles.firstMention "s2" = some p → p.hasRegion "s2" = true := by
    intro p hp
    have hnone : poles.firstMention "s2" = none := rfl
    cases hnone.symm.trans hp
  obtain ⟨m, hm⟩ : ∃ m, ofTable poles "files" {} = .ok m := ⟨_, rfl⟩
  exact ⟨m, hm, hn1, rfl, (dnsSuffixFor_ofTable hm "n1").2 hn1, rfl,
    (dnsSuffixFor_ofTable hm "s2").2 hs2⟩

/-- A region that the second partition names has the suffix of the first, which mentions it under a
service. -/
theorem dnsSuffixFor_mentioned :
    southern.hasRegion "s1" = true ∧ poles.partitionForRegion "s1" = some southern ∧
      ∃ m, ofTable poles "files" {} = .ok m ∧
        m.dnsSuffixFor "s1" = .ok northern.dnsSuffix ∧
        m.dnsSuffixFor "s1" ≠ .ok southern.dnsSuffix := by
  refine ⟨rfl, rfl, _, rfl, rfl, fun h => ?_⟩
  have hsuffix : northern.dnsSuffix = southern.dnsSuffix := Except.ok.inj h
  simp [northern, southern] at hsuffix

end EndpointMetadata

end ServiceWire
