import ServiceWire.Fault
import ServiceWire.Json.Document
import ServiceWire.Pattern.Reader

/-!
# Partitions

A partition is a group of regions under one DNS suffix. It names its regions, or says by a pattern
which regions belong to it, and lists for each service the regions where the service has an
endpoint of its own. A table holds partitions in order; where several say something about a region
the order decides.
-/

namespace ServiceWire

/-- What a table says about a service in a region. What it does not say is nothing. -/
structure Endpoint where
  hostname : Value := .null
  /-- The region to sign requests for. -/
  signingRegion : Value := .null
  protocols : List Value := []

/-- A pattern for the names of regions. -/
structure RegionPattern where
  text : String
  pattern : Pattern
  /-- The pattern is what the text writes. -/
  isRead : Pattern.read text = .ok pattern

/-- How a partition recognises regions that it does not name. -/
inductive RegionRule
  /-- It does not; the table has this empty value in the place of a pattern. -/
  | absent (given : Value)
  | pattern (p : RegionPattern)

/-- A group of regions. -/
structure Partition where
  name : Value
  dnsSuffix : Value
  rule : RegionRule
  /-- The regions with their descriptions. -/
  regions : List (String × Value)
  /-- The services with their endpoints by region. -/
  services : List (String × List (String × Endpoint))

namespace Endpoint

/-- The protocols of an endpoint, which may be left out. -/
def protocolsOf (d? : Option Json) : Except Failure (List Value) :=
  match d?.filter Json.truthy with
  | none => .ok []
  | some d =>
    match d.toValue.items? with
    | some items => .ok items
    | none => .error (.plain .type)

/-- The endpoint that a table describes. -/
def load (d : Json) : Except Failure Endpoint := do
  let fields ← Json.sectionFields (some d)
  let scope ← Json.sectionFields (fields.lookup "credentialScope")
  let protocols ← protocolsOf (fields.lookup "protocols")
  return ⟨Json.fieldValue fields "hostname", Json.fieldValue scope "region", protocols⟩

end Endpoint

namespace Partition

/-! ### Loading -/

/-- A field that a partition must have. -/
def need (fields : List (String × Json)) (key : String) : Except Fault Value :=
  match fields.lookup key with
  | some d => .ok d.toValue
  | none => .error (.defect (.partitionKeyMissing key))

/-- The description of a region; without one it is empty. -/
def loadRegion (p : String × Json) : Except Failure (String × Value) := do
  let fields ← Json.sectionFields (some p.2)
  return (p.1, ((fields.lookup "description").getD (.str "")).toValue)

/-- The endpoint of a region. -/
def loadEndpoint (p : String × Json) : Except Failure (String × Endpoint) := do
  let e ← Endpoint.load p.2
  return (p.1, e)

/-- The endpoints of a service. -/
def loadService (p : String × Json) : Except Failure (String × List (String × Endpoint)) := do
  let fields ← Json.sectionFields (some p.2)
  let endpoints ← Json.sectionFields (fields.lookup "endpoints")
  let endpoints ← endpoints.mapM loadEndpoint
  return (p.1, endpoints)

/-- The rule that a table gives for the partition with this name. -/
def loadRule (name : Value) (d : Json) : Except Fault RegionRule :=
  if !d.truthy then .ok (.absent d.toValue)
  else
    match d with
    | .str text =>
      match h : Pattern.read text with
      | .ok p => .ok (.pattern ⟨text, p, h⟩)
      | .error (.plain .malformedPattern) => .error (.defect (.regionPattern name.text))
      | .error f => .error (.failure f)
    | _ => .error (.failure (.plain .type))

/-- The partition that a table describes. -/
def load (d : Json) : Except Fault Partition := do
  let fields ← match d with
    | .object fields => pure fields
    | _ => throw (.failure (.plain .type))
  let name ← need fields "partition"
  let dnsSuffix ← need fields "dnsSuffix"
  let regions ← (do
    let ps ← Json.sectionFields (fields.lookup "regions")
    ps.mapM loadRegion).mapError .failure
  let services ← (do
    let ps ← Json.sectionFields (fields.lookup "services")
    ps.mapM loadService).mapError .failure
  let rule ← loadRule name ((fields.lookup "regionRegex").getD .null)
  return ⟨name, dnsSuffix, rule, regions, services⟩

/-! ### Questions -/

/-- Whether a partition names a region. -/
def hasRegion (p : Partition) (region : String) : Bool := Entries.has p.regions region

/-- The pattern of a partition, if it has one. -/
def pattern? (p : Partition) : Option RegionPattern :=
  match p.rule with
  | .absent _ => none
  | .pattern r => some r

/-- Whether a region fits the pattern of a partition. -/
def matchesRegion (p : Partition) (region : String) : Bool :=
  p.pattern?.any fun r => r.pattern.matchesStart region

/-- The endpoints of a service: of the service with this name, or else of the first whose name
differs in case only. -/
def serviceEndpoints (p : Partition) (service : String) : Option (List (String × Endpoint)) :=
  match p.services.lookup service with
  | some endpoints => some endpoints
  | none =>
    (p.services.find? fun s => Text.lower s.1 == Text.lower service).map Prod.snd

/-- The regions that a partition names in some way: its own, then those of its services. -/
def mentionedRegions (p : Partition) : List String :=
  p.regions.map Prod.fst ++ p.services.flatMap fun s => s.2.map Prod.fst

end Partition

/-- A table of partitions. -/
structure PartitionTable where
  partitions : List Partition
  version : Value := .null

namespace PartitionTable

/-- The table that a document describes. -/
def load (d : Json) : Except Fault PartitionTable :=
  match d with
  | .object fields =>
    match fields.lookup "partitions" with
    | some (.array items) => do
      let ps ← items.mapM Partition.load
      return ⟨ps, Json.fieldValue fields "version"⟩
    | _ => .error (.defect .tableWithoutPartitions)
  | _ => .error (.defect .tableNotMapping)

/-- The partition of a region: the first that names it, or else the first whose pattern it
fits. -/
def partitionForRegion (t : PartitionTable) (region : String) : Option Partition :=
  (t.partitions.find? fun p => p.hasRegion region) <|>
    t.partitions.find? fun p => p.matchesRegion region

/-- The names of all services, sorted. -/
def serviceNames (t : PartitionTable) : List String :=
  (t.partitions.flatMap fun p => p.services.map Prod.fst).eraseDups.mergeSort

/-- The DNS suffix of every region that the table mentions; the first partition to mention a region
decides. -/
def dnsSuffixes (t : PartitionTable) : List (String × Value) :=
  (t.partitions.flatMap fun p => p.mentionedRegions.map fun r => (r, p.dnsSuffix)).foldl
    (fun acc q => Entries.putNew q.1 q.2 acc) []

/-- The patterns of the partitions that have one, each with the DNS suffix. -/
def patternSuffixes (t : PartitionTable) : List (RegionPattern × Value) :=
  t.partitions.filterMap fun p => p.pattern?.map fun r => (r, p.dnsSuffix)

end PartitionTable

/-! ### Reports -/

/-- An endpoint of a region as a report. -/
def Endpoint.report (p : String × Endpoint) : Value :=
  .list [.str p.1, p.2.hostname, p.2.signingRegion, .list p.2.protocols]

/-- A rule as a report: the text of its pattern. -/
def RegionRule.report : RegionRule → Value
  | absent given => given
  | pattern p => .str p.text

/-- A partition as a report. -/
def Partition.report (p : Partition) : Value :=
  .ofFields
    [("name", p.name), ("dns_suffix", p.dnsSuffix), ("region_regex", p.rule.report),
      ("regions", .ofPairs p.regions),
      ("services", .ofPairs (p.services.map fun s => (s.1, .list (s.2.map Endpoint.report))))]

/-- A table as a report. -/
def PartitionTable.report (t : PartitionTable) : Value :=
  .ofFields
    [("version", t.version), ("len", .int t.partitions.length),
      ("partitions", .list (t.partitions.map Partition.report))]

end ServiceWire
