import ServiceWire.Endpoint.Partition
import ServiceWire.Http.Message
import ServiceWire.Settings.Basic

/-!
# Endpoint metadata

What is known about the endpoints of one service: the host names and the signing regions that
differ from the rule, and the DNS suffixes that the rule needs. By the rule the host name is made of
the name of the service, the region and the DNS suffix of the region, and requests are signed for
the region itself.
-/

namespace ServiceWire

/-- What is known about the endpoints of a service. -/
structure EndpointMetadata where
  endpointName : String
  regions : List String := []
  /-- The host names that differ from the rule, by region. -/
  hostnames : List (String × Value) := []
  /-- The signing regions that differ from the region. -/
  signingRegions : List (String × Value) := []
  dnsSuffixes : List (String × Value) := []
  /-- Patterns for regions without a DNS suffix of their own, each with its DNS suffix. -/
  patterns : List (String × Value) := []
  settings : RegionSettings := {}

namespace EndpointMetadata

/-- The short form of metadata. -/
def quoted (m : EndpointMetadata) : String :=
  s!"ServiceMetadata(endpoint_prefix={Quoted.text m.endpointName}, regions={m.regions.length})"

/-- The DNS suffix of the first pattern that a region fits, or else another. -/
def suffixByPattern (region : String) (other : Value) : List (String × Value) → Except Failure Value
  | [] => .ok other
  | (text, suffix) :: rest => do
    let p ← Pattern.read text
    if p.matchesStart region then return suffix else suffixByPattern region other rest

/-- The DNS suffix of a region. -/
def dnsSuffixFor (m : EndpointMetadata) (region : String) : Except Failure Value :=
  match m.dnsSuffixes.lookup region with
  | some suffix => .ok suffix
  | none => suffixByPattern region m.settings.defaultDnsSuffix m.patterns

/-- The host name of the service in a region. -/
def endpointFor (m : EndpointMetadata) (region : String) : Except Failure Value :=
  match (m.hostnames.lookup region).filter fun v => !v.isNull with
  | some hostname => .ok hostname
  | none => do
    let suffix ← m.dnsSuffixFor region
    return .str s!"{m.endpointName}.{region}.{suffix.text}"

/-- Whether a host name has a scheme. -/
def hasScheme : Value → Except Failure Bool
  | .str s => .ok (Text.containsText s "://")
  | v =>
    match v, v.items? with
    | .bytes .., _ => .error (.plain .type)
    | _, some items => .ok (items.any fun e => match e with
      | .str s => s == "://"
      | _ => false)
    | _, none => .error (.plain .type)

/-- The address of the service in a region: the host name with a scheme. -/
def endpointUrl (m : EndpointMetadata) (region : String) : Except Failure Value := do
  let endpoint ← m.endpointFor region
  let complete ← hasScheme endpoint
  return if complete then endpoint
    else .str s!"{m.settings.endpointScheme.text}://{endpoint.text}"

/-- The region to sign requests for. -/
def signingRegionFor (m : EndpointMetadata) (region : String) : Value :=
  (m.signingRegions.lookup region).getD (.str region)

/-- The values of regions with the one that an endpoint gives for its region, if it gives one. -/
def override (region : String) (value : Value) (entries : List (String × Value)) :
    List (String × Value) :=
  if value.isNull then entries else Entries.put region value entries

/-- What has been found about a service on the way through a table. -/
structure Findings where
  found : Bool := false
  regions : List String := []
  hostnames : List (String × Value) := []
  signingRegions : List (String × Value) := []

/-- The findings with those of an endpoint; a later endpoint of a region decides. -/
def Findings.addEndpoint (s : Findings) (p : String × Endpoint) : Findings where
  found := s.found
  regions := s.regions ++ [p.1]
  hostnames := override p.1 p.2.hostname s.hostnames
  signingRegions := override p.1 p.2.signingRegion s.signingRegions

/-- The findings with those of a partition, which may not list the service. -/
def Findings.addPartition (service : String) (s : Findings) (p : Partition) : Findings :=
  match p.serviceEndpoints service with
  | none => s
  | some endpoints => endpoints.foldl addEndpoint { s with found := true }

/-- What the endpoints of a partition add to the findings, one kind of finding at a time. -/
theorem Findings.foldl_addEndpoint (s : Findings) (endpoints : List (String × Endpoint)) :
    endpoints.foldl addEndpoint s =
      { found := s.found
        regions := s.regions ++ endpoints.map Prod.fst
        hostnames := endpoints.foldl (fun acc p => override p.1 p.2.hostname acc) s.hostnames
        signingRegions :=
          endpoints.foldl (fun acc p => override p.1 p.2.signingRegion acc) s.signingRegions } := by
  induction endpoints generalizing s with
  | nil => simp
  | cons p rest ih => simp [ih, addEndpoint]

/-- Something is found as soon as a partition lists the service, even without endpoints. -/
theorem Findings.found_foldl_addPartition (service : String) (s : Findings) (ps : List Partition) :
    (ps.foldl (addPartition service) s).found =
      (s.found || ps.any fun p => (p.serviceEndpoints service).isSome) := by
  induction ps generalizing s with
  | nil => simp
  | cons p rest ih =>
    rw [List.foldl_cons, ih, List.any_cons, addPartition]
    cases p.serviceEndpoints service with
    | none => simp
    | some endpoints => simp [foldl_addEndpoint]

/-- What a table knows about a service. -/
def ofTable (t : PartitionTable) (service : String) (settings : RegionSettings) :
    Except Defect EndpointMetadata :=
  let s := t.partitions.foldl (Findings.addPartition service) {}
  if s.found then
    .ok
      { endpointName := service
        regions := s.regions
        hostnames := s.hostnames
        signingRegions := s.signingRegions
        dnsSuffixes := t.dnsSuffixes
        patterns := t.patternSuffixes.map fun p => (p.1.text, p.2)
        settings := settings }
  else .error (.serviceNotFound service)

/-- Metadata as a report. -/
def report (m : EndpointMetadata) : Value :=
  .ofFields
    [("endpoint_prefix", .str m.endpointName), ("regions", .ofTexts m.regions),
      ("overridden", .ofPairs m.hostnames), ("signing", .ofPairs m.signingRegions),
      ("dns_suffixes", .ofPairs m.dnsSuffixes), ("region_regex_suffixes", .ofPairs m.patterns),
      ("repr", .str m.quoted)]

end EndpointMetadata

/-- Answers questions about endpoints from a table, and keeps the metadata of the services it was
asked for, whatever the case of their names. -/
structure EndpointResolver where
  table : PartitionTable
  settings : RegionSettings := {}
  /-- The metadata of services, by their names in lower case. -/
  known : List (String × EndpointMetadata) := []

namespace EndpointResolver

/-- The metadata of a service, and the resolver that knows it. -/
def metadata (r : EndpointResolver) (service : String) :
    Except Defect EndpointMetadata × EndpointResolver :=
  match r.known.lookup (Text.lower service) with
  | some m => (.ok m, r)
  | none =>
    match EndpointMetadata.ofTable r.table service r.settings with
    | .ok m => (.ok m, { r with known := Entries.put (Text.lower service) m r.known })
    | .error d => (.error d, r)

/-- The answer to a question about a service, and the resolver afterwards. -/
def ask {α : Type} (question : EndpointMetadata → Except Failure α) (r : EndpointResolver)
    (service : String) : Except Fault α × EndpointResolver :=
  let (m?, r) := r.metadata service
  match m? with
  | .ok m => ((question m).mapError .failure, r)
  | .error d => (.error (.defect d), r)

/-- The host name of a service in a region. -/
def endpointFor (r : EndpointResolver) (service region : String) :
    Except Fault Value × EndpointResolver :=
  r.ask (fun m => m.endpointFor region) service

/-- The address of a service in a region. -/
def endpointUrl (r : EndpointResolver) (service region : String) :
    Except Fault Value × EndpointResolver :=
  r.ask (fun m => m.endpointUrl region) service

/-- The region to sign requests of a service for. -/
def signingRegionFor (r : EndpointResolver) (service region : String) :
    Except Fault Value × EndpointResolver :=
  r.ask (fun m => .ok (m.signingRegionFor region)) service

end EndpointResolver

end ServiceWire
