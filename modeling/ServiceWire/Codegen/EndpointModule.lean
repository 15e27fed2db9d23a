import ServiceWire.Codegen.Literal
import ServiceWire.Codegen.Module
import ServiceWire.Endpoint.Metadata

/-!
# Endpoint modules

The module with the endpoint metadata of a service: its tables as literals, and the metadata made
of them.
-/

namespace ServiceWire.Codegen.EndpointModule

/-! ### Tables -/

/-- The endpoint tables of a service, one for each partition that lists it. -/
def serviceTables (t : PartitionTable) (service : String) : List (List (String × Endpoint)) :=
  t.partitions.filterMap fun p => p.serviceEndpoints service

/-- The values of regions with those that the endpoints of a table give. -/
def overrideAll (value : Endpoint → Value) (entries : List (String × Value))
    (endpoints : List (String × Endpoint)) : List (String × Value) :=
  endpoints.foldl (fun acc p => EndpointMetadata.override p.1 (value p.2) acc) entries

/-- The values that tables give for their regions; a later one decides. -/
def overrides (value : Endpoint → Value) (tables : List (List (String × Endpoint))) :
    List (String × Value) :=
  tables.foldl (overrideAll value) []

/-- The regions of all tables, in order. -/
def regions (tables : List (List (String × Endpoint))) : List String :=
  tables.foldl (fun acc endpoints => acc ++ endpoints.map Prod.fst) []

/-- The constants of the module of a service, by name. -/
def constants (t : PartitionTable) (service : String) (tables : List (List (String × Endpoint))) :
    List (String × Value) :=
  [("ENDPOINT_PREFIX", .str service),
    ("REGION_OVERRIDDEN_ENDPOINTS", .ofFields (overrides Endpoint.hostname tables)),
    ("REGIONS", .list ((regions tables).map .str)),
    ("SIGNING_REGION_OVERRIDES", .ofFields (overrides Endpoint.signingRegion tables)),
    ("DNS_SUFFIXES", .ofFields t.dnsSuffixes),
    ("REGION_REGEX_SUFFIXES",
      .list (t.patternSuffixes.map fun p => .tuple [.str p.1.text, p.2]))]

/-! ### Text -/

/-- The definition of a constant. -/
def definition (p : String × Value) : List String := [p.1 ++ " = " ++ p.2.literal 0, ""]

/-- The text of the module that makes the metadata of a service of some constants. -/
def moduleText (config : GeneratorConfig) (service : String) (constants : List (String × Value)) :
    String :=
  lines
    (introduction config (moduleName service "metadata") s!"Endpoint metadata for {service}" ++
      [s!"from {config.runtimePackage}.regions import ServiceMetadata", ""] ++
      constants.flatMap definition ++
      [s!"{className service} = ServiceMetadata(",
        "    endpoint_prefix=ENDPOINT_PREFIX,",
        "    regions=REGIONS,",
        "    region_overridden_endpoints=REGION_OVERRIDDEN_ENDPOINTS,",
        "    signing_region_overrides=SIGNING_REGION_OVERRIDES,",
        "    dns_suffixes=DNS_SUFFIXES,",
        "    region_regex_suffixes=REGION_REGEX_SUFFIXES,",
        ")",
        ""])

/-- The text of the module for a service in a table. -/
def render (config : GeneratorConfig) (t : PartitionTable) (service : String) :
    Except Defect String :=
  let tables := serviceTables t service
  if tables.isEmpty then .error (.serviceNotFound service)
  else .ok (moduleText config service (constants t service tables))

/-- The module for a service in a table. -/
def source (config : GeneratorConfig) (t : PartitionTable) (service : String) : ModuleSource where
  file := do
    let text ← (render config t service).mapError .defect
    return (fileName (moduleName service "metadata"), text)

end ServiceWire.Codegen.EndpointModule
