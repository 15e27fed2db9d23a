import ServiceWire.Proofs.Codegen.Literal

/-!
# Generated metadata are the metadata

The generator goes through a table once for each constant of a module, and only through the
partitions that list the service; at run time the metadata of a service are collected on one walk
through the table. Both find the same, in the same order: the one walk splits into one for each kind
of finding, and a partition that does not list the service adds nothing. So a module is refused for
a service exactly if there are no metadata of it. The text of a module defines its constants, each
by the literal of a table of the metadata, and what the module makes of them answers every question
as the metadata do, also about regions that no table mentions.
-/

namespace ServiceWire.Codegen.EndpointModule

open EndpointMetadata (Findings)

/-! ### One walk for each constant -/

/-- The findings with those of the table of a partition that lists the service. -/
def addTable (s : Findings) (endpoints : List (String × Endpoint)) : Findings :=
  endpoints.foldl Findings.addEndpoint { s with found := true }

/-- Partitions that do not list a service add nothing. -/
theorem foldl_addPartition (service : String) (s : Findings) (ps : List Partition) :
    ps.foldl (Findings.addPartition service) s =
      (ps.filterMap fun p => p.serviceEndpoints service).foldl addTable s := by
  induction ps generalizing s with
  | nil => rfl
  | cons p rest ih =>
    rw [List.foldl_cons, ih, List.filterMap_cons, Findings.addPartition]
    cases p.serviceEndpoints service with
    | none => rfl
    | some endpoints => rfl

theorem addTable_eq (s : Findings) (endpoints : List (String × Endpoint)) :
    addTable s endpoints =
      { found := true
        regions := s.regions ++ endpoints.map Prod.fst
        hostnames := overrideAll Endpoint.hostname s.hostnames endpoints
        signingRegions := overrideAll Endpoint.signingRegion s.signingRegions endpoints } :=
  Findings.foldl_addEndpoint _ endpoints

/-- One walk through tables finds what a walk for each kind of finding does. -/
theorem foldl_addTable (s : Findings) (tables : List (List (String × Endpoint))) :
    tables.foldl addTable s =
      { found := s.found || !tables.isEmpty
        regions := tables.foldl (fun acc endpoints => acc ++ endpoints.map Prod.fst) s.regions
        hostnames := tables.foldl (overrideAll Endpoint.hostname) s.hostnames
        signingRegions := tables.foldl (overrideAll Endpoint.signingRegion) s.signingRegions } := by
  induction tables generalizing s with
  | nil => simp
  | cons endpoints rest ih => simp [ih, addTable_eq]

/-- The metadata of a service are made of its tables, if there are any. -/
theorem ofTable_eq (t : PartitionTable) (service : String) (settings : RegionSettings) :
    EndpointMetadata.ofTable t service settings =
      if (serviceTables t service).isEmpty then .error (.serviceNotFound service)
      else .ok
        { endpointName := service
          regions := regions (serviceTables t service)
          hostnames := overrides Endpoint.hostname (serviceTables t service)
          signingRegions := overrides Endpoint.signingRegion (serviceTables t service)
          dnsSuffixes := t.dnsSuffixes
          patterns := t.patternSuffixes.map fun p => (p.1.text, p.2)
          settings := settings } := by
  rw [EndpointMetadata.ofTable, foldl_addPartition, ← serviceTables, foldl_addTable]
  cases (serviceTables t service).isEmpty with
  | false => rfl
  | true => rfl

/-! ### What a module holds -/

/-- A value as its literal is read: the pairs of a list are lists. -/
def pairAsList : Value → Value
  | .tuple parts => .list parts
  | v => v

/-- A constant as its literal is read. -/
def asRead : Value → Value
  | .list items => .list (items.map pairAsList)
  | v => v

/-- The constants of a module as their literals are read. -/
def readBack (constants : List (String × Value)) : List (String × Value) :=
  constants.map fun p => (p.1, asRead p.2)

theorem literal_pairAsList (indent : Int) (v : Value) :
    (pairAsList v).literal indent = v.literal indent := by
  cases v with
  | tuple parts => cases parts <;> rfl
  | _ => rfl

theorem literalItems_pairAsList (indent : Int) (items : List Value) :
    Value.literalItems indent (items.map pairAsList) = Value.literalItems indent items := by
  induction items with
  | nil => rfl
  | cons v rest ih =>
    rw [List.map_cons, Value.literalItems, literal_pairAsList, ih, Value.literalItems]

/-- Pairs have the literals of lists. -/
theorem literal_asRead (indent : Int) (v : Value) : (asRead v).literal indent = v.literal indent := by
  cases v with
  | list items =>
    cases items with
    | nil => rfl
    | cons v rest =>
      have h := literalItems_pairAsList (indent + 4) (v :: rest)
      rw [List.map_cons] at h
      rw [asRead, List.map_cons, Value.literal, Value.literal, h]
      · simp
      · simp
  | _ => rfl

/-- The constants of a module with the tables of some metadata. -/
def constantsOf (m : EndpointMetadata) : List (String × Value) :=
  [("ENDPOINT_PREFIX", .str m.endpointName),
    ("REGION_OVERRIDDEN_ENDPOINTS", .ofFields m.hostnames),
    ("REGIONS", .list (m.regions.map .str)),
    ("SIGNING_REGION_OVERRIDES", .ofFields m.signingRegions),
    ("DNS_SUFFIXES", .ofFields m.dnsSuffixes),
    ("REGION_REGEX_SUFFIXES", .list (m.patterns.map fun p => .list [.str p.1, p.2]))]

/-- The constants of the module of a service are the tables of its metadata, entry for entry. -/
theorem readBack_constants {t : PartitionTable} {service : String} {settings : RegionSettings}
    {m : EndpointMetadata} (h : EndpointMetadata.ofTable t service settings = .ok m) :
    readBack (constants t service (serviceTables t service)) = constantsOf m := by
  rw [ofTable_eq] at h
  split at h
  · cases h
  · cases h
    have hregions (rs : List String) : (rs.map Value.str).map pairAsList = rs.map .str := by
      simp [pairAsList]
    simp [readBack, constants, constantsOf, asRead, hregions, Value.ofFields, pairAsList,
      Function.comp_def]

/-! ### What the text of a module says -/

/-- The end of a module, where the metadata are made of the constants. -/
def callText (service : String) : String :=
  className service ++ " = ServiceMetadata(\n" ++
    "    endpoint_prefix=ENDPOINT_PREFIX,\n" ++
    "    regions=REGIONS,\n" ++
    "    region_overridden_endpoints=REGION_OVERRIDDEN_ENDPOINTS,\n" ++
    "    signing_region_overrides=SIGNING_REGION_OVERRIDES,\n" ++
    "    dns_suffixes=DNS_SUFFIXES,\n" ++
    "    region_regex_suffixes=REGION_REGEX_SUFFIXES,\n" ++
    ")\n"

/-- A text defines constants for a service: after a line break it has their definitions, in order
and with nothing between them, then the call that makes the metadata of them, and no more. -/
def Defines (service text : String) (constants : List (String × Value)) : Prop :=
  ∃ before, text.toList =
    before ++ '\n' :: (constants.flatMap definitionChars ++ (callText service).toList)

theorem defines_moduleText (config : GeneratorConfig) (service : String)
    (constants : List (String × Value)) :
    Defines service (moduleText config service constants) constants := by
  have hcall : lines [s!"{className service} = ServiceMetadata(",
      "    endpoint_prefix=ENDPOINT_PREFIX,",
      "    regions=REGIONS,",
      "    region_overridden_endpoints=REGION_OVERRIDDEN_ENDPOINTS,",
      "    signing_region_overrides=SIGNING_REGION_OVERRIDES,",
      "    dns_suffixes=DNS_SUFFIXES,",
      "    region_regex_suffixes=REGION_REGEX_SUFFIXES,",
      ")",
      ""] = callText service := by
    simp only [lines, Text.join, callText, String.append_assoc]
    exact congrArg (className service ++ ·) (by decide +kernel)
  rw [Defines, moduleText, toList_lines_definitions _ (List.cons_ne_nil _ _), hcall]
  -- The line before the definitions is empty, and the break that ends it is the one before them.
  simp only [List.flatMap_append, List.flatMap_cons, List.flatMap_nil, String.toList_empty,
    List.nil_append, List.append_nil]
  simp only [← List.append_assoc _ _ ['\n']]
  exact ⟨_, List.append_assoc ..⟩

/-- A text does not tell pairs from lists. -/
theorem Defines.readBack {service text : String} {constants : List (String × Value)}
    (h : Defines service text constants) : Defines service text (readBack constants) := by
  have hdefinition (p : String × Value) :
      definitionChars (p.1, asRead p.2) = definitionChars p := by
    rw [definitionChars, definitionChars, Value.literalChars, Value.literalChars, literal_asRead]
  simpa only [Defines, EndpointModule.readBack, List.flatMap_map, hdefinition] using h

/-! ### What a module makes of its constants -/

/-- A text. -/
def text? : Value → Option String
  | .str s => some s
  | _ => none

/-- The texts of a list. -/
def texts? : Value → Option (List String)
  | .list items => items.mapM text?
  | _ => none

/-- An entry whose key is a text. -/
def field? (p : Value × Value) : Option (String × Value) := (text? p.1).map fun k => (k, p.2)

/-- The entries of a mapping whose keys are texts. -/
def fields? : Value → Option (List (String × Value))
  | .dict entries => entries.mapM field?
  | _ => none

/-- A text and a value, in a list of two. -/
def pair? : Value → Option (String × Value)
  | .list [k, v] => field? (k, v)
  | _ => none

/-- The pairs in a list. -/
def pairs? : Value → Option (List (String × Value))
  | .list items => items.mapM pair?
  | _ => none

/-- The metadata that a module makes of its constants, with the settings that apply by default. -/
def metadataOf? (constants : List (String × Value)) : Option EndpointMetadata := do
  let endpointName ← constants.lookup "ENDPOINT_PREFIX" >>= text?
  let regions ← constants.lookup "REGIONS" >>= texts?
  let hostnames ← constants.lookup "REGION_OVERRIDDEN_ENDPOINTS" >>= fields?
  let signingRegions ← constants.lookup "SIGNING_REGION_OVERRIDES" >>= fields?
  let dnsSuffixes ← constants.lookup "DNS_SUFFIXES" >>= fields?
  let patterns ← constants.lookup "REGION_REGEX_SUFFIXES" >>= pairs?
  return { endpointName, regions, hostnames, signingRegions, dnsSuffixes, patterns }

/-- A list whose items are read one by one is read as a whole. -/
theorem mapM_map_eq_some {α β : Type} {f : β → Option α} {w : α → β}
    (h : ∀ a, f (w a) = some a) (items : List α) : (items.map w).mapM f = some items := by
  induction items with
  | nil => rfl
  | cons a rest ih => simp [h, ih]

theorem texts?_texts (rs : List String) : texts? (.list (rs.map .str)) = some rs :=
  mapM_map_eq_some (f := text?) (w := .str) (fun _ => rfl) rs

theorem fields?_ofFields (entries : List (String × Value)) :
    fields? (.ofFields entries) = some entries :=
  mapM_map_eq_some (f := field?) (w := fun p => (.str p.1, p.2)) (fun _ => rfl) entries

theorem pairs?_pairs (ps : List (String × Value)) :
    pairs? (.list (ps.map fun p => .list [.str p.1, p.2])) = some ps :=
  mapM_map_eq_some (f := pair?) (w := fun p => .list [.str p.1, p.2]) (fun _ => rfl) ps

/-- A module makes the metadata of its constants again, with the settings that apply by default. -/
theorem metadataOf?_constantsOf (m : EndpointMetadata) :
    metadataOf? (constantsOf m) = some { m with settings := {} } := by
  have hname : (constantsOf m).lookup "ENDPOINT_PREFIX" = some (.str m.endpointName) := rfl
  have hregions : (constantsOf m).lookup "REGIONS" = some (.list (m.regions.map .str)) := rfl
  have hhostnames : (constantsOf m).lookup "REGION_OVERRIDDEN_ENDPOINTS" =
      some (.ofFields m.hostnames) := rfl
  have hsigning : (constantsOf m).lookup "SIGNING_REGION_OVERRIDES" =
      some (.ofFields m.signingRegions) := rfl
  have hsuffixes : (constantsOf m).lookup "DNS_SUFFIXES" = some (.ofFields m.dnsSuffixes) := rfl
  have hpatterns : (constantsOf m).lookup "REGION_REGEX_SUFFIXES" =
      some (.list (m.patterns.map fun p => .list [.str p.1, p.2])) := rfl
  simp [metadataOf?, hname, hregions, hhostnames, hsigning, hsuffixes, hpatterns, text?,
    texts?_texts, fields?_ofFields, pairs?_pairs]

/-! ### Agreement -/

/-- A module can be rendered of the services that metadata can be had of. -/
theorem render_eq (config : GeneratorConfig) (t : PartitionTable) (service : String)
    (settings : RegionSettings) :
    render config t service = (EndpointMetadata.ofTable t service settings).map fun _ =>
      moduleText config service (constants t service (serviceTables t service)) := by
  rw [render, ofTable_eq]
  cases (serviceTables t service).isEmpty with
  | false => rfl
  | true => rfl

theorem ofTable_error {t : PartitionTable} {service : String} {settings : RegionSettings}
    {d : Defect} (h : EndpointMetadata.ofTable t service settings = .error d) :
    d = .serviceNotFound service := by
  rw [ofTable_eq] at h
  split at h
  · exact (Except.error.inj h).symm
  · cases h

theorem settings_ofTable {t : PartitionTable} {service : String} {settings : RegionSettings}
    {m : EndpointMetadata} (h : EndpointMetadata.ofTable t service settings = .ok m) :
    m.settings = settings := by
  rw [ofTable_eq] at h
  split at h
  · cases h
  · cases h
    rfl

/-- A module is rendered for a service if and only if there are metadata of it. The constants of the
module are then the tables of the metadata, pairs as lists. Its text defines them, and so the tables
themselves; and what the module makes of them answers as the metadata do about any region. -/
theorem render_agrees (config : GeneratorConfig) (t : PartitionTable) (service : String) :
    match EndpointMetadata.ofTable t service {} with
    | .error d => d = .serviceNotFound service ∧ render config t service = .error d
    | .ok m =>
      let values := constants t service (serviceTables t service)
      readBack values = constantsOf m ∧
      (∃ text, render config t service = .ok text ∧
        Defines service text values ∧ Defines service text (constantsOf m)) ∧
      ∃ m', metadataOf? (constantsOf m) = some m' ∧ ∀ region,
        m'.endpointFor region = m.endpointFor region ∧
        m'.endpointUrl region = m.endpointUrl region ∧
        m'.signingRegionFor region = m.signingRegionFor region := by
  have hrender := render_eq config t service {}
  cases h : EndpointMetadata.ofTable t service {} with
  | error d =>
    rw [h] at hrender
    exact ⟨ofTable_error h, hrender⟩
  | ok m =>
    rw [h] at hrender
    have hread := readBack_constants h
    have htext := defines_moduleText config service (constants t service (serviceTables t service))
    have hdefault : { m with settings := {} } = m := by rw [← settings_ofTable h]
    refine ⟨hread, ⟨_, hrender, htext, hread ▸ htext.readBack⟩, m, ?_, fun _ => ⟨rfl, rfl, rfl⟩⟩
    rw [metadataOf?_constantsOf, hdefault]

end ServiceWire.Codegen.EndpointModule
