import ServiceWire.Settings.Basic
import ServiceWire.Text.LetterCase
import ServiceWire.Value.Entries

/-!
# Loading settings

Settings come from a mapping, with a section for protocols, regions and event streams, or from
environment variables. A mapping with an unknown name or a value that is not allowed is a defect.
The process-wide settings are loaded from the environment when they are first asked for, and can
only be replaced by settings that pass their check.
-/

namespace ServiceWire

namespace Settings

/-- Sets several settings of a section; each name must be a text and exist. -/
def assignAll {σ : Type} (set? : σ → String → Value → Option σ) (s : σ)
    (entries : List (Value × Value)) : Except Failure σ :=
  entries.foldlM (fun s p =>
    match p.1 with
    | .str name => ((set? s name p.2).map .ok).getD (.error (.plain .type))
    | _ => .error (.plain .type)) s

/-- The protocol settings of a section. The body of an empty request may be given as text. -/
def protocolOf (v : Value) : Except Failure ProtocolSettings := do
  let entries ← v.entriesOf
  let entries := entries.map fun p =>
    match p with
    | (.str "empty_json_body", .str s) => (p.1, .ofBytes (bytesOf s))
    | _ => p
  assignAll ProtocolSettings.set? {} entries

/-- The settings of a section that must be a mapping. -/
def sectionOf {σ : Type} (set? : σ → String → Value → Option σ) (s : σ) :
    Value → Except Failure σ
  | .dict entries => assignAll set? s entries
  | _ => .error (.plain .type)

/-- A choice by its name. -/
def choiceOf {α : Type} (ofLabel? : String → Option α) (v : Value) : Except Failure α :=
  match v with
  | .str s => ((ofLabel? s).map .ok).getD (.error (.plain .value))
  | _ => .error (.plain .value)

/-- The settings with the entry of one name taken over. -/
def take (s : Settings) (name : String) (v : Value) : Except Failure Settings :=
  match name with
  | "environment" => do
    let e ← choiceOf Environment.ofLabel? v
    return { s with environment := some e }
  | "debug" => .ok { s with debug := .bool v.truthy }
  | "log_level" => do
    let l ← choiceOf LogLevel.ofLabel? (.str (Text.upper v.text))
    return { s with logLevel := some l }
  | "service_name" => .ok { s with serviceName := v }
  | "protocol" => do
    let p ← protocolOf v
    return { s with protocol := p }
  | "regions" => do
    let r ← sectionOf RegionSettings.set? {} v
    return { s with regions := r }
  | "event_stream" => do
    let e ← sectionOf StreamSettings.set? {} v
    return { s with eventStream := e }
  | _ => .ok s

/-- The names that are looked for in a mapping, in this order. -/
def topNames : List String :=
  ["environment", "debug", "log_level", "service_name", "protocol", "regions", "event_stream"]

/-- Whether a value that is no mapping names a setting, which then cannot be looked up. -/
def namesAny (v : Value) : Except Failure Bool :=
  match v with
  | .str s => .ok (topNames.any (Text.containsText s))
  | .bytes .fixed _ | .bytes .mutable _ => .error (.plain .type)
  | _ =>
    match v.items? with
    | none => .error (.plain .type)
    | some items => .ok (topNames.any fun name => items.any fun w => isOneOf w [name])

/-- The settings of a value. -/
def ofValue (v : Value) : Except Failure Settings :=
  match v with
  | .dict entries =>
    topNames.foldlM (fun s name =>
      match Value.lookupText name entries with
      | some w => s.take name w
      | none => .ok s) {}
  | _ => do
    if ← namesAny v then .error (.plain .type) else return {}

/-- The settings of a mapping. Whatever is wrong with it is reported as a defect. -/
def load (v : Value) : Except Fault Settings :=
  match ofValue v with
  | .ok s => .ok s
  | .error f =>
    if f.kind = .type ∨ f.kind = .value then .error (.defect (.invalidSettings f.kind))
    else .error (.failure f)

/-- Environment variables. -/
abbrev Variables : Type := List (String × String)

/-- What the names of variables begin with. -/
def variableStart : String := "SHAPEWIRE_"

/-- What the names of variables end with. -/
def variableEnds : List String :=
  ["ENVIRONMENT", "LOG_LEVEL", "DEBUG", "JSON_VERSION", "LOG_UNKNOWN_FIELDS", "DNS_SUFFIX",
    "ENDPOINT_SCHEME", "PARTITIONS_FILE"]

/-- The settings of environment variables whose names begin in a given way. -/
def ofVariables (start : String) (env : Variables) : Except Failure Settings := do
  let get := fun name => env.lookup (start ++ name)
  let isTrue := fun name => (get name).any fun s => Text.lower s == "true"
  let base : Settings := {}
  let environment ← choiceOf Environment.ofLabel?
    (.str ((get "ENVIRONMENT").getD Environment.development.label))
  let level ← choiceOf LogLevel.ofLabel?
    (.str (Text.upper ((get "LOG_LEVEL").getD LogLevel.info.label)))
  let text := fun name (v : Value) => ((get name).map .str).getD v
  return { base with
    environment := some environment
    debug := .bool (isTrue "DEBUG")
    logLevel := some level
    protocol := { base.protocol with
      jsonVersion := text "JSON_VERSION" base.protocol.jsonVersion
      logUnknownFields := .bool (isTrue "LOG_UNKNOWN_FIELDS") }
    regions := { base.regions with
      defaultDnsSuffix := text "DNS_SUFFIX" base.regions.defaultDnsSuffix
      endpointScheme := text "ENDPOINT_SCHEME" base.regions.endpointScheme
      partitionsFile := match (get "PARTITIONS_FILE").filter (!·.isEmpty) with
        | some path => .str path
        | none => base.regions.partitionsFile } }

/-- The settings of a process: those in force, if there are any yet, and its environment. -/
structure Shared where
  current : Option Settings := none
  environment : Variables := []

/-- The settings in force, loaded from the environment when they are first asked for. -/
def Shared.get (p : Shared) : Except Failure Settings × Shared :=
  match p.current with
  | some s => (.ok s, p)
  | none =>
    match ofVariables variableStart p.environment with
    | .ok s => (.ok s, { p with current := some s })
    | .error f => (.error f, p)

/-- Puts settings in force, if they pass their check. -/
def Shared.set (p : Shared) (s : Settings) : Except Defect Unit × Shared :=
  match s.check with
  | .ok () => (.ok (), { p with current := some s })
  | .error d => (.error d, p)

end Settings

end ServiceWire
