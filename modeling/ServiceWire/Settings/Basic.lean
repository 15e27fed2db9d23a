import ServiceWire.Fault
import ServiceWire.Logging.Entry

/-!
# Settings

The settings that protocols, event streams and endpoint lookups share. Except for the environment,
the log level and the debug switch a setting may hold any value; `Settings.problems` says which
values are not allowed, and `check` refuses settings that have any.
-/

namespace ServiceWire

/-- The environments a program runs in. -/
inductive Environment
  | development
  | staging
  | production
  | testing
deriving DecidableEq, Repr

/-- The name of an environment. -/
def Environment.label : Environment → String
  | .development => "development"
  | .staging => "staging"
  | .production => "production"
  | .testing => "testing"

/-- The environment of a name. -/
def Environment.ofLabel? (s : String) : Option Environment :=
  [development, staging, production, testing].find? fun e => e.label == s

/-- The settings of protocols. -/
structure ProtocolSettings where
  jsonVersion : Value := .str "1.1"
  /-- Whether unknown fields of responses are noted. -/
  logUnknownFields : Value := .bool false
  xmlNamespace : Value := .null
  /-- The body of a JSON request without input. -/
  emptyJsonBody : Value := .ofBytes (bytesOf "\x7b\x7d")

/-- The settings of endpoint lookups. -/
structure RegionSettings where
  defaultDnsSuffix : Value := .str "amazonaws.com"
  endpointScheme : Value := .str "https"
  partitionsFile : Value := .null

/-- The settings of event streams. -/
structure StreamSettings where
  logUnknownEvents : Value := .bool true
  defaultContentType : Value := .str "application/json"

/-- All settings. An environment or log level that is none of the known ones is absent. -/
structure Settings where
  environment : Option Environment := some .development
  debug : Value := .bool false
  logLevel : Option LogLevel := some .info
  serviceName : Value := .str "shapewire"
  version : Value := .str "1.0.0"
  protocol : ProtocolSettings := {}
  regions : RegionSettings := {}
  eventStream : StreamSettings := {}

namespace Settings

/-- Whether a value is one of some texts. -/
def isOneOf (v : Value) (texts : List String) : Bool :=
  match v with
  | .str s => texts.contains s
  | _ => false

/-- What is not allowed in the settings, in the order in which it is reported. -/
def problems (s : Settings) : List String :=
  (if isOneOf s.protocol.jsonVersion ["1.0", "1.1"] then []
    else ["Unsupported JSON protocol version: " ++ s.protocol.jsonVersion.text]) ++
  (if s.regions.defaultDnsSuffix.truthy then [] else ["Default DNS suffix must not be empty"]) ++
  (if isOneOf s.regions.endpointScheme ["http", "https"] then []
    else ["Endpoint scheme must be http or https, got " ++ s.regions.endpointScheme.text]) ++
  (if s.eventStream.defaultContentType.truthy then []
    else ["Event stream content type must not be empty"])

/-- Refuses settings with problems. -/
def check (s : Settings) : Except Defect Unit :=
  if s.problems.isEmpty then .ok () else .error (.settingsRejected s.problems)

theorem check_eq_ok_iff (s : Settings) : s.check = .ok () ↔ s.problems = [] := by
  unfold check
  split <;> simp_all

/-- The body of an empty request as text. -/
def emptyBodyText (v : Value) : Except Failure String :=
  match v with
  | .bytes .fixed data | .bytes .mutable data =>
    match Utf8.decode? data with
    | some s => .ok s
    | none => .error (.plain .undecodable)
  | _ => .error (.plain .attribute)

/-- The name of a choice, which must be one of the known ones. -/
def choiceName {α : Type} (label : α → String) : Option α → Except Failure String
  | some a => .ok (label a)
  | none => .error (.plain .attribute)

/-- The settings as a report. -/
def report (s : Settings) : Except Failure Value := do
  let environment ← choiceName Environment.label s.environment
  let level ← choiceName LogLevel.label s.logLevel
  let body ← emptyBodyText s.protocol.emptyJsonBody
  return .ofFields
    [("environment", .str environment), ("debug", s.debug), ("log_level", .str level),
      ("service_name", s.serviceName), ("version", s.version),
      ("protocol", .ofFields
        [("json_version", s.protocol.jsonVersion),
          ("log_unknown_fields", s.protocol.logUnknownFields),
          ("xml_namespace", s.protocol.xmlNamespace), ("empty_json_body", .str body)]),
      ("regions", .ofFields
        [("default_dns_suffix", s.regions.defaultDnsSuffix),
          ("endpoint_scheme", s.regions.endpointScheme),
          ("partitions_file", s.regions.partitionsFile)]),
      ("event_stream", .ofFields
        [("log_unknown_events", s.eventStream.logUnknownEvents),
          ("default_content_type", s.eventStream.defaultContentType)])]

end Settings

/-- The protocol settings with one of them set, if it exists. -/
def ProtocolSettings.set? (s : ProtocolSettings) (name : String) (v : Value) :
    Option ProtocolSettings :=
  match name with
  | "json_version" => some { s with jsonVersion := v }
  | "log_unknown_fields" => some { s with logUnknownFields := v }
  | "xml_namespace" => some { s with xmlNamespace := v }
  | "empty_json_body" => some { s with emptyJsonBody := v }
  | _ => none

/-- The region settings with one of them set, if it exists. -/
def RegionSettings.set? (s : RegionSettings) (name : String) (v : Value) :
    Option RegionSettings :=
  match name with
  | "default_dns_suffix" => some { s with defaultDnsSuffix := v }
  | "endpoint_scheme" => some { s with endpointScheme := v }
  | "partitions_file" => some { s with partitionsFile := v }
  | _ => none

/-- The event stream settings with one of them set, if it exists. -/
def StreamSettings.set? (s : StreamSettings) (name : String) (v : Value) :
    Option StreamSettings :=
  match name with
  | "log_unknown_events" => some { s with logUnknownEvents := v }
  | "default_content_type" => some { s with defaultContentType := v }
  | _ => none

/-- The settings with one of them set: one of a section, or without a section a general one. A name
that is no setting changes nothing, and no value is a section as a whole. -/
def Settings.assign (s : Settings) (sectionName name : String) (v : Value) :
    Except Failure Settings :=
  match sectionName, name with
  | "protocol", _ => .ok { s with protocol := (s.protocol.set? name v).getD s.protocol }
  | "regions", _ => .ok { s with regions := (s.regions.set? name v).getD s.regions }
  | "event_stream", _ =>
    .ok { s with eventStream := (s.eventStream.set? name v).getD s.eventStream }
  | _, "environment" => .ok { s with environment := none }
  | _, "log_level" => .ok { s with logLevel := none }
  | _, "debug" => .ok { s with debug := v }
  | _, "service_name" => .ok { s with serviceName := v }
  | _, "version" => .ok { s with version := v }
  | _, "protocol" | _, "regions" | _, "event_stream" => .error (.plain .attribute)
  | _, _ => .ok s

end ServiceWire
