import ServiceWire.Failure
import ServiceWire.Text.Cut
import ServiceWire.Value

/-!
# Defects of a configuration

What can be wrong with shapes, models, settings and endpoint tables. A defect is found when a
component is built, and it is never wrapped: it keeps its own wording, the setting or shape it is
about, and the kind of failure that revealed it, if there was one.
-/

namespace ServiceWire

/-- An entry of a report, unless its value is empty. -/
def reportField (name : String) (value : Value) : List (String × Value) :=
  if value.truthy then [(name, value)] else []

/-- What is wrong with a configuration. -/
inductive Defect
  /-- A list shape has no member shape. -/
  | listWithoutMember (shape : String)
  /-- A map shape lacks its key or its value shape. -/
  | mapWithoutParts (shape : String)
  /-- The keys of a map shape are no strings. -/
  | mapKeyNotString (shape : String)
  /-- A shape that is no structure was given members. -/
  | membersOutsideStructure (shape kind : String)
  /-- A scalar shape was asked for with the kind of a container. -/
  | notScalarKind (shape kind : String)
  /-- Members were bound to a shape that is no structure. -/
  | membersOfOtherKind (shape kind : String)
  /-- Members were bound to a structure a second time. -/
  | membersAlreadyBound (shape : String)
  /-- A model has no shape of this name. -/
  | unknownShape (name : Value)
  /-- A shape refers to a shape that is not defined. -/
  | danglingReference (source : Option String) (target : Value)
  /-- The definition of a shape is no mapping. -/
  | definitionNotMapping (shape : String)
  /-- The type of a shape is none of the known kinds. -/
  | unsupportedType (shape type : String)
  /-- A shape contains itself, with no structure in between. -/
  | selfContained (shape : String)
  /-- A shape lacks the reference for one of its parts. -/
  | missingReference (shape role : String)
  /-- The payload of a structure is none of its members. -/
  | payloadNotMember (shape payload : String)
  /-- A member has no shape reference. -/
  | memberWithoutShape (shape member : String)
  /-- The location of a member is none of the known ones. -/
  | unknownLocation (shape member location : String)
  /-- The shapes or operations of a model are no mapping. -/
  | modelSections
  /-- A model has no operation of this name. -/
  | unknownOperation (name : Value)
  /-- An operation refers to a shape that is not defined. -/
  | operationReference (operation : String) (target : Value)
  /-- A shape in a graph has a kind that a codec does not handle. -/
  | unsupportedShape (codec role kind shape : String)
  /-- A codec met a shape of a kind that it does not handle. -/
  | unsupportedKind (codec role kind shape : String)
  /-- A protocol is none of the known ones. -/
  | unsupportedProtocol (name : String) (known : List String)
  /-- The Query protocol has no API version. -/
  | noApiVersion
  /-- A shape is no event stream. -/
  | notEventStream (shape : String)
  /-- The handlers of an event stream do not fit its variants. -/
  | incompleteDispatch (shape : String) (missing extra : List String)
  /-- A defect that a handler reports in its own words. -/
  | reported (text : String)
  /-- A settings file does not exist. -/
  | settingsFileMissing (path : String)
  /-- A settings file cannot be read. -/
  | settingsFileMalformed (kind : FailureKind)
  /-- A settings file holds no mapping. -/
  | settingsNotMapping (path : String)
  /-- The settings have a value or a name that is not allowed. -/
  | invalidSettings (kind : FailureKind)
  /-- The settings do not pass their check. -/
  | settingsRejected (problems : List String)
  /-- A partition lacks a key that it must have. -/
  | partitionKeyMissing (key : String)
  /-- The region pattern of a partition is malformed. -/
  | regionPattern (partition : String)
  /-- An endpoint table is no mapping. -/
  | tableNotMapping
  /-- An endpoint table has no list of partitions. -/
  | tableWithoutPartitions
  /-- The file of an endpoint table does not exist. -/
  | tableFileMissing (path : String)
  /-- The file of an endpoint table cannot be read. -/
  | tableFileMalformed (path : String) (kind : FailureKind)
  /-- No partition lists the service. -/
  | serviceNotFound (service : String)
  /-- The settings name no file with an endpoint table. -/
  | noTableConfigured
  /-- Neither the command line nor the settings name an endpoint table. -/
  | noTableGiven
  /-- Endpoint metadata cannot be generated without an endpoint table. -/
  | noTableLoaded
  /-- The file of a model does not exist. -/
  | modelFileMissing (path : String)
  /-- The file of a model cannot be read. -/
  | modelFileMalformed (path : String) (kind : FailureKind)
  /-- The file of a model holds no mapping. -/
  | modelFileNotMapping (path : String)

namespace Defect

/-- What is wrong with the handlers of an event stream. -/
def dispatchProblems (missing extra : List String) : List String :=
  (if missing.isEmpty then [] else ["missing handlers for " ++ Text.join ", " missing]) ++
    (if extra.isEmpty then [] else ["handlers for unknown events " ++ Text.join ", " extra])

/-- A failure of this kind inside a message. -/
def masked (kind : FailureKind) : String := (Failure.plain kind).describe

/-- The wording of a defect. -/
def message : Defect → String
  | listWithoutMember shape => s!"List shape '{shape}' has no member shape"
  | mapWithoutParts shape => s!"Map shape '{shape}' needs both key and value shapes"
  | mapKeyNotString shape => s!"Map shape '{shape}' must have string keys"
  | membersOutsideStructure shape kind => s!"Only structures carry members, '{shape}' is a {kind}"
  | notScalarKind _ kind => s!"'{kind}' is not a scalar kind"
  | membersOfOtherKind _ kind => s!"Cannot assign members to {kind} shape"
  | membersAlreadyBound shape => s!"Members of '{shape}' are already bound"
  | unknownShape name => s!"Unknown shape '{name.text}'"
  | danglingReference source target =>
    s!"Shape '{source.getD Value.null.text}' references unknown shape '{target.text}'"
  | definitionNotMapping shape => s!"Shape '{shape}' must be a mapping"
  | unsupportedType shape type => s!"Shape '{shape}' has unsupported type '{type}'"
  | selfContained shape => s!"Shape '{shape}' contains itself without an intervening structure"
  | missingReference shape role => s!"Shape '{shape}' is missing its '{role}' reference"
  | payloadNotMember shape payload => s!"Payload member '{payload}' is not a member of '{shape}'"
  | memberWithoutShape shape member => s!"Member '{member}' of '{shape}' has no shape reference"
  | unknownLocation shape member location =>
    s!"Member '{member}' of '{shape}' has unknown location '{location}'"
  | modelSections => "Service model 'shapes' and 'operations' must be mappings"
  | unknownOperation name => s!"Unknown operation '{name.text}'"
  | operationReference operation target =>
    s!"Operation '{operation}' references unknown shape '{target.text}'"
  | unsupportedShape codec role kind shape =>
    s!"No {codec} {role} registered for {kind} shape '{shape}'"
  | unsupportedKind codec role kind _ => s!"No {codec} {role} registered for {kind}"
  | unsupportedProtocol name known =>
    s!"Unsupported protocol '{name}'. Supported: " ++ Text.join ", " known
  | noApiVersion => "Query protocol requires an API version"
  | notEventStream shape => s!"Shape '{shape}' is not an event stream"
  | incompleteDispatch shape missing extra =>
    s!"Incomplete event dispatch for '{shape}': " ++
      Text.join "; " (dispatchProblems missing extra)
  | reported text => text
  | settingsFileMissing path => s!"Configuration file not found: {path}"
  | settingsFileMalformed kind => s!"Invalid YAML in configuration file: {masked kind}"
  | settingsNotMapping path => s!"Configuration file must contain a mapping: {path}"
  | invalidSettings kind => s!"Invalid configuration: {masked kind}"
  | settingsRejected problems =>
    "Configuration validation failed: " ++ Text.join "; " problems
  | partitionKeyMissing key => s!"Partition is missing required key {Quoted.text key}"
  | regionPattern part =>
    s!"Invalid regionRegex for partition {part}: {masked .malformedPattern}"
  | tableNotMapping => "Partitions data must be a mapping"
  | tableWithoutPartitions => "Partitions data must contain a 'partitions' list"
  | tableFileMissing path => s!"Partitions file not found: {path}"
  | tableFileMalformed path kind => s!"Invalid partitions file {path}: {masked kind}"
  | serviceNotFound service => s!"Service '{service}' not found in partitions"
  | noTableConfigured => "No partitions file configured"
  | noTableGiven => "No partitions file given; pass --partitions or set regions.partitions_file"
  | noTableLoaded => "Metadata generation requires a partitions table"
  | modelFileMissing path => s!"Service model not found: {path}"
  | modelFileMalformed path kind => s!"Invalid service model {path}: {masked kind}"
  | modelFileNotMapping path => s!"Service model must be a mapping: {path}"

/-- The shape that a defect is about, or nothing. -/
def shape : Defect → Value
  | listWithoutMember shape | mapWithoutParts shape | mapKeyNotString shape
  | membersOutsideStructure shape _ | notScalarKind shape _ | membersOfOtherKind shape _
  | membersAlreadyBound shape | definitionNotMapping shape | unsupportedType shape _
  | selfContained shape | missingReference shape _ | payloadNotMember shape _
  | memberWithoutShape shape _ | unknownLocation shape _ _ | unsupportedShape _ _ _ shape
  | unsupportedKind _ _ _ shape | notEventStream shape | incompleteDispatch shape _ _ =>
    .str shape
  | danglingReference source target => ((source.map Value.str).getD .null).orElse target
  | operationReference _ target => target
  | unknownShape name => name
  | _ => .null

/-- The setting that a defect is about, or nothing. -/
def setting : Defect → Value
  | unknownOperation name => name
  | unsupportedProtocol .. => .str "protocol"
  | noApiVersion => .str "api_version"
  | regionPattern _ => .str "regionRegex"
  | serviceNotFound service => .str service
  | noTableConfigured | noTableGiven => .str "regions.partitions_file"
  | _ => .null

/-- The kind of the failure that revealed a defect. -/
def cause? : Defect → Option FailureKind
  | settingsFileMalformed kind | invalidSettings kind | tableFileMalformed _ kind
  | modelFileMalformed _ kind => some kind
  | partitionKeyMissing _ => some .key
  | regionPattern _ => some .malformedPattern
  | _ => none

/-- What a defect is about, as the fields of a report. Empty names are left out. -/
def context (d : Defect) : List (String × Value) :=
  reportField "config_key" d.setting ++ reportField "shape_name" d.shape

end Defect

end ServiceWire
