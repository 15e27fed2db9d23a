import ServiceWire.Endpoint.Metadata
import ServiceWire.Host.Basic
import ServiceWire.Json.Reader
import ServiceWire.Model.Basic
import ServiceWire.Settings.Load

/-!
# Loading from files

Settings, endpoint tables and service models in files. A file whose name ends in `.json` holds JSON,
any other YAML; settings are YAML always. What is wrong with the content of a file is a defect; a
file that cannot be read at all is a failure of the host, and so is what its reader of YAML meets
other than a text of the wrong form.
-/

namespace ServiceWire

/-- An action that may end in an error. What it has done until then stays done. -/
abbrev Action (m : Type → Type) : Type → Type := ExceptT WireError m

namespace Action

variable {m : Type → Type} [Monad m] {α : Type}

/-- An operation of the host as an action. -/
def ofHost (x : m (Except FailureKind α)) : Action m α :=
  ExceptT.mk ((Except.mapError fun k => .failure (.plain k)) <$> x)

/-- The outcome of a conversion as an action. -/
def ofFault (x : Except Fault α) : Action m α := ExceptT.mk (pure (x.mapError Fault.toError))

/-- An action that finds a defect. -/
def defect (d : Defect) : Action m α := throw (.configuration d)

end Action

variable {m : Type → Type} [Monad m]

/-- What a reader finds in a file. That there is no file is a defect, and so are some of the kinds
of failure that the reader may meet; any other failure stays one. -/
def Host.readFile {α : Type} (host : Host m) (path : FilePath) (missing : Defect)
    (malformed? : FailureKind → Option Defect) (read : String → Except FailureKind α) :
    Action m α := do
  unless ← host.isPresent path do Action.defect missing
  let text ← Action.ofHost (host.readText path)
  match read text with
  | .ok a => return a
  | .error k =>
    match malformed? k with
    | some d => Action.defect d
    | none => throw (.failure (.plain k))

/-- Whether the name of a file says that it holds JSON. -/
def FilePath.isJson (p : FilePath) : Bool := p.ending == ".json"

/-- The document in a text, which is JSON or YAML. -/
def readDocument (yaml : YamlReader) (isJson : Bool) (text : String) : Except FailureKind Json :=
  if isJson then
    match Json.parse? text with
    | some d => .ok d
    | none => .error .malformedJson
  else yaml.document text

/-- Whether a text has no document because it does not have the right form. -/
def FailureKind.isMalformed : FailureKind → Bool
  | .malformedJson | .malformedYaml => true
  | _ => false

/-- The document in a file; what is wrong with the form of the file is a defect. -/
def Host.document (host : Host m) (path : FilePath) (missing : Defect)
    (malformed : FailureKind → Defect) : Action m Json :=
  host.readFile path missing (fun k => if k.isMalformed then some (malformed k) else none)
    (readDocument host.yaml path.isJson)

/-- The endpoint table in a file. -/
def PartitionTable.loadFile (host : Host m) (path : FilePath) : Action m PartitionTable := do
  let d ← host.document path (.tableFileMissing path.text) (.tableFileMalformed path.text)
  let t ← Action.ofFault (PartitionTable.load d)
  host.log ⟨.debug, .system, "shapewire.regions.partitions",
    s!"Loaded {t.partitions.length} partitions from {path.text}"⟩
  return t

/-- The service model in a file. -/
def ServiceModel.loadFile (host : Host m) (path : FilePath) : Action m ServiceModel := do
  let d ← host.document path (.modelFileMissing path.text) (.modelFileMalformed path.text)
  match d with
  | .object _ => pure ()
  | _ => Action.defect (.modelFileNotMapping path.text)
  let s ← Action.ofFault (ServiceModel.load d)
  let size := s!"{s.graph.size} shapes, {s.operations.length} operations"
  host.log ⟨.debug, .system, "shapewire.protocols.model",
    s!"Loaded service model {s.serviceName.text}: {size}"⟩
  return s

/-- The settings in a file. An empty value has none. -/
def Settings.loadFile (host : Host m) (path : FilePath) : Action m Settings := do
  let v ← host.readFile path (.settingsFileMissing path.text)
    (fun k => if k = .malformedYaml then some (.settingsFileMalformed k) else none) host.yaml.value
  match v.truthy, v with
  | false, _ => Action.ofFault (Settings.load (.dict []))
  | _, .dict _ => Action.ofFault (Settings.load v)
  | _, _ => Action.defect (.settingsNotMapping path.text)

/-- Loads the settings in a file and puts them in force. If that fails, those in force stay. -/
def Settings.Shared.load (host : Host m) (path : FilePath) (p : Settings.Shared) :
    m (Except WireError Settings × Settings.Shared) := do
  match ← (Settings.loadFile host path).run with
  | .error e => return (.error e, p)
  | .ok s =>
    let (r, p) := p.set s
    return ((r.mapError .configuration).map fun _ => s, p)

/-- The path that a setting gives. -/
def FilePath.ofValue : Value → Except Failure FilePath
  | .str s => .ok (.ofText s)
  | _ => .error (.plain .type)

/-- The resolver for the endpoint table that the settings name. -/
def EndpointResolver.ofSettings (host : Host m) (s : RegionSettings) :
    Action m EndpointResolver := do
  if !s.partitionsFile.truthy then Action.defect .noTableConfigured
  let path ← Action.ofFault ((FilePath.ofValue s.partitionsFile).mapError .failure)
  let table ← PartitionTable.loadFile host path
  return { table := table, settings := s }

end ServiceWire
