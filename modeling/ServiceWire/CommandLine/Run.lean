import ServiceWire.Codegen.Generator
import ServiceWire.CommandLine.Invocation

/-!
# Running an invocation

What the program does on a host. An error that the library words is told in the log and makes the
program end with code 1; any other failure is the host's to deal with.
-/

namespace ServiceWire.CommandLine

/-- What the program leaves behind: a code, and the text that it prints. -/
structure Outcome where
  code : Nat
  output : String := ""
deriving DecidableEq, Repr

variable {m : Type → Type} [Monad m]

/-- The component that tells about the program as a whole. -/
def component : String := "shapewire_codegen"

/-- The settings of an invocation: of its file, or else of the environment. They are the first that
are put in force. -/
def settings (host : Host m) (i : Invocation) : Action m Settings := do
  if i.settingsFile.isEmpty then
    let env ← host.environment
    Action.ofFault ((Settings.Shared.get { environment := env }).1.mapError .failure)
  else
    ExceptT.mk (Prod.fst <$> Settings.Shared.load host (.ofText i.settingsFile) {})

/-- The endpoint table of an invocation: of the file it names, or else of the settings. -/
def table (host : Host m) (s : Settings) (partitions : String) : Action m PartitionTable := do
  let file := (Value.str partitions).orElse s.regions.partitionsFile
  if !file.truthy then Action.defect .noTableGiven
  let path ← Action.ofFault ((FilePath.ofValue file).mapError .failure)
  PartitionTable.loadFile host path

/-- Tells about a file that was written. -/
def tellWritten (host : Host m) (path : FilePath) : Action m Unit :=
  host.log ⟨.info, .system, component, s!"Wrote {path.text}"⟩

/-- Prints the endpoint of a service in a region, and the region to sign for. -/
def printEndpoint (host : Host m) (s : Settings) (partitions service region : String) :
    Action m String := do
  let t ← table host s partitions
  let resolver : EndpointResolver := { table := t, settings := s.regions }
  let (endpoint, resolver) := resolver.endpointFor service region
  let endpoint ← Action.ofFault endpoint
  host.log ⟨.debug, .system, "shapewire.regions.resolver",
    s!"Resolved {service} in {region} to {endpoint.text}"⟩
  let signing ← Action.ofFault (resolver.signingRegionFor service region).1
  return s!"{endpoint.text}\n{signing.text}\n"

/-- Does what an invocation asks for, and yields what is printed. -/
def perform (host : Host m) (i : Invocation) : Action m String := do
  let s ← settings host i
  match i.command with
  | .endpoint partitions service region => printEndpoint host s partitions service region
  | .metadata partitions service output package =>
    let t ← table host s partitions
    let g : Codegen.CodeGenerator := { table? := some t, config := { packageName := package } }
    let path ← g.generateEndpoints host service (.ofText output)
    tellWritten host path
    return ""
  | .marshallers files output package =>
    let models ← files.mapM fun f => ServiceModel.loadFile host (.ofText f)
    let g : Codegen.CodeGenerator := { models := models, config := { packageName := package } }
    let paths ← g.generateRequests host (.ofText output)
    paths.forM (tellWritten host)
    return ""

/-- Runs an invocation. -/
def run (host : Host m) (i : Invocation) : m (Except Failure Outcome) := do
  let host := host.filtered i.keeps
  match ← (perform host i).run with
  | .ok text => return .ok ⟨0, text⟩
  | .error (.failure f) => return .error f
  | .error e =>
    host.log ⟨.error, .system, component, s!"shapewire-codegen failed: {e.text}"⟩
    return .ok { code := 1 }

/-- The code with which the program ends when its words are not those of an invocation. -/
def Stop.code : Stop → Nat
  | .help => 0
  | .misuse => 2

end ServiceWire.CommandLine
