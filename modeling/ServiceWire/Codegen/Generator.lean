import ServiceWire.Codegen.EndpointModule
import ServiceWire.Codegen.RequestModule
import ServiceWire.ErrorReport
import ServiceWire.Host.Loading

/-!
# Generating modules

Modules are written one after the other. Writing one module ends with the first error; writing all
of them goes on with the next service and says at the end which services succeeded.
-/

namespace ServiceWire.Codegen

/-- What generates the modules of services. -/
structure CodeGenerator where
  table? : Option PartitionTable := none
  models : List ServiceModel := []
  config : GeneratorConfig := {}
  /-- What makes the module with the endpoints of a service. -/
  endpointSource : GeneratorConfig → PartitionTable → String → ModuleSource :=
    EndpointModule.source
  /-- What makes the module with the requests of a service. -/
  requestSource : GeneratorConfig → ServiceModel → ModuleSource := RequestModule.source

variable {m : Type → Type} [Monad m]

/-! ### Single modules -/

/-- The component that tells about generated modules. -/
def component : String := "shapewire_codegen.generator"

/-- Writes a file and the folders on the way to it. -/
def writeFile (host : Host m) (path : FilePath) (text : String) : Action m FilePath := do
  Action.ofHost (host.makeFolders path.parent)
  Action.ofHost (host.writeText path text)
  host.log ⟨.debug, .system, component, s!"Generated: {path.text}"⟩
  return path

/-- Makes a folder a package, unless it is one. -/
def makePackage (host : Host m) (config : GeneratorConfig) (folder : FilePath) :
    Action m Unit := do
  Action.ofHost (host.makeFolders folder)
  let mark := folder.join ⟨false, ["__init__.py"]⟩
  unless ← host.isPresent mark do
    let _ ← writeFile host mark (packageText config)

/-- Writes a module into a folder. -/
def writeModule (host : Host m) (config : GeneratorConfig) (folder : FilePath)
    (s : ModuleSource) : Action m FilePath := do
  if s.inPackage then makePackage host config folder
  let (name, text) ← Action.ofFault s.file
  writeFile host (folder.join (.ofText name)) text

namespace CodeGenerator

variable (host : Host m) (g : CodeGenerator)

/-- Empties the output folder, if that is wanted. -/
def prepare (folder : FilePath) : Action m Unit := do
  if g.config.clean then
    if ← host.isPresent folder then Action.ofHost (host.removeTree folder)

/-- Writes the endpoint module of a service. -/
def writeEndpoints (service : String) (folder : FilePath) : Action m FilePath := do
  let t ← match g.table? with
    | some t => pure t
    | none => Action.defect .noTableLoaded
  let path ← writeModule host g.config folder (g.endpointSource g.config t service)
  host.log ⟨.info, .codegen, component, s!"Generated metadata for {service}"⟩
  return path

/-- Writes the request module of a model. -/
def writeRequests (model : ServiceModel) (folder : FilePath) : Action m FilePath :=
  writeModule host g.config folder (g.requestSource g.config model)

/-- Generates the endpoint module of a service. -/
def generateEndpoints (service : String) (folder : FilePath) : Action m FilePath := do
  g.prepare host folder
  g.writeEndpoints host service folder

/-- Generates the request modules of all models. -/
def generateRequests (folder : FilePath) : Action m (List FilePath) := do
  g.prepare host folder
  g.models.mapM fun model => do
    let path ← g.writeRequests host model folder
    host.log ⟨.info, .codegen, component, s!"Generated marshallers for {model.serviceName.text}"⟩
    return path

/-! ### All modules -/

/-- Which services succeeded, by their names. The name of a model may be any value. -/
abbrev Results : Type := List (Value × Bool)

/-- Whether an error stays with the endpoint module of a service. -/
def staysWithEndpoints : WireError → Bool
  | .failure _ => false
  | _ => true

/-- Whether an error stays with the request module of a model. -/
def staysWithRequests : WireError → Bool
  | .failure f => f.kind.isSystem
  | _ => true

/-- The outcome of an action whose errors may stay with it: whether it succeeded. -/
def attempt {α : Type} (stays : WireError → Bool) (report : WireError → String)
    (x : Action m α) : Action m Bool := ExceptT.mk do
  match ← x.run with
  | .ok _ => return .ok true
  | .error e =>
    if stays e then
      host.log ⟨.error, .system, component, report e⟩
      return .ok false
    else return .error e

/-- Generates the endpoint module of one of several services. -/
def addEndpoints (folder : FilePath) (results : Results) (service : String) :
    Action m Results := do
  let ok ← attempt host staysWithEndpoints
    (fun e => s!"Failed to generate metadata for {service}: {e.text}")
    (g.writeEndpoints host service folder)
  return Entries.put (.str service) ok results

/-- Generates the request module of one of several models. A service that failed before stays
failed. Nothing is entered under a name that is no key. -/
def addRequests (folder : FilePath) (results : Results) (model : ServiceModel) :
    Action m Results := do
  let ok ← attempt host staysWithRequests
    (fun e => s!"Failed to generate marshallers for {model.serviceName.text}: {e.text}")
    (g.writeRequests host model folder)
  let key ← Action.ofFault (model.serviceName.asKey.mapError .failure)
  return if ok then Entries.putNew key true results else Entries.put key false results

/-- The services to generate endpoint modules for: the given ones, or all of the table. -/
def servicesOf (services : List String) : List String :=
  match g.table? with
  | none => []
  | some t => if services.isEmpty then t.serviceNames else services

/-- Generates all modules, and says which services succeeded. -/
def generateAll (folder : FilePath) (services : List String) : Action m Results := do
  g.prepare host folder
  let results ← (g.servicesOf services).foldlM (g.addEndpoints host folder) []
  let results ← g.models.foldlM (g.addRequests host folder) results
  let done := (results.filter Prod.snd).length
  host.log ⟨.info, .system, component,
    s!"Generated {done} of {results.length} services in {folder.text}"⟩
  return results

end CodeGenerator

end ServiceWire.Codegen
