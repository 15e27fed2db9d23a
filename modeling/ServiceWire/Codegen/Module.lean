import ServiceWire.Fault
import ServiceWire.Text.LetterCase

/-!
# Generated modules

Python modules are generated for services. A module is named for its service and for what it holds;
it may need the folder it is written to to be a package.
-/

namespace ServiceWire.Codegen

/-- How modules are generated. -/
structure GeneratorConfig where
  packageName : String := "generated"
  runtimePackage : String := "shapewire"
  /-- The sentence about where modules come from. -/
  header : String := "Generated by shapewire-codegen. Do not edit."
  /-- Whether the output folder is emptied first. -/
  clean : Bool := false

/-- A module to be written. -/
structure ModuleSource where
  /-- Whether the folder of the module is made a package. -/
  inPackage : Bool := true
  /-- The name and the text of the module's file. -/
  file : Except Fault (String × String)

/-- The name of the module that holds something of a service. -/
def moduleName (service kind : String) : String :=
  let mark := fun (c : Char) => if c == '.' || c == '-' then '_' else c
  Text.lower (String.ofList (service.toList.map mark)) ++ "_" ++ kind

/-- The name of the module for a service whose name may be no text. -/
def moduleNameOf (service : Value) (kind : String) : Except Failure String :=
  match service with
  | .str s => .ok (moduleName s kind)
  | _ => .error (.plain .attribute)

/-- A part of a name with its first letter in upper case. -/
def capitalized (cs : List Char) : List Char :=
  match cs with
  | [] => []
  | c :: rest => Text.upperChar c ++ rest

/-- The parts of a service name between points and dashes. -/
def nameParts (service : String) : List (List Char) :=
  Text.pieces '-' (service.toList.map fun c => if c == '.' then '-' else c)

/-- The name of the class for the endpoint metadata of a service. -/
def className (service : String) : String :=
  String.ofList ((nameParts service).flatMap capitalized) ++ "ServiceMetadata"

/-- The file name of a module. -/
def fileName (module : String) : String := module ++ ".py"

/-- A text of lines. -/
def lines (ls : List String) : String := Text.join "\n" ls

/-- What a module says about itself. -/
def introduction (config : GeneratorConfig) (module subject : String) : List String :=
  ["\"\"\"", s!"{config.packageName}.{module}", "", s!"{subject}. {config.header}", "\"\"\"", ""]

/-- The text of the file that makes a folder a package. -/
def packageText (config : GeneratorConfig) : String := s!"\"\"\"{config.header}\"\"\"\n"

/-- A module whose text nobody has defined. -/
def ModuleSource.undefined : ModuleSource :=
  { file := .error (.failure .undefined) }

end ServiceWire.Codegen
