import ServiceWire.CommandLine.Options
import ServiceWire.Logging.Entry

/-!
# Invocations

What the program is asked to do: to look up an endpoint, or to generate the endpoint module of a
service or the request modules of service models. General options come before the name of the
command, and the options of the command after it.
-/

namespace ServiceWire.CommandLine

/-- What the program can do. -/
inductive Command
  /-- Look up the endpoint of a service in a region and the region to sign for. -/
  | endpoint (partitions : String) (service region : String)
  /-- Generate the endpoint module of a service. -/
  | metadata (partitions : String) (service output package : String)
  /-- Generate the request modules of service models. -/
  | marshallers (models : List String) (output package : String)
deriving DecidableEq, Repr

/-- What the program is asked to do, and how. A text that is not given is empty. -/
structure Invocation where
  logLevel? : Option LogLevel := none
  settingsFile : String := ""
  command : Command
deriving DecidableEq, Repr

namespace Invocation

/-- The options before the name of the command. -/
def generalRules : List OptionRule :=
  [{ name := "--log-level", choices := LogLevel.all.map LogLevel.label }, { name := "--config" }]

/-- The options of the commands. -/
def commandRules : List (String × List OptionRule) :=
  [("endpoint",
      [{ name := "--partitions" }, { name := "--service", required := true },
        { name := "--region", required := true }]),
    ("metadata",
      [{ name := "--partitions" }, { name := "--service", required := true },
        { name := "--output", required := true }, { name := "--package" }]),
    ("marshallers",
      [{ name := "--model", required := true }, { name := "--output", required := true },
        { name := "--package" }])]

/-- The package of generated modules, unless another is given. -/
def standardPackage : String := "generated"

/-- The command of a name with the options that were read. -/
def commandOf (name : String) (r : Reading) : Command :=
  let package := r.lastOr "--package" standardPackage
  let partitions := r.lastOr "--partitions" ""
  let service := r.lastOr "--service" ""
  let output := r.lastOr "--output" ""
  match name with
  | "endpoint" => .endpoint partitions service (r.lastOr "--region" "")
  | "metadata" => .metadata partitions service output package
  | _ => .marshallers (r.all "--model") output package

/-- Reads the words of a command line. -/
def read (words : List String) : Except Stop Invocation := do
  let general ← readWords generalRules true words
  match general.rest with
  | [] => throw .misuse
  | name :: rest =>
    match commandRules.lookup name with
    | none => throw .misuse
    | some rules =>
      let own ← readWords rules false rest
      if general.hasExtra || own.hasExtra then throw .misuse
      return {
        logLevel? := (general.last? "--log-level").bind LogLevel.ofLabel?
        settingsFile := general.lastOr "--config" ""
        command := commandOf name own }

/-- An option in the summary of a command; brackets say that it may be left out. -/
def ruleText (r : OptionRule) : String :=
  if r.required then s!"{r.name} VALUE" else s!"[{r.name} VALUE]"

/-- The summary of all commands. -/
def usage : String :=
  let options := fun rules => Text.join " " (rules.map ruleText)
  let commands := commandRules.map fun p => s!"  {p.1} {options p.2}\n"
  s!"usage: shapewire-codegen [-h] {options generalRules} COMMAND ...\n" ++ Text.join "" commands

/-- The lowest level of the log entries of a component that are kept. -/
def threshold (i : Invocation) (component : String) : LogLevel :=
  i.logLevel?.getD (if component == "shapewire_codegen.generator" then .warning else .info)

/-- Whether a log entry is kept. -/
def keeps (i : Invocation) (e : LogEntry) : Bool := e.level.reaches (i.threshold e.component)

end Invocation

end ServiceWire.CommandLine
