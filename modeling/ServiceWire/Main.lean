import Std.Time.DateTime.Timestamp
import ServiceWire.CommandLine.Run
import ServiceWire.Logging.Event
import ServiceWire.Yaml.Reader

/-!
# The command line

The program on the system it is started on: it reads and writes files, prints to the standard
output, and writes each log entry as one line to the standard error stream.
-/

namespace ServiceWire.CommandLine

/-- The kind of a failure of the system. -/
def kindOf : IO.Error → FailureKind
  | .alreadyExists .. => .fileExists
  | .inappropriateType .. => .notADirectory
  | _ => .system

/-- An action of the system whose failure is an answer. -/
def answering {α : Type} (x : IO α) : IO (Except FailureKind α) := do
  match ← x.toBaseIO with
  | .ok a => return .ok a
  | .error e => return .error (kindOf e)

/-- Writes a log entry as a line. -/
def writeEntry (e : LogEntry) : IO Unit := do
  let now ← Std.Time.Timestamp.now
  let event : LogEvent :=
    { timestamp := .int now.val.second.val
      level := .entry e.level
      category := e.category
      message := .str e.message
      component := .str e.component }
  match event.line with
  | .ok line => IO.eprintln line
  | .error f => IO.eprintln f.describe

/-- The system that the program is started on. -/
def system : Host IO where
  yaml := Yaml.reader
  isPresent p := do ((← IO.currentDir) / p.text).pathExists
  readText p := answering (IO.FS.readFile p.text)
  makeFolders p := answering (IO.FS.createDirAll p.text)
  writeText p text := answering (IO.FS.writeFile p.text text)
  removeTree p := answering (IO.FS.removeDirAll p.text)
  environment := do
    let names := Settings.variableEnds.map fun n => Settings.variableStart ++ n
    names.filterMapM fun n => do return (← IO.getEnv n).map fun v => (n, v)
  log := writeEntry

/-- Ends the program because of a failure. -/
def fail (f : Failure) : IO UInt32 := do
  IO.eprintln f.describe
  return 1

end ServiceWire.CommandLine

open ServiceWire ServiceWire.CommandLine in
/-- Runs the program. -/
def main (words : List String) : IO UInt32 := do
  match Invocation.read words with
  | .error stop =>
    if stop = .help then IO.print Invocation.usage else IO.eprint Invocation.usage
    return stop.code.toUInt32
  | .ok invocation =>
    match ← run system invocation with
    | .error f => fail f
    | .ok outcome =>
      IO.print outcome.output
      return outcome.code.toUInt32
