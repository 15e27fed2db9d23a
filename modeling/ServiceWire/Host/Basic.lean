import ServiceWire.Host.FilePath
import ServiceWire.Json.Document
import ServiceWire.Logging.Entry

/-!
# Hosts

What a program needs from the system it runs on: files and folders, environment variables, a place
for its log, and a reader of YAML. A host answers in a monad; a file operation either succeeds or
says what kind of failure it met.
-/

namespace ServiceWire

/-- A reader of YAML, of which nothing is known: it may refuse a text with any kind of failure. -/
structure YamlReader where
  /-- The value that a text writes. Settings may have keys and values of any type. -/
  value : String → Except FailureKind Value
  /-- The document that a text writes. Tables and models have the forms of JSON. -/
  document : String → Except FailureKind Json

/-- A system that programs run on. -/
structure Host (m : Type → Type) where
  yaml : YamlReader
  /-- Whether there is a file or a folder at a path. -/
  isPresent : FilePath → m Bool
  readText : FilePath → m (Except FailureKind String)
  /-- Makes a folder and the folders on the way to it, unless they are there. -/
  makeFolders : FilePath → m (Except FailureKind Unit)
  /-- Writes a file, in the place of one that is there. -/
  writeText : FilePath → String → m (Except FailureKind Unit)
  /-- Removes a folder with all that is in it. -/
  removeTree : FilePath → m (Except FailureKind Unit)
  /-- The environment variables. -/
  environment : m (List (String × String))
  log : LogEntry → m Unit

namespace Host

variable {m : Type → Type} [Monad m]

/-- A host that keeps only some log entries. -/
def filtered (h : Host m) (keep : LogEntry → Bool) : Host m :=
  { h with log := fun e => if keep e then h.log e else pure () }

end Host

/-- Whether a kind of failure is one of the file system. -/
def FailureKind.isSystem : FailureKind → Bool
  | .system | .fileExists | .notADirectory | .isADirectory => true
  | _ => false

end ServiceWire
