import ServiceWire.Entries
import ServiceWire.Host.Basic

/-!
# File trees

Files and folders in memory, and the host that has them. A folder holds everything whose path leads
through it; a file holds nothing, so that nothing can be made below one.
-/

namespace ServiceWire

/-- Files with their texts, and folders. The root and the current folder are always there. -/
structure FileTree where
  folders : List FilePath := []
  files : List (FilePath × String) := []

namespace FileTree

/-- Whether there is a file at a path. -/
def isFile (t : FileTree) (p : FilePath) : Bool := Entries.has t.files p

/-- Whether there is a folder at a path. -/
def isFolder (t : FileTree) (p : FilePath) : Bool := p.parts.isEmpty || t.folders.contains p

/-- Whether there is a file or a folder at a path. -/
def isPresent (t : FileTree) (p : FilePath) : Bool := t.isFile p || t.isFolder p

/-- Whether a file is in the way to a path. -/
def isBlocked (t : FileTree) (p : FilePath) : Bool := p.parent.ancestors.any t.isFile

/-- The text of a file. -/
def read (t : FileTree) (p : FilePath) : Except FailureKind String :=
  match t.files.lookup p with
  | some text => .ok text
  | none => .error (if t.isFolder p then .isADirectory else .system)

/-- Makes a folder and the folders on the way to it. -/
def makeFolders (t : FileTree) (p : FilePath) : Except FailureKind FileTree :=
  if t.isBlocked p then .error .notADirectory
  else if t.isFile p then .error .fileExists
  else .ok { t with folders := t.folders ++ p.ancestors.filter fun q => !t.isFolder q }

/-- Writes a file into a folder that is there. -/
def write (t : FileTree) (p : FilePath) (text : String) : Except FailureKind FileTree :=
  if t.isBlocked p then .error .notADirectory
  else if t.isFolder p then .error .isADirectory
  else if t.isFolder p.parent then .ok { t with files := Entries.put p text t.files }
  else .error .system

/-- Whether a path leads through a folder. -/
def isWithin (folder p : FilePath) : Bool :=
  p.fromRoot == folder.fromRoot && p.parts.take folder.parts.length == folder.parts

/-- Removes a folder with all that is in it. -/
def remove (t : FileTree) (p : FilePath) : Except FailureKind FileTree :=
  if t.isFile p then .error .notADirectory
  else if t.isFolder p then
    .ok
      { folders := t.folders.filter fun q => !isWithin p q
        files := t.files.filter fun q => !isWithin p q.1 }
  else .error .system

end FileTree

/-- The state of a host in memory. -/
structure Machine where
  tree : FileTree := {}
  environment : List (String × String) := []
  /-- The log entries, the first one first. -/
  journal : List LogEntry := []

namespace Machine

/-- Changes the file tree, if that succeeds. -/
def change (f : FileTree → Except FailureKind FileTree) :
    StateM Machine (Except FailureKind Unit) :=
  fun s =>
    match f s.tree with
    | .ok t => (.ok (), { s with tree := t })
    | .error k => (.error k, s)

/-- The host in memory that reads YAML with a reader. -/
def host (yaml : YamlReader) : Host (StateM Machine) where
  yaml := yaml
  isPresent p := fun s => (s.tree.isPresent p, s)
  readText p := fun s => (s.tree.read p, s)
  makeFolders p := change fun t => t.makeFolders p
  writeText p text := change fun t => t.write p text
  removeTree p := change fun t => t.remove p
  environment := fun s => (s.environment, s)
  log e := fun s => ((), { s with journal := s.journal ++ [e] })

end Machine

end ServiceWire
