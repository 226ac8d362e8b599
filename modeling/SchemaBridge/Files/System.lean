import SchemaBridge.Files.Basic
import SchemaBridge.Files.Tree

/-!
This module contains file systems as values, with a working directory from which relative paths
start, and the operations on them.
-/

namespace SchemaBridge

/--
All files, and the names that lead to the working directory.
-/
structure FileSystem where
  root : FileTree
  workingDirectory : List String

namespace FileSystem

/--
A file system with `tree` as its working directory, of which no other path knows the name. Beside it
are an empty file and a directory that every system has.
-/
def ofTree (tree : FileTree) : FileSystem where
  root := .directory
    [("", .directory [("", tree)]),
      ("dev", .directory [("null", .file (some ""))]),
      ("tmp", .directory [])]
  workingDirectory := ["", ""]

/--
How many bytes a name may have.
-/
def nameLimit : Nat := 255

/--
How many bytes a path may have.
-/
def pathLimit : Nat := 4095

variable (fs : FileSystem)

/--
The entries of the directory at the end of the given names.
-/
def entriesAt (place : List String) : Except FileError (Members FileTree) :=
  match fs.root.get? place with
  | some (.directory entries) => .ok entries
  | _ => .error .notADirectory

/--
Follow steps from a place. A step up leads from the root to the root.
-/
def walk (place : List String) (steps : List String) : Except FileError (List String) :=
  match steps with
  | [] => .ok place
  | step :: rest => do
    let entries ← fs.entriesAt place
    if step = "." then
      walk place rest
    else if step = ".." then
      walk place.dropLast rest
    else if nameLimit < step.utf8ByteSize then
      throw .nameTooLong
    else if Members.contains entries step then
      walk (place ++ [step]) rest
    else
      throw .notFound

/--
Follow steps from where a path starts.
-/
def follow (path : String) (steps : List String) : Except FileError (List String) :=
  if path.isEmpty then .error .notFound
  else if pathLimit < path.utf8ByteSize then .error .nameTooLong
  else fs.walk (if path.startsWith "/" then [] else fs.workingDirectory) steps

/--
What stands at a path.
-/
def find (path : String) : Except FileError FileTree := do
  match fs.root.get? (← fs.follow path (Path.steps path)) with
  | some tree => return tree
  | none => throw .notFound

def readText (path : String) : Except FileError String := do
  match ← fs.find path with
  | .directory _ => throw .isADirectory
  | .file none => throw .notUtf8
  | .file (some text) => return text

def kind? (path : String) : Option FileKind :=
  match fs.find path with
  | .ok (.file _) => some .file
  | .ok (.directory _) => some .directory
  | .error _ => none

def entries (path : String) : List String :=
  match fs.find path with
  | .ok (.directory entries) => Members.names entries
  | _ => []

/--
The directory in which the last step of a path stands, and that step.
-/
def lastStep (path : String) : Except FileError (List String × String) := do
  let steps := (path.splitOn "/").filter (! ·.isEmpty)
  return (← fs.follow path steps.dropLast, steps.getLastD ".")

def put (place : List String) (tree : FileTree) : FileSystem :=
  { fs with root := fs.root.put tree place }

def createDirectory (path : String) : Except FileError FileSystem := do
  let (place, name) ← fs.lastStep path
  let entries ← fs.entriesAt place
  if name = "." || name = ".." then throw .alreadyExists
  if nameLimit < name.utf8ByteSize then throw .nameTooLong
  if Members.contains entries name then throw .alreadyExists
  return fs.put (place ++ [name]) (.directory [])

def writeText (path text : String) : Except FileError FileSystem := do
  let (place, name) ← fs.lastStep path
  let entries ← fs.entriesAt place
  if name = "." || name = ".." || path.endsWith "/" then throw .isADirectory
  if nameLimit < name.utf8ByteSize then throw .nameTooLong
  if let some (.directory _) := Members.get? entries name then throw .isADirectory
  return fs.put (place ++ [name]) (.file (some text))

/--
Keep the changed files of an operation that succeeds.
-/
def change (f : FileSystem → Except FileError FileSystem)
    : StateM FileSystem (Except FileError Unit) := do
  match f (← get) with
  | .ok fs =>
    set fs
    return .ok ()
  | .error e => return .error e

instance : MonadFiles (StateM FileSystem) where
  readText path := return (← get).readText path
  kind? path := return (← get).kind? path
  entries path := return (← get).entries path
  createDirectory path := change (·.createDirectory path)
  writeText path text := change (·.writeText path text)

end FileSystem

end SchemaBridge
