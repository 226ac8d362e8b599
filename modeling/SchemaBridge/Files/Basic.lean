/-!
This module contains the operations on files that the programs need, as a class of monads, and the
reasons why they fail.
-/

namespace SchemaBridge

inductive FileError where
  | notFound
  | alreadyExists
  | notADirectory
  | isADirectory
  | nameTooLong
  | notUtf8
  | other (message : String)
  deriving DecidableEq, Repr

def FileError.message : FileError → String
  | .notFound => "No such file or directory (os error 2)"
  | .alreadyExists => "File exists (os error 17)"
  | .notADirectory => "Not a directory (os error 20)"
  | .isADirectory => "Is a directory (os error 21)"
  | .nameTooLong => "File name too long (os error 36)"
  | .notUtf8 => "stream did not contain valid UTF-8"
  | .other message => message

inductive FileKind where
  | file
  | directory
  deriving DecidableEq, Repr

/--
Access to the files below a working directory. Paths have their steps separated by slashes.
-/
class MonadFiles (m : Type → Type) where
  readText (path : String) : m (Except FileError String)
  kind? (path : String) : m (Option FileKind)
  /-- The names in a directory, in any order. -/
  entries (path : String) : m (List String)
  createDirectory (path : String) : m (Except FileError Unit)
  writeText (path text : String) : m (Except FileError Unit)

namespace Path

/--
The path of `name` inside the directory `path`.
-/
def join (path name : String) : String :=
  if path.isEmpty || path.endsWith "/" then path ++ name else path ++ "/" ++ name

/--
The steps of a path. A slash at the end asks for a directory, as a last step `.` does.
-/
def steps (path : String) : List String :=
  let parts := (path.splitOn "/").filter (! ·.isEmpty)
  if path.endsWith "/" then parts ++ ["."] else parts

/--
The last step of a path that is a name.
-/
def name? (path : String) : Option String :=
  match ((path.splitOn "/").filter fun part => !part.isEmpty && part != ".").getLast? with
  | none => none
  | some ".." => none
  | some name => some name

/--
The parts of a path without those at its end that lead nowhere.
-/
def withoutIdleEnd (parts : List String) : List String :=
  (parts.reverse.dropWhile fun part => part.isEmpty || part == ".").reverse

/--
The path without its last step, or `none` for a path that has no steps. What stands before is kept
as it is written.
-/
def parent? (path : String) : Option String :=
  let above (parts : List String) : Option (List String) :=
    match withoutIdleEnd parts with
    | [] => none
    | parts => some (withoutIdleEnd parts.dropLast)
  match path.splitOn "/" with
  | "" :: rest => (above rest).map fun parts => "/" ++ "/".intercalate parts
  | "." :: rest => some ("/".intercalate (((above rest).map ("." :: ·)).getD []))
  | parts => (above parts).map fun parts => "/".intercalate parts

/--
What a step of a path asks for.
-/
inductive Component where
  | root
  | current
  | parent
  | name (text : String)
  deriving DecidableEq, Repr

/--
The steps that make a difference. A dot does so only at the start of a path.
-/
def components (path : String) : List Component :=
  let ofPart (part : String) : Option Component :=
    if part.isEmpty || part = "." then none
    else if part = ".." then some .parent
    else some (.name part)
  match path.splitOn "/" with
  | "" :: rest => if rest.isEmpty then [] else .root :: rest.filterMap ofPart
  | "." :: rest => .current :: rest.filterMap ofPart
  | parts => parts.filterMap ofPart

/--
Whether a path leads from where relative paths start to the same place.
-/
def isCurrent (path : String) : Bool :=
  components path = [.current]

/--
The order of steps: the root, dots, steps up, and names in ascending order.
-/
def Component.le : Component → Component → Bool
  | .name a, .name b => !decide (b < a)
  | a, b => rank a ≤ rank b
where
  rank : Component → Nat
    | .root => 0
    | .current => 1
    | .parent => 2
    | .name _ => 3

/--
The order of paths, which compares their steps.
-/
def le (a b : String) : Bool :=
  go (components a) (components b)
where
  go : List Component → List Component → Bool
    | [], _ => true
    | _ :: _, [] => false
    | a :: as, b :: bs => if a = b then go as bs else a.le b

/--
The name of a path up to the dot of its extension.
-/
def stem (path : String) : String :=
  match name? path with
  | none => ""
  | some name =>
    match (name.splitOn ".").reverse with
    | [] => name
    | [_] => name
    | _ :: ["" ] => name
    | _ :: before => ".".intercalate before.reverse

end Path

variable {m : Type → Type} [Monad m] [MonadFiles m]

/--
Create a directory and the directories above it; `bound` is a bound on their number. Directories
that are there already are kept.
-/
def createDirectories (bound : Nat) (path : String) : m (Except FileError Unit) := do
  match bound with
  | 0 => return .ok ()
  | bound + 1 =>
    if path.isEmpty then
      return .ok ()
    match ← MonadFiles.createDirectory path with
    | .ok () => return .ok ()
    | .error .notFound =>
      match ← createDirectories bound ((Path.parent? path).getD "") with
      | .error e => return .error e
      | .ok () => unlessDirectory path (← MonadFiles.createDirectory path)
    | .error e => unlessDirectory path (.error e)
where
  /-- A failure does not matter if there is a directory. -/
  unlessDirectory (path : String) (result : Except FileError Unit) : m (Except FileError Unit) := do
    match result with
    | .ok () => return .ok ()
    | .error e =>
      if (← MonadFiles.kind? path) = some .directory then return .ok () else return .error e

end SchemaBridge
