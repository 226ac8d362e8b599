import SchemaBridge.Files.Basic
import SchemaBridge.Glob.Pattern

/-!
This module contains the search for the files that fit a pattern. The names in a directory are
visited in ascending order, a directory before what it contains. Main definition: `Glob.expand`.
-/

namespace SchemaBridge

namespace Glob

variable {m : Type → Type} [Monad m] [MonadFiles m]

def isDirectory (path : String) : m Bool := do
  return (← MonadFiles.kind? path) = some .directory

/--
The path of an entry of the directory `path`. Steps that lead nowhere are left out.
-/
def entryPath (path name : String) : String :=
  if Path.isCurrent path then name else Path.join path name

/--
A path that fits the whole pattern, unless it has to be a directory and is none.
-/
def result (directoryOnly : Bool) (path : String) : m (List String) := do
  if directoryOnly && !(← isDirectory path) then return [] else return [path]

/--
The entries `.` and `..`, if a pattern with a dot in front accepts them.
-/
def specialEntries (p : Pattern) : List String :=
  if p.head? = some (.char '.') then [".", ".."].filter fun name => p.accepts name.toList else []

/--
Drop the steps before the last one of a run of recursive steps.
-/
def lastRecursive : List Pattern → List Pattern
  | p :: next :: rest =>
    if p.isRecursive && next.isRecursive then lastRecursive (next :: rest) else p :: next :: rest
  | patterns => patterns

inductive Task where
  /-- Look for the first step of the pattern inside the directory `path`. -/
  | inside (patterns : List Pattern) (path : String)
  /-- Compare the first step of the pattern with the last one of `path`. -/
  | visit (patterns : List Pattern) (path : String)
  /-- The same for a first step that is not recursive. -/
  | compare (patterns : List Pattern) (path : String)

/--
Carry out a task. `bound` is a bound on the number of tasks that lead to each other.
-/
def search (directoryOnly : Bool) (bound : Nat) (task : Task) : m (List String) :=
  match bound with
  | 0 => return []
  | bound + 1 => do
    let all (tasks : List Task) : m (List String) := do
      return (← tasks.mapM (search directoryOnly bound)).flatten
    let found (rest : List Pattern) (path : String) : m (List String) :=
      if rest.isEmpty then result directoryOnly path
      else search directoryOnly bound (.inside rest path)
    match task with
    | .inside [] _ => return []
    | .inside (p :: rest) path =>
      match p.literal? with
      | some name =>
        let next := entryPath path name
        let special := name = "." || name = ".."
        let present ← if special then isDirectory path
          else pure (← MonadFiles.kind? next).isSome
        if present then found rest next else return []
      | none =>
        if ← isDirectory path then
          let special ← (specialEntries p).reverse.mapM fun name => found rest (Path.join path name)
          let names := (← MonadFiles.entries path).mergeSort (fun a b => !decide (b < a))
          let others ← all (names.map fun name => .visit (p :: rest) (entryPath path name))
          return special.flatten ++ others
        else
          return []
    | .visit patterns path =>
      match lastRecursive patterns with
      | p :: rest =>
        if !p.isRecursive then
          search directoryOnly bound (.compare (p :: rest) path)
        else if ← isDirectory path then
          let here ← if rest.isEmpty then pure [path]
            else search directoryOnly bound (.compare rest path)
          return here ++ (← search directoryOnly bound (.inside (p :: rest) path))
        else if rest.isEmpty then
          return []
        else
          search directoryOnly bound (.compare rest path)
      | [] => return []
    | .compare [] _ => return []
    | .compare (p :: rest) path =>
      match Path.name? path with
      | none => return []
      | some name => if p.accepts name.toList then found rest path else return []

/--
How many steps a search takes one after the other at most.
-/
def searchLimit : Nat := 10000

/--
The steps of a pattern; a slash at the end adds none.
-/
def steps (pattern : String) : List String :=
  let parts := pattern.splitOn "/"
  if parts.getLast? = some "" && 1 < parts.length then parts.dropLast else parts

/--
The paths that fit a pattern.
-/
def expand (pattern : String) : m (Except PatternError (List String)) := do
  match Pattern.ofString pattern with
  | .error e => return .error e
  | .ok _ =>
    let (scope, relative) :=
      if pattern.startsWith "/" then ("/", (pattern.drop 1).toString) else (".", pattern)
    match (steps relative).mapM Pattern.ofString with
    | .error e => return .error e
    | .ok patterns =>
      let directoryOnly := pattern.endsWith "/"
      return .ok (← search directoryOnly searchLimit (.inside patterns scope))

end Glob

end SchemaBridge
