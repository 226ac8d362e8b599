import SchemaBridge.CommandLine.Run

/-!
This module contains the program: it runs a command line on the files of the system.
-/

namespace SchemaBridge

def FileError.ofSystem : IO.Error → FileError
  | .noFileOrDirectory .. => .notFound
  | .alreadyExists .. => .alreadyExists
  | .inappropriateType _ 20 _ => .notADirectory
  | .inappropriateType _ 21 _ => .isADirectory
  | .invalidArgument _ 36 _ => .nameTooLong
  | .permissionDenied _ code details =>
    .other (details ++ " (os error " ++ toString code.toNat ++ ")")
  | e => .other e.toString

/--
Run an operation on the system, and keep the reason why it fails.
-/
def attempt {α : Type} (x : IO α) : IO (Except FileError α) := do
  match ← x.toBaseIO with
  | .ok a => return .ok a
  | .error e => return .error (.ofSystem e)

instance : MonadFiles IO where
  readText path := do
    match ← attempt (IO.FS.readBinFile path) with
    | .error e => return .error e
    | .ok bytes =>
      match String.fromUTF8? bytes with
      | none => return .error .notUtf8
      | some text => return .ok text
  kind? path := do
    match ← attempt (IO.FS.realPath path) with
    | .error _ => return none
    | .ok found => return some (if ← found.isDir then .directory else .file)
  entries path := do
    match ← attempt (do (← IO.FS.realPath path).readDir) with
    | .error _ => return []
    | .ok found => return (found.map (·.fileName)).toList
  createDirectory path := attempt (IO.FS.createDir path)
  writeText path text := attempt (IO.FS.writeFile path text)

end SchemaBridge

def main (args : List String) : IO UInt32 := do
  let report : SchemaBridge.CommandLine.Report ←
    SchemaBridge.CommandLine.run args (← IO.getEnv "RUST_LOG")
  IO.print report.output
  IO.eprint report.errors
  return report.exitCode.toUInt32
