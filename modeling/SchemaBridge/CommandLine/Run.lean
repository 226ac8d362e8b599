import SchemaBridge.Arrow.Printer
import SchemaBridge.Arrow.Reader
import SchemaBridge.Columnar.OfJsonSchema
import SchemaBridge.Columnar.ToJsonSchema
import SchemaBridge.CommandLine.Args
import SchemaBridge.Glob.Expand
import SchemaBridge.JsonSchema.Parser
import SchemaBridge.JsonSchema.Printer
import SchemaBridge.Log.Filter

/-!
This module contains what the program does: it reads documents, converts them, and writes the
results. Main definition: `CommandLine.run`.
-/

namespace SchemaBridge

namespace CommandLine

/--
What a run has put out.
-/
structure Report where
  exitCode : Nat := 0
  output : String := ""
  errors : String := ""

/--
A failure, as the causes that led to it, the outermost first.
-/
abbrev Failure := List String

def Failure.message (f : Failure) : String :=
  ": ".intercalate f

/--
What one document becomes.
-/
def convert (task : Task) (document : Json) : Recorded String Json :=
  match task with
  | .arrow flattening => do
    let schema ← ofSchema (JsonSchema.ofJsonM document)
    let schema ← match flattening with
      | none => pure schema
      | some options => ofSchema (schema.flattenM options.maxDepth options.separator)
    return (← ofSchema schema.toColumnarM).toJson
  | .flatten options => do
    let schema ← ofSchema (JsonSchema.ofJsonM document)
    return (← ofSchema (schema.flattenM options.maxDepth options.separator)).toJson
  | .jsonSchema => do
    match Arrow.Schema.ofJson document with
    | .error e => throw e.message
    | .ok schema => return (← ofSchema schema.toJsonSchemaM).toJson
where
  /-- Name the cause of a refusal. -/
  ofSchema {α : Type} (x : Recorded SchemaError α) : Recorded String α :=
    ExceptT.adapt SchemaError.message x

/--
The document in a text, or the part of it that a pointer selects.
-/
def selectDocument (pointer : Option String) (text : String) : Except Failure Json :=
  match Json.parse text with
  | .error e => .error [e.message]
  | .ok document =>
    match pointer with
    | none => .ok document
    | some pointer =>
      match (Json.Pointer.ofText? pointer).bind document.select? with
      | some part => .ok part
      | none => .error ["JSON pointer " ++ pointer ++ " selects nothing"]

/--
The results by the paths of their documents. A single one stands for itself.
-/
def combine (results : List (String × Json)) : Json :=
  match results with
  | [(_, value)] => value
  | results => .object (Members.ofList results)

variable {m : Type → Type} [Monad m] [MonadFiles m]

/--
A computation that may fail and writes lines to the log.
-/
abbrev Logged (m : Type → Type) := ExceptT Failure (StateT (List String) m)

/--
How the log is kept.
-/
structure LogSettings where
  filter : Log.Filter
  format : Log.Format

def LogSettings.write (s : LogSettings) (n : Notice) : Logged m Unit := do
  if s.filter.enables n then
    modifyThe (List String) (· ++ [Log.line s.format n])

def readDocument (c : Conversion) (path : String) : Logged m Json := do
  let text ← match ← (MonadFiles.readText path : m _) with
    | .error e => throw ["failed to load " ++ path, e.message]
    | .ok text => pure text
  match selectDocument c.pointer text with
  | .error f => throw (("failed to load " ++ path) :: f)
  | .ok document => return document

/--
Read and convert the documents in order.
-/
def convertAll (log : LogSettings) (c : Conversion) (paths : List String)
    : Logged m (List (String × Json)) :=
  paths.mapM fun path => do
    let document ← readDocument c path
    let (outcome, notices) := (convert c.task document).run
    notices.toList.forM log.write
    match outcome with
    | .ok value => return (path, value)
    | .error message => throw ["failed to convert " ++ path, message]

/--
The paths that the inputs name. An input with wildcards has to fit at least one file.
-/
def inputPaths (inputs : List String) : Logged m (List String) := do
  let paths ← inputs.mapM fun (input : String) => do
    if input.toList.any fun c => c == '*' || c == '?' || c == '[' || c == '{' then
      match ← (Glob.expand input : m _) with
      | .error e => throw [e.message]
      | .ok [] => throw ["glob pattern matched no files: " ++ input]
      | .ok paths => return paths
    else
      return [input]
  return paths.flatten

/--
Write the results to the file `out`, or give the text to print if there is no such file.
-/
def writeResults (log : LogSettings) (out : Option String) (results : List (String × Json))
    : Logged m String := do
  let text := (combine results).pretty
  match out with
  | none => return text ++ "\n"
  | some out =>
    if let some parent := Path.parent? out then
      let bound := (Path.steps parent).length + 1
      if let .error e ← (createDirectories bound parent : m _) then throw [e.message]
    if let .error e ← (MonadFiles.writeText out text : m _) then
      throw ["failed to write " ++ out, e.message]
    log.write (.wroteOutput results.length out)
    return ""

/--
The filter in the environment goes before the one of the command line, unless it cannot be read.
-/
def chooseFilter (environment : Option String) (level : String) : Except Failure Log.Filter :=
  match environment.map Log.Filter.ofString with
  | some (.ok filter) => .ok filter
  | _ => (Log.Filter.ofString level).mapError Log.FilterError.causes

def runConversion (environment : Option String) (c : Conversion) : Logged m String := do
  match chooseFilter environment c.logLevel with
  | .error f => throw f
  | .ok filter =>
    let log : LogSettings := ⟨filter, c.logFormat⟩
    let results ← convertAll log c (← inputPaths c.inputs)
    writeResults log c.out results

/--
Run the program with the given arguments; `environment` is the filter in the environment, if there is
one.
-/
def run (args : List String) (environment : Option String) : m Report := do
  match Request.ofArgs? args with
  | none => return { exitCode := 2 }
  | some .version => return { output := "schemamap 0.1.0\n" }
  | some .help => return {}
  | some (.convert c) =>
    let (outcome, lines) ← (runConversion environment c : Logged m String).run.run []
    match outcome with
    | .ok output => return { output, errors := text lines }
    | .error f => return { exitCode := 1, errors := text (lines ++ ["❌ " ++ f.message]) }
where
  /-- Lines as one text. -/
  text (lines : List String) : String :=
    String.join (lines.map (· ++ "\n"))

end CommandLine

end SchemaBridge
