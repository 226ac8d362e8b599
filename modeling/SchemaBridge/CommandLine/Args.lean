import SchemaBridge.JsonSchema.Flatten
import SchemaBridge.Log.Render

/-!
This module contains the reading of command lines. A command line names a subcommand; options stand
before or behind it, in the forms `--name value`, `--name=value`, `-n value` and `-nvalue`. Main
definition: `Request.ofArgs?`.
-/

namespace SchemaBridge

namespace CommandLine

/--
How many values an option takes. A single value may be required to be a number, and only then it may
start with a minus sign.
-/
inductive Arity where
  | flag
  | one
  | number
  | many
  deriving DecidableEq, Repr

structure OptionForm where
  long : String
  short : Option Char := none
  arity : Arity
  deriving DecidableEq, Repr

/--
An argument by its looks.
-/
inductive Token where
  | escape
  | long (name : String) (value : Option String)
  | short (letters : List Char)
  | word (text : String)

def Token.ofString (arg : String) : Token :=
  match arg.toList with
  | ['-', '-'] => .escape
  | '-' :: '-' :: rest =>
    let name := rest.takeWhile (· != '=')
    let value := match rest.dropWhile (· != '=') with
      | [] => none
      | _ :: value => some (String.ofList value)
    .long (String.ofList name) value
  | ['-'] => .word arg
  | '-' :: letters => .short letters
  | _ => .word arg

/--
Whether an argument can be a value of its own, behind the option that takes it.
-/
def isValue (arity : Arity) (arg : String) : Bool :=
  match Token.ofString arg with
  | .word _ => true
  | .short letters => arity == .number && letters.all Char.isDigit
  | _ => false

/--
An option with its values, or the start of what is no option.
-/
inductive Item where
  | option (form : OptionForm) (values : List String)
  | word (text : String)

/--
The values of an option that have not been written together with it, and the arguments behind them.
-/
def takeValues (arity : Arity) (args : List String) : Option (List String × List String) :=
  match arity with
  | .flag => some ([], args)
  | .one | .number =>
    match args with
    | arg :: rest => if isValue arity arg then some ([arg], rest) else none
    | [] => none
  | .many =>
    let values := args.takeWhile (isValue arity)
    if values.isEmpty then none else some (values, args.dropWhile (isValue arity))

/--
The option with the given values, if there are such values, and the arguments behind them.
-/
def optionItem (form : OptionForm) (taken : Option (List String × List String))
    : List (Option Item) × List String :=
  match taken with
  | some (values, args) => ([some (.option form values)], args)
  | none => ([none], [])

/--
Options given by their letters in one argument. A letter that takes a value takes what follows it.
-/
def takeLetters (forms : List OptionForm) (args : List String)
    : List Char → List (Option Item) × List String
  | [] => ([], args)
  | letter :: rest =>
    match forms.find? fun form => form.short == some letter with
    | none => ([none], [])
    | some form =>
      if form.arity = .flag then
        let (items, args) := takeLetters forms args rest
        (some (.option form []) :: items, args)
      else
        match rest with
        | [] => optionItem form (takeValues form.arity args)
        | '=' :: value => optionItem form (some ([String.ofList value], args))
        | value => optionItem form (some ([String.ofList value], args))

/--
The options and words at the front of the arguments, up to and with the first word; `none` stands
for an argument that cannot be read, and ends them. `bound` is a bound on the number of arguments.
-/
def takeItems (forms : List OptionForm) (bound : Nat) (args : List String)
    : List (Option Item) × List String :=
  match bound, args with
  | 0, _ => ([], args)
  | _, [] => ([], [])
  | bound + 1, arg :: rest =>
    match Token.ofString arg with
    | .escape => if rest.isEmpty then ([], []) else ([none], [])
    | .word text => ([some (.word text)], rest)
    | .long name value =>
      match forms.find? fun form => form.long == name with
      | none => ([none], [])
      | some form =>
        let taken := match value with
          | none => takeValues form.arity rest
          | some value => if form.arity = .flag then none else some ([value], rest)
        continueWith bound (optionItem form taken)
    | .short letters => continueWith bound (takeLetters forms rest letters)
where
  /-- Add the items behind those found. -/
  continueWith (bound : Nat) (found : List (Option Item) × List String)
      : List (Option Item) × List String :=
    let (others, rest) := takeItems forms bound found.2
    (found.1 ++ others, rest)

inductive Subcommand where
  | arrow
  | flatten
  | jsonSchema
  deriving DecidableEq, Repr

namespace Subcommand

def ofName? : String → Option Subcommand
  | "arrow" => some .arrow
  | "flatten" => some .flatten
  | "json-schema" => some .jsonSchema
  | _ => none

end Subcommand

/--
The settings that a command line has made so far.
-/
structure Settings where
  logLevel : Option String := none
  logFormat : Option Log.Format := none
  inputs : Option (List String) := none
  pointer : Option String := none
  maxDepth : Option Int := none
  separator : Option String := none
  flatten : Bool := false
  out : Option String := none

/--
What to do with the documents that are read.
-/
inductive Task where
  | arrow (flattening : Option JsonSchema.FlattenOptions)
  | flatten (options : JsonSchema.FlattenOptions)
  | jsonSchema

structure Conversion where
  task : Task
  inputs : List String
  pointer : Option String
  out : Option String
  logLevel : String
  logFormat : Log.Format

/--
What a command line asks for.
-/
inductive Request where
  | convert (conversion : Conversion)
  | version
  | help

namespace Settings

def logLevelForm : OptionForm := { long := "log-level", arity := .one }

def logFormatForm : OptionForm := { long := "log-format", arity := .one }

def inputForm : OptionForm := { long := "input", short := some 'i', arity := .many }

def pointerForm : OptionForm := { long := "json-pointer", arity := .one }

def maxDepthForm : OptionForm := { long := "max-depth", arity := .number }

def separatorForm : OptionForm := { long := "separator", arity := .one }

def flattenForm : OptionForm := { long := "flatten", arity := .flag }

def outForm : OptionForm := { long := "out", short := some 'o', arity := .one }

def helpForm : OptionForm := { long := "help", short := some 'h', arity := .flag }

def versionForm : OptionForm := { long := "version", short := some 'V', arity := .flag }

/--
The options before the subcommand.
-/
def mainForms : List OptionForm :=
  [logLevelForm, logFormatForm, helpForm, versionForm]

/--
The options behind a subcommand.
-/
def formsOf (subcommand : Subcommand) : List OptionForm :=
  let flattening := [maxDepthForm, separatorForm]
  [logLevelForm, logFormatForm, helpForm, inputForm, pointerForm, outForm] ++
    match subcommand with
    | .arrow => flattenForm :: flattening
    | .flatten => flattening
    | .jsonSchema => []

/--
A decimal number in the range of 32 bits, with or without a sign.
-/
def depth? (text : String) : Option Int :=
  let digits (text : List Char) : Option Nat :=
    if text.isEmpty || !text.all Char.isDigit then none
    else some (text.foldl (fun n c => n * 10 + (c.toNat - '0'.toNat)) 0)
  let value : Option Int := match text.toList with
    | '-' :: rest => (digits rest).map fun n => -(n : Int)
    | '+' :: rest => (digits rest).map Int.ofNat
    | rest => (digits rest).map Int.ofNat
  value.filter fun n => Int32.minValue.toInt ≤ n && n ≤ Int32.maxValue.toInt

def logFormat? : String → Option Log.Format
  | "compact" => some .compact
  | "json" => some .json
  | _ => none

/--
Make a setting that has not been made yet.
-/
def once (old : Option α) (new : Option α) : Option (Option α) :=
  match old, new with
  | none, some value => some (some value)
  | _, _ => none

/--
Apply an option. Only inputs may be given more than once.
-/
def apply (s : Settings) (form : OptionForm) (values : List String) : Option Settings :=
  let value := values.headD ""
  if form = logLevelForm then do
    return { s with logLevel := ← once s.logLevel (some value) }
  else if form = logFormatForm then do
    return { s with logFormat := ← once s.logFormat (logFormat? value) }
  else if form = inputForm then
    some { s with inputs := some (s.inputs.getD [] ++ values) }
  else if form = pointerForm then do
    return { s with pointer := ← once s.pointer (some value) }
  else if form = maxDepthForm then do
    return { s with maxDepth := ← once s.maxDepth (depth? value) }
  else if form = separatorForm then do
    return { s with separator := ← once s.separator (some value) }
  else if form = flattenForm then
    if s.flatten then none else some { s with flatten := true }
  else if form = outForm then do
    return { s with out := ← once s.out (if value.isEmpty then none else some value) }
  else
    none

def toRequest? (subcommand : Subcommand) (outer inner : Settings) : Option Request := do
  let defaults : JsonSchema.FlattenOptions := {}
  let options : JsonSchema.FlattenOptions :=
    ⟨inner.maxDepth.getD defaults.maxDepth, inner.separator.getD defaults.separator⟩
  return .convert
    { task := match subcommand with
        | .arrow => .arrow (if inner.flatten then some options else none)
        | .flatten => .flatten options
        | .jsonSchema => .jsonSchema
      inputs := ← inner.inputs
      pointer := inner.pointer
      out := inner.out
      logLevel := (inner.logLevel <|> outer.logLevel).getD "warn"
      logFormat := (inner.logFormat <|> outer.logFormat).getD .compact }

/--
Apply items in order, up to a word or to an option that ends the reading. The answer is either the
request of such an option or the settings with the word.
-/
def applyItems (s : Settings) : List (Option Item) → Option (Request ⊕ Settings × Option String)
  | [] => some (.inr (s, none))
  | none :: _ => none
  | some (.word text) :: _ => some (.inr (s, some text))
  | some (.option form values) :: rest =>
    if form = helpForm then some (.inl .help)
    else if form = versionForm then some (.inl .version)
    else do applyItems (← s.apply form values) rest

end Settings

namespace Request

open Settings

/--
The request of a command line, or `none` if it is misused.
-/
def ofArgs? (args : List String) : Option Request := do
  let (items, rest) := takeItems mainForms (args.length + 1) args
  match ← applyItems {} items with
  | .inl request => return request
  | .inr (_, none) => none
  | .inr (outer, some name) =>
    if name = "help" then
      helpOn rest
    else
      let subcommand ← Subcommand.ofName? name
      let (items, _) := takeItems (formsOf subcommand) (rest.length + 1) rest
      match ← applyItems {} items with
      | .inl request => return request
      | .inr (_, some _) => none
      | .inr (inner, none) => toRequest? subcommand outer inner
where
  /-- Help may be asked for on one subcommand. -/
  helpOn : List String → Option Request
    | [] => some .help
    | [name] => if name = "help" || (Subcommand.ofName? name).isSome then some .help else none
    | _ => none

end Request

end CommandLine

end SchemaBridge
