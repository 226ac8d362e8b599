import SchemaBridge.Log.Level
import SchemaBridge.Regex.Check
import SchemaBridge.Text.Alphabetic
import SchemaBridge.Text.Blank
import SchemaBridge.Text.Numeric

/-!
This module contains the directives of which the filters of the log consist, such as `debug` or
`schemamap::parse=trace` or `[{path}]`. Main definition: `Directive.ofString`.
-/

namespace SchemaBridge

namespace Log

/--
What a directive asks of the values of a notice: that there is one of this name, and whether it also
asks something of the value itself.
-/
structure FieldTest where
  name : String
  hasValue : Bool
  deriving DecidableEq, Repr

/--
A directive applies to the sources whose names start with `target`.
-/
structure Directive where
  level : Level := .trace
  target : Option String := none
  span : Option String := none
  fields : List FieldTest := []
  deriving DecidableEq, Repr

inductive FilterError where
  | invalid
  | level
  | pattern (refusal : Regex.Refusal)
  deriving DecidableEq, Repr

/--
The causes that led to an error, the outermost first. An outer cause names the next one.
-/
def FilterError.causes : FilterError → List String
  | .invalid => ["invalid filter directive"]
  | .level => [levelText, levelText]
  | .pattern refusal =>
    match refusal.causes with
    | [] => ["invalid field filter"]
    | cause :: deeper => ("invalid field filter: " ++ cause) :: cause :: deeper
where
  levelText : String :=
    "error parsing level filter: expected one of \"off\", \"error\", \"warn\", \"info\", " ++
      "\"debug\", \"trace\", or a number 0-5"

/--
A text without its first `count` bytes, unless they end inside a character.
-/
def dropBytes? (count : Nat) (text : List Char) : Option (List Char) :=
  match count, text with
  | 0, text => some text
  | _ + 1, [] => none
  | count + 1, c :: rest =>
    if c.utf8Size ≤ count + 1 then dropBytes? (count + 1 - c.utf8Size) rest else none

/--
The first `count` bytes of a text, unless they end inside a character.
-/
def takeBytes? (count : Nat) (text : List Char) : Option (List Char) :=
  match count, text with
  | 0, _ => some []
  | _ + 1, [] => none
  | count + 1, c :: rest =>
    if c.utf8Size ≤ count + 1 then
      (takeBytes? (count + 1 - c.utf8Size) rest).map (c :: ·)
    else
      none

/--
Whether a text writes a number, as a decimal or by name.
-/
def isNumber (text : List Char) : Bool :=
  let digits := match text with
    | '+' :: rest => rest
    | '-' :: rest => rest
    | rest => rest
  let whole := digits.takeWhile Char.isDigit
  let (fraction, rest) := match digits.dropWhile Char.isDigit with
    | '.' :: rest => (rest.takeWhile Char.isDigit, rest.dropWhile Char.isDigit)
    | rest => ([], rest)
  let named := ["nan", "inf", "infinity"].contains (String.ofList (digits.map Char.toLower))
  named || (!(whole.isEmpty && fraction.isEmpty) && isExponent rest)
where
  /-- Nothing, or the mark of an exponent with digits behind it. -/
  isExponent : List Char → Bool
    | [] => true
    | c :: rest =>
      let digits := match rest with
        | '+' :: rest => rest
        | '-' :: rest => rest
        | rest => rest
      (c == 'e' || c == 'E') && !digits.isEmpty && digits.all Char.isDigit

/--
Read a test: a name, and behind an equals sign the value that is asked for. A value is a number or
a pattern.
-/
def FieldTest.ofString (text : String) : Except FilterError FieldTest := do
  match text.splitOn "=" with
  | name :: value :: _ =>
    unless isNumber value.toList do
      discard ((Regex.ofString value).mapError .pattern)
    return { name, hasValue := true }
  | _ => return { name := text, hasValue := false }

namespace Directive

/--
What the characters of a directive are being read as, with the place where that starts.
-/
inductive State where
  | start
  | levelOrTarget
  | span (first : Nat)
  | field (first : Nat)
  | fields
  | afterSpan
  | level (first : Nat)

/--
Whether a directive may start with a character.
-/
def mayStart (c : Char) : Bool :=
  c == '-' || c == ':' || c == '_' || Text.isAlphabetic c || Text.isNumeric c

/--
The bytes of `whole` from `first` up to `last`.
-/
def slice (whole : List Char) (first last : Nat) : Except FilterError String :=
  match (dropBytes? first whole).bind (takeBytes? (last - first)) with
  | some part => .ok (String.ofList part)
  | none => .error .invalid

/--
Read one character, at the place `i` of the trimmed text. The parts of a directive are found by
their places in the trimmed text, but taken from the whole one.
-/
def step (whole : List Char) (d : Directive) (state : State) (i : Nat) (c : Char)
    : Except FilterError (Directive × State) := do
  match state with
  | .start =>
    if c = '[' then return (d, .span (i + 1))
    else if mayStart c then return (d, .levelOrTarget)
    else throw .invalid
  | .levelOrTarget =>
    if c = '=' then return ({ d with target := some (← slice whole 0 i) }, .level (i + 1))
    else if c = '[' then return ({ d with target := some (← slice whole 0 i) }, .span (i + 1))
    else return (d, state)
  | .span first =>
    if c = ']' then
      return ({ d with span := some (← slice whole first i) }, .afterSpan)
    else if c = '{' then
      let span ← slice whole first i
      return ({ d with span := if span.isEmpty then none else some span }, .field (i + 1))
    else
      return (d, state)
  | .field first =>
    if c = '}' then
      let text ← slice whole first i
      if text.isEmpty then throw .invalid
      return ({ d with fields := d.fields ++ [← FieldTest.ofString text] }, .fields)
    else
      return (d, state)
  | .fields => if c = ']' then return (d, .afterSpan) else throw .invalid
  | .afterSpan => if c = '=' then return (d, .level (i + 1)) else throw .invalid
  | .level _ => return (d, state)

/--
A name of a level lets notices of that level through; any other name is a target.
-/
def ofLevelOrTarget (text : String) : Directive :=
  match Level.ofString? text with
  | some level => { level }
  | none => { target := some text }

/--
What has been read at the end of the text. A level may be left out behind its equals sign.
-/
def finish (whole : List Char) (d : Directive) : State → Except FilterError Directive
  | .levelOrTarget => .ok (ofLevelOrTarget (String.ofList whole))
  | .afterSpan => .ok d
  | .level first =>
    match dropBytes? first whole with
    | none => .error .invalid
    | some [] => .ok d
    | some text =>
      match Level.ofString? (String.ofList text) with
      | some level => .ok { d with level }
      | none => .error .level
  | _ => .error .invalid

def ofString (text : String) : Except FilterError Directive :=
  let whole := text.toList
  go whole {} .start 0 (Text.trim whole)
where
  go (whole : List Char) (d : Directive) (state : State) (i : Nat)
      : List Char → Except FilterError Directive
    | [] => finish whole d state
    | c :: rest => do
      let (d, state) ← step whole d state i c
      go whole d state (i + c.utf8Size) rest

end Directive

end Log

end SchemaBridge
