import SchemaBridge.Notice
import SchemaBridge.Text.Basic

/-!
This module contains the levels of notices, the parts of the program they come from, and what they
say.
-/

namespace SchemaBridge

namespace Log

inductive Level where
  | off
  | error
  | warn
  | info
  | debug
  | trace
  deriving DecidableEq, Repr

namespace Level

/--
How much a level lets through.
-/
def verbosity : Level → Nat
  | .off => 0
  | .error => 1
  | .warn => 2
  | .info => 3
  | .debug => 4
  | .trace => 5

def all : List Level :=
  [.off, .error, .warn, .info, .debug, .trace]

def name : Level → String
  | .off => "OFF"
  | .error => "ERROR"
  | .warn => "WARN"
  | .info => "INFO"
  | .debug => "DEBUG"
  | .trace => "TRACE"

/--
The digits of a text that may start with a plus sign.
-/
def number? (text : String) : Option Nat :=
  let digits := match text.toList with
    | '+' :: rest => rest
    | all => all
  if digits.isEmpty || !digits.all Char.isDigit then
    none
  else
    some (digits.foldl (fun n c => n * 10 + (c.toNat - '0'.toNat)) 0)

/--
A level is given by its name in any case, or by its verbosity.
-/
def ofString? (text : String) : Option Level :=
  match number? text with
  | some n => all[n]?
  | none =>
    if text.isEmpty then
      some .error
    else
      all.find? fun level => level.name == text.map Char.toUpper

end Level

inductive Value where
  | text (text : String)
  /-- A text that is shown between quotes. -/
  | quoted (text : String)
  | number (n : Int)

/--
What a notice is about, in the form `[Null, Array]`.
-/
def kindsText (kinds : List JsonSchema.Kind) : String :=
  Text.bracketed (kinds.map fun kind => kind.name.capitalize)

end Log

namespace Notice

open Log

def level : Notice → Level
  | .unionSchema _ _ => .trace
  | .unregisteredFormat _ _ => .debug
  | .flattening _ _ => .debug
  | .lifting _ => .trace
  | .toColumnar _ => .debug
  | .toDescriptive _ => .debug
  | .unwrappingRoot => .trace
  | .foldingNullability _ => .trace
  | .wroteOutput _ _ => .info

/--
The part of the program that gives a notice.
-/
def source : Notice → String
  | .unionSchema _ _ | .unregisteredFormat _ _ => "schemamap::parse"
  | .flattening _ _ | .lifting _ => "schemamap::flatten"
  | .toColumnar _ | .toDescriptive _ | .unwrappingRoot | .foldingNullability _ =>
    "schemamap::columnar"
  | .wroteOutput _ _ => "schemamap::cli"

def message : Notice → String
  | .unionSchema _ _ => "union schema"
  | .unregisteredFormat _ _ => "unregistered string format, keeping generic string"
  | .flattening _ _ => "flattening object schema"
  | .lifting _ => "lifting nested properties"
  | .toColumnar _ => "converting to columnar schema"
  | .toDescriptive _ => "converting to descriptive schema"
  | .unwrappingRoot => "unwrapping `root` field"
  | .foldingNullability _ => "folding field nullability into union"
  | .wroteOutput _ _ => "wrote output"

def values : Notice → List (String × Value)
  | .unionSchema path kinds => [("path", .text path.text), ("kinds", .text (kindsText kinds))]
  | .unregisteredFormat path format => [("path", .text path.text), ("format", .text format)]
  | .flattening maxDepth separator =>
    [("max_depth", .number maxDepth), ("separator", .quoted separator)]
  | .lifting key => [("key", .text key)]
  | .toColumnar root => [("root", .quoted root)]
  | .toDescriptive fields => [("fields", .number fields)]
  | .unwrappingRoot => []
  | .foldingNullability base => [("base", .quoted base)]
  | .wroteOutput inputs out => [("inputs", .number inputs), ("out", .text out)]

end Notice

end SchemaBridge
