import SchemaBridge.Json.Basic

/-!
This module contains JSON pointers: paths of member names and array indices from a value to one of
its parts. Main definitions: the text of a pointer, reading that text, and looking up what a pointer
selects.
-/

namespace SchemaBridge

namespace Json

/--
The steps of a pointer from the outermost value inwards.
-/
abbrev Pointer := List String

namespace Pointer

def escapeChar (c : Char) : List Char :=
  match c with
  | '~' => ['~', '0']
  | '/' => ['~', '1']
  | c => [c]

/--
A step as it stands between slashes.
-/
def escape (step : String) : String :=
  String.ofList (step.toList.flatMap escapeChar)

/--
Undo `escape`. A tilde that starts no escape stands for itself.
-/
def unescape (step : String) : String :=
  String.ofList (go step.toList)
where
  go : List Char → List Char
    | '~' :: '0' :: rest => '~' :: go rest
    | '~' :: '1' :: rest => '/' :: go rest
    | c :: rest => c :: go rest
    | [] => []

def text (p : Pointer) : String :=
  String.join (p.map fun step => "/" ++ escape step)

/--
Cut a list of characters at every slash.
-/
def splitSteps : List Char → List (List Char)
  | [] => [[]]
  | c :: rest =>
    match splitSteps rest with
    | [] => [[c]]
    | step :: steps => if c = '/' then [] :: step :: steps else (c :: step) :: steps

/--
The pointer with the given text: the empty text, or steps that each follow a slash.
-/
def ofText? (text : String) : Option Pointer :=
  match text.toList with
  | [] => some []
  | '/' :: rest => some ((splitSteps rest).map fun step => unescape (String.ofList step))
  | _ => none

/--
The array index that a step names: decimal digits without a leading zero.
-/
def index? (step : String) : Option Nat :=
  match step.toList with
  | ['0'] => some 0
  | '0' :: _ => none
  | digits =>
    if digits.isEmpty || !digits.all Char.isDigit then
      none
    else
      some (digits.foldl (fun n c => n * 10 + (c.toNat - '0'.toNat)) 0)

end Pointer

/--
The part of a value that a pointer selects.
-/
def select? (value : Json) : Pointer → Option Json
  | [] => some value
  | step :: rest =>
    match value with
    | .array items => do (← items[(← Pointer.index? step)]?).select? rest
    | .object members => do (← Members.get? members step).select? rest
    | _ => none

end Json

end SchemaBridge
