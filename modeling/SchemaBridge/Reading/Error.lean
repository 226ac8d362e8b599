import SchemaBridge.Json.Decimal
import SchemaBridge.Json.Fault
import SchemaBridge.Text.Quoted

/-!
This module contains the errors of reading typed data from JSON: what was found in place of what was
expected, and the path to it.
-/

namespace SchemaBridge

namespace Reading

/--
What stands where something else was expected.
-/
inductive Found where
  | null
  | boolean (value : Bool)
  | number (value : Json.Number)
  | string (value : String)
  | sequence
  | map
  | unitVariant

def Found.text : Found → String
  | .null => "null"
  | .boolean true => "boolean `true`"
  | .boolean false => "boolean `false`"
  | .number (.integer value) => "integer `" ++ toString value ++ "`"
  | .number (.float bits) => "floating point `" ++ Json.floatText bits ++ "`"
  | .string value => "string " ++ Text.quoted value
  | .sequence => "sequence"
  | .map => "map"
  | .unitVariant => "unit variant"

inductive Cause where
  | json (fault : Json.Fault)
  | invalidType (found : Found) (expected : String)
  | invalidValue (found : Found) (expected : String)
  | invalidLength (length : Nat) (expected : String)
  | unknownVariant (name : String) (known : List String)
  | missingMember (name : String)
  | duplicateMember (name : String)
  | noneOfMembers (choice : String)

def code (name : String) : String :=
  "`" ++ name ++ "`"

def knownText : List String → String
  | [] => "there are no variants"
  | [name] => "expected " ++ code name
  | [name, other] => "expected " ++ code name ++ " or " ++ code other
  | names => "expected one of " ++ ", ".intercalate (names.map code)

def Cause.text : Cause → String
  | .json fault => fault.message
  | .invalidType found expected => "invalid type: " ++ found.text ++ ", expected " ++ expected
  | .invalidValue found expected => "invalid value: " ++ found.text ++ ", expected " ++ expected
  | .invalidLength length expected =>
    "invalid length " ++ toString length ++ ", expected " ++ expected
  | .unknownVariant name known => "unknown variant " ++ code name ++ ", " ++ knownText known
  | .missingMember name => "missing field " ++ code name
  | .duplicateMember name => "duplicate field " ++ code name
  | .noneOfMembers choice => "no variant of enum " ++ choice ++ " found in flattened data"

/--
A step from a value to one of its parts. The step to a member whose name cannot be read is unknown.
-/
inductive Segment where
  | index (index : Nat)
  | member (name : String)
  | unknown

/--
Steps into members are separated by dots; the path of the whole value is a dot.
-/
def pathText (path : List Segment) : String :=
  match path with
  | [] => "."
  | path => go true path
where
  go (first : Bool) : List Segment → String
    | [] => ""
    | .index index :: rest => "[" ++ toString index ++ "]" ++ go false rest
    | .member name :: rest => (if first then name else "." ++ name) ++ go false rest
    | .unknown :: rest => (if first then "?" else ".?") ++ go false rest

/--
The error of reading a value: the path to the culprit and, for a text, its place.
-/
structure Error where
  cause : Cause
  path : List Segment := []
  position : Option Json.Position := none

namespace Error

def ofParseError (e : Json.ParseError) : Error :=
  { cause := .json e.fault, position := some e.position }

/--
The error as seen from the value that `segment` starts from.
-/
def inside (segment : Segment) (e : Error) : Error :=
  { e with path := segment :: e.path }

/--
Give the error a place, unless it has one.
-/
def orAt (position : Json.Position) (e : Error) : Error :=
  { e with position := some (e.position.getD position) }

def message (e : Error) : String :=
  let place := match e.position with
    | none => ""
    | some position => position.suffix
  "at JSON path " ++ pathText e.path ++ " → " ++ e.cause.text ++ place

end Error

end Reading

end SchemaBridge
