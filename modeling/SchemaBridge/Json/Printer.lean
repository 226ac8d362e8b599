import SchemaBridge.Json.Decimal
import SchemaBridge.Text.Basic

/-!
This module contains the two texts of a JSON value: on one line without spaces, and indented by two
spaces a level.
-/

namespace SchemaBridge

namespace Json

/--
Quotes, backslashes and control characters are escaped, with one letter where there is one.
-/
def escapedText (c : Char) : List Char :=
  match c with
  | '"' => ['\\', '"']
  | '\\' => ['\\', '\\']
  | '\x08' => ['\\', 'b']
  | '\x0c' => ['\\', 'f']
  | '\n' => ['\\', 'n']
  | '\r' => ['\\', 'r']
  | '\t' => ['\\', 't']
  | c =>
    if c.toNat < 0x20 then
      ['\\', 'u', '0', '0', Nat.digitChar (c.toNat / 16), Nat.digitChar (c.toNat % 16)]
    else
      [c]

def quote (s : String) : String :=
  String.ofList ('"' :: (s.toList.flatMap escapedText ++ ['"']))

mutual

/--
The text on one line.
-/
def compact : Json → String
  | .null => "null"
  | .bool b => Text.ofBool b
  | .number n => n.text
  | .string s => quote s
  | .array items => "[" ++ ",".intercalate (compactItems items) ++ "]"
  | .object members => "\x7b" ++ ",".intercalate (compactMembers members) ++ "\x7d"

def compactItems : List Json → List String
  | [] => []
  | item :: rest => item.compact :: compactItems rest

def compactMembers : List (String × Json) → List String
  | [] => []
  | (name, value) :: rest => (quote name ++ ":" ++ value.compact) :: compactMembers rest

end

/--
Lay out the parts of an array or object on lines of their own, one level inside `indent`.
-/
def block (opening closing : String) (indent : Nat) (parts : List String) : String :=
  let line (level : Nat) := "\n" ++ String.ofList (List.replicate (2 * level) ' ')
  if parts.isEmpty then
    opening ++ closing
  else
    opening ++ ",".intercalate (parts.map (line (indent + 1) ++ ·)) ++ line indent ++ closing

mutual

/--
The indented text of a value that stands at the level `indent`.
-/
def prettyAt (indent : Nat) : Json → String
  | .null => "null"
  | .bool b => Text.ofBool b
  | .number n => n.text
  | .string s => quote s
  | .array items => block "[" "]" indent (prettyItems (indent + 1) items)
  | .object members => block "\x7b" "\x7d" indent (prettyMembers (indent + 1) members)

def prettyItems (indent : Nat) : List Json → List String
  | [] => []
  | item :: rest => item.prettyAt indent :: prettyItems indent rest

def prettyMembers (indent : Nat) : List (String × Json) → List String
  | [] => []
  | (name, value) :: rest =>
    (quote name ++ ": " ++ value.prettyAt indent) :: prettyMembers indent rest

end

def pretty (value : Json) : String :=
  value.prettyAt 0

end Json

end SchemaBridge
