import SchemaBridge.Json.Printer
import SchemaBridge.Log.Level
import SchemaBridge.Text.Quoted

/-!
This module contains the two forms of a line in the log.
-/

namespace SchemaBridge

namespace Log

inductive Format where
  | compact
  | json
  deriving DecidableEq, Repr

def Value.compact : Value → String
  | .text shown => shown
  | .quoted shown => Text.quoted shown
  | .number n => toString n

def Value.toJson : Value → Json
  | .text shown => .string shown
  | .quoted shown => .string shown
  | .number n => .ofInt n

/--
The line for a notice.
-/
def line (format : Format) (n : Notice) : String :=
  match format with
  | .compact =>
    let values := n.values.map fun (name, value) => " " ++ name ++ "=" ++ value.compact
    n.level.name ++ " " ++ n.message ++ String.join values
  | .json =>
    let values := n.values.map fun (name, value) => (name, value.toJson)
    (Json.object
      [("level", .string n.level.name),
        ("fields", .object (("message", .string n.message) :: values))]).compact

end Log

end SchemaBridge
