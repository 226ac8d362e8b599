/-!
This module contains the string formats: the registered ones, which select a specialized string
type, and all others, which are kept by name.
-/

namespace SchemaBridge

namespace JsonSchema

inductive StringFormat where
  | dateTime
  | time
  | date
  | duration
  | email
  | hostname
  | ipv4
  | ipv6
  | uuid
  | uri
  | uriReference
  | uriTemplate
  | jsonPointer
  | relativeJsonPointer
  | regex
  deriving DecidableEq, Repr

namespace StringFormat

def name : StringFormat → String
  | .dateTime => "date-time"
  | .time => "time"
  | .date => "date"
  | .duration => "duration"
  | .email => "email"
  | .hostname => "hostname"
  | .ipv4 => "ipv4"
  | .ipv6 => "ipv6"
  | .uuid => "uuid"
  | .uri => "uri"
  | .uriReference => "uri-reference"
  | .uriTemplate => "uri-template"
  | .jsonPointer => "json-pointer"
  | .relativeJsonPointer => "relative-json-pointer"
  | .regex => "regex"

/--
The registered formats in the order of their registration.
-/
def registered : List StringFormat :=
  [.dateTime, .time, .date, .duration, .email, .hostname, .ipv4, .ipv6, .uuid, .uri, .uriReference,
    .uriTemplate, .jsonPointer, .relativeJsonPointer, .regex]

def ofName? (name : String) : Option StringFormat :=
  registered.find? fun format => format.name == name

/--
The place of a name in the registration order.
-/
def position? (name : String) : Option Nat :=
  registered.findIdx? fun format => format.name == name

theorem mem_registered (format : StringFormat) : format ∈ registered := by
  cases format <;> decide

theorem ofName?_name (format : StringFormat) : ofName? format.name = some format := by
  cases format <;> decide

theorem name_eq_of_ofName? {name : String} {format : StringFormat} (h : ofName? name = some format)
    : format.name = name := by
  simpa using List.find?_some h

end StringFormat

/--
The value of the `format` keyword.
-/
inductive Format where
  | known (format : StringFormat)
  | custom (name : String)
  deriving DecidableEq, Repr

namespace Format

def ofName (name : String) : Format :=
  match StringFormat.ofName? name with
  | some format => .known format
  | none => .custom name

def name : Format → String
  | .known format => format.name
  | .custom name => name

@[simp]
theorem name_ofName (name : String) : (ofName name).name = name := by
  unfold ofName
  split
  next h => exact StringFormat.name_eq_of_ofName? h
  next => rfl

end Format

end JsonSchema

end SchemaBridge
