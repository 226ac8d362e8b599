import SchemaBridge.Json.Basic

/-!
This module contains the annotation keywords, which every kind of schema may carry.
-/

namespace SchemaBridge

namespace JsonSchema

/--
The annotations of a schema; `none` means that the keyword is absent. The values of `default` and
`const` may be `null`.
-/
structure Annotations where
  id : Option String := none
  dialect : Option String := none
  comment : Option String := none
  title : Option String := none
  description : Option String := none
  default : Option Json := none
  examples : Option (List Json) := none
  readOnly : Option Bool := none
  writeOnly : Option Bool := none
  deprecated : Option Bool := none
  enum : Option (List Json) := none
  const : Option Json := none
  deriving Inhabited

namespace Annotations

def isEmpty (a : Annotations) : Bool :=
  a.id.isNone && a.dialect.isNone && a.comment.isNone && a.title.isNone && a.description.isNone &&
    a.default.isNone && a.examples.isNone && a.readOnly.isNone && a.writeOnly.isNone &&
    a.deprecated.isNone && a.enum.isNone && a.const.isNone

@[simp]
theorem isEmpty_iff (a : Annotations) : a.isEmpty = true ↔ a = {} := by
  obtain ⟨_, _, _, _, _, _, _, _, _, _, _, _⟩ := a
  simp [isEmpty, and_assoc]

end Annotations

end JsonSchema

end SchemaBridge
