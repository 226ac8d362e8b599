import SchemaBridge.JsonSchema.Construct
import SchemaBridge.Notice

/-!
This module contains the flattening of nested objects: the properties of a property that is an
object move up, under keys that join the names on the way to them. Only objects with at least one
declared property are taken apart. Main definition: `JsonSchema.flatten`.
-/

namespace SchemaBridge

namespace JsonSchema

variable {m : Type → Type} [Monad m] [MonadExceptOf SchemaError m] [MonadNotice m]

structure FlattenOptions where
  maxDepth : Int := 10
  separator : String := "__"
  deriving DecidableEq, Repr

/--
The properties and required names that an object has been given so far.
-/
structure FlatObject where
  properties : Members JsonSchema
  required : Option (List String)

namespace FlatObject

def addProperty (o : FlatObject) (key : String) (value : JsonSchema) : m FlatObject :=
  if o.properties.contains key then
    throw (.keyCollision key)
  else
    pure { o with properties := o.properties ++ [(key, value)] }

/--
Take a name from the required ones.
-/
def unrequire (o : FlatObject) (name : String) : FlatObject :=
  { o with required := o.required.map fun names => names.filter (· != name) }

/--
Require a name, which goes to the end of the list if it is new.
-/
def require (o : FlatObject) (name : String) : FlatObject :=
  let names := o.required.getD []
  { o with required := some (if names.contains name then names else names ++ [name]) }

/--
Add the properties `lifted` of the property `parent`. A joined key is required if both the parent
and the name it joins are.
-/
def addLifted (separator parent : String) (parentRequired : Bool)
    (childRequired : Option (List String)) (o : FlatObject)
    : List (String × JsonSchema) → m FlatObject
  | [] => pure o
  | (name, value) :: rest => do
    let key := parent ++ separator ++ name
    let o := if parentRequired && requires childRequired name then o.require key else o
    addLifted separator parent parentRequired childRequired (← o.addProperty key value) rest

end FlatObject

mutual

/--
The properties and required names of a nested object after flattening, or `none` for a schema that
stays as it is: any but an object with properties, and any at all below the last level.
-/
def flattenNested (separator : String) (depth : Nat) : JsonSchema → m (Option FlatObject)
  | ⟨_, .object (some (property :: rest)) required _⟩ =>
    match depth with
    | 0 => pure none
    | depth + 1 =>
      some <$> flattenProperties separator depth required ⟨[], required⟩ (property :: rest)
  | _ => pure none

/--
Add properties to `o`, taking nested objects apart on `depth` further levels. `declared` is the
`required` keyword of the object that declares the properties.
-/
def flattenProperties (separator : String) (depth : Nat) (declared : Option (List String))
    (o : FlatObject) : List (String × JsonSchema) → m FlatObject
  | [] => pure o
  | (name, value) :: rest => do
    let o ← match ← flattenNested separator depth value with
      | none => o.addProperty name value
      | some nested =>
        notice (.lifting name)
        (o.unrequire name).addLifted separator name (requires declared name) nested.required
          nested.properties
    flattenProperties separator depth declared o rest

end

/--
Flatten the properties of an object on at most `maxDepth` levels. Any other schema stays as it is,
and so does every schema if `maxDepth` is not positive.
-/
def flattenM (s : JsonSchema) (maxDepth : Int) (separator : String) : m JsonSchema :=
  match s with
  | ⟨annotations, .object (some properties) required keywords⟩ =>
    if 0 < maxDepth then do
      notice (.flattening maxDepth separator)
      let flat ← flattenProperties separator maxDepth.toNat required ⟨[], required⟩ properties
      return ⟨annotations, .object (some flat.properties) flat.required keywords⟩
    else
      pure s
  | _ => pure s

def flatten (s : JsonSchema) (maxDepth : Int) (separator : String)
    : Except SchemaError JsonSchema :=
  s.flattenM maxDepth separator

end JsonSchema

end SchemaBridge
