import SchemaBridge.Json.Basic
import SchemaBridge.Reading.Error

/-!
This module contains the forms that typed data can take in JSON, as the operations of a class of
readers. A reader for some type of data is written once in terms of them and serves JSON values as
well as JSON texts.
-/

namespace SchemaBridge

namespace Reading

/--
The integers from `low` to `high`, under the name that errors use.
-/
structure IntegerForm where
  name : String
  low : Int
  high : Int

namespace IntegerForm

def int8 : IntegerForm := ⟨"i8", Int8.minValue.toInt, Int8.maxValue.toInt⟩

def int32 : IntegerForm := ⟨"i32", Int32.minValue.toInt, Int32.maxValue.toInt⟩

def int64 : IntegerForm := ⟨"i64", Int64.minValue.toInt, Int64.maxValue.toInt⟩

def uint8 : IntegerForm := ⟨"u8", 0, UInt8.size - 1⟩

/--
The integer that a number stands for, or why it is not of this form.
-/
def check (form : IntegerForm) (number : Json.Number) : Except Cause Int :=
  match number with
  | .integer value =>
    if form.low ≤ value ∧ value ≤ form.high then
      .ok value
    else
      .error (.invalidValue (.number number) form.name)
  | .float _ => .error (.invalidType (.number number) form.name)

end IntegerForm

/--
Two values in an array: on their own, or as the parts of a variant.
-/
inductive PairForm where
  | tuple
  | variant (name : String)

namespace PairForm

def expected : PairForm → String
  | .tuple => "a tuple of size 2"
  | .variant name => "tuple variant " ++ name

def expectedLength : PairForm → String
  | .tuple => "a tuple of size 2"
  | .variant name => "tuple variant " ++ name ++ " with 2 elements"

end PairForm

/--
One member of a record: `σ` holds what has been read of the record, `read` adds this member.
-/
structure Member (m : Type → Type) (σ : Type) where
  name : String
  isRead : σ → Bool
  read : σ → m σ

/--
Whether a record may also be written as an array of the values of its members, and whether members
at the end may then be left out.
-/
inductive ArrayForm where
  | refused
  | whole
  | shortened
  deriving DecidableEq, Repr

/--
A record is an object, or an array of the values of its members. Members of other names are skipped
unless `other` takes them in. `finish` gives the record, or the reason why there is none.
-/
structure RecordForm (m : Type → Type) (σ α : Type) where
  name : String
  members : List (Member m σ)
  other : Option (String → σ → m σ) := none
  array : ArrayForm
  start : σ
  finish : σ → Except Cause α

namespace RecordForm

def expected (form : RecordForm m σ α) : String :=
  "struct " ++ form.name

def expectedLength (form : RecordForm m σ α) : String :=
  "struct " ++ form.name ++ " with " ++ toString form.members.length ++ " elements"

def member? (form : RecordForm m σ α) (name : String) : Option (Member m σ) :=
  form.members.find? fun member => member.name == name

end RecordForm

/--
One alternative of a choice, which is written as its name alone or as an object with that name as
its only member.
-/
inductive Variant (m : Type → Type) (α : Type) where
  | unit (value : α)
  | single (read : m α)
  | pair (read : m α)

/--
Readers of typed data.
-/
class Source (m : Type → Type) extends Monad m where
  string : m String
  boolean : m Bool
  integer (form : IntegerForm) : m Int
  /-- Any value at all, kept as it is. -/
  json : m Json
  optional (value : m α) : m (Option α)
  sequence (item : m α) : m (List α)
  entries (value : m α) : m (Members α)
  pair (form : PairForm) (first : m α) (second : m β) : m (α × β)
  record (form : RecordForm m σ α) : m α
  choice (variants : List (String × Variant m α)) : m α
  /-- Refuse a value for the depth at which it stands. -/
  tooDeep : m α

/--
The alternatives without parts, each under its name.
-/
def unitVariants (name : α → String) (values : List α) : List (String × Variant m α) :=
  values.map fun value => (name value, .unit value)

/--
The value of a member that has been read.
-/
def present (name : String) (value : Option α) : Except Cause α :=
  match value with
  | some value => .ok value
  | none => .error (.missingMember name)

end Reading

end SchemaBridge
