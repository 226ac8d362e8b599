import SchemaBridge.Reading.Source

/-!
This module contains the reading of typed data from JSON values.
-/

namespace SchemaBridge

namespace Reading

abbrev ValueReader := ReaderT Json (Except Error)

namespace ValueReader

def found : Json → Found
  | .null => .null
  | .bool b => .boolean b
  | .number n => .number n
  | .string s => .string s
  | .array _ => .sequence
  | .object _ => .map

def fail (cause : Cause) : Except Error α :=
  .error { cause }

def wrongType (value : Json) (expected : String) : Except Error α :=
  fail (.invalidType (found value) expected)

/--
Read a part of a value.
-/
def within (segment : Segment) (read : ValueReader α) (part : Json) : Except Error α :=
  (read part).mapError (Error.inside segment)

def items (read : ValueReader α) (index : Nat) : List Json → Except Error (List α)
  | [] => .ok []
  | item :: rest => do
    let value ← within (.index index) read item
    return value :: (← items read (index + 1) rest)

def members (read : ValueReader α) : List (String × Json) → Except Error (Members α)
  | [] => .ok []
  | (name, part) :: rest => do
    let value ← within (.member name) read part
    return (name, value) :: (← members read rest)

/--
The error for an array that has more items than are read.
-/
def excess (length : Nat) : Except Error α :=
  fail (.invalidLength length "fewer elements in array")

def pairOfItems (form : PairForm) (first : ValueReader α) (second : ValueReader β)
    (values : List Json) : Except Error (α × β) :=
  match values with
  | [] => fail (.invalidLength 0 form.expectedLength)
  | x :: rest => do
    let x ← within (.index 0) first x
    match rest with
    | [] => fail (.invalidLength 1 form.expectedLength)
    | y :: rest =>
      let y ← within (.index 1) second y
      if rest.isEmpty then return (x, y) else excess values.length

def pair (form : PairForm) (first : ValueReader α) (second : ValueReader β) (value : Json)
    : Except Error (α × β) :=
  match form, value with
  | .variant _, .array [] => fail (.invalidType .null form.expected)
  | _, .array values => pairOfItems form first second values
  | .variant _, value => wrongType value "tuple variant"
  | .tuple, value => wrongType value form.expected

/--
Read the members of a record from the values of an array.
-/
def recordItems (form : RecordForm ValueReader σ α) (length index : Nat) (state : σ)
    : List (Member ValueReader σ) → List Json → Except Error σ
  | [], [] => .ok state
  | [], _ :: _ => excess length
  | _ :: _, [] =>
    if form.array = .shortened then .ok state else fail (.invalidLength index form.expectedLength)
  | member :: others, item :: rest => do
    let state ← within (.index index) (member.read state) item
    recordItems form length (index + 1) state others rest

def recordMembers (form : RecordForm ValueReader σ α) (state : σ)
    : List (String × Json) → Except Error σ
  | [] => .ok state
  | (name, part) :: rest =>
    match form.member? name, form.other with
    | none, none => recordMembers form state rest
    | none, some other => do
      let state ← within (.member name) (other name state) part
      recordMembers form state rest
    | some member, _ =>
      if member.isRead state then
        fail (.duplicateMember name)
      else do
        let state ← within (.member name) (member.read state) part
        recordMembers form state rest

def record (form : RecordForm ValueReader σ α) (value : Json) : Except Error α := do
  let state ← match form.array, value with
    | _, .object members => recordMembers form form.start members
    | .refused, value => wrongType value form.expected
    | _, .array items => recordItems form items.length 0 form.start form.members items
    | _, value => wrongType value form.expected
  (form.finish state).mapError fun cause => { cause }

/--
Read the variant `name` with the given content.
-/
def variant (variants : List (String × Variant ValueReader α)) (name : String)
    (content : Option Json) : Except Error α :=
  match Members.get? variants name with
  | none => fail (.unknownVariant name (Members.names variants))
  | some variant =>
    let read : Except Error α :=
      match variant, content with
      | .unit value, none => .ok value
      | .unit value, some .null => .ok value
      | .unit _, some content => wrongType content "unit"
      | .single read, some content => read content
      | .single _, none => fail (.invalidType .unitVariant "newtype variant")
      | .pair read, some content => read content
      | .pair _, none => fail (.invalidType .unitVariant "tuple variant")
    read.mapError (Error.inside (.member name))

def choice (variants : List (String × Variant ValueReader α)) (value : Json) : Except Error α :=
  match value with
  | .string name => variant variants name none
  | .object [(name, content)] => variant variants name (some content)
  | .object _ => fail (.invalidValue .map "map with a single key")
  | value => wrongType value "string or map"

end ValueReader

instance : Source ValueReader where
  string := fun
    | .string s => .ok s
    | value => ValueReader.wrongType value "a string"
  boolean := fun
    | .bool b => .ok b
    | value => ValueReader.wrongType value "a boolean"
  integer form := fun
    | .number n => (form.check n).mapError fun cause => { cause }
    | value => ValueReader.wrongType value form.name
  json value := .ok value
  optional read := fun
    | .null => .ok none
    | value => some <$> read value
  sequence item := fun
    | .array values => ValueReader.items item 0 values
    | value => ValueReader.wrongType value "a sequence"
  entries read := fun
    | .object members => ValueReader.members read members
    | value => ValueReader.wrongType value "a map"
  pair form first second value := ValueReader.pair form first second value
  record form value := ValueReader.record form value
  choice variants value := ValueReader.choice variants value
  tooDeep _ := ValueReader.fail (.json .nestedTooDeeply)

end Reading

end SchemaBridge
