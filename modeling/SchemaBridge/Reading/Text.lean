import SchemaBridge.Json.Parser
import SchemaBridge.Reading.Source

/-!
This module contains the reading of typed data from JSON texts. Errors say where in the text they
were found. An error that concerns an array or object as a whole is placed behind its end, or where
its end was looked for in vain.
-/

namespace SchemaBridge

namespace Reading

/--
Readers over a text; the number is how many more arrays and objects may enclose each other.
-/
abbrev TextReader := ReaderT Nat (EStateM Error Json.Cursor)

open Json (Scanner Cursor)

/--
Take a step of the reader of JSON texts.
-/
def TextReader.ofScanner (scan : Scanner α) : TextReader α := fun _ cursor =>
  match scan cursor with
  | .ok (value, cursor) => .ok value cursor
  | .error e => .error (.ofParseError e) cursor

instance : MonadLift Scanner TextReader where
  monadLift := TextReader.ofScanner

namespace TextReader

/--
Fail without a place, which the enclosing array or object is to give.
-/
def fail (cause : Cause) : TextReader α :=
  throw { cause }

/--
Fail at the place of what has been read so far.
-/
def failHere (cause : Cause) : TextReader α := do
  throw { cause, position := some (← getThe Cursor).position }

/--
Read a part of a value.
-/
def within (segment : Segment) (read : TextReader α) : TextReader α := fun nesting cursor =>
  match read nesting cursor with
  | .ok value cursor => .ok value cursor
  | .error e cursor => .error (e.inside segment) cursor

/--
The first character of the value that comes next.
-/
def start : TextReader Char := do
  match ← Scanner.peekToken? with
  | some c => return c
  | none => Scanner.failPast .endInValue

/--
Fail since the value that comes next is not the expected one.
-/
def wrongType (expected : String) : TextReader α := do
  let found ← match ← start with
    | 'n' => Scanner.next; Scanner.word ['u', 'l', 'l']; pure .null
    | 't' => Scanner.next; Scanner.word ['r', 'u', 'e']; pure (.boolean true)
    | 'f' => Scanner.next; Scanner.word ['a', 'l', 's', 'e']; pure (.boolean false)
    | '-' => Scanner.next; pure (.number (← Scanner.number true))
    | '"' => pure (.string (← Scanner.string))
    | '[' => pure .sequence
    | '{' => pure .map
    | c =>
      if Json.isDigit c then
        pure (.number (← Scanner.number false))
      else
        Scanner.failPast .valueExpected
  failHere (.invalidType found expected)

inductive Container where
  | list
  | map

/--
Move over the end of a container if it comes next, and otherwise as far as was looked for it.
-/
def Container.seekEnd (container : Container) (cursor : Cursor) : Cursor :=
  let cursor := cursor.skipWhile Json.isSpace
  match container, cursor.rest with
  | .list, ']' :: _ => cursor.next
  | .list, ',' :: _ => cursor.next.skipWhile Json.isSpace
  | .map, '}' :: _ => cursor.next
  | _, _ => cursor

def Container.close : Container → Scanner Unit
  | .list => Scanner.endArray
  | .map => Scanner.endObject

/--
Move over an opening bracket or brace, which comes next, and read what it encloses.
-/
def enclosed (read : TextReader α) : TextReader α := fun nesting =>
  match nesting with
  | 0 => ofScanner (Scanner.failPast .nestedTooDeeply) 0
  | nesting + 1 => do
    ofScanner Scanner.next nesting
    read nesting

/--
Read a whole container, from its opening bracket or brace on.
-/
def contained (container : Container) (read : TextReader α) : TextReader α :=
  enclosed fun nesting cursor =>
    match read nesting cursor with
    | .ok value cursor => (do ofScanner container.close; return value : TextReader α) nesting cursor
    | .error e cursor => .error (e.orAt (container.seekEnd cursor).position) cursor

/--
Read the name of the next member, if there is one. An error in it has an unknown path.
-/
def name? (first : Bool) : TextReader (Option String) :=
  within .unknown do
    if ← Scanner.nextName first then
      return some (← Scanner.string)
    else
      return none

def items (item : TextReader α) : TextReader (List α) := do
  Json.scanItems (fun index => within (.index index) item) (← Scanner.remaining) 0

/--
Read the members of an object in the order of the text.
-/
def members (value : TextReader α) : TextReader (List (String × α)) := do
  go (← Scanner.remaining) true
where
  go (bound : Nat) (first : Bool) : TextReader (List (String × α)) := do
    match bound with
    | 0 => return []
    | bound + 1 =>
      match ← name? first with
      | none => return []
      | some name =>
        Scanner.colon
        let value ← within (.member name) value
        return (name, value) :: (← go bound false)

/--
Read an item that an array has to have at `index`.
-/
def itemAt (index : Nat) (expectedLength : String) (item : TextReader α) : TextReader α := do
  if ← Scanner.nextItem (index == 0) then
    within (.index index) item
  else
    fail (.invalidLength index expectedLength)

def pair (form : PairForm) (first : TextReader α) (second : TextReader β)
    : TextReader (α × β) := do
  match ← start with
  | '[' =>
    contained .list do
      let x ← itemAt 0 form.expectedLength first
      return (x, ← itemAt 1 form.expectedLength second)
  | _ => wrongType form.expected

/--
Read the members of a record from the items of an array.
-/
def recordItems (form : RecordForm TextReader σ α) (index : Nat) (state : σ)
    : List (Member TextReader σ) → TextReader σ
  | [] => return state
  | member :: others => do
    if ← Scanner.nextItem (index == 0) then
      let state ← within (.index index) (member.read state)
      recordItems form (index + 1) state others
    else if form.array = .shortened then
      return state
    else
      fail (.invalidLength index form.expectedLength)

def recordMembers (form : RecordForm TextReader σ α) (state : σ) (bound : Nat) (first : Bool)
    : TextReader σ := do
  match bound with
  | 0 => return state
  | bound + 1 =>
    match ← name? first with
    | none => return state
    | some name =>
      let state ← match form.member? name, form.other with
        | none, none =>
          Scanner.colon
          within (.member name) Scanner.skipValue
          pure state
        | none, some other =>
          Scanner.colon
          within (.member name) (other name state)
        | some member, _ =>
          if member.isRead state then
            fail (.duplicateMember name)
          else
            Scanner.colon
            within (.member name) (member.read state)
      recordMembers form state bound false

def finish (form : RecordForm TextReader σ α) (state : σ) : TextReader α :=
  match form.finish state with
  | .ok result => return result
  | .error cause => fail cause

def record (form : RecordForm TextReader σ α) : TextReader α := do
  match ← start with
  | '[' =>
    if form.array = .refused then
      wrongType form.expected
    else
      contained .list do
        finish form (← recordItems form 0 form.start form.members)
  | '{' =>
    contained .map do
      finish form (← recordMembers form form.start (← Scanner.remaining) true)
  | _ => wrongType form.expected

def string : TextReader String := do
  match ← start with
  | '"' => Scanner.string
  | _ => wrongType "a string"

def boolean : TextReader Bool := do
  match ← start with
  | 't' => Scanner.next; Scanner.word ['r', 'u', 'e']; return true
  | 'f' => Scanner.next; Scanner.word ['a', 'l', 's', 'e']; return false
  | _ => wrongType "a boolean"

def null : TextReader Unit := do
  match ← start with
  | 'n' => Scanner.next; Scanner.word ['u', 'l', 'l']
  | _ => wrongType "unit"

def integer (form : IntegerForm) : TextReader Int := do
  let c ← start
  if c = '-' || Json.isDigit c then
    if c = '-' then Scanner.next
    match form.check (← Scanner.number (c == '-')) with
    | .ok value => return value
    | .error cause => failHere cause
  else
    wrongType form.name

def optional (value : TextReader α) : TextReader (Option α) := do
  match ← Scanner.peekToken? with
  | some 'n' => Scanner.next; Scanner.word ['u', 'l', 'l']; return none
  | _ => some <$> value

def variantName (variants : List (String × Variant TextReader α))
    : TextReader (String × Variant TextReader α) := do
  match ← start with
  | '"' =>
    let name ← Scanner.string
    match Members.get? variants name with
    | some variant => return (name, variant)
    | none => failHere (.unknownVariant name (Members.names variants))
  | _ => wrongType "variant identifier"

/--
Look for the name of a variant as the first member of an object.
-/
def variantMember : TextReader Unit := do
  match ← Scanner.peekToken? with
  | some '"' => return
  | some '}' => Scanner.failPast .valueExpected
  | some _ => Scanner.failPast .keyNotString
  | none => Scanner.failPast .endInObject

def choice (variants : List (String × Variant TextReader α)) : TextReader α := do
  match ← start with
  | '"' =>
    let (name, variant) ← variantName variants
    match variant with
    | .unit value => return value
    | .single _ =>
      within (.member name) (fail (.invalidType .unitVariant "newtype variant"))
    | .pair _ =>
      within (.member name) (fail (.invalidType .unitVariant "tuple variant"))
  | '{' =>
    let value ← enclosed do
      variantMember
      let (name, variant) ← variantName variants
      Scanner.colon
      within (.member name) <|
        match variant with
        | .unit value => do null; return value
        | .single read => read
        | .pair read => read
    match ← Scanner.peekToken? with
    | some '}' => Scanner.next; return value
    | some _ => Scanner.failHere .valueExpected
    | none => Scanner.failHere .endInObject
  | _ => Scanner.failPast .valueExpected

/--
Read any value. The members of objects are kept as `collect` has them; in the path of an error they
all count.
-/
def json (collect : List (String × Json) → Members Json) : TextReader Json := do
  go (← read)
where
  go (nesting : Nat) : TextReader Json := do
    match ← Scanner.peekToken? with
    | some '[' =>
      match nesting with
      | 0 => Scanner.failPast .nestedTooDeeply
      | nesting + 1 =>
        Scanner.next
        let found ← items (go nesting)
        Scanner.endArray
        return .array found
    | some '{' =>
      match nesting with
      | 0 => Scanner.failPast .nestedTooDeeply
      | nesting + 1 =>
        Scanner.next
        let found ← members (go nesting)
        Scanner.endObject
        return .object (collect found)
    | _ => Scanner.scalar

end TextReader

instance : Source TextReader where
  string := TextReader.string
  boolean := TextReader.boolean
  integer := TextReader.integer
  json := TextReader.json Members.ofList
  optional := TextReader.optional
  sequence item := do
    match ← TextReader.start with
    | '[' => TextReader.contained .list (TextReader.items item)
    | _ => TextReader.wrongType "a sequence"
  entries value := do
    match ← TextReader.start with
    | '{' => TextReader.contained .map (Members.ofList <$> TextReader.members value)
    | _ => TextReader.wrongType "a map"
  pair := TextReader.pair
  record := TextReader.record
  choice := TextReader.choice
  tooDeep := TextReader.ofScanner (Scanner.failPast .nestedTooDeeply)

/--
Read the value at the front of a text. What follows it does not matter.
-/
def TextReader.run (read : TextReader α) (text : String) : Except Error α :=
  match read Json.nestingLimit (Cursor.ofString text) with
  | .ok value _ => .ok value
  | .error e _ => .error e

end Reading

end SchemaBridge
