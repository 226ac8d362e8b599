import SchemaBridge.Json.NumberScanner

/-!
This module contains the reading of JSON texts. Main definitions: `Scanner.value` reads one value,
`Scanner.skipValue` moves over one without keeping it, `Json.parse` reads a whole text.
-/

namespace SchemaBridge

namespace Json

/--
How many arrays and objects may enclose each other in a text.
-/
def nestingLimit : Nat := 127

namespace Scanner

/--
Read the members of an object up to its closing brace, in the order of the text. There are at most
`bound` members.
-/
def members (value : Scanner Json) (bound : Nat) (first : Bool)
    : Scanner (List (String × Json)) := do
  match bound with
  | 0 => return []
  | bound + 1 =>
    if ← nextName first then
      let name ← string
      colon
      let found ← value
      return (name, found) :: (← members value bound false)
    else
      return []

/--
Read a value that is neither an array nor an object.
-/
def scalar : Scanner Json := do
  match ← peekToken? with
  | none => failPast .endInValue
  | some 'n' => next; word ['u', 'l', 'l']; return .null
  | some 't' => next; word ['r', 'u', 'e']; return .bool true
  | some 'f' => next; word ['a', 'l', 's', 'e']; return .bool false
  | some '-' => next; return .number (← number true)
  | some '"' => return .string (← string)
  | some c => if isDigit c then return .number (← number false) else failPast .valueExpected

/--
Read a value in which arrays and objects are nested at most `nesting` deep. Of members of one name
the first keeps its place and the last its value.
-/
def value (nesting : Nat) : Scanner Json := do
  match ← peekToken? with
  | some '[' =>
    match nesting with
    | 0 => failPast .nestedTooDeeply
    | nesting + 1 =>
      next
      let items ← scanItems (fun _ => value nesting) (← remaining) 0
      endArray
      return .array items
  | some '{' =>
    match nesting with
    | 0 => failPast .nestedTooDeeply
    | nesting + 1 =>
      next
      let read ← members (value nesting) (← remaining) true
      endObject
      return .object (Members.ofList read)
  | _ => scalar

/--
Move over a string up to its closing quote. Escapes need only be well formed on their own.
-/
def skipStringTail (position : Position) (rest : List Char) : Except ParseError Cursor :=
  match rest with
  | [] => .error ⟨.endInString, position⟩
  | '"' :: rest => .ok ⟨rest, position.after '"'⟩
  | '\\' :: rest =>
    let position := position.after '\\'
    match rest with
    | [] => .error ⟨.endInString, position⟩
    | 'u' :: rest =>
      let position := position.after 'u'
      match rest with
      | a :: b :: c :: d :: rest' =>
        match hexUnit? a b c d with
        | none => .error (hexFault position rest)
        | some _ => skipStringTail (position.afterBytes rest 4) rest'
      | rest => .error (hexFault position rest)
    | c :: rest =>
      match escaped? c with
      | some _ => skipStringTail (position.after c) rest
      | none => .error ⟨.invalidEscape, position.afterByte c⟩
  | c :: rest =>
    if c.toNat < 0x20 then
      .error ⟨.controlCharacter, position⟩
    else
      skipStringTail (position.after c) rest

def skipString : Scanner Unit := do
  next
  let c ← get
  set (← skipStringTail c.position c.rest)

def skipExponent : Scanner Unit := do
  next
  match ← peek? with
  | some '+' | some '-' => next
  | _ => pure ()
  match ← peek? with
  | some c => unless isDigit c do failPast .invalidNumber
  | none => failHere .invalidNumber
  discard digits

/--
Move over a number behind its minus sign.
-/
def skipNumber : Scanner Unit := do
  match ← peek? with
  | some '0' =>
    next
    if let some c ← peek? then
      if isDigit c then failPast .invalidNumber
  | some c =>
    unless isDigit c do failPast .invalidNumber
    discard digits
  | none => failHere .invalidNumber
  match ← peek? with
  | some '.' =>
    next
    if (← digits).isEmpty then failPast .invalidNumber
    match ← peek? with
    | some 'e' | some 'E' => skipExponent
    | _ => return
  | some 'e' | some 'E' => skipExponent
  | _ => return

/--
An array or an object whose end has not been reached.
-/
inductive Container where
  | list
  | map

/--
Close containers as long as their ends come next. `after` tells whether an item has just been read,
so that a comma may follow. The answer is the containers that go on, at the start of an item.
-/
def skipEnds (containers : List Container) (after : Bool) : Scanner (List Container) := do
  match containers with
  | [] => return []
  | innermost :: outer =>
    match innermost, ← peekToken? with
    | .list, some ']' => next; skipEnds outer true
    | .map, some '}' => next; skipEnds outer true
    | .list, none => failPast .endInList
    | .map, none => failPast .endInObject
    | .list, some c =>
      if !after then return containers
      else if c = ',' then next; return containers
      else failPast .commaOrListEndExpected
    | .map, some c =>
      if !after then return containers
      else if c = ',' then next; return containers
      else failPast .commaOrObjectEndExpected

/--
Move to the value of the next member of an object.
-/
def skipName : Scanner Unit := do
  match ← peekToken? with
  | some '"' => skipString
  | some _ => failPast .keyNotString
  | none => failPast .endInObject
  colon

/--
Move over a value inside the given containers and then over the rest of them. Nesting is not
limited. `bound` is a bound on the number of values.
-/
def skipWithin (containers : List Container) (bound : Nat) : Scanner Unit := do
  match bound with
  | 0 => return
  | bound + 1 =>
    let (containers, after) ← match ← peekToken? with
      | none => failPast .endInValue
      | some 'n' => next; word ['u', 'l', 'l']; pure (containers, true)
      | some 't' => next; word ['r', 'u', 'e']; pure (containers, true)
      | some 'f' => next; word ['a', 'l', 's', 'e']; pure (containers, true)
      | some '-' => next; skipNumber; pure (containers, true)
      | some '"' => skipString; pure (containers, true)
      | some '[' => next; pure (.list :: containers, false)
      | some '{' => next; pure (.map :: containers, false)
      | some c =>
        if isDigit c then skipNumber; pure (containers, true) else failPast .valueExpected
    match ← skipEnds containers after with
    | [] => return
    | .list :: outer => skipWithin (.list :: outer) bound
    | .map :: outer =>
      skipName
      skipWithin (.map :: outer) bound

def skipValue : Scanner Unit := do
  skipWithin [] (← remaining)

/--
Only white space may follow.
-/
def endOfText : Scanner Unit := do
  if (← peekToken?).isSome then failPast .trailingCharacters

end Scanner

/--
Read a text that holds one value with arrays and objects nested at most `nesting` deep.
-/
def parseNested (nesting : Nat) (text : String) : Except ParseError Json :=
  (do
    let value ← Scanner.value nesting
    Scanner.endOfText
    return value : Scanner Json).run' (Cursor.ofString text)

def parse (text : String) : Except ParseError Json :=
  parseNested nestingLimit text

end Json

end SchemaBridge
