import SchemaBridge.Json.Fault

/-!
This module contains the cursor that moves over a JSON text and the steps from which the readers of
such texts are built: white space, words, strings, and the separators of arrays and objects.
-/

namespace SchemaBridge

namespace Json

/--
The part of a text that is still to be read, and where it starts.
-/
structure Cursor where
  rest : List Char
  position : Position := {}

namespace Cursor

def ofString (text : String) : Cursor :=
  { rest := text.toList }

def next (c : Cursor) : Cursor :=
  match c.rest with
  | [] => c
  | ch :: rest => ⟨rest, c.position.after ch⟩

/--
The place behind the first byte that is still to be read, or the end of the text.
-/
def pastByte (c : Cursor) : Position :=
  match c.rest with
  | [] => c.position
  | ch :: _ => c.position.afterByte ch

/--
Move over the characters at the front that satisfy `p`.
-/
def skipWhile (p : Char → Bool) (c : Cursor) : Cursor :=
  go c.position c.rest
where
  go (position : Position) (rest : List Char) : Cursor :=
    match rest with
    | [] => ⟨[], position⟩
    | ch :: rest' => if p ch then go (position.after ch) rest' else ⟨rest, position⟩

end Cursor

def isSpace (c : Char) : Bool :=
  c == ' ' || c == '\n' || c == '\t' || c == '\r'

def isDigit (c : Char) : Bool :=
  '0' ≤ c && c ≤ '9'

def hexDigit? (c : Char) : Option Nat :=
  if isDigit c then
    some (c.toNat - '0'.toNat)
  else if 'a' ≤ c && c ≤ 'f' then
    some (c.toNat - 'a'.toNat + 10)
  else if 'A' ≤ c && c ≤ 'F' then
    some (c.toNat - 'A'.toNat + 10)
  else
    none

/--
The number written as four hexadecimal digits.
-/
def hexUnit? (a b c d : Char) : Option Nat := do
  return (((← hexDigit? a) * 16 + (← hexDigit? b)) * 16 + (← hexDigit? c)) * 16 + (← hexDigit? d)

/--
The character that a one-letter escape stands for.
-/
def escaped? (c : Char) : Option Char :=
  match c with
  | '"' => some '"'
  | '\\' => some '\\'
  | '/' => some '/'
  | 'b' => some '\x08'
  | 'f' => some '\x0c'
  | 'n' => some '\n'
  | 'r' => some '\r'
  | 't' => some '\t'
  | _ => none

abbrev Scanner := StateT Cursor (Except ParseError)

namespace Scanner

/--
Fail with the place of what has been read so far.
-/
def failHere (fault : Fault) : Scanner α := do
  throw ⟨fault, (← get).position⟩

/--
Fail with the place behind the byte that comes next.
-/
def failPast (fault : Fault) : Scanner α := do
  throw ⟨fault, (← get).pastByte⟩

def peek? : Scanner (Option Char) :=
  return (← get).rest.head?

def next : Scanner Unit :=
  modify Cursor.next

def skipSpace : Scanner Unit :=
  modify (Cursor.skipWhile isSpace)

/--
The first character that is not white space.
-/
def peekToken? : Scanner (Option Char) := do
  skipSpace
  peek?

/--
Move over the digits at the front and give them.
-/
def digits : Scanner (List Char) := do
  let found := (← get).rest.takeWhile isDigit
  modify (Cursor.skipWhile isDigit)
  return found

/--
Read exactly the given word.
-/
def word : List Char → Scanner Unit
  | [] => return
  | expected :: rest => do
    match ← peek? with
    | none => failHere .endInValue
    | some c =>
      if c = expected then
        next
        word rest
      else
        failPast .identifierExpected

/--
Why four characters from `rest` are no hexadecimal escape: the text ends within four bytes, or
those four bytes are not digits.
-/
def hexFault (position : Position) (rest : List Char) : ParseError :=
  if (String.ofList (rest.take 4)).utf8ByteSize < 4 then
    ⟨.endInString, position.afterBytes rest 4⟩
  else
    ⟨.invalidEscape, position.afterBytes rest 4⟩

/--
Read a string up to its closing quote. Escapes of two UTF-16 surrogates give one character; a
surrogate without its partner is refused.
-/
def stringTail (read : List Char) (position : Position) (rest : List Char)
    : Except ParseError (String × Cursor) :=
  match rest with
  | [] => .error ⟨.endInString, position⟩
  | '"' :: rest => .ok (String.ofList read.reverse, ⟨rest, position.after '"'⟩)
  | '\\' :: rest =>
    let position := position.after '\\'
    match rest with
    | [] => .error ⟨.endInString, position⟩
    | 'u' :: rest =>
      let position := position.after 'u'
      match rest with
      | a :: b :: c :: d :: rest' =>
        match hexUnit? a b c d with
        | none => .error (hexFault position rest)
        | some unit =>
          let position := position.afterBytes rest 4
          if 0xDC00 ≤ unit ∧ unit ≤ 0xDFFF then
            .error ⟨.unpairedSurrogate, position⟩
          else if 0xD800 ≤ unit ∧ unit ≤ 0xDBFF then
            match rest' with
            | [] => .error ⟨.endInString, position⟩
            | '\\' :: rest =>
              let position := position.after '\\'
              match rest with
              | [] => .error ⟨.endInString, position⟩
              | 'u' :: rest =>
                let position := position.after 'u'
                match rest with
                | a :: b :: c :: d :: rest' =>
                  match hexUnit? a b c d with
                  | none => .error (hexFault position rest)
                  | some low =>
                    let position := position.afterBytes rest 4
                    if 0xDC00 ≤ low ∧ low ≤ 0xDFFF then
                      let code := 0x10000 + (unit - 0xD800) * 0x400 + (low - 0xDC00)
                      stringTail (Char.ofNat code :: read) position rest'
                    else
                      .error ⟨.unpairedSurrogate, position⟩
                | rest => .error (hexFault position rest)
              | c :: _ => .error ⟨.surrogatePairCut, position.afterByte c⟩
            | c :: _ => .error ⟨.surrogatePairCut, position.afterByte c⟩
          else
            stringTail (Char.ofNat unit :: read) position rest'
      | rest => .error (hexFault position rest)
    | c :: rest =>
      match escaped? c with
      | some value => stringTail (value :: read) (position.after c) rest
      | none => .error ⟨.invalidEscape, position.afterByte c⟩
  | c :: rest =>
    if c.toNat < 0x20 then
      .error ⟨.controlCharacter, position.after c⟩
    else
      stringTail (c :: read) (position.after c) rest

/--
Read a string whose opening quote comes next.
-/
def string : Scanner String := do
  next
  let c ← get
  let (value, c) ← stringTail [] c.position c.rest
  set c
  return value

/--
Find out whether an array goes on, and move to its next item.
-/
def nextItem (first : Bool) : Scanner Bool := do
  match ← peekToken? with
  | none => failPast .endInList
  | some ']' => return false
  | some c =>
    if first then
      return true
    else if c = ',' then
      next
      match ← peekToken? with
      | some ']' => failPast .trailingComma
      | some _ => return true
      | none => failPast .endInValue
    else
      failPast .commaOrListEndExpected

/--
Find out whether an object goes on, and move to the opening quote of its next name.
-/
def nextName (first : Bool) : Scanner Bool := do
  match ← peekToken? with
  | none => failPast .endInObject
  | some '}' => return false
  | some c =>
    if first then
      if c = '"' then return true else failPast .keyNotString
    else if c = ',' then
      next
      match ← peekToken? with
      | some '"' => return true
      | some '}' => failPast .trailingComma
      | some _ => failPast .keyNotString
      | none => failPast .endInValue
    else
      failPast .commaOrObjectEndExpected

def colon : Scanner Unit := do
  match ← peekToken? with
  | some ':' => next
  | some _ => failPast .colonExpected
  | none => failPast .endInObject

/--
Read the closing bracket of an array that is to have no further items.
-/
def endArray : Scanner Unit := do
  match ← peekToken? with
  | some ']' => next
  | some ',' =>
    next
    match ← peekToken? with
    | some ']' => failPast .trailingComma
    | _ => failPast .trailingCharacters
  | some _ => failPast .trailingCharacters
  | none => failPast .endInList

/--
Read the closing brace of an object that is to have no further members.
-/
def endObject : Scanner Unit := do
  match ← peekToken? with
  | some '}' => next
  | some ',' => failPast .trailingComma
  | some _ => failPast .trailingCharacters
  | none => failPast .endInObject

/--
A bound on the number of items that the text still to be read can hold.
-/
def remaining : Scanner Nat :=
  return (← get).rest.length + 1

end Scanner

variable {m : Type → Type} [Monad m] [MonadLiftT Scanner m]

/--
Read the items of an array up to its closing bracket, each with `item`, which is given its index.
There are at most `bound` items, and the first one has the index `index`.
-/
def scanItems (item : Nat → m α) (bound index : Nat) : m (List α) :=
  match bound with
  | 0 => return []
  | bound + 1 => do
    if ← Scanner.nextItem (index == 0) then
      let value ← item index
      return value :: (← scanItems item bound (index + 1))
    else
      return []

end Json

end SchemaBridge
