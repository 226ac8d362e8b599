/-!
This module contains the ways in which a text fails to be JSON, and places in a text.
-/

namespace SchemaBridge

namespace Json

/--
A place in a text: the line, from 1, and the number of bytes before it on that line.
-/
structure Position where
  line : Nat := 1
  column : Nat := 0
  deriving DecidableEq, Repr, Inhabited

namespace Position

/--
The place behind the character `c`.
-/
def after (p : Position) (c : Char) : Position :=
  if c = '\n' then ⟨p.line + 1, 0⟩ else ⟨p.line, p.column + c.utf8Size⟩

/--
The place behind the first byte of the character `c`.
-/
def afterByte (p : Position) (c : Char) : Position :=
  if c = '\n' then ⟨p.line + 1, 0⟩ else ⟨p.line, p.column + 1⟩

/--
The place `count` bytes into the text `rest`.
-/
def afterBytes (p : Position) (rest : List Char) (count : Nat) : Position :=
  match rest with
  | [] => p
  | c :: rest =>
    if c.utf8Size ≤ count then
      (p.after c).afterBytes rest (count - c.utf8Size)
    else
      ⟨p.line, p.column + count⟩

end Position

inductive Fault where
  | endInList
  | endInObject
  | endInString
  | endInValue
  | colonExpected
  | commaOrListEndExpected
  | commaOrObjectEndExpected
  | identifierExpected
  | valueExpected
  | invalidEscape
  | invalidNumber
  | numberOutOfRange
  | controlCharacter
  | keyNotString
  | unpairedSurrogate
  | surrogatePairCut
  | trailingComma
  | trailingCharacters
  | nestedTooDeeply
  deriving DecidableEq, Repr

def Fault.message : Fault → String
  | .endInList => "EOF while parsing a list"
  | .endInObject => "EOF while parsing an object"
  | .endInString => "EOF while parsing a string"
  | .endInValue => "EOF while parsing a value"
  | .colonExpected => "expected `:`"
  | .commaOrListEndExpected => "expected `,` or `]`"
  | .commaOrObjectEndExpected => "expected `,` or `\x7d`"
  | .identifierExpected => "expected ident"
  | .valueExpected => "expected value"
  | .invalidEscape => "invalid escape"
  | .invalidNumber => "invalid number"
  | .numberOutOfRange => "number out of range"
  | .controlCharacter => "control character (\\u0000-\\u001F) found while parsing a string"
  | .keyNotString => "key must be a string"
  | .unpairedSurrogate => "lone leading surrogate in hex escape"
  | .surrogatePairCut => "unexpected end of hex escape"
  | .trailingComma => "trailing comma"
  | .trailingCharacters => "trailing characters"
  | .nestedTooDeeply => "recursion limit exceeded"

structure ParseError where
  fault : Fault
  position : Position
  deriving DecidableEq, Repr

/--
The text that names a place at the end of a message.
-/
def Position.suffix (p : Position) : String :=
  " at line " ++ toString p.line ++ " column " ++ toString p.column

def ParseError.message (e : ParseError) : String :=
  e.fault.message ++ e.position.suffix

end Json

end SchemaBridge
