/-!
This module contains the ways in which a text fails to be a regular expression, and the message that
marks the culprit below the text.
-/

namespace SchemaBridge

namespace Regex

/--
A place in a pattern: its line and its column, both from 1.
-/
structure Position where
  line : Nat := 1
  column : Nat := 1
  deriving DecidableEq, Repr, Inhabited

namespace Position

/--
The place behind the character `c`.
-/
def after (p : Position) (c : Char) : Position :=
  if c = '\n' then ⟨p.line + 1, 1⟩ else ⟨p.line, p.column + 1⟩

def le (p q : Position) : Bool :=
  p.line < q.line || (p.line == q.line && p.column ≤ q.column)

end Position

/--
The part of a pattern from one place up to another.
-/
structure Span where
  start : Position
  stop : Position
  deriving DecidableEq, Repr, Inhabited

namespace Span

def point (p : Position) : Span :=
  ⟨p, p⟩

def le (s t : Span) : Bool :=
  if s.start = t.start then s.stop.le t.stop else s.start.le t.start

end Span

inductive Fault where
  | classEscapeInvalid
  | classRangeInvalid
  | classRangeLiteral
  | classUnclosed
  | decimalInvalid
  | escapeHexEmpty
  | escapeHexInvalid
  | escapeHexInvalidDigit
  | escapeUnexpectedEnd
  | escapeUnrecognized
  | flagDanglingNegation
  | flagDuplicate
  | flagRepeatedNegation
  | flagUnexpectedEnd
  | flagUnrecognized
  | groupNameDuplicate
  | groupNameEmpty
  | groupNameInvalid
  | groupNameUnexpectedEnd
  | groupUnclosed
  | groupUnopened
  | nestedTooDeeply (limit : Nat)
  | repetitionCountInvalid
  | repetitionCountEmpty
  | repetitionCountUnclosed
  | repetitionMissing
  | wordBoundaryUnclosed
  | wordBoundaryUnrecognized
  | wordBoundaryUnexpectedEnd
  | propertyInvalid
  | backreference
  | lookAround
  | unicodeNotAllowed
  | notUtf8
  | propertyUnknown
  | shorthandUnavailable
  | caseUnavailable
  deriving DecidableEq, Repr

def Fault.message : Fault → String
  | .classEscapeInvalid => "invalid escape sequence found in character class"
  | .classRangeInvalid => "invalid character class range, the start must be <= the end"
  | .classRangeLiteral => "invalid range boundary, must be a literal"
  | .classUnclosed => "unclosed character class"
  | .decimalInvalid => "decimal literal invalid"
  | .escapeHexEmpty => "hexadecimal literal empty"
  | .escapeHexInvalid => "hexadecimal literal is not a Unicode scalar value"
  | .escapeHexInvalidDigit => "invalid hexadecimal digit"
  | .escapeUnexpectedEnd => "incomplete escape sequence, reached end of pattern prematurely"
  | .escapeUnrecognized => "unrecognized escape sequence"
  | .flagDanglingNegation => "dangling flag negation operator"
  | .flagDuplicate => "duplicate flag"
  | .flagRepeatedNegation => "flag negation operator repeated"
  | .flagUnexpectedEnd => "expected flag but got end of regex"
  | .flagUnrecognized => "unrecognized flag"
  | .groupNameDuplicate => "duplicate capture group name"
  | .groupNameEmpty => "empty capture group name"
  | .groupNameInvalid => "invalid capture group character"
  | .groupNameUnexpectedEnd => "unclosed capture group name"
  | .groupUnclosed => "unclosed group"
  | .groupUnopened => "unopened group"
  | .nestedTooDeeply limit =>
    "exceed the maximum number of nested parentheses/brackets (" ++ toString limit ++ ")"
  | .repetitionCountInvalid =>
    "invalid repetition count range, the start must be <= the end"
  | .repetitionCountEmpty => "repetition quantifier expects a valid decimal"
  | .repetitionCountUnclosed => "unclosed counted repetition"
  | .repetitionMissing => "repetition operator missing expression"
  | .wordBoundaryUnclosed =>
    "special word boundary assertion is either unclosed or contains an invalid character"
  | .wordBoundaryUnrecognized =>
    "unrecognized special word boundary assertion, valid choices are: start, end, start-half " ++
      "or end-half"
  | .wordBoundaryUnexpectedEnd =>
    "found either the beginning of a special word boundary or a bounded repetition on a \\b " ++
      "with an opening brace, but no closing brace"
  | .propertyInvalid => "invalid Unicode character class"
  | .backreference => "backreferences are not supported"
  | .lookAround => "look-around, including look-ahead and look-behind, is not supported"
  | .unicodeNotAllowed => "Unicode not allowed here"
  | .notUtf8 => "pattern can match invalid UTF-8"
  | .propertyUnknown => "Unicode property not found"
  | .shorthandUnavailable =>
    "Unicode-aware Perl class not found (make sure the unicode-perl feature is enabled)"
  | .caseUnavailable =>
    "Unicode-aware case insensitivity matching is not available " ++
      "(make sure the unicode-case feature is enabled)"

/--
A fault at a part of a pattern; where something is repeated, `earlier` is its first occurrence.
-/
structure Error where
  fault : Fault
  span : Span
  earlier : Option Span := none
  deriving DecidableEq, Repr

namespace Error

/--
The lines of a pattern. A carriage return belongs to the line break behind it, if there is one. A
line break at the end starts no further line.
-/
def lines (pattern : String) : List String :=
  go (pattern.splitOn "\n")
where
  go : List String → List String
    | [] | [""] => []
    | [last] => [last]
    | part :: rest =>
      (if part.endsWith "\r" then (part.dropEnd 1).toString else part) :: go rest

def spaces (count : Nat) : String :=
  String.ofList (List.replicate count ' ')

/--
Marks below the given spans of one line, which stand in ascending order. `column` is the number of
columns that are filled.
-/
def marks (column : Nat) : List Span → String
  | [] => ""
  | span :: rest =>
    let before := span.start.column - 1 - column
    let width := max 1 (span.stop.column - span.start.column)
    spaces before ++ String.ofList (List.replicate width '^') ++
      marks (column + before + width) rest

/--
The places to mark, in ascending order.
-/
def spans (e : Error) : List Span :=
  (e.span :: e.earlier.toList).mergeSort Span.le

/--
The lines of the pattern, with their numbers if there is more than one, each above its marks.
-/
def marked (pattern : String) (e : Error) : String :=
  let count := (lines pattern).length + if pattern.endsWith "\n" then 1 else 0
  let width := if count ≤ 1 then 0 else (toString count).length
  let shown := (lines pattern).mapIdx fun i line =>
    let number := toString (i + 1)
    let margin :=
      if width = 0 then spaces 4 else spaces (width - number.length) ++ number ++ ": "
    let here := e.spans.filter fun span => span.start.line = i + 1 && span.stop.line = i + 1
    margin ++ line ++ "\n" ++
      if here.isEmpty then "" else spaces margin.length ++ marks 0 here ++ "\n"
  String.join shown

/--
The places that go over several lines, in words.
-/
def longSpans (e : Error) : String :=
  let long := e.spans.filter fun span => span.start.line ≠ span.stop.line
  let place (p : Position) (column : Nat) : String :=
    "line " ++ toString p.line ++ " (column " ++ toString column ++ ")"
  let texts := long.map fun span =>
    "on " ++ place span.start span.start.column ++ " through " ++
      place span.stop (span.stop.column - 1)
  if texts.isEmpty then "" else "\n".intercalate texts ++ "\n"

def message (pattern : String) (e : Error) : String :=
  let shown :=
    if pattern.contains '\n' then
      let divider := String.ofList (List.replicate 79 '~') ++ "\n"
      divider ++ e.marked pattern ++ divider ++ e.longSpans
    else
      e.marked pattern
  "regex parse error:\n" ++ shown ++ "error: " ++ e.fault.message

end Error

end Regex

end SchemaBridge
