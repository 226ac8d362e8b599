import SchemaBridge.Regex.Parser

/-!
This module contains the limits that a pattern has to keep beyond its grammar. Groups and classes
must not be nested too deeply. There are no tables of Unicode properties, so whatever needs one is
refused unless the pattern turns Unicode off; then again it must not match parts of a character.
Main definition: `Regex.ofString`.
-/

namespace SchemaBridge

namespace Regex

def nestingLimit : Nat := 250

/--
The first part of a set that is nested deeper than the limit, when `depth` parts enclose the set.
-/
def CharSet.tooDeep? (depth : Nat) (set : CharSet) : Option Span :=
  match set with
  | .empty _ | .literal _ | .range .. | .named .. | .shorthand .. => none
  | .bracketed span _ set =>
    if nestingLimit ≤ depth then some span else set.tooDeep? (depth + 1)
  | .union span sets => if nestingLimit ≤ depth then some span else anyTooDeep? (depth + 1) sets
  | .combined span _ left right =>
    if nestingLimit ≤ depth then
      some span
    else
      (left.tooDeep? (depth + 1)).or (right.tooDeep? (depth + 1))
where
  anyTooDeep? (depth : Nat) (sets : List CharSet) : Option Span :=
    match sets with
    | [] => none
    | set :: rest => (set.tooDeep? depth).or (anyTooDeep? depth rest)

/--
The first part of a pattern that is nested deeper than the limit, when `depth` parts enclose it.
-/
def tooDeep? (depth : Nat) (r : Regex) : Option Span :=
  match r with
  | .empty _ | .flags .. | .literal _ | .dot _ | .assertion .. | .shorthand .. => none
  | .bracketed span _ set =>
    if nestingLimit ≤ depth then some span else set.tooDeep? (depth + 1)
  | .repetition span _ operand =>
    if nestingLimit ≤ depth then some span else operand.tooDeep? (depth + 1)
  | .group span _ body => if nestingLimit ≤ depth then some span else body.tooDeep? (depth + 1)
  | .alternation span parts | .concat span parts =>
    if nestingLimit ≤ depth then some span else anyTooDeep? (depth + 1) parts
where
  anyTooDeep? (depth : Nat) (parts : List Regex) : Option Span :=
    match parts with
    | [] => none
    | part :: rest => (part.tooDeep? depth).or (anyTooDeep? depth rest)

/--
How the characters of a pattern are meant.
-/
structure Mode where
  unicode : Bool := true
  ignoreCase : Bool := false
  deriving DecidableEq, Repr

namespace Mode

def apply (m : Mode) (items : List FlagItem) : Mode where
  unicode := (flagState? .unicode items).getD m.unicode
  ignoreCase := (flagState? .ignoreCase items).getD m.ignoreCase

def refuse (fault : Fault) (span : Span) : Except Error Unit :=
  .error { fault, span }

/--
A character in any case needs the table of cases. Without Unicode, two hexadecimal digits stand for
a byte, which is part of a character unless it is ASCII.
-/
def checkLiteral (m : Mode) (l : Literal) : Except Error Unit :=
  if m.unicode then
    if m.ignoreCase then refuse .caseUnavailable l.span else .ok ()
  else if l.isByte && 0x80 ≤ l.char.toNat then
    refuse .notUtf8 l.span
  else
    .ok ()

/--
A character in a class. A class of bytes takes ASCII only.
-/
def checkMember (m : Mode) (l : Literal) : Except Error Unit :=
  if m.unicode || l.char.toNat < 0x80 then
    .ok ()
  else
    refuse (if l.isByte then .notUtf8 else .unicodeNotAllowed) l.span

def checkShorthand (m : Mode) (span : Span) (s : Shorthand) : Except Error Unit :=
  match s, m.unicode with
  | .letter _, true => refuse .shorthandUnavailable span
  | .letter c, false => if c.isUpper then refuse .notUtf8 span else .ok ()
  | .property .., true => refuse .propertyUnknown span
  | .property .., false => refuse .unicodeNotAllowed span

/--
The complement of a class of bytes has bytes that are parts of characters.
-/
def checkComplement (m : Mode) (span : Span) (negated : Bool) : Except Error Unit :=
  if !m.unicode && negated then refuse .notUtf8 span else .ok ()

/--
A class in any case needs the table of cases, unless it has no characters of its own.
-/
def checkCase (m : Mode) (span : Span) (hasCharacters : Bool) : Except Error Unit :=
  if m.unicode && m.ignoreCase && hasCharacters then refuse .caseUnavailable span else .ok ()

/--
Check a set and find out whether it has characters of its own, beside those of the classes in it.
-/
def checkSet (m : Mode) (set : CharSet) : Except Error Bool := do
  match set with
  | .empty _ => return false
  | .literal l =>
    m.checkMember l
    return true
  | .range _ first last =>
    m.checkMember first
    m.checkMember last
    return true
  | .named span _ negated =>
    m.checkCase span true
    m.checkComplement span negated
    return false
  | .shorthand span s =>
    m.checkShorthand span s
    return false
  | .bracketed span negated set =>
    m.checkCase span (← m.checkSet set)
    m.checkComplement span negated
    return false
  | .union _ sets => checkSets m sets
  | .combined _ _ left right =>
    let inLeft ← m.checkSet left
    let inRight ← m.checkSet right
    m.checkCase right.span inRight
    m.checkCase left.span inLeft
    return false
where
  checkSets (m : Mode) (sets : List CharSet) : Except Error Bool := do
    match sets with
    | [] => return false
    | set :: rest =>
      let here ← m.checkSet set
      return (← checkSets m rest) || here

end Mode

/--
Check a pattern. The answer is the mode behind it, and whether it asks for the boundaries of words
of all scripts.
-/
def check (m : Mode) (r : Regex) : Except Error (Mode × Bool) := do
  match r with
  | .empty _ => return (m, false)
  | .flags _ items => return (m.apply items, false)
  | .literal l =>
    m.checkLiteral l
    return (m, false)
  | .dot span =>
    unless m.unicode do throw { fault := .notUtf8, span }
    return (m, false)
  | .assertion _ kind => return (m, m.unicode && kind = .wordBoundary)
  | .shorthand span s =>
    m.checkShorthand span s
    return (m, false)
  | .bracketed span negated set =>
    m.checkCase span (← m.checkSet set)
    m.checkComplement span negated
    return (m, false)
  | .repetition _ most operand =>
    let (m, boundary) ← operand.check m
    return (m, boundary && most ≠ some 0)
  | .group _ items body =>
    let (_, boundary) ← body.check (m.apply items)
    return (m, boundary)
  | .alternation _ parts | .concat _ parts => checkAll m parts
where
  checkAll (m : Mode) (parts : List Regex) : Except Error (Mode × Bool) := do
    match parts with
    | [] => return (m, false)
    | part :: rest =>
      let (m, here) ← part.check m
      let (m, later) ← checkAll m rest
      return (m, here || later)

/--
Why a text cannot be used as a pattern.
-/
inductive Refusal where
  | malformed (pattern : String) (error : Error)
  | wordBoundary
  deriving DecidableEq, Repr

/--
The causes of a refusal, each with the next one as its own cause.
-/
def Refusal.causes : Refusal → List String
  | .malformed pattern e => ["error building NFA", "error parsing regex", e.message pattern]
  | .wordBoundary =>
    ["unsupported regex feature for DFAs: cannot build DFAs for regexes with Unicode word " ++
      "boundaries; switch to ASCII word boundaries, or heuristically enable Unicode word " ++
      "boundaries or use a different regex engine"]

/--
Read a pattern that can be matched.
-/
def ofString (pattern : String) : Except Refusal Regex := do
  let r ← (parse pattern).mapError (.malformed pattern)
  if let some span := r.tooDeep? 0 then
    throw (.malformed pattern { fault := .nestedTooDeeply nestingLimit, span })
  let (_, boundary) ← (r.check {}).mapError (.malformed pattern)
  if boundary then throw .wordBoundary
  return r

end Regex

end SchemaBridge
