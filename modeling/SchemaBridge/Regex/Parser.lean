import SchemaBridge.Regex.Basic
import SchemaBridge.Text.Alphabetic
import SchemaBridge.Text.Blank
import SchemaBridge.Text.Numeric

/-!
This module contains the reading of regular expressions. A pattern is read from left to right, and
the first fault ends it. Main definition: `Regex.parse`.
-/

namespace SchemaBridge

namespace Regex

/--
What is still to be read of a pattern, and what matters for it: whether white space and comments are
skipped, and which group names have been used.
-/
structure State where
  rest : List Char
  position : Position := {}
  ignoreSpace : Bool := false
  names : List (String × Span) := []

abbrev Parser := StateT State (Except Error)

namespace Parser

def fail (fault : Fault) (span : Span) : Parser α :=
  throw { fault, span }

def peek? : Parser (Option Char) :=
  return (← get).rest.head?

def here : Parser Position :=
  return (← get).position

/--
A bound on the number of steps that each read a character.
-/
def remaining : Parser Nat :=
  return (← get).rest.length + 1

/--
Move over the next character.
-/
def next : Parser Unit :=
  modify fun s =>
    match s.rest with
    | [] => s
    | c :: rest => { s with rest, position := s.position.after c }

def advance : Nat → Parser Unit
  | 0 => return
  | n + 1 => do
    next
    advance n

/--
The part of the pattern that the next character takes.
-/
def nextSpan : Parser Span := do
  let s ← get
  match s.rest with
  | [] => return .point s.position
  | c :: _ => return ⟨s.position, s.position.after c⟩

/--
Fail at the place that has been reached.
-/
def failHere (fault : Fault) : Parser α := do
  fail fault (.point (← here))

/--
Fail for what has been read from `start` on.
-/
def failFrom (start : Position) (fault : Fault) : Parser α := do
  fail fault ⟨start, ← here⟩

/--
Fail for the character that comes next.
-/
def failNext (fault : Fault) : Parser α := do
  fail fault (← nextSpan)

/--
Move over `text` if it comes next.
-/
def skipText (text : List Char) : Parser Bool := do
  if text.isPrefixOf (← get).rest then
    advance text.length
    return true
  else
    return false

/--
Move over white space and over comments, which reach from `#` to the end of the line.
-/
def skipBlanks (s : State) : State :=
  go false s.position s.rest
where
  go (inComment : Bool) (position : Position) (rest : List Char) : State :=
    match rest with
    | [] => { s with rest, position }
    | c :: others =>
      if inComment then
        go (c ≠ '\n') (position.after c) others
      else if Text.isBlank c then
        go false (position.after c) others
      else if c = '#' then
        go true (position.after c) others
      else
        { s with rest, position }

def skipSpace : Parser Unit :=
  modify fun s => if s.ignoreSpace then skipBlanks s else s

/--
Move over the next character and the space behind it.
-/
def nextToken : Parser Unit := do
  next
  skipSpace

def atEnd : Parser Bool :=
  return (← get).rest.isEmpty

/--
The character behind the next one. Where space is skipped, so is the `#` of a comment.
-/
def second? : Parser (Option Char) := do
  let s ← get
  let rest := s.rest.drop 1
  if s.ignoreSpace then
    let found := match rest.dropWhile Text.isBlank with
      | '#' :: comment => comment.dropWhile Text.isBlank
      | found => found
    return (found.head?).or rest.head?
  else
    return rest.head?

def isHexDigit (c : Char) : Bool :=
  ('0' ≤ c && c ≤ '9') || ('a' ≤ c && c ≤ 'f') || ('A' ≤ c && c ≤ 'F')

def hexDigit (c : Char) : Nat :=
  if c ≤ '9' then c.toNat - '0'.toNat
  else if 'a' ≤ c then c.toNat - 'a'.toNat + 10
  else c.toNat - 'A'.toNat + 10

/--
The character whose code point the digits give in hexadecimal.
-/
def ofHexDigits? (digits : List Char) : Option Char :=
  let code := digits.foldl (fun n c => n * 16 + hexDigit c) 0
  if code.isValidChar then some (Char.ofNat code) else none

/--
Read the other digits of an escape with a fixed number of them, behind the ones in `read`.
-/
def fixedDigits (read : List Char) : Nat → Parser (List Char)
  | 0 => return read.reverse
  | count + 1 => do
    unless read.isEmpty do
      nextToken
      if ← atEnd then failHere .escapeUnexpectedEnd
    match ← peek? with
    | some c =>
      if isHexDigit c then fixedDigits (c :: read) count else failNext .escapeHexInvalidDigit
    | none => failHere .escapeUnexpectedEnd

/--
Read digits up to a closing brace, with the opening brace or the digit before coming next.
-/
def bracedDigits (opening : Position) (read : List Char) (bound : Nat) : Parser (List Char) := do
  match bound with
  | 0 => return read.reverse
  | bound + 1 =>
    nextToken
    match ← peek? with
    | none => failFrom opening .escapeUnexpectedEnd
    | some '}' => return read.reverse
    | some c =>
      if isHexDigit c then bracedDigits opening (c :: read) bound
      else failNext .escapeHexInvalidDigit

/--
Read a character given by its code point, from the letter behind the backslash on.
-/
def hexLiteral (start : Position) (letter : Char) : Parser Regex := do
  nextToken
  match ← peek? with
  | none => failHere .escapeUnexpectedEnd
  | some '{' =>
    let opening ← here
    let first := (← nextSpan).stop
    let digits ← bracedDigits opening [] (← remaining)
    let last ← here
    nextToken
    if digits.isEmpty then failFrom opening .escapeHexEmpty
    match ofHexDigits? digits with
    | some char => return .literal { span := ⟨start, ← here⟩, char }
    | none => fail .escapeHexInvalid ⟨first, last⟩
  | some _ =>
    let first ← here
    let count := if letter = 'x' then 2 else if letter = 'u' then 4 else 8
    let digits ← fixedDigits [] count
    nextToken
    match ofHexDigits? digits with
    | some char => return .literal { span := ⟨start, ← here⟩, char, isByte := letter = 'x' }
    | none => failFrom first .escapeHexInvalid

/--
Read a property name up to its closing brace, with the opening brace or the character before coming
next.
-/
def propertyName (read : List Char) (bound : Nat) : Parser String := do
  match bound with
  | 0 => return String.ofList read.reverse
  | bound + 1 =>
    nextToken
    match ← peek? with
    | none => failHere .escapeUnexpectedEnd
    | some '}' => return String.ofList read.reverse
    | some c => propertyName (c :: read) bound

/--
Read a class given by a property, from the letter behind the backslash on.
-/
def property (start : Position) (negated : Bool) : Parser Regex := do
  nextToken
  match ← peek? with
  | none => failHere .escapeUnexpectedEnd
  | some '\\' => failNext .propertyInvalid
  | some '{' =>
    let name ← propertyName [] (← remaining)
    next
    return .shorthand ⟨start, ← here⟩ (.property name negated)
  | some c =>
    nextToken
    return .shorthand ⟨start, ← here⟩ (.property c.toString negated)

def isBoundaryChar (c : Char) : Bool :=
  c.isAlpha || c == '-'

def boundaryName (read : List Char) (bound : Nat) : Parser String := do
  match bound with
  | 0 => return String.ofList read.reverse
  | bound + 1 =>
    match ← peek? with
    | some c =>
      if isBoundaryChar c then
        nextToken
        boundaryName (c :: read) bound
      else
        return String.ofList read.reverse
    | none => return String.ofList read.reverse

/--
Read the name of a special word boundary in braces. Braces that hold no name are left to be read as
a repetition.
-/
def boundaryKind (start : Position) : Parser Unit := do
  let before ← get
  nextToken
  match ← peek? with
  | none => failFrom start .wordBoundaryUnexpectedEnd
  | some c =>
    if isBoundaryChar c then
      let first ← here
      let name ← boundaryName [] (← remaining)
      if (← peek?) ≠ some '}' then failFrom before.position .wordBoundaryUnclosed
      let last ← here
      next
      unless ["start", "end", "start-half", "end-half"].contains name do
        fail .wordBoundaryUnrecognized ⟨first, last⟩
    else
      set before

/--
The characters with a meaning of their own.
-/
def isMeta (c : Char) : Bool :=
  "\\.+*?()|[]\x7b\x7d^$#&-~".toList.contains c

/--
What a letter behind a backslash stands for, where it is a single character.
-/
def escaped? : Char → Option Char
  | 'a' => some '\x07'
  | 'f' => some '\x0c'
  | 't' => some '\t'
  | 'n' => some '\n'
  | 'r' => some '\r'
  | 'v' => some '\x0b'
  | _ => none

/--
Read what starts with a backslash.
-/
def escape : Parser Regex := do
  let start ← here
  next
  match ← peek? with
  | none => failFrom start .escapeUnexpectedEnd
  | some c =>
    if c.isDigit then
      fail .backreference ⟨start, (← nextSpan).stop⟩
    else if c = 'x' || c = 'u' || c = 'U' then
      hexLiteral start c
    else if c = 'p' || c = 'P' then
      property start (c = 'P')
    else
      next
      let span : Span := ⟨start, ← here⟩
      if "dswDSW".toList.contains c then
        return .shorthand span (.letter c)
      else if isMeta c || (c.toNat < 0x80 && !c.isAlphanum && c ≠ '<' && c ≠ '>') then
        return .literal { span, char := c }
      else if let some char := escaped? c then
        return .literal { span, char }
      else if c = 'A' then
        return .assertion span .startOfText
      else if c = 'z' then
        return .assertion span .endOfText
      else if c = 'b' then
        if (← peek?) = some '{' then boundaryKind start
        return .assertion ⟨start, ← here⟩ .wordBoundary
      else if c = 'B' || c = '<' || c = '>' then
        return .assertion span .wordBoundary
      else
        fail .escapeUnrecognized span

/--
Sets of characters side by side, the last one first.
-/
structure Union where
  span : Span
  sets : List CharSet := []

def Union.push (u : Union) (set : CharSet) : Union :=
  { span := ⟨if u.sets.isEmpty then set.span.start else u.span.start, set.span.stop⟩
    sets := set :: u.sets }

def Union.toSet (u : Union) : CharSet :=
  match u.sets with
  | [] => .empty u.span
  | [set] => set
  | sets => .union u.span sets.reverse

/--
Join the operand on the right of an operator to what stands on its left.
-/
def combine (left : Option (CharSet × SetOperator)) (right : CharSet) : CharSet :=
  match left with
  | none => right
  | some (left, operator) =>
    .combined ⟨left.span.start, right.span.stop⟩ operator left right

/--
Read the minus signs at the start of a class, which stand for themselves.
-/
def leadingMinus (start : Position) (u : Union) (bound : Nat) : Parser Union := do
  match bound with
  | 0 => return u
  | bound + 1 =>
    if (← peek?) = some '-' then
      let u := u.push (.literal { span := ← nextSpan, char := '-' })
      nextToken
      if ← atEnd then fail .classUnclosed (.point start)
      leadingMinus start u bound
    else
      return u

/--
The start of a class: whether it is negated, the part of the pattern it takes, and the signs in it
that already belong to the set.
-/
structure ClassStart where
  negated : Bool
  span : Span
  union : Union

/--
Read the start of a class from its opening bracket on. A closing bracket right behind it stands for
itself.
-/
def classStart : Parser ClassStart := do
  let start ← here
  nextToken
  if ← atEnd then failFrom start .classUnclosed
  let negated := (← peek?) = some '^'
  if negated then
    nextToken
    if ← atEnd then failFrom start .classUnclosed
  let mut union ← leadingMinus start { span := .point (← here) } (← remaining)
  if union.sets.isEmpty && (← peek?) = some ']' then
    union := union.push (.literal { span := ← nextSpan, char := ']' })
    nextToken
    if ← atEnd then failFrom start .classUnclosed
  return { negated, span := ⟨start, ← here⟩, union }

def classNames : List String :=
  ["alnum", "alpha", "ascii", "blank", "cntrl", "digit", "graph", "lower", "print", "punct",
    "space", "upper", "word", "xdigit"]

/--
A named class at the front of a pattern, with the number of characters that it takes.
-/
def namedClass? (rest : List Char) : Option (String × Bool × Nat) :=
  match rest with
  | '[' :: ':' :: '^' :: rest => (name? rest).map fun name => (name, true, name.length + 5)
  | '[' :: ':' :: rest => (name? rest).map fun name => (name, false, name.length + 4)
  | _ => none
where
  name? (rest : List Char) : Option String :=
    let name := String.ofList (rest.takeWhile (· ≠ ':'))
    if [':', ']'].isPrefixOf (rest.dropWhile (· ≠ ':')) && classNames.contains name then
      some name
    else
      none

/--
Read a single part of a class, without the names and brackets that may stand in it.
-/
def classItem : Parser Regex := do
  match ← peek? with
  | some '\\' => escape
  | some c =>
    let span ← nextSpan
    next
    return .literal { span, char := c }
  | none => return .empty (.point (← here))

def toSet : Regex → Parser CharSet
  | .literal char => return .literal char
  | .shorthand span kind => return .shorthand span kind
  | item => fail .classEscapeInvalid item.span

def toLiteral : Regex → Parser Literal
  | .literal char => return char
  | item => fail .classRangeLiteral item.span

/--
Read a part of a class that may be the range between two characters. `opening` is the start of the
class.
-/
def classRange (opening : Span) : Parser CharSet := do
  let first ← classItem
  skipSpace
  if ← atEnd then fail .classUnclosed opening
  let behind ← second?
  if (← peek?) ≠ some '-' || behind = some ']' || behind = some '-' then
    toSet first
  else
    nextToken
    if ← atEnd then fail .classUnclosed opening
    let last ← classItem
    let span : Span := ⟨first.span.start, last.span.stop⟩
    let first ← toLiteral first
    let last ← toLiteral last
    if last.char < first.char then fail .classRangeInvalid span
    return .range span first last

def operator? (next : Char) (behind : Option Char) : Option SetOperator :=
  if behind ≠ some next then
    none
  else
    match next with
    | '&' => some .intersection
    | '-' => some .difference
    | '~' => some .symmetricDifference
    | _ => none

/--
Read the rest of a class up to its closing bracket. `left` is what stands on the left of the last
operator, `union` what has been read behind it.
-/
def classRest (opening : Span) (left : Option (CharSet × SetOperator)) (union : Union) (bound : Nat)
    : Parser CharSet := do
  match bound with
  | 0 => return combine left union.toSet
  | bound + 1 =>
    skipSpace
    let s ← get
    match s.rest with
    | [] => fail .classUnclosed opening
    | ']' :: _ =>
      next
      return combine left union.toSet
    | '[' :: _ =>
      match namedClass? s.rest with
      | some (name, negated, length) =>
        advance length
        let set : CharSet := .named ⟨s.position, ← here⟩ name negated
        classRest opening left (union.push set) bound
      | none =>
        let start ← classStart
        let set ← classRest start.span none start.union bound
        let set : CharSet := .bracketed ⟨s.position, ← here⟩ start.negated set
        classRest opening left (union.push set) bound
    | c :: rest =>
      match operator? c rest.head? with
      | some operator =>
        advance 2
        let left := some (combine left union.toSet, operator)
        classRest opening left { span := .point (← here) } bound
      | none => classRest opening left (union.push (← classRange opening)) bound

/--
Read a class from its opening bracket on.
-/
def charClass : Parser Regex := do
  let first ← here
  let start ← classStart
  let set ← classRest start.span none start.union (← remaining)
  return .bracketed ⟨first, ← here⟩ start.negated set

def flag? : Char → Option Flag
  | 'i' => some .ignoreCase
  | 'm' => some .multiLine
  | 's' => some .dotMatchesNewline
  | 'U' => some .swapGreed
  | 'u' => some .unicode
  | 'R' => some .crlf
  | 'x' => some .ignoreSpace
  | _ => none

/--
Read flags up to a colon or a closing parenthesis; `read` holds those read so far, the last one
first.
-/
def flagItems (read : List (FlagItem × Span)) (bound : Nat) : Parser (List FlagItem) := do
  match bound, ← peek? with
  | 0, _ | _, none => return []
  | bound + 1, some c =>
    if c = ':' || c = ')' then
      match read with
      | (.negation, span) :: _ => fail .flagDanglingNegation span
      | _ => return (read.map Prod.fst).reverse
    else
      let span ← nextSpan
      let item ← if c = '-' then pure .negation else
        match flag? c with
        | some flag => pure (.flag flag)
        | none => fail .flagUnrecognized span
      if let some (_, earlier) := read.find? fun (other, _) => other = item then
        let fault : Fault := if item = .negation then .flagRepeatedNegation else .flagDuplicate
        throw { fault, span, earlier := some earlier }
      next
      if ← atEnd then failHere .flagUnexpectedEnd
      flagItems ((item, span) :: read) bound

def isNameChar (first : Bool) (c : Char) : Bool :=
  if first then
    c == '_' || Text.isAlphabetic c
  else
    c == '_' || c == '.' || c == '[' || c == ']' || Text.isAlphabetic c || Text.isNumeric c

/--
Read the name of a group up to the closing angle bracket, which comes next then.
-/
def groupNameChars (read : List Char) (bound : Nat) : Parser (List Char) := do
  match bound, ← peek? with
  | 0, _ | _, none => failHere .groupNameUnexpectedEnd
  | bound + 1, some c =>
    if c = '>' then
      return read.reverse
    else if isNameChar read.isEmpty c then
      next
      groupNameChars (c :: read) bound
    else
      failNext .groupNameInvalid

/--
Read the name of a group and remember it. No two groups have the same name.
-/
def groupName : Parser Unit := do
  let start ← here
  let chars ← groupNameChars [] (← remaining)
  let name := String.ofList chars
  let span : Span := ⟨start, ← here⟩
  next
  if chars.isEmpty then fail .groupNameEmpty (.point start)
  match (← get).names.find? fun (other, _) => other = name with
  | some (_, earlier) => throw { fault := .groupNameDuplicate, span, earlier := some earlier }
  | none => modify fun s => { s with names := (name, span) :: s.names }

/--
What an opening parenthesis starts.
-/
inductive Opening where
  | flags (span : Span) (items : List FlagItem)
  | group (span : Span) (items : List FlagItem)

/--
Read what starts with an opening parenthesis, up to the body of the group.
-/
def opening : Parser Opening := do
  let span ← nextSpan
  next
  skipSpace
  for text in ["?=", "?!", "?<=", "?<!"] do
    if ← skipText text.toList then failFrom span.start .lookAround
  let behind ← here
  let named ← if ← skipText ['?', 'P', '<'] then pure true else skipText ['?', '<']
  if named then
    groupName
    return .group span []
  else if ← skipText ['?'] then
    if ← atEnd then fail .groupUnclosed span
    let items ← flagItems [] (← remaining)
    let closed := (← peek?) = some ')'
    next
    if closed then
      if items.isEmpty then fail .repetitionMissing (.point behind)
      return .flags ⟨span.start, ← here⟩ items
    else
      return .group span items
  else
    return .group span []

def decimalDigits (read : List Char) (bound : Nat) : Parser (List Char) := do
  match bound, ← peek? with
  | 0, _ | _, none => return read.reverse
  | bound + 1, some c =>
    if c.isDigit then
      nextToken
      decimalDigits (c :: read) bound
    else
      return read.reverse

def skipWhileBlank (bound : Nat) : Parser Unit := do
  match bound, ← peek? with
  | 0, _ | _, none => return
  | bound + 1, some c =>
    if Text.isBlank c then
      nextToken
      skipWhileBlank bound

/--
Read a count of repetitions. A fault is kept, since a missing end of the counts goes before it.
-/
def count : Parser (Except Error Nat) := do
  modify fun s =>
    { s with
      rest := s.rest.dropWhile Text.isBlank
      position := (s.rest.takeWhile Text.isBlank).foldl Position.after s.position }
  let start ← here
  let digits ← decimalDigits [] (← remaining)
  let span : Span := ⟨start, ← here⟩
  skipWhileBlank (← remaining)
  let value := digits.foldl (fun n c => n * 10 + (c.toNat - '0'.toNat)) 0
  if digits.isEmpty then
    return .error { fault := .repetitionCountEmpty, span }
  else if value < UInt32.size then
    return .ok value
  else
    return .error { fault := .decimalInvalid, span }

/--
Read the counts behind a comma, up to the closing brace. There may be no upper one.
-/
def upperCount (start : Position) (least : Except Error Nat) : Parser (Nat × Option Nat) := do
  nextToken
  match ← peek? with
  | none => failFrom start .repetitionCountUnclosed
  | some '}' => return (← StateT.lift least, none)
  | some _ =>
    let least ← StateT.lift least
    return (least, some (← StateT.lift (← count)))

/--
Read how often something is repeated, from the opening brace on. The answer is the upper count, if
there is one.
-/
def counts : Parser (Option Nat) := do
  let start ← here
  nextToken
  if ← atEnd then failFrom start .repetitionCountUnclosed
  let found ← count
  let (least, most) ← match ← peek? with
    | none => failFrom start .repetitionCountUnclosed
    | some ',' => upperCount start found
    | some _ =>
      let exact ← StateT.lift found
      pure (exact, some exact)
  if (← peek?) ≠ some '}' then failFrom start .repetitionCountUnclosed
  nextToken
  if (← peek?) = some '?' then next
  if most.any fun most => most < least then failFrom start .repetitionCountInvalid
  return most

/--
What has been read of the body of a group: the alternatives before the present one, and the parts of
that, each with the last one first.
-/
structure Body where
  start : Position
  branches : List Regex := []
  branchStart : Position := start
  parts : List Regex := []

namespace Body

def push (b : Body) (part : Regex) : Body :=
  { b with parts := part :: b.parts }

/--
The present alternative, which ends at `stop`.
-/
def branch (b : Body) (stop : Position) : Regex :=
  match b.parts with
  | [] => .empty ⟨b.branchStart, stop⟩
  | [part] => part
  | parts => .concat ⟨b.branchStart, stop⟩ parts.reverse

def toRegex (b : Body) (stop : Position) : Regex :=
  if b.branches.isEmpty then
    b.branch stop
  else
    .alternation ⟨b.start, stop⟩ (b.branch stop :: b.branches).reverse

end Body

/--
Read an operator that repeats the last part of `b`.
-/
def repetition (b : Body) (operator : Char) : Parser Body := do
  match b.parts with
  | [] | .empty _ :: _ | .flags _ _ :: _ => failHere .repetitionMissing
  | operand :: parts =>
    let most ← if operator = '{' then counts else do
      next
      if (← peek?) = some '?' then next
      pure (if operator = '?' then some 1 else none)
    let span : Span := ⟨operand.span.start, ← here⟩
    return { b with parts := .repetition span most operand :: parts }

/--
Read a part of the body that is neither a group nor an operator.
-/
def part (c : Char) : Parser Regex := do
  let span ← nextSpan
  match c with
  | '[' => charClass
  | '\\' => escape
  | '.' => next; return .dot span
  | '^' => next; return .assertion span .startOfLine
  | '$' => next; return .assertion span .endOfLine
  | c => next; return .literal { span, char := c }

def setIgnoreSpace (value : Bool) : Parser Unit :=
  modify fun s => { s with ignoreSpace := value }

/--
Read the rest of a body: up to the parenthesis that closes the group whose opening is given, or up
to the end of the pattern.
-/
def body (opened : Option Span) (b : Body) (bound : Nat) : Parser Regex := do
  match bound with
  | 0 => return b.toRegex (← here)
  | bound + 1 =>
    skipSpace
    match ← peek? with
    | none =>
      match opened with
      | some span => fail .groupUnclosed span
      | none => return b.toRegex (← here)
    | some ')' =>
      match opened with
      | some _ => return b.toRegex (← here)
      | none => failNext .groupUnopened
    | some '(' =>
      match ← opening with
      | .flags span items =>
        if let some value := flagState? .ignoreSpace items then setIgnoreSpace value
        body opened (b.push (.flags span items)) bound
      | .group span items =>
        let outer := (← get).ignoreSpace
        setIgnoreSpace ((flagState? .ignoreSpace items).getD outer)
        let inside ← body (some span) { start := ← here } bound
        setIgnoreSpace outer
        next
        body opened (b.push (.group ⟨span.start, ← here⟩ items inside)) bound
    | some '|' =>
      let stop ← here
      next
      body opened
        { b with branches := b.branch stop :: b.branches, branchStart := ← here, parts := [] } bound
    | some c =>
      if c = '?' || c = '*' || c = '+' || c = '{' then
        body opened (← repetition b c) bound
      else
        body opened (b.push (← part c)) bound

end Parser

/--
Read a pattern.
-/
def parse (pattern : String) : Except Error Regex :=
  let rest := pattern.toList
  (Parser.body none { start := {} } (rest.length + 1)).run' { rest }

end Regex

end SchemaBridge
