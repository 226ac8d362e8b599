/-!
This module contains the patterns that stand for file names: `?` for any character, `*` for any
text, `[...]` and `[!...]` for a choice of characters, and `**` as a whole step of a path for any
number of directories.
-/

namespace SchemaBridge

namespace Glob

inductive Specifier where
  | single (c : Char)
  | range (first last : Char)
  deriving DecidableEq, Repr

def Specifier.accepts : Specifier → Char → Bool
  | .single c, d => c == d
  | .range first last, d => first ≤ d && d ≤ last

inductive Token where
  | char (c : Char)
  | anyChar
  | anySequence
  | anyDirectories
  | within (specifiers : List Specifier)
  | except (specifiers : List Specifier)
  deriving DecidableEq, Repr

/--
Whether a token takes a character. A sequence takes any.
-/
def Token.accepts : Token → Char → Bool
  | .char c, d => d == c
  | .anyChar, _ | .anySequence, _ | .anyDirectories, _ => true
  | .within specifiers, c => specifiers.any (·.accepts c)
  | .except specifiers, c => !specifiers.any (·.accepts c)

/--
Whether a token takes any number of characters.
-/
def Token.isSequence : Token → Bool
  | .anySequence | .anyDirectories => true
  | _ => false

inductive Fault where
  | wildcards
  | recursiveWildcards
  | invalidRange
  deriving DecidableEq, Repr

def Fault.message : Fault → String
  | .wildcards => "wildcards are either regular `*` or recursive `**`"
  | .recursiveWildcards => "recursive wildcards must form a single path component"
  | .invalidRange => "invalid range pattern"

structure PatternError where
  position : Nat
  fault : Fault
  deriving DecidableEq, Repr

def PatternError.message (e : PatternError) : String :=
  "Pattern syntax error near position " ++ toString e.position ++ ": " ++ e.fault.message

/--
The choice of characters between brackets.
-/
def specifiers : List Char → List Specifier
  | first :: '-' :: last :: rest => .range first last :: specifiers rest
  | c :: rest => .single c :: specifiers rest
  | [] => []

/--
The characters up to the first closing bracket, and those behind it.
-/
def upToBracket : List Char → Option (List Char × List Char)
  | [] => none
  | ']' :: rest => some ([], rest)
  | c :: rest => (upToBracket rest).map fun (inside, rest) => (c :: inside, rest)

/--
Read a choice of characters behind its opening bracket. The first character never closes it.
-/
def bracket? : List Char → Option (Token × List Char)
  | '!' :: first :: rest =>
    (upToBracket rest).map fun (inside, rest) => (.except (specifiers (first :: inside)), rest)
  | '!' :: [] => none
  | first :: rest =>
    (upToBracket rest).map fun (inside, rest) => (.within (specifiers (first :: inside)), rest)
  | [] => none

/--
Read the tokens of a pattern from the position `position` on, behind the character `previous`.
`bound` is a bound on their number.
-/
def tokensFrom (bound position : Nat) (previous : Option Char) (rest : List Char)
    : Except PatternError (List Token) :=
  match bound, rest with
  | 0, _ => .ok []
  | _, [] => .ok []
  | bound + 1, '?' :: rest =>
    return .anyChar :: (← tokensFrom bound (position + 1) (some '?') rest)
  | bound + 1, '*' :: rest =>
    let stars := (rest.takeWhile (· == '*')).length + 1
    let rest := rest.dropWhile (· == '*')
    let next := position + stars
    if 2 < stars then
      .error ⟨position + 2, .wildcards⟩
    else if stars = 1 then
      return .anySequence :: (← tokensFrom bound next (some '*') rest)
    else if previous.isSome && previous != some '/' then
      .error ⟨position - 1, .recursiveWildcards⟩
    else
      match rest with
      | [] => .ok [.anyDirectories]
      | '/' :: rest => return .anyDirectories :: (← tokensFrom bound (next + 1) (some '/') rest)
      | _ => .error ⟨next, .recursiveWildcards⟩
  | bound + 1, '[' :: rest =>
    match bracket? rest with
    | none => .error ⟨position, .invalidRange⟩
    | some (token, after) =>
      let next := position + 1 + (rest.length - after.length)
      return token :: (← tokensFrom bound next (some ']') after)
  | bound + 1, c :: rest =>
    return .char c :: (← tokensFrom bound (position + 1) (some c) rest)

/--
The pattern for one step of a path, or for a whole path.
-/
abbrev Pattern := List Token

def Pattern.ofString (text : String) : Except PatternError Pattern :=
  tokensFrom (text.length + 1) 0 none text.toList

namespace Pattern

/--
The name that a pattern without wildcards stands for.
-/
def literal? (p : Pattern) : Option String :=
  String.ofList <$> p.mapM fun token =>
    match token with
    | .char c => some c
    | _ => none

def isRecursive (p : Pattern) : Bool :=
  p.contains .anyDirectories

/--
For each end of a text, from the whole text to the empty one, whether it or a shorter end is marked
in `ends`.
-/
def markedLater : List Bool → List Bool
  | [] => []
  | mark :: rest =>
    let later := markedLater rest
    (mark || later.headD false) :: later

/--
For each end of a name, from the whole name to the empty one, whether it fits a pattern. The marks
for the rest of the pattern are found once for all ends, so that a pattern with many sequences takes
no longer than its length times the length of the name.
-/
def fits : Pattern → List Char → List Bool
  | [], name => name.map (fun _ => false) ++ [true]
  | token :: rest, name =>
    let ends := fits rest name
    if token.isSequence then
      markedLater ends
    else
      List.zipWith (fun c mark => token.accepts c && mark) name ends.tail ++ [false]

/--
Whether a whole name fits a pattern.
-/
def accepts (p : Pattern) (name : List Char) : Bool :=
  (fits p name).headD false

theorem length_markedLater (marks : List Bool) : (markedLater marks).length = marks.length := by
  induction marks with
  | nil => rfl
  | cons mark rest ih => simp [markedLater, ih]

theorem length_fits (p : Pattern) (name : List Char) : (fits p name).length = name.length + 1 := by
  induction p with
  | nil => simp [fits]
  | cons token rest ih =>
    rw [fits]
    split
    . rw [length_markedLater, ih]
    . simp [ih]

theorem fits_eq_cons (p : Pattern) (name : List Char)
    : fits p name = accepts p name :: (fits p name).tail := by
  cases h : fits p name with
  | nil => simpa [h] using length_fits p name
  | cons mark marks => simp [accepts, h]

theorem tail_fits_cons (p : Pattern) (c : Char) (name : List Char)
    : (fits p (c :: name)).tail = fits p name := by
  induction p with
  | nil => rfl
  | cons token rest ih =>
    rw [fits, fits_eq_cons rest (c :: name), ih, fits]
    split
    . rfl
    . rw [fits_eq_cons rest name]
      rfl

theorem accepts_nil (name : List Char) : accepts [] name = name.isEmpty := by
  cases name <;> rfl

theorem accepts_cons_nil (token : Token) (rest : Pattern)
    : accepts (token :: rest) [] = (token.isSequence && accepts rest []) := by
  have h : (fits rest []).tail = [] := by
    rw [← List.length_eq_zero_iff, List.length_tail, length_fits]
    rfl
  rw [accepts, fits, fits_eq_cons rest, h]
  cases token.isSequence with
  | false => rfl
  | true => simp [markedLater]

theorem accepts_cons_cons {token : Token} (h : token.isSequence = false) (rest : Pattern) (c : Char)
    (name : List Char)
    : accepts (token :: rest) (c :: name) = (token.accepts c && accepts rest name) := by
  rw [accepts, fits, h, tail_fits_cons, fits_eq_cons rest name]
  rfl

theorem accepts_sequence_cons {token : Token} (h : token.isSequence = true) (rest : Pattern)
    (c : Char) (name : List Char)
    : accepts (token :: rest) (c :: name) =
      (accepts rest (c :: name) || accepts (token :: rest) name) := by
  rw [accepts, fits, h, fits_eq_cons rest (c :: name), tail_fits_cons]
  simp [markedLater, accepts, fits, h]

end Pattern

end Glob

end SchemaBridge
