import SchemaBridge.Regex.Fault

/-!
This module contains regular expressions as trees. Every node knows the part of the pattern that it
was read from. Main definitions: `Regex`, and `Regex.CharSet` for what stands between brackets.
-/

namespace SchemaBridge

namespace Regex

/--
A character that stands for itself. `isByte` tells whether it is written as two hexadecimal digits,
which may also mean a single byte.
-/
structure Literal where
  span : Span
  char : Char
  isByte : Bool := false
  deriving DecidableEq, Repr

inductive Flag where
  | ignoreCase
  | multiLine
  | dotMatchesNewline
  | swapGreed
  | unicode
  | crlf
  | ignoreSpace
  deriving DecidableEq, Repr

/--
A flag, or the sign behind which flags are turned off.
-/
inductive FlagItem where
  | flag (flag : Flag)
  | negation
  deriving DecidableEq, Repr

/--
What a list of items makes of a flag, if it mentions it.
-/
def flagState? (flag : Flag) (items : List FlagItem) : Option Bool :=
  go true items
where
  go (value : Bool) : List FlagItem → Option Bool
    | [] => none
    | .negation :: rest => go false rest
    | .flag other :: rest => if other = flag then some value else go value rest

inductive SetOperator where
  | intersection
  | difference
  | symmetricDifference
  deriving DecidableEq, Repr

/--
A class of characters that is written with a backslash: `\d`, `\s` or `\w`, or a Unicode property.
Upper case stands for the complement.
-/
inductive Shorthand where
  | letter (letter : Char)
  | property (name : String) (negated : Bool)
  deriving DecidableEq, Repr

/--
A set of characters as it is written between brackets. `named` is a set such as `[:alpha:]`.
-/
inductive CharSet where
  | empty (span : Span)
  | literal (char : Literal)
  | range (span : Span) (first last : Literal)
  | named (span : Span) (name : String) (negated : Bool)
  | shorthand (span : Span) (kind : Shorthand)
  | bracketed (span : Span) (negated : Bool) (set : CharSet)
  | union (span : Span) (sets : List CharSet)
  | combined (span : Span) (operator : SetOperator) (left right : CharSet)

def CharSet.span : CharSet → Span
  | .empty span => span
  | .literal char => char.span
  | .range span _ _ => span
  | .named span _ _ => span
  | .shorthand span _ => span
  | .bracketed span _ _ => span
  | .union span _ => span
  | .combined span _ _ _ => span

inductive Assertion where
  | startOfLine
  | endOfLine
  | startOfText
  | endOfText
  | wordBoundary
  deriving DecidableEq, Repr

end Regex

/--
A regular expression.
-/
inductive Regex where
  | empty (span : Regex.Span)
  | flags (span : Regex.Span) (items : List Regex.FlagItem)
  | literal (char : Regex.Literal)
  | dot (span : Regex.Span)
  | assertion (span : Regex.Span) (kind : Regex.Assertion)
  | shorthand (span : Regex.Span) (kind : Regex.Shorthand)
  | bracketed (span : Regex.Span) (negated : Bool) (set : Regex.CharSet)
  | repetition (span : Regex.Span) (most : Option Nat) (operand : Regex)
  | group (span : Regex.Span) (items : List Regex.FlagItem) (body : Regex)
  | alternation (span : Regex.Span) (branches : List Regex)
  | concat (span : Regex.Span) (parts : List Regex)

namespace Regex

def span : Regex → Span
  | .empty span => span
  | .flags span _ => span
  | .literal char => char.span
  | .dot span => span
  | .assertion span _ => span
  | .shorthand span _ => span
  | .bracketed span _ _ => span
  | .repetition span _ _ => span
  | .group span _ _ => span
  | .alternation span _ => span
  | .concat span _ => span

end Regex

end SchemaBridge
