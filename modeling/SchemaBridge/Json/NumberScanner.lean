import SchemaBridge.Json.Basic
import SchemaBridge.Json.Scanner

/-!
This module contains the reading of numbers. Integers that fit 64 bits stay integers. Any other
number becomes a floating point number: its digits are collected while they fit 64 bits, and the
result is scaled by the power of ten that is left, in one multiplication or division for powers up
to 308.
-/

namespace SchemaBridge

namespace Json

def digitValue (c : Char) : Nat :=
  c.toNat - '0'.toNat

/--
Append digits to `value` while the result stays below `limit`, and count the digits left over.
-/
def appendDigits (limit value : Nat) : List Char → Nat × Nat
  | [] => (value, 0)
  | c :: rest =>
    let longer := value * 10 + digitValue c
    if longer < limit then appendDigits limit longer rest else (value, rest.length + 1)

def powerOfTen (n : Nat) : Float :=
  Float.ofScientific 1 false n

/--
The number `value * 10 ^ exponent`, unless it is too large for a finite one.
-/
def scaleByTen? (value : Float) (exponent : Int) : Option Float :=
  if exponent.natAbs ≤ 308 then
    if 0 ≤ exponent then
      let product := value * powerOfTen exponent.natAbs
      if product.isInf then none else some product
    else
      some (value / powerOfTen exponent.natAbs)
  else if value == 0 then
    some value
  else if 0 ≤ exponent then
    none
  else
    scaleByTen? (value / powerOfTen 308) (exponent + 308)
termination_by exponent.natAbs

namespace Scanner

/--
Read an exponent behind its letter. An exponent that does not fit 32 bits makes the number zero,
or too large if it is positive and the significand is not zero.
-/
def exponent (significand : Nat) : Scanner (Option Int) := do
  next
  let positive ← match ← peek? with
    | some '+' => next; pure true
    | some '-' => next; pure false
    | _ => pure true
  match ← peek? with
  | none => failHere .endInValue
  | some c =>
    unless isDigit c do failPast .invalidNumber
    let start ← get
    let found ← digits
    let (value, excess) := appendDigits 0x80000000 0 found
    if excess = 0 then
      return some (if positive then value else -value)
    else if significand ≠ 0 ∧ positive then
      let read := found.length - excess + 1
      throw ⟨.numberOutOfRange, start.position.afterBytes found read⟩
    else
      return none

/--
Finish a floating point number whose digits have been read.
-/
def float (negative : Bool) (significand : Nat) (power : Int) : Scanner Number := do
  let sign (value : Float) : Number := .float (if negative then -value else value).toBits
  let scaled (power : Int) : Scanner Number := do
    match scaleByTen? (UInt64.ofNat significand).toFloat power with
    | some value => return sign value
    | none => failHere .numberOutOfRange
  match ← peek? with
  | some 'e' | some 'E' =>
    match ← exponent significand with
    | some extra => scaled (power + extra)
    | none => return sign 0
  | _ => scaled power

/--
Read a number behind its minus sign, if it has one.
-/
def number (negative : Bool) : Scanner Number := do
  match ← peek? with
  | none => failHere .endInValue
  | some c => unless isDigit c do failPast .invalidNumber
  let whole ← digits
  if whole.head? = some '0' ∧ 1 < whole.length then
    throw ⟨.invalidNumber, (← leadingZeroFault whole.length)⟩
  let (significand, excess) := appendDigits UInt64.size 0 whole
  match ← peek? with
  | some '.' =>
    next
    let fraction ← digits
    if fraction.isEmpty then
      match ← peek? with
      | some _ => failPast .invalidNumber
      | none => failHere .endInValue
    let (longer, dropped) := appendDigits UInt64.size significand fraction
    float negative longer (excess - (fraction.length - dropped : Nat))
  | some 'e' | some 'E' => float negative significand excess
  | _ =>
    if excess ≠ 0 then
      float negative significand excess
    else if !negative then
      return .integer significand
    else if significand = 0 ∨ 0x8000000000000000 < significand then
      return .float (-(UInt64.ofNat significand).toFloat).toBits
    else
      return .integer (-significand)
where
  /-- The place behind the second of `count` digits that have just been read. -/
  leadingZeroFault (count : Nat) : Scanner Position := do
    let p := (← get).position
    return ⟨p.line, p.column - count + 2⟩

end Scanner

end Json

end SchemaBridge
