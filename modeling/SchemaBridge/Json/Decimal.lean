import SchemaBridge.Json.Basic

/-!
This module contains the decimal text of binary floating point numbers: the fewest digits that read
back as the same number and, among those, the digits nearest to it.
-/

namespace SchemaBridge

namespace Json

/--
The positive number `mantissa * 2 ^ exponent`. `narrowBelow` holds at the powers of two where the
next smaller number is only half as far away as the next larger one.
-/
structure Binary where
  mantissa : Nat
  exponent : Int
  narrowBelow : Bool
  deriving Repr

namespace Binary

/--
The magnitude of a finite number given by its 64 bits.
-/
def ofBits (bits : UInt64) : Binary :=
  let fraction := (bits.toBitVec.extractLsb' 0 52).toNat
  let biased := (bits.toBitVec.extractLsb' 52 11).toNat
  if biased = 0 then
    ⟨fraction, -1074, false⟩
  else
    ⟨(1 <<< 52) + fraction, (biased : Int) - 1075, fraction == 0 && biased > 1⟩

/--
Four times the mantissa scaled to whole numbers, and the divisor that undoes both: the value is
`4 * mantissa * scale / divisor`.
-/
def scale (x : Binary) : Nat × Nat :=
  let shift := x.exponent - 2
  if 0 ≤ shift then (1 <<< shift.toNat, 1) else (1, 1 <<< (-shift).toNat)

end Binary

/--
The number `digits * 10 ^ exponent`.
-/
structure Decimal where
  digits : Nat
  exponent : Int
  deriving Repr, DecidableEq

namespace Decimal

def digitCount (n : Nat) : Nat :=
  (Nat.toDigits 10 n).length

/--
The power of ten of the leading digit of `numerator / divisor`, both positive.
-/
def leadingPower (numerator divisor : Nat) : Int :=
  if divisor ≤ numerator then
    digitCount (numerator / divisor) - 1
  else
    -digitCount ((divisor + numerator - 1) / numerator - 1)

/--
Drop the zeros at the end of the digits; `fuel` bounds their number.
-/
def stripZeros (fuel : Nat) (d : Decimal) : Decimal :=
  match fuel with
  | 0 => d
  | fuel + 1 =>
    if d.digits ≠ 0 ∧ d.digits % 10 = 0 then
      stripZeros fuel ⟨d.digits / 10, d.exponent + 1⟩
    else
      d

/--
The decimal of at most `count` digits, the first of them at the power of ten `leading`, that reads
back as `x`, if there is one: of the two points of this grid around `x` that lie between the
midpoints to its neighbours the nearer, and of two equally near ones the even. The midpoints
themselves read back as `x` exactly when its mantissa is even.
-/
def onGrid? (x : Binary) (leading : Int) (count : Nat) : Option Decimal :=
  let (scale, divisor) := x.scale
  let value := 4 * x.mantissa * scale
  let low := (4 * x.mantissa - if x.narrowBelow then 1 else 2) * scale
  let high := (4 * x.mantissa + 2) * scale
  let power := leading - count + 1
  let unit := if 0 ≤ power then Nat.pow 10 power.toNat * divisor else divisor
  let stretch := if 0 ≤ power then 1 else Nat.pow 10 (-power).toNat
  let below := value * stretch / unit
  let readsBack (d : Nat) : Bool :=
    let point := d * unit
    if x.mantissa % 2 = 0 then
      low * stretch ≤ point && point ≤ high * stretch
    else
      low * stretch < point && point < high * stretch
  let remainder := value * stretch % unit
  match readsBack below, readsBack (below + 1) with
  | true, true =>
    if 2 * remainder < unit ∨ (2 * remainder = unit ∧ below % 2 = 0) then
      some ⟨below, power⟩
    else
      some ⟨below + 1, power⟩
  | true, false => some ⟨below, power⟩
  | false, true => some ⟨below + 1, power⟩
  | false, false => none

/--
The shortest decimal that reads back as `x`. Seventeen digits always suffice.
-/
def shortest (x : Binary) : Decimal :=
  let (scale, divisor) := x.scale
  let leading := leadingPower (4 * x.mantissa * scale) divisor
  let found := (List.range 17).findSome? fun n => onGrid? x leading (n + 1)
  (found.getD ⟨0, 0⟩).stripZeros 20

/--
Positional notation where the decimal point falls at most 16 places after the first digit and at
most 4 zeros follow it before the digits; otherwise scientific notation with a signed exponent.
-/
def text (d : Decimal) : String :=
  let digits := Nat.toDigits 10 d.digits
  let point : Int := digits.length + d.exponent
  if 0 ≤ d.exponent ∧ point ≤ 16 then
    String.ofList (digits ++ List.replicate d.exponent.toNat '0' ++ ['.', '0'])
  else if 0 < point ∧ point ≤ 16 then
    String.ofList (digits.take point.toNat ++ '.' :: digits.drop point.toNat)
  else if -5 < point ∧ point ≤ 0 then
    String.ofList ('0' :: '.' :: List.replicate (-point).toNat '0' ++ digits)
  else
    let power := point - 1
    let tail := match digits.drop 1 with
      | [] => []
      | rest => '.' :: rest
    let sign := if power < 0 then '-' else '+'
    String.ofList (digits.take 1 ++ tail ++ 'e' :: sign :: Nat.toDigits 10 power.natAbs)

end Decimal

/--
The text of the finite number with the given bits.
-/
def floatText (bits : UInt64) : String :=
  let sign := if bits.toBitVec.msb then "-" else ""
  if bits <<< 1 = 0 then
    sign ++ "0.0"
  else
    sign ++ (Decimal.shortest (Binary.ofBits bits)).text

def Number.text : Number → String
  | .integer value => toString value
  | .float bits => floatText bits

end Json

end SchemaBridge
