import SchemaBridge.Members

/-!
This module contains the JSON values: their numbers, their accessors and their comparison, which
ignores the order of object members.
-/

namespace SchemaBridge

namespace Json

/--
A number is an integer, or a finite binary floating point number given by its 64 bits. The two
kinds never mix: `1` and `1.0` are different numbers.
-/
inductive Number where
  | integer (value : Int)
  | float (bits : UInt64)
  deriving DecidableEq, Repr, Inhabited

namespace Number

/--
The integers that a 64-bit unsigned count can hold.
-/
def toCount? : Number → Option UInt64
  | .integer value =>
    if 0 ≤ value ∧ value < 0x10000000000000000 then some (UInt64.ofNat value.toNat) else none
  | .float _ => none

def ofCount (count : UInt64) : Number :=
  .integer count.toNat

/--
Equality of numbers by value: the two zeros of floating point are the same number.
-/
def agrees : Number → Number → Bool
  | .integer x, .integer y => x == y
  | .float x, .float y => x == y || (x <<< 1 == 0 && y <<< 1 == 0)
  | _, _ => false

@[simp]
theorem toCount?_ofCount (count : UInt64) : (ofCount count).toCount? = some count := by
  have h := count.toNat_lt
  simp only [ofCount, toCount?]
  rw [if_pos (by omega)]
  simp

end Number

end Json

/--
A JSON value. Object members keep their order.
-/
inductive Json where
  | null
  | bool (value : Bool)
  | number (value : Json.Number)
  | string (value : String)
  | array (items : List Json)
  | object (members : List (String × Json))
  deriving Inhabited

namespace Json

def ofCount (count : UInt64) : Json :=
  .number (.ofCount count)

def ofNat (n : Nat) : Json :=
  .number (.integer n)

def ofInt (n : Int) : Json :=
  .number (.integer n)

def isNull : Json → Bool
  | .null => true
  | _ => false

def toBool? : Json → Option Bool
  | .bool b => some b
  | _ => none

def toNumber? : Json → Option Number
  | .number n => some n
  | _ => none

def toCount? : Json → Option UInt64
  | .number n => n.toCount?
  | _ => none

def toString? : Json → Option String
  | .string s => some s
  | _ => none

def toArray? : Json → Option (List Json)
  | .array items => some items
  | _ => none

def toObject? : Json → Option (Members Json)
  | .object members => some members
  | _ => none

/--
An array of strings only.
-/
def toStrings? (value : Json) : Option (List String) :=
  value.toArray?.bind fun items => items.mapM toString?

/--
The member `name` of an object.
-/
def member? (value : Json) (name : String) : Option Json :=
  value.toObject?.bind fun members => members.get? name

mutual

/--
How deeply arrays and objects are nested: `0` for a scalar.
-/
def depth : Json → Nat
  | .array items => depthOfItems items + 1
  | .object members => depthOfMembers members + 1
  | _ => 0

def depthOfItems : List Json → Nat
  | [] => 0
  | item :: rest => max item.depth (depthOfItems rest)

def depthOfMembers : List (String × Json) → Nat
  | [] => 0
  | (_, value) :: rest => max value.depth (depthOfMembers rest)

end

mutual

/--
Equality of values: arrays compare in order, objects without order.
-/
def agrees : Json → Json → Bool
  | .null, .null => true
  | .bool x, .bool y => x == y
  | .number x, .number y => x.agrees y
  | .string x, .string y => x == y
  | .array xs, .array ys => itemsAgree xs ys
  | .object xs, .object ys => xs.length == ys.length && membersAgree xs ys
  | _, _ => false

def itemsAgree : List Json → List Json → Bool
  | [], [] => true
  | x :: xs, y :: ys => x.agrees y && itemsAgree xs ys
  | _, _ => false

def membersAgree : List (String × Json) → Members Json → Bool
  | [], _ => true
  | (name, x) :: rest, others =>
    (match others.get? name with
      | some y => x.agrees y
      | none => false) && membersAgree rest others

end

theorem depth_le_of_mem_items {item : Json} {items : List Json} (h : item ∈ items)
    : item.depth ≤ depthOfItems items := by
  induction items with
  | nil => cases h
  | cons head rest ih =>
    simp only [depthOfItems]
    cases h with
    | head => omega
    | tail _ h => have := ih h; omega

theorem depth_le_of_mem_members {name : String} {value : Json} {members : Members Json}
    (h : (name, value) ∈ members)
    : value.depth ≤ depthOfMembers members := by
  induction members with
  | nil => cases h
  | cons head rest ih =>
    simp only [depthOfMembers]
    cases h with
    | head => exact Nat.le_max_left ..
    | tail _ h => have := ih h; omega

end Json

end SchemaBridge
