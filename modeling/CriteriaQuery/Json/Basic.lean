import CriteriaQuery.Double.Basic
import CriteriaQuery.Keyed

namespace CriteriaQuery

/-! JSON values. Members of an object stand in ascending order of their keys
and no key stands twice; `Json.Ordered` says so, and every operation keeps
it. -/

/-- A JSON number: an integer of 64 bits, with or without a sign, or a finite
floating point number. The integer one and the float one are different
numbers. -/
inductive Number where
  | integer (value : Int) (low : -(1 <<< 63) ≤ value) (high : value < 1 <<< 64)
  | float (value : Double)
  deriving DecidableEq, Repr

inductive Json where
  | null
  | bool (value : Bool)
  | number (value : Number)
  | string (value : String)
  | array (items : List Json)
  | object (members : List (String × Json))
  deriving Repr

namespace Number

def ofInt? (value : Int) : Option Number :=
  if range : -(1 <<< 63) ≤ value ∧ value < 1 <<< 64 then
    some (.integer value range.1 range.2)
  else (Double.ofInt? value).map .float

def toDouble? : Number → Option Double
  | .integer value _ _ => Double.ofInt? value
  | .float value => some value

def key : Number → Int
  | .integer value _ _ =>
    let rank :=
      BinaryFormat.double.nearest (value.natAbs <<< BinaryFormat.double.scale) 1
    if value < 0 then -(rank : Int) else rank
  | .float value => value.key

def toInteger64? : Number → Option Int
  | .integer value _ _ => if value < 1 <<< 63 then some value else none
  | .float _ => none

def toNatural? : Number → Option Nat
  | .integer value _ _ => if 0 ≤ value then some value.toNat else none
  | .float _ => none

def same : Number → Number → Bool
  | .integer left _ _, .integer right _ _ => left == right
  | .float left, .float right => left.key == right.key
  | _, _ => false

end Number

abbrev Members := Keyed Json

namespace Json

instance : Inhabited Json := ⟨.null⟩

def ofMembers (entries : List (String × Json)) : Json :=
  .object (Keyed.ofList entries)

/-- An integer. One past the range of floats has no JSON number and is null. -/
def ofInt (value : Int) : Json := (Number.ofInt? value).elim .null .number

theorem ofInt_of_range {value : Int} (low : -(1 <<< 63) ≤ value)
    (high : value < 1 <<< 64) :
    ofInt value = .number (.integer value low high) := by
  rw [ofInt, Number.ofInt?, dif_pos ⟨low, high⟩, Option.elim_some]

def ofNat (value : Nat) : Json := ofInt value

def isNull : Json → Bool
  | .null => true
  | _ => false

def get? (key : String) : Json → Option Json
  | .object members => Keyed.get? key members
  | _ => none

/-! Keys of every object inside a value are in strictly ascending order. -/

mutual

def Ordered : Json → Prop
  | .array items => ItemsOrdered items
  | .object members => Keyed.Ordered members ∧ MembersOrdered members
  | _ => True

def ItemsOrdered : List Json → Prop
  | [] => True
  | item :: rest => item.Ordered ∧ ItemsOrdered rest

def MembersOrdered : List (String × Json) → Prop
  | [] => True
  | (_, value) :: rest => value.Ordered ∧ MembersOrdered rest

end

/-! Sameness of two values: equal structure, where a float zero is the same
with either sign. -/

mutual

def same : Json → Json → Bool
  | .null, .null => true
  | .bool left, .bool right => left == right
  | .number left, .number right => left.same right
  | .string left, .string right => left == right
  | .array left, .array right => sameItems left right
  | .object left, .object right => sameMembers left right
  | _, _ => false

def sameItems : List Json → List Json → Bool
  | [], [] => true
  | left :: lefts, right :: rights => left.same right && sameItems lefts rights
  | _, _ => false

def sameMembers : List (String × Json) → List (String × Json) → Bool
  | [], [] => true
  | (leftKey, left) :: lefts, (rightKey, right) :: rights =>
    leftKey == rightKey && left.same right && sameMembers lefts rights
  | _, _ => false

end

end Json

end CriteriaQuery
