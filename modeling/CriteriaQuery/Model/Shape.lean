import CriteriaQuery.Json.Basic

namespace CriteriaQuery

/-! Shapes of typed values. Reading a JSON value by a shape checks that it fits
and gives it in the form in which the typed value is written. -/

inductive Shape where
  | any
  | text
  | bool
  | integer (bits : Nat)
  /-- Any number; it is written as a float. -/
  | float
  | list (item : Shape)
  /-- A value or null. In an object it may be missing. -/
  | optional (inner : Shape)
  /-- Fields in declared order, each with what stands for it when it is
  missing, if anything does. -/
  | record (fields : List (String × Option Json × Shape))
  deriving Repr

namespace Shape

def missing? : Shape → Option Json
  | .optional _ => some .null
  | _ => none

def readItems? (read : Json → Option Json) : List Json → Option (List Json)
  | [] => some []
  | item :: rest => do
    let value ← read item
    let values ← readItems? read rest
    return value :: values

mutual

/-- The value that says least: null where it fits, otherwise nothing, zero or
no, and blank fields in a record. -/
def blank : Shape → Json
  | .any | .optional _ => .null
  | .text => .string ""
  | .bool => .bool false
  | .integer _ => .ofInt 0
  | .float => .number (.float Double.zero)
  | .list _ => .array []
  | .record fields => .ofMembers (blankFields fields)

def blankFields : List (String × Option Json × Shape) → Members
  | [] => []
  | (name, _, shape) :: rest => (name, shape.blank) :: blankFields rest

end

mutual

def read? : Shape → Json → Option Json
  | .any, value => some value
  | .text, .string value => some (.string value)
  | .bool, .bool value => some (.bool value)
  | .integer bits, .number (.integer value low high) =>
    if -(1 <<< (bits - 1)) ≤ value ∧ value < 1 <<< (bits - 1) then
      some (.number (.integer value low high))
    else none
  | .float, .number value =>
    value.toDouble?.map fun double => .number (.float double)
  | .list item, .array values => (readItems? (item.read?) values).map .array
  | .optional _, .null => some .null
  | .optional inner, value => inner.read? value
  | .record fields, .object members =>
    (readMembers? fields members).map .ofMembers
  | .record fields, .array values => (readPositions? fields values).map .ofMembers
  | _, _ => none

def readMembers? : List (String × Option Json × Shape) → Members → Option Members
  | [], _ => some []
  | (name, fallback, shape) :: rest, members => do
    let value ← match Keyed.get? name members with
      | some value => shape.read? value
      | none => fallback.or shape.missing?
    let values ← readMembers? rest members
    return (name, value) :: values

def readPositions? :
    List (String × Option Json × Shape) → List Json → Option Members
  | [], [] => some []
  | [], _ :: _ => none
  | (name, fallback, _) :: rest, [] => do
    let value ← fallback
    let values ← readPositions? rest []
    return (name, value) :: values
  | (name, _, shape) :: rest, value :: others => do
    let value ← shape.read? value
    let values ← readPositions? rest others
    return (name, value) :: values

end

end Shape

end CriteriaQuery
