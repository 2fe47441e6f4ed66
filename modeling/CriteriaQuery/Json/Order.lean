import CriteriaQuery.Json.Text

namespace CriteriaQuery.Json

/-! Two ways to order JSON values. The strict one relates values of one kind
only and leaves arrays, objects and mixed kinds unrelated; filters use it. The
canonical one relates all values; sorting uses it. -/

def strictOrder? : Json → Json → Option Ordering
  | .null, .null => some .eq
  | .bool left, .bool right => some (compare left right)
  | .number left, .number right => some (compare left.key right.key)
  | .string left, .string right => some (compare left right)
  | _, _ => none

/-- Equality of filters: by the strict order where it relates the values, and
by structure where it does not. -/
def looselyEqual (left right : Json) : Bool :=
  match strictOrder? left right with
  | some order => order == .eq
  | none => left.same right

def kindRank : Json → Nat
  | .null => 0
  | .bool _ => 1
  | .number _ => 2
  | .string _ => 3
  | .array _ => 4
  | .object _ => 5

mutual

/-- Order of all values: by kind first, arrays item by item, objects by their
compact text, and the other kinds by the strict order. -/
def canonicalOrder : Json → Json → Ordering
  | .array left, .array right => itemsOrder left right
  | .object left, .object right =>
    compare (Json.object left).text (Json.object right).text
  | left, right =>
    (compare left.kindRank right.kindRank).then
      ((strictOrder? left right).getD .eq)

def itemsOrder : List Json → List Json → Ordering
  | [], [] => .eq
  | [], _ :: _ => .lt
  | _ :: _, [] => .gt
  | left :: lefts, right :: rights =>
    (canonicalOrder left right).then (itemsOrder lefts rights)

end

def notAfter (left right : Json) : Bool := canonicalOrder left right != .gt

def sort (values : List Json) : List Json := values.mergeSort notAfter

end CriteriaQuery.Json
