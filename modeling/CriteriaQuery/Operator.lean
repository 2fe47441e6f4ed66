import CriteriaQuery.Text.Basic

namespace CriteriaQuery

/-! The closed set of operators that a criterion can have. -/

inductive Operator where
  | equal
  | notEqual
  | contain
  | doesNotContain
  | startWith
  | endWith
  | greaterThan
  | greaterThanOrEqual
  | lessThan
  | lessThanOrEqual
  /-- Tests whether the field is there; takes a flag. -/
  | specified
  /-- Holds a criteria list that counts as one criterion. -/
  | parentheses
  | or
  deriving DecidableEq, Repr

inductive LogicalRole where
  | and
  | or
  | parentheses
  deriving DecidableEq, Repr

namespace Operator

def name : Operator → String
  | .equal => "EQUAL"
  | .notEqual => "NOT_EQUAL"
  | .contain => "CONTAIN"
  | .doesNotContain => "DOES_NOT_CONTAIN"
  | .startWith => "START_WITH"
  | .endWith => "END_WITH"
  | .greaterThan => "GREATER_THAN"
  | .greaterThanOrEqual => "GREATER_THAN_OR_EQUAL"
  | .lessThan => "LESS_THAN"
  | .lessThanOrEqual => "LESS_THAN_OR_EQUAL"
  | .specified => "SPECIFIED"
  | .parentheses => "PARENTHESES"
  | .or => "OR"

def all : List Operator :=
  [.equal, .notEqual, .contain, .doesNotContain, .startWith, .endWith,
    .greaterThan, .greaterThanOrEqual, .lessThan, .lessThanOrEqual, .specified,
    .parentheses, .or]

def shortParentheses : String := "PARENTHES"

/-- The operator with a name. Blank characters around the name and the case of
ASCII letters do not matter. -/
def ofName? (text : String) : Option Operator :=
  let wanted := Text.asciiUpper (Text.trim text)
  if wanted = shortParentheses then some .parentheses
  else all.find? fun operator => operator.name = wanted

theorem ofName?_name (operator : Operator) :
    ofName? operator.name = some operator := by
  cases operator <;> decide +kernel

example : ofName? " start_with\n" = some .startWith := by decide +kernel
example : ofName? "BETWEEN" = none := by decide +kernel

def isTextMatch : Operator → Bool
  | .contain | .doesNotContain | .startWith | .endWith => true
  | _ => false

def isRange : Operator → Bool
  | .greaterThan | .greaterThanOrEqual | .lessThan | .lessThanOrEqual => true
  | _ => false

def role : Operator → LogicalRole
  | .or => .or
  | .parentheses => .parentheses
  | _ => .and

end Operator

end CriteriaQuery
