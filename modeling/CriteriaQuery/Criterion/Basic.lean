import CriteriaQuery.Operator
import CriteriaQuery.Json.Decoding
import CriteriaQuery.Text.Numeral

namespace CriteriaQuery

/-! A criterion is one condition of a query: a field key, an operator and a
list of values. Two operators have no field. One stands between groups of
criteria, the other holds a whole criteria list as its first value. -/

inductive CriteriaError where
  | unsupportedOperator (name : String)
  | malformedParameter (name message : String)
  /-- An item of a nested list, at this place, is not a criterion. -/
  | malformedItem (index : Nat)
  deriving DecidableEq, Repr

def CriteriaError.message : CriteriaError → String
  | .unsupportedOperator name => "Unsupported operator: " ++ name
  | .malformedParameter name message =>
    "Malformed parameter " ++ name ++ ": " ++ message
  | .malformedItem index =>
    "Malformed parameter values[0][" ++ Text.numeral index ++ "]"

def CriteriaError.kind : CriteriaError → String
  | .unsupportedOperator _ => "UnsupportedOperator"
  | .malformedParameter _ _ | .malformedItem _ => "MalformedParameter"

structure Criterion where
  key : String
  /-- Without an operator a criterion contributes nothing. -/
  operator : Option Operator
  values : List Json
  deriving Repr

namespace Criterion

def or : Criterion := ⟨"", some .or, []⟩

def role (criterion : Criterion) : LogicalRole :=
  (criterion.operator.map Operator.role).getD .and

def isOr (criterion : Criterion) : Bool := criterion.operator == some .or

def hasBlankKey (criterion : Criterion) : Bool := Text.isBlankText criterion.key

/-- The flag of a presence test: a JSON flag, or its name in any ASCII case.
Anything else is false. -/
def specifiedFlag (criterion : Criterion) : Bool :=
  match criterion.values with
  | .bool flag :: _ => flag
  | .string text :: _ => Text.equalIgnoringCase (Text.trim text) "true"
  | _ => false

/-! ## JSON form -/

def toJson (criterion : Criterion) : Json :=
  .object [("key", .string criterion.key),
    ("operation",
      (criterion.operator.map fun operator => .string operator.name).getD .null),
    ("values", .array criterion.values)]

def decodeOperator : Json → Except DecodeError (Option Operator)
  | .null => .ok none
  | .string text =>
    match Operator.ofName? text with
    | some operator => .ok (some operator)
    | none => .error (.unsupportedOperator text)
  | _ => .error .shape

def ofFields : List (Option Json) → Except DecodeError Criterion
  | [key, operation, values] => do
    let key ← Decode.orDefault "" Decode.text key
    let operator ← Decode.orDefault none decodeOperator operation
    let values ← Decode.orDefault [] (Decode.list Decode.any) values
    return ⟨key, operator, values⟩
  | _ => .error .shape

def ofJson (value : Json) : Except DecodeError Criterion :=
  Decode.record ["key", "operation", "values"] value ofFields

/-! ## Nested lists -/

def parentheses (criteria : List Criterion) : Criterion :=
  ⟨"", some .parentheses, [.array (criteria.map toJson)]⟩

/-- One item of a nested list. An operator name that an object gives is looked
at before anything else in it. -/
def nestedItem (index : Nat) (item : Json) : Except CriteriaError Criterion :=
  match item.get? "operation" with
  | some (.string name) =>
    if (Operator.ofName? name).isNone then .error (.unsupportedOperator name)
    else read
  | _ => read
where
  read : Except CriteriaError Criterion :=
    match ofJson item with
    | .ok criterion => .ok criterion
    | .error _ => .error (.malformedItem index)

def nestedItems (index : Nat) : List Json → Except CriteriaError (List Criterion)
  | [] => .ok []
  | item :: rest => do
    let criterion ← nestedItem index item
    let criteria ← nestedItems (index + 1) rest
    return criterion :: criteria

def nested (criterion : Criterion) :
    Except CriteriaError (Option (List Criterion)) :=
  match criterion.values with
  | .array items :: _ => (nestedItems 0 items).map some
  | _ => .ok none

/-! ## Groups -/

/-- The groups of a criteria list: the runs between separators. All criteria
of a group have to hold, and one group is enough. -/
def groups (criteria : List Criterion) : List (List Criterion) :=
  runs isOr criteria

end Criterion

end CriteriaQuery
