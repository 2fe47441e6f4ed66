import CriteriaQuery.Double.Reading
import CriteriaQuery.Json.Basic
import CriteriaQuery.Query.Basic
import CriteriaQuery.Text.Basic

namespace CriteriaQuery

/-! Queries given as flat request parameters. Criteria, sort clauses and
projected values are numbered by an index at the end of the name; entries are
taken in ascending order of their indices, which may have gaps. -/

abbrev Parameters := List (String × String)

namespace Parameters

/-- The value of a parameter. Of a name that is given twice the last value
counts. -/
def get? (parameters : Parameters) (name : String) : Option String :=
  parameters.reverse.lookup name

def indexed (start : String) (index : Nat) : String :=
  start ++ Text.numeral index

def indexAfter? (start name : String) : Option Nat :=
  match Text.after? start.toList name.toList with
  | some rest => (Text.readNatural Text.limit64 (String.ofList rest)).toOption
  | none => none

def insertIndex (index : Nat) : List Nat → List Nat
  | [] => [index]
  | other :: rest =>
    if index < other then index :: other :: rest
    else if index = other then other :: rest
    else other :: insertIndex index rest

def indices (starts : List String) (parameters : Parameters) : List Nat :=
  parameters.foldr (fun (name, _) found =>
    match starts.findSome? (indexAfter? · name) with
    | some index => insertIndex index found
    | none => found) []

/-! ## Values -/

/-- A raw text as a JSON value: a constant, an integer of 64 bits or a finite
float where it spells one, and otherwise the text itself. -/
def scalar (raw : String) : Json :=
  let text := Text.trim raw
  if text = "true" then .bool true
  else if text = "false" then .bool false
  else if text = "null" then .null
  else
    match Text.readInteger64? text with
    | some value => .ofInt value
    | none =>
      match Double.ofText? text with
      | some value => .number (.float value)
      | none => .string raw

def values (raw : String) : List Json :=
  if raw = "" then [] else (Text.split ',' raw).map scalar

/-! ## Criteria -/

def criterionAt (parameters : Parameters) (index : Nat) :
    Except CriteriaError Criterion :=
  let name := indexed "operation" index
  match parameters.get? name with
  | none => .error (.malformedParameter name "operation is required")
  | some text =>
    match Operator.ofName? text with
    | none => .error (.unsupportedOperator text)
    | some operator =>
      let key := (parameters.get? (indexed "key" index)).getD ""
      let values :=
        ((parameters.get? (indexed "values" index)).map values).getD []
      .ok ⟨key, some operator, values⟩

def criteria (parameters : Parameters) : Except CriteriaError (List Criterion) :=
  (indices ["key", "operation", "values"] parameters).mapM parameters.criterionAt

/-! ## Sort clauses and projection -/

def sortAt (parameters : Parameters) (index : Nat) :
    Except CriteriaError (Option SortSpec) :=
  match parameters.get? (indexed "orderBy" index) with
  | none => .ok none
  | some field =>
    let name := indexed "orderByDirection" index
    match parameters.get? name with
    | none => .ok (some ⟨field, .ascending⟩)
    | some text =>
      match Direction.parse text with
      | .ok direction => .ok (some ⟨field, direction⟩)
      | .error unknown => .error (.malformedParameter name unknown.message)

def sort (parameters : Parameters) : Except CriteriaError (List SortSpec) := do
  let clauses ← (indices ["orderBy"] parameters).mapM parameters.sortAt
  return clauses.reduceOption

/-- The projected value with an index, if its source is given. It goes to the
path it comes from unless told otherwise. -/
def selectAt? (parameters : Parameters) (index : Nat) : Option SelectPath :=
  (parameters.get? (indexed "select" index)).map fun source =>
    ⟨source, (parameters.get? (indexed "selectAs" index)).getD source⟩

def select (parameters : Parameters) : List SelectPath :=
  (indices ["select"] parameters).filterMap parameters.selectAt?

/-! ## Page and distinct flag -/

def number (parameters : Parameters) (name : String) :
    Except CriteriaError (Option UInt32) :=
  match parameters.get? name with
  | none => .ok none
  | some raw =>
    match Text.readNatural Text.limit32 (Text.trim raw) with
    | .ok value => .ok (some (UInt32.ofNat value))
    | .error error => .error (.malformedParameter name error.message)

def flag (parameters : Parameters) (name : String) : Except CriteriaError Bool :=
  match (parameters.get? name).map fun raw => Text.asciiLower (Text.trim raw) with
  | none => .ok false
  | some text =>
    if text = "true" then .ok true
    else if text = "false" ∨ text = "" then .ok false
    else
      .error (.malformedParameter name ("expected true or false, got " ++ text))

def query (parameters : Parameters) : Except CriteriaError Query := do
  let criteria ← parameters.criteria
  let sort ← parameters.sort
  let pageNumber ← parameters.number "pageNumber"
  let pageSize ← parameters.number "pageSize"
  let distinct ← parameters.flag "distinct"
  return ⟨criteria, sort, parameters.select, pageNumber, pageSize, distinct⟩

end Parameters

end CriteriaQuery
