import CriteriaQuery.Criterion.Basic
import CriteriaQuery.Json.Text
import CriteriaQuery.Path.Basic
import CriteriaQuery.Predicate.Basic

namespace CriteriaQuery

/-! The predicate of one criterion on a field. -/

structure Schema where
  isEmbedded : String → Bool
  leftJoinMarker : Char

namespace Schema

def parseKey (schema : Schema) (key : String) : FieldKey :=
  FieldKey.parse key schema.leftJoinMarker

def nesting? (schema : Schema) (path : String) : Option NestedPath :=
  Path.nesting? schema.isEmbedded path

def boundaries (schema : Schema) (path : String) : List String :=
  ((schema.nesting? path).map NestedPath.boundaries).getD []

end Schema

namespace Predicate

def equalsSome (field : String) (values : List Json) : Predicate :=
  disjunction (values.map (compare field .equal))

def onField? (field : String) (operator : Operator) (first : Json)
    (values : List Json) : Option Predicate :=
  match operator with
  | .equal => some (equalsSome field values)
  | .notEqual => some (.all [.present field, .not (equalsSome field values)])
  | .contain => some (.text field .contains first.plainText)
  | .doesNotContain =>
    some (.all [.present field, .not (.text field .contains first.plainText)])
  | .startWith => some (.text field .startsWith first.plainText)
  | .endWith => some (.text field .endsWith first.plainText)
  | .greaterThan => some (.compare field .greater first)
  | .greaterThanOrEqual => some (.compare field .greaterOrEqual first)
  | .lessThan => some (.compare field .less first)
  | .lessThanOrEqual => some (.compare field .lessOrEqual first)
  | .specified | .parentheses | .or => none

/-- The field is there. With the left-join marker it is the relation above the
field that has to be there, and the field does not matter. -/
def presence (schema : Schema) (key : FieldKey) : Predicate :=
  match schema.nesting? key.path, key.leftJoin, key.parent? with
  | some path, true, some parent =>
    nested path.boundaries.dropLast (.related parent)
  | some path, _, _ => nested path.boundaries (.present key.path)
  | none, _, _ => .present key.path

end Predicate

/-- The predicate of a criterion on a field. A criterion without an operator, a
key or values contributes nothing. An absence test negates the presence test as
a whole, boundaries included. -/
def Criterion.predicate? (schema : Schema) (criterion : Criterion) :
    Option Predicate :=
  match criterion.operator, criterion.values with
  | some operator, first :: more =>
    if criterion.hasBlankKey then none
    else
      let key := schema.parseKey criterion.key
      match operator with
      | .specified =>
        let presence := Predicate.presence schema key
        some (if criterion.specifiedFlag then presence else .not presence)
      | operator =>
        (Predicate.onField? key.path operator first (first :: more)).map
          (Predicate.nested (schema.boundaries key.path))
  | _, _ => none

end CriteriaQuery
