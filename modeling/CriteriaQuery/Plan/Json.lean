import CriteriaQuery.Json.Decoding
import CriteriaQuery.Plan.Basic
import CriteriaQuery.Predicate.Basic
import CriteriaQuery.Query.Json

namespace CriteriaQuery

/-! The JSON form of predicates, an object whose one key names the form, and of
plans. -/

def Comparison.name : Comparison → String
  | .equal => "Eq"
  | .greater => "Gt"
  | .greaterOrEqual => "Gte"
  | .less => "Lt"
  | .lessOrEqual => "Lte"

def TextMode.name : TextMode → String
  | .contains => "Contains"
  | .startsWith => "StartsWith"
  | .endsWith => "EndsWith"

def Comparison.toJson (comparison : Comparison) (field : String) (value : Json) :
    Json :=
  .object [("field", .string field), ("op", .string comparison.name),
    ("value", value)]

def TextMode.toJson (mode : TextMode) (field needle : String) : Json :=
  .object [("field", .string field), ("mode", .string mode.name),
    ("needle", .string needle)]

namespace Predicate

mutual

def toJson : Predicate → Json
  | .always => .string "MatchAll"
  | .all children => .object [("And", .array (toJsonAll children))]
  | .any children => .object [("AnyOf", .array (toJsonAll children))]
  | .not inner => .object [("Not", toJson inner)]
  | .compare field comparison value =>
    .object [("Compare", comparison.toJson field value)]
  | .text field mode needle => .object [("Text", mode.toJson field needle)]
  | .present field => .object [("Present", .string field)]
  | .within path inner =>
    .object [("Within",
      .object [("path", .string path), ("predicate", toJson inner)])]
  | .related path => .object [("RelationPresent", .string path)]

def toJsonAll : List Predicate → List Json
  | [] => []
  | child :: rest => toJson child :: toJsonAll rest

end

def comparisonOf? (name : String) : Option Comparison :=
  [.equal, .greater, .greaterOrEqual, .less, .lessOrEqual].find?
    fun comparison : Comparison => comparison.name == name

def modeOf? (name : String) : Option TextMode :=
  [.contains, .startsWith, .endsWith].find? fun mode : TextMode =>
    mode.name == name

def ofComparisonJson? (value : Json) : Option Predicate := do
  let .string field ← value.get? "field" | none
  let .string operator ← value.get? "op" | none
  return .compare field (← comparisonOf? operator) (← value.get? "value")

def ofTextJson? (value : Json) : Option Predicate := do
  let .string field ← value.get? "field" | none
  let .string mode ← value.get? "mode" | none
  let .string needle ← value.get? "needle" | none
  return .text field (← modeOf? mode) needle

def textsOf? (value : Json) : Option (List String) :=
  ((Decode.list Decode.text) value).toOption

mutual

/-- Reads a predicate. Next to the forms that are written there are forms named
for the operations that build a predicate from others. -/
def ofJson? : Json → Option Predicate
  | .string "MatchAll" => some .always
  | .object [("And", .array children)] => (ofJsonAll? children).map .all
  | .object [("AnyOf", .array children)] => (ofJsonAll? children).map .any
  | .object [("Not", inner)] | .object [("not", inner)] =>
    (ofJson? inner).map .not
  | .object [("and", .array children)] => (ofJsonAll? children).map conjunction
  | .object [("any_of", .array children)] => (ofJsonAll? children).map disjunction
  | .object [("Compare", value)] => ofComparisonJson? value
  | .object [("Text", value)] => ofTextJson? value
  | .object [("Present", .string field)] => some (.present field)
  | .object [("Within", .object [("path", .string path), ("predicate", inner)])]
  | .object [("within",
      .object [("path", .string path), ("predicate", inner)])] =>
    (ofJson? inner).map (.within path)
  | .object [("wrap", .object [("inner", inner), ("scopes", scopes)])] => do
    return nested (← textsOf? scopes) (← ofJson? inner)
  | .object [("RelationPresent", .string path)] => some (.related path)
  | _ => none

def ofJsonAll? : List Json → Option (List Predicate)
  | [] => some []
  | child :: rest => do
    let predicate ← ofJson? child
    let predicates ← ofJsonAll? rest
    return predicate :: predicates

end

end Predicate

/-! ## Plans -/

def SortKey.toJson (key : SortKey) : Json :=
  let boundaries :=
    key.nested.map fun path => Json.array (path.boundaries.map .string)
  .object [("direction", key.direction.toJson), ("field", .string key.field),
    ("nested", boundaries.getD .null)]

def PageRequest.toJson (page : PageRequest) : Json :=
  .object [("number", .ofNat page.number.toNat), ("offset", .ofNat page.offset),
    ("size", .ofNat page.size.toNat)]

def Plan.toJson (plan : Plan) : Json :=
  .object [("distinct", .bool plan.distinct), ("filter", plan.filter.toJson),
    ("match_all", .bool plan.filter.isAlways), ("page", plan.page.toJson),
    ("select", .array (plan.select.map SelectPath.toJson)),
    ("sort", .array (plan.sort.map SortKey.toJson))]

end CriteriaQuery
