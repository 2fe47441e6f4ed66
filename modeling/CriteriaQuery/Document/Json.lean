import CriteriaQuery.Document.Query
import CriteriaQuery.Plan.Json
import CriteriaQuery.Query.Json

namespace CriteriaQuery

/-! The forms of document filters and of the requests made with them: in JSON, and
as documents of MongoDB. -/

namespace DocumentFilter

mutual

def toJson : DocumentFilter → Json
  | .always => .string "All"
  | .all children => .object [("And", .array (toJsonAll children))]
  | .any children => .object [("Or", .array (toJsonAll children))]
  | .none children => .object [("Nor", .array (toJsonAll children))]
  | .compare field comparison value =>
    .object [("Cmp", comparison.toJson field value)]
  | .text field mode needle => .object [("Text", mode.toJson field needle)]
  | .present field => .object [("Exists", .object [("field", .string field)])]
  | .nonEmpty path => .object [("NonEmpty", .object [("field", .string path)])]
  | .element path inner =>
    .object [("ElemMatch",
      .object [("filter", toJson inner), ("path", .string path)])]

def toJsonAll : List DocumentFilter → List Json
  | [] => []
  | child :: rest => toJson child :: toJsonAll rest

end

end DocumentFilter

def DocumentSort.toJson (key : DocumentSort) : Json :=
  .object [("direction", key.direction.toJson), ("field", .string key.field)]

def DocumentQuery.toJson (query : DocumentQuery) : Json :=
  .object [("collection", .string query.collection),
    ("distinct", .bool query.distinct),
    ("filter", query.filter.toJson), ("limit", .ofNat query.limit),
    ("projection", .array (query.projection.map .string)),
    ("skip", .ofNat query.skip),
    ("sort", .array (query.sort.map DocumentSort.toJson))]

/-! ## Database form -/

namespace DocumentFilter

def isRegexSpecial (c : Char) : Bool :=
  "\\.+*?()|[]\x7b\x7d^$#&-~".toList.contains c

def regex (mode : TextMode) (needle : String) : String :=
  let literal := Text.escape isRegexSpecial needle
  match mode with
  | .contains => literal
  | .startsWith => "^" ++ literal
  | .endsWith => literal ++ "$"

def comparisonOperator : Comparison → String
  | .equal => "$eq"
  | .greater => "$gt"
  | .greaterOrEqual => "$gte"
  | .less => "$lt"
  | .lessOrEqual => "$lte"

mutual

def toMongo : DocumentFilter → Json
  | .always => .object []
  | .all children => .object [("$and", .array (toMongoAll children))]
  | .any children => .object [("$or", .array (toMongoAll children))]
  | .none children => .object [("$nor", .array (toMongoAll children))]
  | .compare field comparison value =>
    .object [(field, .object [(comparisonOperator comparison, value)])]
  | .text field mode needle =>
    .object [(field, .object [
      ("$options", .string "i"), ("$regex", .string (regex mode needle))])]
  | .present field =>
    .object [(field, .object [("$exists", .bool true), ("$ne", .null)])]
  | .nonEmpty path =>
    .object [(path, .object [
      ("$exists", .bool true), ("$nin", .array [.null, .array []])])]
  | .element path inner =>
    .object [(path, .object [("$elemMatch", toMongo inner)])]

def toMongoAll : List DocumentFilter → List Json
  | [] => []
  | child :: rest => toMongo child :: toMongoAll rest

end

end DocumentFilter

/-- The `find` command of MongoDB. The order of sort keys is kept by an array of
documents with one key each. -/
def DocumentQuery.toMongo (query : DocumentQuery) : Json :=
  let sort := query.sort.map fun key =>
    Json.object
      [(key.field, .ofInt (if key.direction = .ascending then 1 else -1))]
  let projection := query.projection.map fun path => (path, Json.ofNat 1)
  .ofMembers (
    [("find", .string query.collection), ("filter", query.filter.toMongo)] ++
    (if sort.isEmpty then [] else [("sort", .array sort)]) ++
    (if projection.isEmpty then [] else
      [("projection", .ofMembers projection)]) ++
    [("skip", .ofNat query.skip), ("limit", .ofNat query.limit)])

end CriteriaQuery
