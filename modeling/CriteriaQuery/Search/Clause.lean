import CriteriaQuery.Json.Text
import CriteriaQuery.Predicate.Basic
import CriteriaQuery.Text.Basic
import CriteriaQuery.Text.LowerCase

namespace CriteriaQuery

/-! Clauses of the Elasticsearch query language. -/

inductive SearchClause where
  | matchAll
  /-- Every clause of the first list holds and none of the second. -/
  | all (must mustNot : List SearchClause)
  | any (should : List SearchClause)
  | phrase (field : String) (value : Json)
  | range (field bound : String) (value : Json)
  | beginning (field value : String)
  | wildcard (field pattern : String)
  | present (field : String)
  | nested (path : String) (inner : SearchClause)
  deriving Repr

namespace SearchClause

def isWildcardSpecial (c : Char) : Bool := c = '\\' || c = '*' || c = '?'

def literal (needle : String) : String :=
  Text.escape isWildcardSpecial (Text.lowerCase needle)

def ofText (field : String) (mode : TextMode) (needle : String) : SearchClause :=
  match mode with
  | .startsWith => .beginning field (Text.lowerCase needle)
  | .endsWith => .wildcard field ("*" ++ literal needle)
  | .contains => .wildcard field ("*" ++ literal needle ++ "*")

def ofComparison (field : String) (comparison : Comparison) (value : Json) :
    SearchClause :=
  match comparison with
  | .equal => .phrase field value
  | .greater => .range field "gt" value
  | .greaterOrEqual => .range field "gte" value
  | .less => .range field "lt" value
  | .lessOrEqual => .range field "lte" value

mutual

/-- The clause of a predicate. In a conjunction the negated children are told
apart from the others and stated without their negation. -/
def ofPredicate : Predicate → SearchClause
  | .always => .matchAll
  | .all children => .all (positive children) (negated children)
  | .any children => .any (ofChildren children)
  | .not inner => .all [] [ofPredicate inner]
  | .compare field comparison value => ofComparison field comparison value
  | .text field mode needle => ofText field mode needle
  | .present field => .present field
  | .within path inner => .nested path (ofPredicate inner)
  | .related path => .nested path .matchAll

def ofChildren : List Predicate → List SearchClause
  | [] => []
  | child :: rest => ofPredicate child :: ofChildren rest

def positive : List Predicate → List SearchClause
  | [] => []
  | .not _ :: rest => positive rest
  | child :: rest => ofPredicate child :: positive rest

def negated : List Predicate → List SearchClause
  | [] => []
  | .not inner :: rest => ofPredicate inner :: negated rest
  | _ :: rest => negated rest

end

def ignoringCase (kind field value : String) : Json :=
  .object [(kind,
    .object [(field,
      .object [("case_insensitive", .bool true), ("value", .string value)])])]

def optionalClauses (name : String) (clauses : List Json) : Members :=
  if clauses.isEmpty then [] else [(name, .array clauses)]

mutual

def toJson : SearchClause → Json
  | .matchAll => .object [("match_all", .object [])]
  | .all must mustNot =>
    .object [("bool", .object (optionalClauses "must" (toJsonAll must) ++
      optionalClauses "must_not" (toJsonAll mustNot)))]
  | .any should =>
    .object [("bool", .object [("minimum_should_match", .ofNat 1),
      ("should", .array (toJsonAll should))])]
  | .phrase field value => .object [("match_phrase", .object [(field, value)])]
  | .range field bound value =>
    .object [("range", .object [(field, .object [(bound, value)])])]
  | .beginning field value => ignoringCase "prefix" field value
  | .wildcard field pattern => ignoringCase "wildcard" field pattern
  | .present field => .object [("exists", .object [("field", .string field)])]
  | .nested path inner =>
    .object [("nested", .object [("path", .string path), ("query", toJson inner),
      ("score_mode", .string "none")])]

def toJsonAll : List SearchClause → List Json
  | [] => []
  | clause :: rest => toJson clause :: toJsonAll rest

end

end SearchClause

end CriteriaQuery
