import CriteriaQuery.Plan.Basic
import CriteriaQuery.Search.Clause

namespace CriteriaQuery

/-! Search requests against an index. The distinct flag has no counterpart in
them; it is applied to the projected hits. -/

structure SearchRequest where
  index : String
  body : Json
  deriving Repr

namespace SearchRequest

def nestedSort? : List String → Option Json
  | [] => none
  | path :: inner =>
    match nestedSort? inner with
    | some nested => some (.object [("nested", nested), ("path", .string path)])
    | none => some (.object [("path", .string path)])

def sortClause (key : SortKey) : Json :=
  let nested := nestedSort? ((key.nested.map NestedPath.boundaries).getD [])
  let order := match key.direction with
    | .ascending => "asc"
    | .descending => "desc"
  .object [(key.field, .object (
    ((nested.map fun nested => ("nested", nested)).toList) ++
      [("order", .string order)]))]

def ofPlan (plan : Plan) (index : String) : SearchRequest :=
  let sort := plan.sort.map sortClause
  let source := plan.select.map fun pair => Json.string pair.source
  ⟨index, .ofMembers ([("query", (SearchClause.ofPredicate plan.filter).toJson),
    ("from", .ofNat plan.page.offset), ("size", .ofNat plan.page.size.toNat),
    ("track_total_hits", .bool true)] ++
    (if sort.isEmpty then [] else [("sort", .array sort)]) ++
    (if source.isEmpty then [] else [("_source", .array source)]))⟩

def toJson (request : SearchRequest) : Json :=
  .object [("body", request.body), ("index", .string request.index)]

def compiler (schema : Schema) (paging : Paging) : Compiler SearchRequest where
  name := "search"
  schema
  paging
  render plan target := .ok (ofPlan plan target)

end SearchRequest

end CriteriaQuery
