import CriteriaQuery.Query.Basic

namespace CriteriaQuery

/-! The JSON form of queries. -/

def Direction.toJson (direction : Direction) : Json := .string direction.name

/-- In JSON a direction has exactly its canonical name, which may also be the
one key of an object with null in it. -/
def Direction.ofJson : Json → Except DecodeError Direction
  | .string "ASC" | .object [("ASC", .null)] => .ok .ascending
  | .string "DESC" | .object [("DESC", .null)] => .ok .descending
  | _ => .error .shape

def SortSpec.toJson (spec : SortSpec) : Json :=
  .object [("direction", spec.direction.toJson), ("field", .string spec.field)]

def SortSpec.ofJson (value : Json) : Except DecodeError SortSpec :=
  Decode.record ["field", "direction"] value fun
    | [field, direction] => do
      let field ← Decode.required Decode.text field
      let direction ← Decode.orDefault .ascending Direction.ofJson direction
      return ⟨field, direction⟩
    | _ => .error .shape

def SelectPath.toJson (path : SelectPath) : Json :=
  .object [("source", .string path.source), ("target", .string path.target)]

def SelectPath.ofJson (value : Json) : Except DecodeError SelectPath :=
  Decode.record ["source", "target"] value fun
    | [source, target] => do
      let source ← Decode.required Decode.text source
      let target ← Decode.required Decode.text target
      return ⟨source, target⟩
    | _ => .error .shape

namespace Query

def pageJson : Option UInt32 → Json
  | some value => .ofNat value.toNat
  | none => .null

def toJson (query : Query) : Json :=
  .object [("distinct", .bool query.distinct),
    ("orderBy", .array (query.sort.map SortSpec.toJson)),
    ("pageNumber", pageJson query.pageNumber),
    ("pageSize", pageJson query.pageSize),
    ("select", .array (query.select.map SelectPath.toJson)),
    ("where", .array (query.criteria.map Criterion.toJson))]

def decodeCriteria : Option Json → Except DecodeError (List Criterion) :=
  Decode.orDefault [] (Decode.list Criterion.ofJson)

def decodeSort : Option Json → Except DecodeError (List SortSpec) :=
  Decode.orDefault [] (Decode.list SortSpec.ofJson)

def decodeSelect : Option Json → Except DecodeError (List SelectPath) :=
  Decode.orDefault [] (Decode.list SelectPath.ofJson)

def decodePage : Option Json → Except DecodeError (Option UInt32) :=
  Decode.orDefault none (Decode.optional Decode.natural32)

def decodeDistinct : Option Json → Except DecodeError Bool :=
  Decode.orDefault false Decode.bool

/-- Reads a query. The fields of an object are looked at in the order of their
names, those of an array by position; the first faulty one decides the
error. -/
def ofJson (value : Json) : Except DecodeError Query :=
  match value with
  | .object _ =>
    Decode.record
      ["distinct", "orderBy", "pageNumber", "pageSize", "select", "where"] value fun
      | [distinct, sort, pageNumber, pageSize, select, criteria] => do
        let distinct ← decodeDistinct distinct
        let sort ← decodeSort sort
        let pageNumber ← decodePage pageNumber
        let pageSize ← decodePage pageSize
        let select ← decodeSelect select
        let criteria ← decodeCriteria criteria
        return ⟨criteria, sort, select, pageNumber, pageSize, distinct⟩
      | _ => .error .shape
  | _ =>
    Decode.record
      ["where", "orderBy", "select", "pageNumber", "pageSize", "distinct"] value fun
      | [criteria, sort, select, pageNumber, pageSize, distinct] => do
        let criteria ← decodeCriteria criteria
        let sort ← decodeSort sort
        let select ← decodeSelect select
        let pageNumber ← decodePage pageNumber
        let pageSize ← decodePage pageSize
        let distinct ← decodeDistinct distinct
        return ⟨criteria, sort, select, pageNumber, pageSize, distinct⟩
      | _ => .error .shape

end Query

end CriteriaQuery
