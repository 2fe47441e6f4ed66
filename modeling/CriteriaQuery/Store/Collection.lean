import CriteriaQuery.Document.Query
import CriteriaQuery.Model.Projection
import CriteriaQuery.Store.Basic

namespace CriteriaQuery

/-! Collections of documents in memory and the find requests they answer. -/

namespace Json

def least? : List Json → Option Json
  | [] => none
  | value :: rest =>
    match least? rest with
    | some other =>
      if canonicalOrder value other == .gt then some other else some value
    | none => some value

def greatest? : List Json → Option Json
  | [] => none
  | value :: rest =>
    match greatest? rest with
    | some other =>
      if canonicalOrder value other == .gt then some value else some other
    | none => some value

end Json

/-- The value by which a document is sorted: the least one on the path when
ascending, the greatest one when descending, and null without any. -/
def DocumentSort.value (key : DocumentSort) (document : Json) : Json :=
  let values := document.valuesAt key.field
  (match key.direction with
    | .ascending => Json.least? values
    | .descending => Json.greatest? values).getD .null

def DocumentSort.order (key : DocumentSort) (left right : Json) : Ordering :=
  match key.direction with
  | .ascending => Json.canonicalOrder (key.value left) (key.value right)
  | .descending => Json.canonicalOrder (key.value right) (key.value left)

def DocumentSort.orderAll : List DocumentSort → Json → Json → Ordering
  | [], _, _ => .eq
  | key :: rest, left, right =>
    (key.order left right).then (orderAll rest left right)

abbrev Collection := List Json

namespace Collection

def matching (documents : Collection) (query : DocumentQuery) : List Json :=
  (documents.filter query.filter.holds).mergeSort fun left right =>
    DocumentSort.orderAll query.sort left right != .gt

/-- The rows of a query on all pages: matching documents, projected and, if
asked for, without repetitions. -/
def rows (documents : Collection) (query : DocumentQuery) : List Json :=
  let select := query.projection.map SelectPath.same
  let projected := (documents.matching query).map fun document =>
    if select.isEmpty then document else document.project select
  if query.distinct then Json.distinct projected else projected

def find (documents : Collection) (query : DocumentQuery) : RawPage :=
  let rows := documents.rows query
  ⟨(rows.drop query.skip).take query.limit, rows.length⟩

def count (documents : Collection) (query : DocumentQuery) : Nat :=
  if query.distinct then (documents.rows query).length
  else (documents.filter query.filter.holds).length

def hasId (idField : String) (id document : Json) : Bool :=
  (document.get? idField).any fun candidate => candidate.looselyEqual id

def get? (idField : String) (id : Json) (documents : Collection) : Option Json :=
  documents.find? (hasId idField id)

/-- Replaces the first document with an identifier, or adds one at the end. -/
def upsert (idField : String) (id entity : Json) : Collection → Collection
  | [] => [entity]
  | document :: rest =>
    if hasId idField id document then entity :: rest
    else document :: upsert idField id entity rest

end Collection

end CriteriaQuery
