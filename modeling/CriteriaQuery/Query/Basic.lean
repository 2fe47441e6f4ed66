import CriteriaQuery.Criterion.Basic

namespace CriteriaQuery

/-! A query: filter criteria, sort order, projection, page and the distinct
flag. It knows nothing of the backend that will answer it. -/

inductive Direction where
  | ascending
  | descending
  deriving DecidableEq, Repr

namespace Direction

def name : Direction → String
  | .ascending => "ASC"
  | .descending => "DESC"

structure Unknown where
  name : String
  deriving DecidableEq, Repr

def Unknown.message (error : Unknown) : String :=
  "unknown sort direction: " ++ error.name

def parse (text : String) : Except Unknown Direction :=
  let wanted := Text.asciiUpper (Text.trim text)
  if wanted = "ASC" then .ok .ascending
  else if wanted = "DESC" then .ok .descending
  else .error ⟨wanted⟩

end Direction

structure SortSpec where
  field : String
  direction : Direction
  deriving DecidableEq, Repr

/-- A projected value: where it is in the stored data, and where it goes in the
result. -/
structure SelectPath where
  source : String
  target : String
  deriving DecidableEq, Repr

def SelectPath.same (path : String) : SelectPath := ⟨path, path⟩

structure Query where
  criteria : List Criterion
  sort : List SortSpec
  /-- An empty projection keeps whole rows. -/
  select : List SelectPath
  pageNumber : Option UInt32
  pageSize : Option UInt32
  distinct : Bool
  deriving Repr

namespace Query

def empty : Query := ⟨[], [], [], none, none, false⟩

/-! ## Building -/

def addCriterion (query : Query) (criterion : Criterion) : Query :=
  { query with criteria := query.criteria ++ [criterion] }

def addCriteria (query : Query) (criteria : List Criterion) : Query :=
  { query with criteria := query.criteria ++ criteria }

def filter (query : Query) (key : String) (operator : Operator)
    (values : List Json) : Query :=
  query.addCriterion ⟨key, some operator, values⟩

def or (query : Query) : Query := query.addCriterion .or

def group (query nested : Query) : Query :=
  query.addCriterion (.parentheses nested.criteria)

def addSort (query : Query) (field : String) (direction : Direction) : Query :=
  { query with sort := query.sort ++ [⟨field, direction⟩] }

def addSelect (query : Query) (source target : String) : Query :=
  { query with select := query.select ++ [⟨source, target⟩] }

def setPage (query : Query) (number size : UInt32) : Query :=
  { query with pageNumber := some number, pageSize := some size }

def setDistinct (query : Query) (distinct : Bool) : Query :=
  { query with distinct }

def hasSelect (query : Query) : Bool := !query.select.isEmpty

end Query

end CriteriaQuery
