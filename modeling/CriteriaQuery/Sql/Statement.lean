import CriteriaQuery.Sql.Rendering

namespace CriteriaQuery

/-! SQL statements: one for the rows of a page and one for their total
number. -/

namespace Sql

structure Statement where
  table : String
  rootAlias : String
  distinct : Bool
  /-- Selected columns with the name that each one has in the result; none
  selects all columns of the root table. -/
  columns : List (Column × String)
  joins : List Join
  condition : Option Condition
  order : List (Column × Direction)
  limit : Nat
  offset : Nat
  deriving Repr

namespace Statement

def columnText (column : Column × String) : String :=
  column.1.text ++ " AS \"" ++ column.2 ++ "\""

def orderText (key : Column × Direction) : String :=
  key.1.text ++ " " ++ key.2.name

def projection (statement : Statement) : String :=
  if statement.columns.isEmpty then statement.rootAlias ++ ".*"
  else Text.join ", " (statement.columns.map columnText)

def source (statement : Statement) : String :=
  statement.table ++ " " ++ statement.rootAlias ++
    String.join (statement.joins.map fun join => "\n" ++ join.link.leftJoin) ++
    match statement.condition with
    | some condition => "\nWHERE " ++ condition.text
    | none => ""

def rows (statement : Statement) : String :=
  "SELECT " ++ (if statement.distinct then "DISTINCT " else "") ++
    statement.projection ++ "\nFROM " ++ statement.source

def text (statement : Statement) : String :=
  statement.rows ++
    (if statement.order.isEmpty then ""
      else "\nORDER BY " ++ Text.join ", " (statement.order.map orderText)) ++
    "\nLIMIT " ++ Text.numeral statement.limit ++
    " OFFSET " ++ Text.numeral statement.offset

/-- The number of all rows. Rows are counted as selected where a join or the
distinct flag may change their number. -/
def countText (statement : Statement) : String :=
  if statement.distinct || !statement.joins.isEmpty then
    "SELECT COUNT(*) FROM (" ++ statement.rows ++ ") AS counted"
  else "SELECT COUNT(*)\nFROM " ++ statement.source

end Statement

/-- The statement of a plan: the condition first, then selected columns, then
the order. A filter that always holds needs no condition. -/
def statement (relational : Relational) (schema : Schema) (plan : Plan)
    (target : String) : Rendering Statement := do
  Rendering.identifier target
  let condition ←
    if plan.filter.isAlways then pure none else
      some <$> Rendering.condition relational relational.rootAlias "" plan.filter
  let sources := plan.select.map SelectPath.source
  let columns ← Rendering.joinedColumns relational schema sources
  let order ← Rendering.joinedColumns relational schema
    (plan.sort.map SortKey.field)
  return {
    table := target
    rootAlias := relational.rootAlias
    distinct := plan.distinct
    columns := columns.zip sources
    joins := (← get).joins
    condition
    order := order.zip (plan.sort.map SortKey.direction)
    limit := plan.page.size.toNat
    offset := plan.page.offset }

end Sql

structure SqlQuery where
  sql : String
  countSql : String
  parameters : List Json
  deriving Repr

namespace SqlQuery

def ofPlan (relational : Relational) (schema : Schema) (plan : Plan)
    (target : String) : Except CompileError SqlQuery := do
  let (statement, draft) ←
    (Sql.statement relational schema plan target).run .start
  return ⟨statement.text, statement.countText, draft.parameters⟩

def named (query : SqlQuery) : List (String × Json) :=
  query.parameters.zipIdx.map fun (value, number) =>
    (Sql.parameterName number, value)

def toJson (query : SqlQuery) : Json :=
  .object [("count_sql", .string query.countSql),
    ("params", .ofMembers query.named), ("sql", .string query.sql)]

def compiler (relational : Relational) (schema : Schema) (paging : Paging) :
    Compiler SqlQuery where
  name := "sql"
  schema
  paging
  render := ofPlan relational schema

end SqlQuery

end CriteriaQuery
