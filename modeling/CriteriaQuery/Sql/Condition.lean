import CriteriaQuery.Plan.Basic
import CriteriaQuery.Text.LowerCase

namespace CriteriaQuery.Sql

/-! Conditions of SQL statements as trees, and their text. -/

structure Column where
  table : String
  name : String
  deriving DecidableEq, Repr

def Column.text (column : Column) : String := column.table ++ "." ++ column.name

structure Link where
  relation : Relation
  table : String
  outer : String
  deriving DecidableEq, Repr

namespace Link

def correlation (link : Link) : String :=
  (Column.mk link.table link.relation.foreignColumn).text ++ " = " ++
    (Column.mk link.outer link.relation.localColumn).text

def subquery (link : Link) : String :=
  "SELECT 1 FROM " ++ link.relation.table ++ " " ++ link.table ++ " WHERE " ++
    link.correlation

def leftJoin (link : Link) : String :=
  "LEFT JOIN " ++ link.relation.table ++ " " ++ link.table ++ " ON " ++
    link.correlation

end Link

/-- A condition. Values stand outside the text; a condition names the number of
the parameter that holds its value. -/
inductive Condition where
  | always
  | all (children : List Condition)
  | any (children : List Condition)
  | not (inner : Condition)
  | compare (column : Column) (comparison : Comparison) (parameter : Nat)
  | like (column : Column) (parameter : Nat)
  | notNull (column : Column)
  | related (link : Link)
  | relatedWhere (link : Link) (inner : Condition)
  deriving Repr

def parameterName (number : Nat) : String := "p" ++ Text.numeral number

def placeholder (number : Nat) : String := ":" ++ parameterName number

def comparisonSign : Comparison → String
  | .equal => "="
  | .greater => ">"
  | .greaterOrEqual => ">="
  | .less => "<"
  | .lessOrEqual => "<="

namespace Condition

mutual

def text : Condition → String
  | .always => "1 = 1"
  | .all children => "(" ++ Text.join " AND " (texts children) ++ ")"
  | .any children => "(" ++ Text.join " OR " (texts children) ++ ")"
  | .not inner => "NOT (" ++ text inner ++ ")"
  | .compare column comparison parameter =>
    column.text ++ " " ++ comparisonSign comparison ++ " " ++
      placeholder parameter
  | .like column parameter =>
    "LOWER(" ++ column.text ++ ") LIKE " ++ placeholder parameter ++
      " ESCAPE '\\'"
  | .notNull column => column.text ++ " IS NOT NULL"
  | .related link => "EXISTS (" ++ link.subquery ++ ")"
  | .relatedWhere link inner =>
    "EXISTS (" ++ link.subquery ++ " AND " ++ text inner ++ ")"

def texts : List Condition → List String
  | [] => []
  | child :: rest => text child :: texts rest

end

end Condition

end CriteriaQuery.Sql
