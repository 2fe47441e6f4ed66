import CriteriaQuery.Json.Basic

namespace CriteriaQuery

/-! The filter of a query in a form that every backend renders. Field names are
full paths from the root, also inside a relation. -/

inductive Comparison where
  | equal
  | greater
  | greaterOrEqual
  | less
  | lessOrEqual
  deriving DecidableEq, Repr

/-- Where a needle has to stand in a text. Case does not matter. -/
inductive TextMode where
  | contains
  | startsWith
  | endsWith
  deriving DecidableEq, Repr

inductive Predicate where
  | always
  | all (children : List Predicate)
  | any (children : List Predicate)
  | not (inner : Predicate)
  | compare (field : String) (comparison : Comparison) (value : Json)
  /-- The needle is what the user wrote; a renderer lowers and escapes it. -/
  | text (field : String) (mode : TextMode) (needle : String)
  | present (field : String)
  /-- Some related entity or sub-document at the path satisfies the inner
  predicate. -/
  | within (path : String) (inner : Predicate)
  | related (path : String)
  deriving Repr

namespace Predicate

def conjunction : List Predicate → Predicate
  | [] => .always
  | [child] => child
  | children => .all children

def disjunction : List Predicate → Predicate
  | [child] => child
  | children => .any children

/-- A predicate inside boundaries, the first one outermost. -/
def nested (boundaries : List String) (inner : Predicate) : Predicate :=
  boundaries.foldr within inner

def isAlways : Predicate → Bool
  | .always => true
  | _ => false

end Predicate

end CriteriaQuery
