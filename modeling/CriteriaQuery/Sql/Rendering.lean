import CriteriaQuery.Sql.Condition

namespace CriteriaQuery.Sql

/-! Rendering of predicates and paths as conditions and columns. Values become
numbered parameters and tables get numbered aliases, both in the order in which
they are met. -/

def isIdentifier (name : String) : Bool :=
  match name.toList with
  | [] => false
  | first :: rest =>
    (first.isAlpha || first = '_') && rest.all fun c => c.isAlphanum || c = '_'

structure Join where
  path : String
  link : Link
  deriving DecidableEq, Repr

structure Draft where
  parameters : List Json
  joins : List Join
  nextAlias : Nat

def Draft.start : Draft := ⟨[], [], 1⟩

abbrev Rendering := StateT Draft (Except CompileError)

namespace Rendering

def identifier (name : String) : Rendering Unit :=
  if isIdentifier name then pure () else throw (.invalidField name)

def bindParameter (value : Json) : Rendering Nat := do
  let draft ← get
  set { draft with parameters := draft.parameters ++ [value] }
  return draft.parameters.length

def freshAlias (letter : String) : Rendering String := do
  let draft ← get
  set { draft with nextAlias := draft.nextAlias + 1 }
  return letter ++ Text.numeral draft.nextAlias

/-- The column of a field inside the boundary `scope`; dots that are left become
underscores. -/
def column (field table scope : String) : Rendering Column := do
  let path := if scope = "" then field else Path.relativeTo field scope
  let name := Text.replace '.' '_' path
  identifier name
  return ⟨table, name⟩

def link (relational : Relational) (path outer letter : String) :
    Rendering Link := do
  let relation := relational.relation path
  identifier relation.table
  identifier relation.localColumn
  identifier relation.foreignColumn
  let table ← freshAlias letter
  return ⟨relation, table, outer⟩

/-! ## Conditions -/

def isLikeSpecial (c : Char) : Bool := c = '\\' || c = '%' || c = '_'

def likePattern (mode : TextMode) (needle : String) : String :=
  let literal := Text.escape isLikeSpecial (Text.lowerCase needle)
  match mode with
  | .contains => "%" ++ literal ++ "%"
  | .startsWith => literal ++ "%"
  | .endsWith => "%" ++ literal

mutual

def condition (relational : Relational) (table scope : String) :
    Predicate → Rendering Condition
  | .always => return .always
  | .all children => return .all (← conditions relational table scope children)
  | .any children => return .any (← conditions relational table scope children)
  | .not inner => return .not (← condition relational table scope inner)
  | .compare field comparison value => do
    let column ← column field table scope
    let parameter ← bindParameter value
    return .compare column comparison parameter
  | .text field mode needle => do
    let column ← column field table scope
    let parameter ← bindParameter (.string (likePattern mode needle))
    return .like column parameter
  | .present field => return .notNull (← column field table scope)
  | .within path inner => do
    let link ← link relational path table "a"
    return .relatedWhere link (← condition relational link.table path inner)
  | .related path => return .related (← link relational path table "a")

def conditions (relational : Relational) (table scope : String) :
    List Predicate → Rendering (List Condition)
  | [] => return []
  | child :: rest => do
    let first ← condition relational table scope child
    return first :: (← conditions relational table scope rest)

end

/-! ## Columns of related tables -/

/-- The alias of the table joined for a path. A path is joined once. -/
def leftJoin (relational : Relational) (path outer : String) :
    Rendering String := do
  match (← get).joins.find? (·.path = path) with
  | some join => return join.link.table
  | none =>
    let link ← link relational path outer "j"
    modify fun draft => { draft with joins := draft.joins ++ [⟨path, link⟩] }
    return link.table

def leftJoins (relational : Relational) : List String → String → Rendering String
  | [], table => return table
  | path :: rest, table => do
    leftJoins relational rest (← leftJoin relational path table)

def joinedColumn (relational : Relational) (schema : Schema) (field : String) :
    Rendering Column :=
  match schema.nesting? field with
  | none => column field relational.rootAlias ""
  | some path => do
    let table ← leftJoins relational path.boundaries relational.rootAlias
    column field table ((Path.parent? field).getD "")

def joinedColumns (relational : Relational) (schema : Schema) :
    List String → Rendering (List Column)
  | [] => return []
  | field :: rest => do
    let column ← joinedColumn relational schema field
    return column :: (← joinedColumns relational schema rest)

end Rendering

end CriteriaQuery.Sql
