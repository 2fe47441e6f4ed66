import CriteriaQuery.Config.Basic
import CriteriaQuery.Plan.Lowering
import CriteriaQuery.Query.Basic

namespace CriteriaQuery

/-! A plan is a query with its criteria lowered to a predicate, its paths
resolved and its page settled. Every backend renders plans. -/

def Config.schema (config : Config) : Schema :=
  ⟨config.paths.isEmbedded, config.paths.leftJoinMarker⟩

inductive CompileError where
  | criteria (error : CriteriaError)
  | zeroPageSize
  /-- A name that has no place in the text of a native query. -/
  | invalidField (name : String)
  /-- An operator that makes no predicate where it stands. -/
  | unsupportedOperator (name : String)
  deriving DecidableEq, Repr

def CompileError.message : CompileError → String
  | .criteria error => error.message
  | .zeroPageSize => "Invalid pagination: page size must be greater than 0"
  | .invalidField name => "Invalid field path: " ++ name
  | .unsupportedOperator name => "Unsupported operator: " ++ name

def CompileError.kind : CompileError → String
  | .criteria error => "Criteria." ++ error.kind
  | .zeroPageSize => "InvalidPagination"
  | .invalidField _ => "InvalidField"
  | .unsupportedOperator _ => "UnsupportedOperator"

structure SortKey where
  field : String
  direction : Direction
  nested : Option NestedPath
  deriving DecidableEq, Repr

structure PageRequest where
  number : UInt32
  size : UInt32
  deriving DecidableEq, Repr

def PageRequest.offset (page : PageRequest) : Nat :=
  page.number.toNat * page.size.toNat

structure Plan where
  filter : Predicate
  sort : List SortKey
  page : PageRequest
  select : List SelectPath
  distinct : Bool
  deriving Repr

namespace Plan

def sortKeys (schema : Schema) (specs : List SortSpec) : List SortKey :=
  (specs.filter fun spec => !Text.isBlankText spec.field).map fun spec =>
    let field := (schema.parseKey spec.field).path
    ⟨field, spec.direction, schema.nesting? field⟩

/-- The size asked for, or the default one, up to the greatest size allowed. -/
def pageOf (paging : Paging) (query : Query) : Except CompileError PageRequest :=
  let number := query.pageNumber.getD paging.defaultNumber
  let size := query.pageSize.getD paging.defaultSize
  if size = 0 then .error .zeroPageSize
  else
    match paging.maxSize with
    | some max => .ok ⟨number, if max < size then max else size⟩
    | none => .ok ⟨number, size⟩

/-- The plan of a query. A fault in the criteria is reported before one in the
page. -/
def ofQuery (schema : Schema) (paging : Paging) (query : Query) :
    Except CompileError Plan := do
  let filter ← (Predicate.ofCriteria schema query.criteria).mapError .criteria
  let page ← pageOf paging query
  return ⟨filter, sortKeys schema query.sort, page, query.select, query.distinct⟩

theorem ofQuery_eq_ok_iff {schema : Schema} {paging : Paging} {query : Query}
    {plan : Plan} :
    ofQuery schema paging query = .ok plan ↔
      ∃ filter page, Predicate.ofCriteria schema query.criteria = .ok filter ∧
        pageOf paging query = .ok page ∧
        plan = ⟨filter, sortKeys schema query.sort, page, query.select,
          query.distinct⟩ := by
  simp only [ofQuery, bind, Except.bind]
  constructor
  · intro planned
    cases lowered : Predicate.ofCriteria schema query.criteria with
    | error error =>
      rw [lowered] at planned
      cases planned
    | ok filter =>
      cases settled : pageOf paging query with
      | error error =>
        rw [lowered, settled] at planned
        cases planned
      | ok page =>
        rw [lowered, settled] at planned
        cases planned
        exact ⟨filter, page, rfl, rfl, rfl⟩
  · intro ⟨filter, page, lowered, settled, same⟩
    rw [lowered, settled, same]
    rfl

end Plan

structure Compiler (Native : Type) where
  name : String
  schema : Schema
  paging : Paging
  render : Plan → String → Except CompileError Native

def Compiler.compile {Native : Type} (compiler : Compiler Native) (query : Query)
    (target : String) : Except CompileError (Native × Plan) := do
  let plan ← Plan.ofQuery compiler.schema compiler.paging query
  let native ← compiler.render plan target
  return (native, plan)

namespace Compiler

variable {Native : Type} {compiler : Compiler Native} {query : Query}
  {target : String}

theorem compile_of_plan {plan : Plan}
    (planned : Plan.ofQuery compiler.schema compiler.paging query = .ok plan) :
    compiler.compile query target =
      (compiler.render plan target).map fun native => (native, plan) := by
  simp only [compile, planned, bind, Except.bind]
  cases compiler.render plan target <;> rfl

theorem compile_of_error {error : CompileError}
    (failed : Plan.ofQuery compiler.schema compiler.paging query = .error error) :
    compiler.compile query target = .error error := by
  simp only [compile, failed, bind, Except.bind]

theorem compile_eq_ok_iff {native : Native} {plan : Plan} :
    compiler.compile query target = .ok (native, plan) ↔
      Plan.ofQuery compiler.schema compiler.paging query = .ok plan ∧
        compiler.render plan target = .ok native := by
  cases planned : Plan.ofQuery compiler.schema compiler.paging query with
  | error error => simp [compile_of_error planned]
  | ok found =>
    rw [compile_of_plan planned]
    constructor
    · intro compiled
      cases rendered : compiler.render found target with
      | error error => simp [rendered, Except.map] at compiled
      | ok native =>
        simp only [rendered, Except.map, Except.ok.injEq,
          Prod.mk.injEq] at compiled
        obtain ⟨rfl, rfl⟩ := compiled
        exact ⟨rfl, rendered⟩
    · rintro ⟨⟨⟩, rendered⟩
      rw [rendered]
      rfl

end Compiler

/-! ## Pages of results -/

structure Page (α : Type) where
  content : List α
  /-- Number of matches on all pages. -/
  total : Nat
  request : PageRequest
  deriving Repr

namespace Page

variable {α : Type}

def totalPages (page : Page α) : Nat :=
  let size := page.request.size.toNat
  if size = 0 then 0 else (page.total + size - 1) / size

def isLast (page : Page α) : Bool :=
  page.totalPages ≤ page.request.number.toNat + 1

def toJson (page : Page Json) : Json :=
  .object [("content", .array page.content), ("isLast", .bool page.isLast),
    ("pageNumber", .ofNat page.request.number.toNat),
    ("pageSize", .ofNat page.request.size.toNat), ("total", .ofNat page.total),
    ("totalPages", .ofNat page.totalPages)]

end Page

end CriteriaQuery
