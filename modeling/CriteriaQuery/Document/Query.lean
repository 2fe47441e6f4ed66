import CriteriaQuery.Document.Filter
import CriteriaQuery.Plan.Basic

namespace CriteriaQuery

/-! Find requests against a collection of documents. -/

structure DocumentSort where
  field : String
  direction : Direction
  deriving DecidableEq, Repr

structure DocumentQuery where
  collection : String
  filter : DocumentFilter
  sort : List DocumentSort
  skip : Nat
  limit : Nat
  projection : List String
  distinct : Bool
  deriving Repr

namespace DocumentQuery

def ofPlan (plan : Plan) (collection : String) : DocumentQuery where
  collection
  filter := .ofPredicate plan.filter
  sort := plan.sort.map fun key => ⟨key.field, key.direction⟩
  skip := plan.page.offset
  limit := plan.page.size.toNat
  projection := plan.select.map SelectPath.source
  distinct := plan.distinct

def compiler (schema : Schema) (paging : Paging) : Compiler DocumentQuery where
  name := "document"
  schema
  paging
  render plan target := .ok (ofPlan plan target)

theorem compile_eq_ok_iff {schema : Schema} {paging : Paging} {query : Query}
    {target : String} {native : DocumentQuery} {plan : Plan} :
    (compiler schema paging).compile query target = .ok (native, plan) ↔
      ∃ filter page, Predicate.ofCriteria schema query.criteria = .ok filter ∧
        Plan.pageOf paging query = .ok page ∧
        plan = ⟨filter, Plan.sortKeys schema query.sort, page, query.select,
          query.distinct⟩ ∧
        native = .ofPlan plan target := by
  constructor
  · intro compiled
    obtain ⟨planned, rendered⟩ := Compiler.compile_eq_ok_iff.mp compiled
    obtain ⟨filter, page, lowered, settled, same⟩ :=
      Plan.ofQuery_eq_ok_iff.mp planned
    cases rendered
    exact ⟨filter, page, lowered, settled, same, rfl⟩
  · intro ⟨filter, page, lowered, settled, same, rendered⟩
    refine Compiler.compile_eq_ok_iff.mpr ⟨?_, ?_⟩
    · exact Plan.ofQuery_eq_ok_iff.mpr ⟨filter, page, lowered, settled, same⟩
    · rw [rendered]
      rfl

end DocumentQuery

end CriteriaQuery
