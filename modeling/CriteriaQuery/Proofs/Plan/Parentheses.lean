import CriteriaQuery.Plan.Basic
import CriteriaQuery.Proofs.Criterion.Json
import CriteriaQuery.Proofs.Criterion.Part

namespace CriteriaQuery

/-! Parentheses around a whole criteria list change nothing. The list goes
through its JSON form and is lowered on its own; the group and the conjunction
that it then stands in have one member each and collapse. -/

namespace Criterion

variable {schema : Schema}

theorem part_parentheses_nil : (parentheses []).part schema = .ok .nothing :=
  part_of_unopened rfl (.inr (nested_parentheses []))

theorem part_parentheses {criteria : List Criterion} (nonempty : criteria ≠ []) :
    (parentheses criteria).part schema =
      (Predicate.ofCriteria schema criteria).map .predicate :=
  part_of_opened rfl (nested_parentheses criteria) nonempty

theorem ofCriteria_parentheses (criteria : List Criterion) :
    Predicate.ofCriteria schema [parentheses criteria] =
      Predicate.ofCriteria schema criteria := by
  by_cases empty : criteria = []
  · -- The criterion contributes nothing, and its group always holds, as no group does.
    rw [empty, ofCriteria_singleton, part_parentheses_nil,
      Predicate.ofCriteria, parts]
    rfl
  · have opened : (parentheses criteria).part schema =
        (Predicate.ofCriteria schema criteria).map .predicate :=
          part_parentheses empty
    cases lowered : Predicate.ofCriteria schema criteria with
    | error error =>
      rw [lowered] at opened
      rw [ofCriteria_singleton, opened]
      rfl
    | ok predicate =>
      rw [lowered] at opened
      exact ofCriteria_of_part_eq_predicate opened

end Criterion

/-- A criteria list in parentheses is lowered to what the list itself is lowered
to, or fails as the list does, and so does a query with all its criteria in
parentheses. -/
theorem Criterion.parentheses_are_transparent (schema : Schema)
    (criteria : List Criterion) :
    Predicate.ofCriteria schema [.parentheses criteria] =
      Predicate.ofCriteria schema criteria ∧
    ∀ (paging : Paging) (query : Query),
      Plan.ofQuery schema paging
        { query with criteria := [.parentheses criteria] } =
        Plan.ofQuery schema paging { query with criteria } := by
  constructor
  · exact ofCriteria_parentheses criteria
  · intro paging query
    simp only [Plan.ofQuery, ofCriteria_parentheses]
    rfl

end CriteriaQuery
