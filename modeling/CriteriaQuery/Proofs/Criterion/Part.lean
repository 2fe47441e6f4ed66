import CriteriaQuery.Plan.Lowering
import CriteriaQuery.Proofs.Correspondence

namespace CriteriaQuery

/-! Each criterion of a list is lowered to a part by itself, whatever stands
beside it. Cutting the criteria and cutting their parts gives matching groups. -/

/-! ## The part of a criterion -/

namespace Criterion

def part (schema : Schema) (criterion : Criterion) : Except CriteriaError Part :=
  match criterion.operator with
  | some .or => .ok .separator
  | some .parentheses =>
    match criterion.nested with
    | .error error => .error error
    | .ok none | .ok (some []) => .ok .nothing
    | .ok (some nested) => (Predicate.ofCriteria schema nested).map .predicate
  | _ => .ok (((criterion.predicate? schema).map .predicate).getD .nothing)

section Part

variable {schema : Schema} {criterion : Criterion}

theorem part_of_or (operator : criterion.operator = some .or) :
    criterion.part schema = .ok .separator := by
  rw [part, operator]

theorem part_of_malformed {error : CriteriaError}
    (operator : criterion.operator = some .parentheses)
    (malformed : criterion.nested = .error error) :
    criterion.part schema = .error error := by
  simp only [part, operator, malformed]

theorem part_of_unopened (operator : criterion.operator = some .parentheses)
    (unopened : criterion.nested = .ok none ∨ criterion.nested = .ok (some [])) :
    criterion.part schema = .ok .nothing := by
  rcases unopened with unopened | unopened <;>
    simp only [part, operator, unopened]

theorem part_of_opened {nested : List Criterion}
    (operator : criterion.operator = some .parentheses)
    (opened : criterion.nested = .ok (some nested)) (nonempty : nested ≠ []) :
    criterion.part schema = (Predicate.ofCriteria schema nested).map
      .predicate := by
  cases nested with
  | nil => contradiction
  | cons first more => simp only [part, operator, opened]

theorem part_of_field (notOr : criterion.operator ≠ some .or)
    (notParentheses : criterion.operator ≠ some .parentheses) :
    criterion.part schema =
      .ok (((criterion.predicate? schema).map Part.predicate).getD .nothing) := by
  unfold part
  split
  next operator => contradiction
  next operator => contradiction
  next => rfl

theorem operator_of_part_eq_separator
    (read : criterion.part schema = .ok .separator) :
    criterion.operator = some .or := by
  unfold part at read
  split at read
  next operator => exact operator
  next =>
    split at read
    · cases read
    · cases read
    · cases read
    next nested _ _ =>
      cases lowered : Predicate.ofCriteria schema nested <;>
        simp [lowered, Except.map] at read
  next =>
    cases lowered : criterion.predicate? schema <;> simp [lowered] at read

end Part

theorem parts_cons (schema : Schema) (criterion : Criterion)
    (rest : List Criterion) :
    parts schema (criterion :: rest) =
      (do
        let first ← criterion.part schema
        let others ← parts schema rest
        return first :: others) := by
  rw [parts]
  split
  next operator =>
    rw [part_of_or operator]
    rfl
  next operator =>
    split
    next error malformed =>
      rw [part_of_malformed operator malformed]
      rfl
    next unopened =>
      rw [part_of_unopened operator (.inl unopened)]
      rfl
    next unopened =>
      rw [part_of_unopened operator (.inr unopened)]
      rfl
    next first more opened =>
      rw [part_of_opened operator opened (by simp), Predicate.ofCriteria]
      cases parts schema (first :: more) <;> rfl
  next notOr notParentheses =>
    rw [part_of_field notOr notParentheses]
    cases criterion.predicate? schema <;> rfl

theorem parts_eq_ok_iff {schema : Schema} {criteria : List Criterion}
    {found : List Part} :
    parts schema criteria = .ok found ↔
      List.Forall₂ (fun criterion part => criterion.part schema = .ok part)
        criteria found := by
  induction criteria generalizing found with
  | nil => simp [parts, eq_comm]
  | cons criterion rest induction =>
    rw [parts_cons, List.forall₂_cons_left_iff]
    simp only [← induction]
    cases first : criterion.part schema with
    | error error => simp [bind, Except.bind]
    | ok part =>
      cases others : parts schema rest with
      | error error => simp [bind, Except.bind]
      | ok more => simp [bind, Except.bind, pure, Except.pure, eq_comm]

/-- A list of one criterion is lowered to what its part amounts to. -/
theorem ofCriteria_singleton (schema : Schema) (criterion : Criterion) :
    Predicate.ofCriteria schema [criterion] =
      (criterion.part schema).map fun part => Part.combine [part] := by
  rw [Predicate.ofCriteria, parts_cons, parts]
  cases criterion.part schema <;> rfl

theorem ofCriteria_of_part_eq_predicate {schema : Schema} {criterion : Criterion}
    {predicate : Predicate}
    (read : criterion.part schema = .ok (.predicate predicate)) :
    Predicate.ofCriteria schema [criterion] = .ok predicate := by
  rw [ofCriteria_singleton, read]
  rfl

end Criterion

end CriteriaQuery
