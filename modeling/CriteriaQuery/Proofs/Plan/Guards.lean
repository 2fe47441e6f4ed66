import CriteriaQuery.Plan.Basic
import CriteriaQuery.Proofs.Criterion.OperatorTable

namespace CriteriaQuery

/-! Lowering group by group, with a guard wherever an operator makes no predicate.
The guards never fire: separators are gone once the groups are cut, and the other
operators are told apart before a guard is reached. -/

/-! ## Guarded lowering -/

namespace Predicate

def onField (field : String) (operator : Operator) (first : Json)
    (values : List Json) : Except CompileError Predicate :=
  match onField? field operator first values with
  | some predicate => .ok predicate
  | none => .error (.unsupportedOperator operator.name)

end Predicate

namespace Criterion

def lowerField (schema : Schema) (criterion : Criterion) (operator : Operator) :
    Except CompileError (Option Predicate) :=
  match criterion.hasBlankKey, criterion.values with
  | false, first :: more =>
    let key := schema.parseKey criterion.key
    if operator = .specified then
      let presence := Predicate.presence schema key
      .ok (some (if criterion.specifiedFlag then presence else .not presence))
    else
      (Predicate.onField key.path operator first (first :: more)).map
        fun inner => some (inner.nested (schema.boundaries key.path))
  | _, _ => .ok none

/-- The predicate of one criterion of a group. A nested list is lowered as a list
of its own. -/
def lower (schema : Schema) (criterion : Criterion) :
    Except CompileError (Option Predicate) :=
  match criterion.operator with
  | none => .ok none
  | some .parentheses =>
    match criterion.nested with
    | .error error => .error (.criteria error)
    | .ok none | .ok (some []) => .ok none
    | .ok (some nested) =>
      ((Predicate.ofCriteria schema nested).mapError .criteria).map some
  | some .or => .error (.unsupportedOperator (Operator.name .or))
  | some operator => lowerField schema criterion operator

def lowerEach (schema : Schema) (groups : List (List Criterion)) :
    Except CompileError (List (List (Option Predicate))) :=
  groups.mapM fun group => group.mapM (lower schema)

def ofLowered (groups : List (List (Option Predicate))) : Predicate :=
  match groups with
  | [] => .always
  | _ => .disjunction (groups.map fun group => .conjunction (group.filterMap id))

def lowerGroups (schema : Schema) (criteria : List Criterion) :
    Except CompileError Predicate :=
  (lowerEach schema (groups criteria)).map ofLowered

variable {schema : Schema} {criterion : Criterion}

/-! ## No guard fires -/

theorem lower_of_parentheses (operator : criterion.operator = some .parentheses) :
    criterion.lower schema = ((criterion.part schema).mapError .criteria).map
      Part.predicate? := by
  cases opened : criterion.nested with
  | error error =>
    rw [part_of_malformed operator opened]
    simp only [lower, operator, opened]
    rfl
  | ok found =>
    match found with
    | none =>
      rw [part_of_unopened operator (.inl opened)]
      simp only [lower, operator, opened]
      rfl
    | some [] =>
      rw [part_of_unopened operator (.inr opened)]
      simp only [lower, operator, opened]
      rfl
    | some (first :: more) =>
      rw [part_of_opened operator opened (List.cons_ne_nil first more)]
      simp only [lower, operator, opened]
      cases Predicate.ofCriteria schema (first :: more) <;> rfl

/-- An operator on a field makes a predicate, unless the criterion lacks a key or
values. -/
theorem lowerField_eq {operator : Operator}
    (chosen : criterion.operator = some operator)
    (onField : operator.role = .and) :
    lowerField schema criterion operator = .ok (criterion.predicate? schema) := by
  unfold lowerField
  split
  next first more named given =>
    by_cases specified : operator = .specified
    · subst operator
      rw [predicate?_of_specified chosen given named]
      rfl
    · obtain ⟨inner, asked⟩ := Predicate.exists_onField? onField specified
        (schema.parseKey criterion.key).path first (first :: more)
      rw [predicate?_of_onField chosen specified given named]
      simp only [if_neg specified, Predicate.onField, asked, Except.map,
        Option.map_some]
  next lacking =>
    cases named : criterion.hasBlankKey with
    | true => cases given : criterion.values <;>
        simp [predicate?, chosen, named, given]
    | false =>
      cases given : criterion.values with
      | nil => simp [predicate?, chosen, given]
      | cons first more => exact absurd given (lacking first more named)

theorem lower_eq (notOr : criterion.operator ≠ some .or) :
    criterion.lower schema = ((criterion.part schema).mapError .criteria).map
      Part.predicate? := by
  by_cases nests : criterion.operator = some .parentheses
  · exact lower_of_parentheses nests
  · have field : criterion.lower schema = .ok (criterion.predicate? schema) := by
      unfold lower
      cases chosen : criterion.operator with
      | none => simp [predicate?, chosen]
      | some operator =>
        cases operator with
        | or => exact absurd chosen notOr
        | parentheses => exact absurd chosen nests
        | _ => exact lowerField_eq chosen rfl
    rw [part_of_field notOr nests, field]
    cases criterion.predicate? schema <;> rfl

/-! ## Groups -/

theorem lowerEach_nil_cons (pieces : List (List Criterion)) :
    lowerEach schema ([] :: pieces) =
      (lowerEach schema pieces).map ([] :: ·) := by
  simp only [lowerEach, List.mapM_cons, List.mapM_nil, pure_bind]
  rfl

theorem lowerEach_cons_cons (criterion : Criterion) (piece : List Criterion)
    (more : List (List Criterion)) :
    lowerEach schema ((criterion :: piece) :: more) =
      (do
        let first ← criterion.lower schema
        match ← lowerEach schema (piece :: more) with
        | [] => return []
        | group :: others => return (first :: group) :: others) := by
  simp only [lowerEach, List.mapM_cons]
  cases criterion.lower schema with
  | error error => rfl
  | ok first =>
    cases piece.mapM (lower schema) with
    | error error => rfl
    | ok group => cases more.mapM fun group => group.mapM (lower schema) <;> rfl

/-- Cut at its separators, a criteria list is lowered piece by piece to the pieces
of its parts. Errors come up in the same order. -/
theorem lowerEach_pieces (criteria : List Criterion) :
    lowerEach schema (pieces isOr criteria) =
      ((parts schema criteria).mapError .criteria).map fun found =>
        (pieces Part.isSeparator found).map fun piece =>
            piece.map Part.predicate? := by
  induction criteria with
  | nil =>
    rw [parts]
    rfl
  | cons criterion rest induction =>
    rw [parts_cons]
    by_cases separates : criterion.operator = some .or
    · rw [pieces_of_separator (by simp [isOr, separates]), lowerEach_nil_cons,
        induction, part_of_or separates]
      cases parts schema rest <;> rfl
    · have plain : criterion.isOr = false := by simpa [isOr] using separates
      -- The criterion joins the first piece of the rest, and its part that of
      -- the others.
      obtain ⟨piece, more, cut, whole⟩ := pieces_of_plain plain rest
      rw [whole, lowerEach_cons_cons, ← cut, induction, lower_eq separates]
      cases alone : criterion.part schema with
      | error error => rfl
      | ok part =>
        cases others : parts schema rest with
        | error error => rfl
        | ok found =>
          have partPlain : part.isSeparator = false :=
            isOr_eq_isSeparator alone ▸ plain
          obtain ⟨first, further, cutFound, wholeFound⟩ :=
            pieces_of_plain partPlain found
          change (do
            match ((pieces Part.isSeparator found).map fun piece =>
                piece.map Part.predicate?) with
            | [] => return []
            | group :: others => return (part.predicate? :: group) :: others) =
                Except.ok _
          rw [cutFound]
          change _ = Except.ok ((pieces Part.isSeparator (part :: found)).map _)
          rw [wholeFound]
          rfl

theorem lowerEach_filter (groups : List (List Criterion)) :
    lowerEach schema (groups.filter fun group => !group.isEmpty) =
      (lowerEach schema groups).map (·.filter fun group => !group.isEmpty) := by
  induction groups with
  | nil => rfl
  | cons group rest induction =>
    cases group with
    | nil =>
      rw [List.filter_cons_of_neg (by simp), induction, lowerEach_nil_cons]
      cases lowerEach schema rest <;> rfl
    | cons criterion piece =>
      rw [List.filter_cons_of_pos (by simp)]
      simp only [lowerEach, List.mapM_cons] at induction ⊢
      rw [induction]
      cases criterion.lower schema with
      | error error => rfl
      | ok first =>
        cases piece.mapM (lower schema) with
        | error error => rfl
        | ok others =>
          cases rest.mapM fun group => group.mapM (lower schema) <;> rfl

theorem ofLowered_pieces (found : List Part) :
    ofLowered
      (((pieces Part.isSeparator found).map fun piece =>
        piece.map Part.predicate?).filter fun group => !group.isEmpty) =
      Part.combine found := by
  have nonempty : ((fun group : List (Option Predicate) => !group.isEmpty) ∘
      fun piece : List Part => piece.map Part.predicate?) = fun piece =>
        !piece.isEmpty := by
    funext piece
    cases piece <;> rfl
  have lowered (piece : List Part) :
      (piece.map Part.predicate?).filterMap id =
        piece.filterMap Part.predicate? := by
    rw [List.filterMap_map]
    rfl
  rw [List.filter_map, nonempty]
  change ofLowered ((runs Part.isSeparator found).map _) = _
  unfold Part.combine
  cases runs Part.isSeparator found with
  | nil => rfl
  | cons first more =>
    simp only [ofLowered, List.map_cons, List.map_map, Function.comp_def, lowered]
    rfl

/-- Group by group or part by part, a criteria list is lowered to the same
predicate or fails with the same error. -/
theorem lowerGroups_eq (criteria : List Criterion) :
    lowerGroups schema criteria =
      (Predicate.ofCriteria schema criteria).mapError .criteria := by
  rw [lowerGroups, groups, runs, lowerEach_filter, lowerEach_pieces,
    Predicate.ofCriteria]
  cases parts schema criteria with
  | error error => rfl
  | ok found => exact congrArg Except.ok (ofLowered_pieces found)

end Criterion

end CriteriaQuery
