import CriteriaQuery.Proofs.Criterion.OperatorTable

namespace CriteriaQuery

/-! Every junction of a lowered predicate joins at least two predicates, however
deep it stands. -/

namespace Predicate

mutual

def IsBranched : Predicate → Prop
  | .all children => 2 ≤ children.length ∧ AreBranched children
  | .any children => 2 ≤ children.length ∧ AreBranched children
  | .not inner => IsBranched inner
  | .within _ inner => IsBranched inner
  | .always => True
  | .compare _ _ _ => True
  | .text _ _ _ => True
  | .present _ => True
  | .related _ => True

def AreBranched : List Predicate → Prop
  | [] => True
  | child :: rest => IsBranched child ∧ AreBranched rest

end

attribute [irreducible] IsBranched AreBranched

theorem areBranched_iff {children : List Predicate} :
    AreBranched children ↔ ∀ child ∈ children, child.IsBranched := by
  induction children with
  | nil => simp [AreBranched]
  | cons child rest induction => simp [AreBranched, induction]

theorem isBranched_conjunction {children : List Predicate}
    (each : ∀ child ∈ children, child.IsBranched) :
    (conjunction children).IsBranched := by
  match children with
  | [] => simp [conjunction, IsBranched]
  | [child] => exact each child List.mem_cons_self
  | first :: second :: rest =>
    change (all (first :: second :: rest)).IsBranched
    rw [IsBranched]
    exact ⟨by simp, areBranched_iff.mpr each⟩

/-- Unlike a conjunction, a disjunction of nothing is a junction. -/
theorem isBranched_disjunction {children : List Predicate}
    (nonempty : children ≠ []) (each : ∀ child ∈ children, child.IsBranched) :
    (disjunction children).IsBranched := by
  match children with
  | [] => contradiction
  | [child] => exact each child List.mem_cons_self
  | first :: second :: rest =>
    change (any (first :: second :: rest)).IsBranched
    rw [IsBranched]
    exact ⟨by simp, areBranched_iff.mpr each⟩

theorem isBranched_nested {boundaries : List String} {inner : Predicate}
    (branched : inner.IsBranched) : (nested boundaries inner).IsBranched := by
  induction boundaries with
  | nil => exact branched
  | cons boundary rest induction =>
    rw [nested, List.foldr_cons, IsBranched]
    exact induction

theorem isBranched_presence (schema : Schema) (key : FieldKey) :
    (presence schema key).IsBranched := by
  unfold presence
  split
  · exact isBranched_nested (by simp [IsBranched])
  · exact isBranched_nested (by simp [IsBranched])
  · simp [IsBranched]

theorem isBranched_equalsSome {field : String} {values : List Json}
    (nonempty : values ≠ []) : (equalsSome field values).IsBranched := by
  refine isBranched_disjunction (by simpa using nonempty) fun child member => ?_
  obtain ⟨value, -, rfl⟩ := List.mem_map.mp member
  simp [IsBranched]

theorem isBranched_onField {field : String} {operator : Operator} {first : Json}
    {values : List Json} (nonempty : values ≠ []) {predicate : Predicate}
    (found : onField? field operator first values = some predicate) :
    predicate.IsBranched := by
  have equals : (equalsSome field values).IsBranched :=
    isBranched_equalsSome nonempty
  cases operator <;> cases found <;> simp [IsBranched, AreBranched, equals]

end Predicate

theorem Criterion.isBranched_predicate {schema : Schema} {criterion : Criterion}
    {predicate : Predicate}
    (found : criterion.predicate? schema = some predicate) :
    predicate.IsBranched := by
  cases chosen : criterion.operator with
  | none => simp [predicate?, chosen] at found
  | some operator =>
    cases given : criterion.values with
    | nil => simp [predicate?, chosen, given] at found
    | cons first more =>
      cases named : criterion.hasBlankKey with
      | true => simp [predicate?, chosen, given, named] at found
      | false =>
        by_cases specified : operator = .specified
        · subst specified
          have presence :=
            Predicate.isBranched_presence schema (schema.parseKey criterion.key)
          simp only [predicate?_of_specified chosen given named,
            Option.some.injEq] at found
          subst found
          split
          · exact presence
          · rw [Predicate.IsBranched]
            exact presence
        · rw [predicate?_of_onField chosen specified given named] at found
          obtain ⟨inner, onField, rfl⟩ := Option.map_eq_some_iff.mp found
          exact Predicate.isBranched_nested
            (Predicate.isBranched_onField (List.cons_ne_nil first more) onField)

/-! ## Criteria lists -/

def Part.IsBranched (part : Part) : Prop :=
  ∀ predicate, part.predicate? = some predicate → predicate.IsBranched

theorem Part.isBranched_combine {parts : List Part}
    (each : ∀ part ∈ parts, part.IsBranched) : (combine parts).IsBranched := by
  unfold combine
  split
  next => simp [Predicate.IsBranched]
  next some =>
    refine Predicate.isBranched_disjunction (by simpa using some)
      fun child member => ?_
    obtain ⟨run, ofRun, rfl⟩ := List.mem_map.mp member
    refine Predicate.isBranched_conjunction fun predicate inside => ?_
    obtain ⟨part, ofPart, found⟩ := List.mem_filterMap.mp inside
    have ofPieces := mem_of_mem_pieces (List.mem_filter.mp ofRun).1
    exact each part (ofPieces part ofPart).1 predicate found

theorem Predicate.isBranched_of_ofCriteria {schema : Schema}
    {criteria : List Criterion} {predicate : Predicate}
    (lowered : ofCriteria schema criteria = .ok predicate) :
    predicate.IsBranched := by
  cases read : Criterion.parts schema criteria with
  | error error => simp [ofCriteria, read, Except.map] at lowered
  | ok found =>
    have whole : Part.combine found = predicate := by
      simpa [ofCriteria, read, Except.map] using lowered
    rw [← whole]
    refine Part.isBranched_combine fun part member inner isInner => ?_
    obtain ⟨criterion, listed, alone⟩ :=
      exists_of_mem_right (Criterion.parts_eq_ok_iff.mp read) member
    unfold Criterion.part at alone
    split at alone
    · cases alone
      cases isInner
    · split at alone
      · cases alone
      · cases alone
        cases isInner
      · cases alone
        cases isInner
      next nested _ opened =>
        cases inside : ofCriteria schema nested with
        | error error => simp [inside, Except.map] at alone
        | ok nestedPredicate =>
          have lighter := Criterion.totalWeight_lt_of_nested opened
          have := Criterion.weight_le_totalWeight listed
          rw [inside] at alone
          cases alone
          cases isInner
          exact isBranched_of_ofCriteria inside
    · cases single : criterion.predicate? schema with
      | none =>
        rw [single] at alone
        cases alone
        cases isInner
      | some value =>
        rw [single] at alone
        cases alone
        cases isInner
        exact criterion.isBranched_predicate single
termination_by Criterion.totalWeight criteria

end CriteriaQuery
