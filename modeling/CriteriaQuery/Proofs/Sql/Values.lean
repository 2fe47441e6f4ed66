import CriteriaQuery.Proofs.Sql.Rendering

namespace CriteriaQuery

/-! The text of a statement does not depend on the values that users give. Values
only become parameters, and how many there are is settled without a look at
them. -/

open Sql Sql.Rendering

namespace Predicate

mutual

def withoutValues : Predicate → Predicate
  | .always => .always
  | .all children => .all (withoutValuesAll children)
  | .any children => .any (withoutValuesAll children)
  | .not inner => .not (withoutValues inner)
  | .compare field comparison _ => .compare field comparison .null
  | .text field mode _ => .text field mode ""
  | .present field => .present field
  | .within path inner => .within path (withoutValues inner)
  | .related path => .related path

def withoutValuesAll : List Predicate → List Predicate
  | [] => []
  | child :: rest => withoutValues child :: withoutValuesAll rest

end

theorem isAlways_withoutValues (predicate : Predicate) :
    predicate.withoutValues.isAlways = predicate.isAlways := by
  cases predicate <;> simp [withoutValues, isAlways]

structure Alike (predicate other : Predicate) : Prop where
  values : predicate.boundValues.length = other.boundValues.length
  crossings : predicate.crossings = other.crossings
  names : ∀ relational scope,
    predicate.sqlNames relational scope = other.sqlNames relational scope
  rendered : ∀ relational table scope parameter next,
    predicate.rendered relational table scope parameter next =
      other.rendered relational table scope parameter next

structure AllAlike (children others : List Predicate) : Prop where
  values : (boundValuesOf children).length = (boundValuesOf others).length
  crossings : crossingsOf children = crossingsOf others
  names : ∀ relational scope,
    sqlNamesOf relational scope children = sqlNamesOf relational scope others
  rendered : ∀ relational table scope parameter next,
    renderedAll relational table scope parameter next children =
      renderedAll relational table scope parameter next others

mutual

theorem alike_withoutValues :
    ∀ predicate : Predicate, predicate.withoutValues.Alike predicate
  | .always => by
    constructor <;> intros <;> simp only [withoutValues]
  | .all children => by
    have inner := allAlike_withoutValuesAll children
    constructor <;> intros <;>
      simp only [withoutValues, boundValues, crossings, sqlNames, rendered,
        inner.values, inner.crossings, inner.names, inner.rendered]
  | .any children => by
    have inner := allAlike_withoutValuesAll children
    constructor <;> intros <;>
      simp only [withoutValues, boundValues, crossings, sqlNames, rendered,
        inner.values, inner.crossings, inner.names, inner.rendered]
  | .not negated => by
    have inner := alike_withoutValues negated
    constructor <;> intros <;>
      simp only [withoutValues, boundValues, crossings, sqlNames, rendered,
        inner.values, inner.crossings, inner.names, inner.rendered]
  | .compare field comparison value => by
    constructor <;> intros <;>
      simp only [withoutValues, boundValues, crossings, sqlNames, rendered,
        List.length_singleton]
  | .text field mode needle => by
    constructor <;> intros <;>
      simp only [withoutValues, boundValues, crossings, sqlNames, rendered,
        List.length_singleton]
  | .present field => by
    constructor <;> intros <;> simp only [withoutValues]
  | .within path inside => by
    have inner := alike_withoutValues inside
    constructor <;> intros <;>
      simp only [withoutValues, boundValues, crossings, sqlNames, rendered,
        inner.values, inner.crossings, inner.names, inner.rendered]
  | .related path => by
    constructor <;> intros <;> simp only [withoutValues]

theorem allAlike_withoutValuesAll : ∀ children : List Predicate,
    AllAlike (withoutValuesAll children) children
  | [] => by
    constructor <;> intros <;> simp only [withoutValuesAll]
  | child :: rest => by
    have first := alike_withoutValues child
    have others := allAlike_withoutValuesAll rest
    constructor <;> intros <;>
      simp only [withoutValuesAll, boundValuesOf, crossingsOf, sqlNamesOf,
        renderedAll, List.length_append, first.values, first.crossings,
        first.names, first.rendered,
        others.values, others.crossings, others.names, others.rendered]

end

end Predicate

def Plan.withoutValues (plan : Plan) : Plan :=
  { plan with filter := plan.filter.withoutValues }

namespace SqlQuery

variable {relational : Relational} {schema : Schema}

/-- The query of a plan: its text is laid out without the values, and the values
of the filter are its parameters. -/
theorem ofPlan_eq (plan : Plan) (target : String) :
    ofPlan relational schema plan target =
      match refused? relational plan.filter target with
      | some name => .error (.invalidField name)
      | none =>
        ((layout relational schema plan).run ⟨[], [],
            1 + plan.filter.crossings⟩).map
          fun (columns, _) =>
            let statement := assembled relational plan target
              (renderedFilter? relational plan.filter) columns
            ⟨statement.text, statement.countText, plan.filter.boundValues⟩ := by
  unfold ofPlan
  rw [run_statement]
  cases refused? relational plan.filter target with
  | some name => rfl
  | none =>
    cases (layout relational schema plan).run
      ⟨[], [], 1 + plan.filter.crossings⟩ <;> rfl

theorem exists_ofPlan_of_isOk {plan : Plan} {target : String}
    (accepted : refused? relational plan.filter target = none)
    (laidOut : ((layout relational schema plan).run ⟨[], [],
      1 + plan.filter.crossings⟩).isOk = true) :
    ∃ native, ofPlan relational schema plan target = .ok native := by
  rw [ofPlan_eq, accepted]
  cases ran : (layout relational schema plan).run
      ⟨[], [], 1 + plan.filter.crossings⟩ with
  | error error =>
    rw [ran] at laidOut
    cases laidOut
  | ok found => exact ⟨_, rfl⟩

theorem ofPlan_eq_withoutValues (plan : Plan) (target : String) :
    ofPlan relational schema plan target =
      (ofPlan relational schema plan.withoutValues target).map fun query =>
        { query with parameters := plan.filter.boundValues } := by
  have alike := plan.filter.alike_withoutValues
  have sameNames : refused? relational plan.withoutValues.filter target =
      refused? relational plan.filter target := by
    simp only [refused?, Plan.withoutValues, alike.names]
  have sameCondition : renderedFilter? relational plan.withoutValues.filter =
      renderedFilter? relational plan.filter := by
    simp only [renderedFilter?, Plan.withoutValues, alike.rendered,
      Predicate.isAlways_withoutValues]
  have sameCrossings : plan.withoutValues.filter.crossings =
      plan.filter.crossings :=
    alike.crossings
  rw [ofPlan_eq, ofPlan_eq, sameNames, sameCondition, sameCrossings]
  cases refused? relational plan.filter target with
  | some name => rfl
  | none =>
    change _ = Except.map _ (Except.map _ ((layout relational schema plan).run _))
    cases (layout relational schema plan).run
      ⟨[], [], 1 + plan.filter.crossings⟩ <;> rfl

theorem names_named (query : SqlQuery) :
    query.named.map Prod.fst =
      (List.range query.parameters.length).map parameterName := by
  rw [named, List.range_eq_range', ← List.zipIdx_map_snd 0 query.parameters,
    List.map_map, List.map_map]
  rfl

/-- Two plans that differ only in values and needles are refused with the same
error, or have the same statements with parameters of the same names. -/
theorem render_eq_of_withoutValues_eq {paging : Paging} {target : String}
    {plan other : Plan} (same : plan.withoutValues = other.withoutValues) :
    (∃ error,
      (compiler relational schema paging).render plan target = .error error ∧
      (compiler relational schema paging).render other target = .error error) ∨
    ∃ query otherQuery,
      (compiler relational schema paging).render plan target = .ok query ∧
      (compiler relational schema paging).render other target = .ok otherQuery ∧
      query.sql = otherQuery.sql ∧ query.countSql = otherQuery.countSql ∧
      query.named.map Prod.fst = otherQuery.named.map Prod.fst := by
  change (∃ error, ofPlan relational schema plan target = .error error ∧
      ofPlan relational schema other target = .error error) ∨
    ∃ query otherQuery, ofPlan relational schema plan target = .ok query ∧
      ofPlan relational schema other target = .ok otherQuery ∧ _
  -- Both are one rendering, of the plan without values, with parameters put in.
  rw [ofPlan_eq_withoutValues plan, ofPlan_eq_withoutValues other, ← same]
  cases ofPlan relational schema plan.withoutValues target with
  | error error => exact .inl ⟨error, rfl, rfl⟩
  | ok query =>
    refine .inr ⟨_, _, rfl, rfl, rfl, rfl, ?_⟩
    have filters : plan.filter.withoutValues = other.filter.withoutValues :=
      congrArg Plan.filter same
    rw [names_named, names_named, ← plan.filter.alike_withoutValues.values,
      filters, other.filter.alike_withoutValues.values]

def staffPlan (age : Json) (department : String) : Plan :=
  ⟨.all [.compare "age" .greater age,
    .within "department" (.text "department.name" .contains department)],
    [], ⟨2, 10⟩, [], true⟩

theorem refused?_staffPlan (rootAlias : String) (age : Json)
    (department : String) :
    refused? ⟨rootAlias, []⟩ (staffPlan age department).filter "staff" =
      none := by
  have names : (staffPlan age department).filter.sqlNames ⟨rootAlias, []⟩ "" =
      ["age", "department", "department_id", "id", "name"] := by
    have age : columnName "age" "" = "age" := by decide
    have relation : relationNames ⟨rootAlias, []⟩ "department" =
        ["department", "department_id", "id"] := by
      have convention : Relation.byConvention (Path.leaf "department") =
          ⟨"department", "department_id", "id"⟩ := by decide
      rw [relationNames, Relational.relation, List.lookup_nil,
        Option.getD_none, convention]
    have name : columnName "department.name" "department" = "name" := by decide
    simp only [staffPlan, Predicate.sqlNames, Predicate.sqlNamesOf, age,
      relation, name, List.cons_append, List.nil_append]
  rw [refused?, names]
  decide

/-- A needle that looks like SQL stays out of the text of the statement. -/
theorem render_staffPlan :
    (staffPlan (.ofNat 30) "Math").withoutValues =
      (staffPlan .null "x'; DROP TABLE staff").withoutValues ∧
    ∃ query otherQuery,
      (compiler ⟨"t0", []⟩ ⟨fun _ => false, '<'⟩ ⟨20, 0, none⟩).render
        (staffPlan (.ofNat 30) "Math") "staff" = .ok query ∧
      (compiler ⟨"t0", []⟩ ⟨fun _ => false, '<'⟩ ⟨20, 0, none⟩).render
        (staffPlan .null "x'; DROP TABLE staff") "staff" = .ok otherQuery ∧
      query.sql = otherQuery.sql ∧ query.countSql = otherQuery.countSql ∧
      query.named.map Prod.fst = otherQuery.named.map Prod.fst := by
  have same : (staffPlan (.ofNat 30) "Math").withoutValues =
      (staffPlan .null "x'; DROP TABLE staff").withoutValues := by
    simp only [staffPlan, Plan.withoutValues, Predicate.withoutValues,
      Predicate.withoutValuesAll]
  refine ⟨same, ?_⟩
  rcases @render_eq_of_withoutValues_eq ⟨"t0", []⟩ ⟨fun _ => false, '<'⟩
      ⟨20, 0, none⟩ "staff" _ _ same with ⟨error, failed, -⟩ | found
  · change ofPlan _ _ _ _ = _ at failed
    rw [ofPlan_eq, refused?_staffPlan] at failed
    cases failed
  · exact found

end SqlQuery

end CriteriaQuery
