import CriteriaQuery.Document.Json
import CriteriaQuery.Proofs.Search.Meaning
import CriteriaQuery.Proofs.Sql.Parentheses

namespace CriteriaQuery

/-! Backends refuse or misread a junction of nothing. No criteria list is
lowered to one, and none arises when a filter is rendered. -/

/-! ## Search bodies -/

namespace SearchReading

mutual

/-- A query body in which no `bool` clause is empty and no list of clauses is. -/
def IsQuery : Json → Prop
  | .object [("match_all", .object [])] => True
  | .object [("bool", .object members)] => members ≠ [] ∧ AreClauseLists members
  | .object [("nested", .object members)] => HasQuery members
  | .object [(kind, _)] => kind ∈ fieldKinds
  | _ => False

def AreClauseLists : Members → Prop
  | [] => True
  | (_, .array clauses) :: rest =>
    clauses ≠ [] ∧ AreQueries clauses ∧ AreClauseLists rest
  | _ :: rest => AreClauseLists rest

def HasQuery : Members → Prop
  | [] => False
  | (name, query) :: rest =>
    if name = "query" then IsQuery query else HasQuery rest

def AreQueries : List Json → Prop
  | [] => True
  | clause :: rest => IsQuery clause ∧ AreQueries rest

end

theorem areQueries_toJsonAll {clauses : List SearchClause} :
    AreQueries (SearchClause.toJsonAll clauses) ↔
    ∀ clause ∈ clauses, IsQuery clause.toJson := by
  induction clauses with
  | nil => simp [SearchClause.toJsonAll, AreQueries]
  | cons clause rest induction =>
    simp [SearchClause.toJsonAll, AreQueries, induction]

theorem isQuery_matchAll : IsQuery SearchClause.matchAll.toJson := by
  rw [SearchClause.toJson, IsQuery]
  trivial

theorem isQuery_all_iff {must mustNot : List SearchClause} :
    IsQuery (SearchClause.all must mustNot).toJson ↔
      must ++ mustNot ≠ [] ∧
      ∀ clause ∈ must ++ mustNot, IsQuery clause.toJson := by
  rw [SearchClause.toJson, IsQuery, List.forall_mem_append,
    ← areQueries_toJsonAll, ← areQueries_toJsonAll]
  cases must <;> cases mustNot <;>
    simp [SearchClause.optionalClauses, SearchClause.toJsonAll,
      AreClauseLists, AreQueries]

theorem isQuery_any {should : List SearchClause} (nonempty : should ≠ [])
    (each : ∀ clause ∈ should, IsQuery clause.toJson) :
    IsQuery (SearchClause.any should).toJson := by
  rw [← areQueries_toJsonAll] at each
  obtain ⟨number, one⟩ : ∃ number, Json.ofNat 1 = .number number := ⟨_, rfl⟩
  rw [SearchClause.toJson, IsQuery, one]
  cases should with
  | nil => contradiction
  | cons first rest => simpa [SearchClause.toJsonAll, AreClauseLists] using each

theorem isQuery_nested {path : String} {inner : SearchClause}
    (query : IsQuery inner.toJson) :
    IsQuery (SearchClause.nested path inner).toJson := by
  rw [SearchClause.toJson, IsQuery]
  simpa [HasQuery] using query

theorem ofChildren_eq_map (children : List Predicate) :
    SearchClause.ofChildren children = children.map SearchClause.ofPredicate := by
  induction children with
  | nil => rfl
  | cons child rest induction =>
    rw [SearchClause.ofChildren, induction, List.map_cons]

theorem length_positive_append_negated (children : List Predicate) :
    (SearchClause.positive children ++ SearchClause.negated children).length =
      children.length := by
  rw [List.length_append]
  induction children with
  | nil => rfl
  | cons child rest induction =>
    cases child with
    | not inner =>
      rw [SearchClause.positive, SearchClause.negated, List.length_cons,
        List.length_cons]
      omega
    | _ =>
      rw [SearchClause.positive, SearchClause.negated, List.length_cons,
        List.length_cons]
      · omega
      all_goals simp

/-- A negated child is a query as a whole, and so is what it negates. -/
theorem isQuery_of_mem_positive_append_negated {children : List Predicate}
    (each : ∀ child ∈ children, IsQuery (SearchClause.ofPredicate child).toJson) :
    ∀ clause ∈ SearchClause.positive children ++ SearchClause.negated children,
      IsQuery clause.toJson := by
  induction children with
  | nil =>
    rw [SearchClause.positive, SearchClause.negated]
    exact List.forall_mem_nil _
  | cons child rest induction =>
    rw [List.forall_mem_cons] at each
    have others := induction each.2
    rw [List.forall_mem_append] at others ⊢
    cases child with
    | not inner =>
      rw [SearchClause.ofPredicate, isQuery_all_iff] at each
      rw [SearchClause.positive, SearchClause.negated, List.forall_mem_cons]
      exact ⟨others.1, each.1.2 _ (List.mem_singleton_self _), others.2⟩
    | _ =>
      rw [SearchClause.positive, SearchClause.negated, List.forall_mem_cons]
      · exact ⟨⟨each.1, others.1⟩, others.2⟩
      all_goals simp

mutual

theorem isQuery_ofPredicate : ∀ predicate : Predicate, predicate.IsBranched →
    IsQuery (SearchClause.ofPredicate predicate).toJson
  | .always, _ => by
    rw [SearchClause.ofPredicate]
    exact isQuery_matchAll
  | .all children, branched => by
    rw [Predicate.IsBranched] at branched
    rw [SearchClause.ofPredicate, isQuery_all_iff]
    refine ⟨fun none => ?_, isQuery_of_mem_positive_append_negated
      (areQueries_ofPredicate children branched.2)⟩
    have count := length_positive_append_negated children
    rw [none, List.length_nil] at count
    omega
  | .any children, branched => by
    rw [Predicate.IsBranched] at branched
    rw [SearchClause.ofPredicate, ofChildren_eq_map]
    refine isQuery_any (fun none => ?_)
      (List.forall_mem_map.mpr (areQueries_ofPredicate children branched.2))
    rw [List.map_eq_nil_iff.mp none] at branched
    simp at branched
  | .not inner, branched => by
    rw [Predicate.IsBranched] at branched
    rw [SearchClause.ofPredicate, isQuery_all_iff]
    exact ⟨List.cons_ne_nil _ _, by
      simpa using isQuery_ofPredicate inner branched⟩
  | .compare field comparison value, _ => by
    rw [SearchClause.ofPredicate]
    cases comparison <;>
      simp [SearchClause.ofComparison, SearchClause.toJson, IsQuery, fieldKinds]
  | .text field mode needle, _ => by
    rw [SearchClause.ofPredicate]
    cases mode <;>
      simp [SearchClause.ofText, SearchClause.toJson, SearchClause.ignoringCase,
        IsQuery, fieldKinds]
  | .present field, _ => by
    rw [SearchClause.ofPredicate]
    simp [SearchClause.toJson, IsQuery, fieldKinds]
  | .within path inner, branched => by
    rw [Predicate.IsBranched] at branched
    rw [SearchClause.ofPredicate]
    exact isQuery_nested (isQuery_ofPredicate inner branched)
  | .related path, _ => by
    rw [SearchClause.ofPredicate]
    exact isQuery_nested isQuery_matchAll

theorem areQueries_ofPredicate :
    ∀ children : List Predicate, Predicate.AreBranched children →
    ∀ child ∈ children, IsQuery (SearchClause.ofPredicate child).toJson
  | [], _ => nofun
  | child :: rest, branched => by
    rw [Predicate.AreBranched] at branched
    rw [List.forall_mem_cons]
    exact ⟨isQuery_ofPredicate child branched.1,
      areQueries_ofPredicate rest branched.2⟩

end

end SearchReading

/-! ## Filters of documents -/

namespace DocumentFilter

def fieldOperators : List String :=
  ["$eq", "$exists", "$gt", "$gte", "$lt", "$lte", "$ne", "$nin",
    "$options", "$regex"]

mutual

/-- A filter document in which no list of filters is empty. The lists stand under
`$and`, `$or` and `$nor`. -/
def IsFilter : Json → Prop
  | .object [] => True
  | .object [(name, .array filters)] =>
    name ∈ ["$and", "$or", "$nor"] ∧ filters ≠ [] ∧ AreFilters filters
  | .object [(_, .object conditions)] => AreFieldConditions conditions
  | _ => False

def AreFieldConditions : Members → Prop
  | [] => True
  | (name, value) :: rest =>
    (if name = "$elemMatch" then IsFilter value else name ∈ fieldOperators) ∧
      AreFieldConditions rest

def AreFilters : List Json → Prop
  | [] => True
  | filter :: rest => IsFilter filter ∧ AreFilters rest

end

theorem areFilters_toMongoAll {filters : List DocumentFilter} :
    AreFilters (toMongoAll filters) ↔
    ∀ filter ∈ filters, IsFilter filter.toMongo := by
  induction filters with
  | nil => simp [toMongoAll, AreFilters]
  | cons filter rest induction => simp [toMongoAll, AreFilters, induction]

theorem toMongoAll_eq_nil_iff {filters : List DocumentFilter} :
    toMongoAll filters = [] ↔ filters = [] := by
  cases filters <;> simp [toMongoAll]

theorem isFilter_always : IsFilter always.toMongo := by
  rw [toMongo, IsFilter]
  trivial

theorem isFilter_all_iff {children : List DocumentFilter} :
    IsFilter (all children).toMongo ↔
      children ≠ [] ∧ ∀ child ∈ children, IsFilter child.toMongo := by
  rw [toMongo, IsFilter, areFilters_toMongoAll, Ne, toMongoAll_eq_nil_iff]
  simp

theorem isFilter_any_iff {children : List DocumentFilter} :
    IsFilter (any children).toMongo ↔
      children ≠ [] ∧ ∀ child ∈ children, IsFilter child.toMongo := by
  rw [toMongo, IsFilter, areFilters_toMongoAll, Ne, toMongoAll_eq_nil_iff]
  simp

theorem isFilter_none_iff {children : List DocumentFilter} :
    IsFilter (none children).toMongo ↔
      children ≠ [] ∧ ∀ child ∈ children, IsFilter child.toMongo := by
  rw [toMongo, IsFilter, areFilters_toMongoAll, Ne, toMongoAll_eq_nil_iff]
  simp

theorem isFilter_element_iff {path : String} {inner : DocumentFilter} :
    IsFilter (element path inner).toMongo ↔ IsFilter inner.toMongo := by
  rw [toMongo, IsFilter]
  simp [AreFieldConditions]

/-- Spreading inner conjunctions out and leaving trivial filters out makes no
empty list. -/
theorem isFilter_conjunction {children : List DocumentFilter}
    (each : ∀ child ∈ children, IsFilter child.toMongo) :
    IsFilter (conjunction children).toMongo := by
  unfold conjunction
  extract_lets spread
  have spreadEach : ∀ filter ∈ spread, IsFilter filter.toMongo := by
    intro filter member
    obtain ⟨child, isChild, inside⟩ := List.mem_flatMap.mp member
    have whole := each child isChild
    cases child with
    | all inner => exact (isFilter_all_iff.mp whole).2 filter inside
    | always => cases inside
    | _ =>
      rw [List.mem_singleton.mp inside]
      exact whole
  clear_value spread
  match spread with
  | [] => exact isFilter_always
  | [child] => exact spreadEach child (List.mem_singleton_self child)
  | first :: second :: rest =>
    exact isFilter_all_iff.mpr ⟨List.cons_ne_nil _ _, spreadEach⟩

mutual

theorem isFilter_inside :
    ∀ (predicate : Predicate) (scope : String), predicate.IsBranched →
    IsFilter (inside scope predicate).toMongo
  | .always, scope, _ => by
    rw [inside]
    exact isFilter_always
  | .all children, scope, branched => by
    rw [Predicate.IsBranched] at branched
    rw [inside]
    exact isFilter_conjunction (areFilters_insideAll children scope branched.2)
  | .any children, scope, branched => by
    rw [Predicate.IsBranched] at branched
    rw [inside, isFilter_any_iff]
    refine ⟨fun none => ?_, areFilters_insideAll children scope branched.2⟩
    cases children with
    | nil => simp at branched
    | cons first rest => simp [insideAll] at none
  | .not inner, scope, branched => by
    rw [Predicate.IsBranched] at branched
    rw [inside, isFilter_none_iff]
    exact ⟨List.cons_ne_nil _ _, by
      simpa using isFilter_inside inner scope branched⟩
  | .compare field comparison value, scope, _ => by
    rw [inside, toMongo, IsFilter]
    cases comparison <;>
      simp [comparisonOperator, AreFieldConditions, fieldOperators]
  | .text field mode needle, scope, _ => by
    rw [inside, toMongo, IsFilter]
    simp [AreFieldConditions, fieldOperators]
  | .present field, scope, _ => by
    rw [inside, toMongo, IsFilter]
    simp [AreFieldConditions, fieldOperators]
  | .within path inner, scope, branched => by
    rw [Predicate.IsBranched] at branched
    rw [inside, isFilter_element_iff]
    exact isFilter_inside inner path branched
  | .related path, scope, _ => by
    rw [inside, toMongo, IsFilter]
    simp [AreFieldConditions, fieldOperators]

theorem areFilters_insideAll : ∀ (children : List Predicate) (scope : String),
    Predicate.AreBranched children →
    ∀ filter ∈ insideAll scope children, IsFilter filter.toMongo
  | [], scope, _ => by
    rw [insideAll]
    exact nofun
  | child :: rest, scope, branched => by
    rw [Predicate.AreBranched] at branched
    rw [insideAll, List.forall_mem_cons]
    exact ⟨isFilter_inside child scope branched.1,
      areFilters_insideAll rest scope branched.2⟩

end

end DocumentFilter

namespace DocumentQuery

theorem get?_filter_toMongo (query : DocumentQuery) :
    query.toMongo.get? "filter" = some query.filter.toMongo := by
  unfold toMongo
  extract_lets sort projection
  simp only [Json.ofMembers, Json.get?]
  split <;> split <;>
    simp [Keyed.ofList, Keyed.get?_set_self, Keyed.get?_set_of_ne]

end DocumentQuery

/-! ## Plans -/

open Sql

namespace Plan

variable {schema : Schema} {criteria : List Criterion} {predicate : Predicate}

/-- Lowered criteria have no junction of fewer than two predicates, and nothing
that is rendered for them has an empty one: neither the condition of a
statement, nor a query body, nor a filter document. If the names of the
configuration bring in no parentheses, there are no empty ones in the texts of a
statement at all. -/
theorem no_empty_junctions_of_ofCriteria
    (lowered : Predicate.ofCriteria schema criteria = .ok predicate) :
    predicate.IsBranched ∧
    ∀ plan : Plan, plan.filter = predicate →
      (∀ relational target native,
        SqlQuery.ofPlan relational schema plan target = .ok native →
        ∃ statement draft,
          (Sql.statement relational schema plan target).run .start =
            .ok (statement, draft) ∧
          native.sql = statement.text ∧ native.countSql = statement.countText ∧
          statement.IsBranched ∧
          (IsBare relational.rootAlias →
            (∀ key ∈ relational.relations.map Prod.fst, IsBare key) →
            Text.contains native.sql "()" = false ∧
              Text.contains native.countSql "()" = false)) ∧
      (∀ index, ∃ query,
        (SearchRequest.ofPlan plan index).body.get? "query" = some query ∧
        SearchReading.IsQuery query) ∧
      ∀ collection, ∃ filter, (DocumentQuery.ofPlan plan collection).toMongo.get?
          "filter" = some filter ∧ DocumentFilter.IsFilter filter := by
  have branched : predicate.IsBranched :=
    Predicate.isBranched_of_ofCriteria lowered
  refine ⟨branched, fun plan isFilter => ?_⟩
  rw [← isFilter] at branched
  refine ⟨fun relational target native rendered => ?_, fun index => ?_,
    fun collection => ?_⟩
  · obtain ⟨layout, statement, draft, isStatement, isFor, ran, rfl,
        named, identifiers⟩ :=
      SqlQuery.exists_layout_of_ofPlan rendered
    have vetted : statement.IsVetted relational := by
      rw [isStatement]
      exact Statement.isVetted_assembled isFor named identifiers
    have ofCondition : statement.IsBranched := by
      rw [isStatement]
      exact Statement.isBranched_assembled branched target layout
    refine ⟨statement, draft, ran, rfl, rfl, ofCondition,
      fun rootAlias keys => ?_⟩
    have opening : ¬ relational.Allows '(' :=
      Relational.not_allows_of_not_mem (by decide) rootAlias.1 fun key isKey =>
        (keys key isKey).1
    have closing : ¬ relational.Allows ')' :=
      Relational.not_allows_of_not_mem (by decide) rootAlias.2 fun key isKey =>
        (keys key isKey).2
    exact ⟨(Statement.isClosed_text vetted ofCondition opening
        closing).contains_eq_false,
      (Statement.isClosed_countText vetted ofCondition opening
        closing).contains_eq_false⟩
  · exact ⟨_, SearchRequest.get?_query_ofPlan plan index,
      SearchReading.isQuery_ofPredicate plan.filter branched⟩
  · exact ⟨_, DocumentQuery.get?_filter_toMongo _,
      DocumentFilter.isFilter_inside plan.filter "" branched⟩

theorem no_empty_junctions_of_staffQuery : ∃ native,
    Predicate.ofCriteria ⟨fun _ => false, '<'⟩ SqlQuery.staffQuery.criteria =
      .ok (SqlQuery.staffPlan (.ofNat 30) "Math").filter ∧
    (SqlQuery.staffPlan (.ofNat 30) "Math").filter.IsBranched ∧
    SqlQuery.ofPlan ⟨"t0", []⟩ ⟨fun _ => false, '<'⟩
      (SqlQuery.staffPlan (.ofNat 30) "Math") "staff" = .ok native ∧
    Text.contains native.sql "()" = false := by
  obtain ⟨native, compiled⟩ := SqlQuery.compile_staffQuery "t0"
  obtain ⟨planned, rendered⟩ := Compiler.compile_eq_ok_iff.mp compiled
  obtain ⟨filter, page, lowered, -, same⟩ := Plan.ofQuery_eq_ok_iff.mp planned
  have isFilter : (SqlQuery.staffPlan (.ofNat 30) "Math").filter =
    filter := by rw [same]
  rw [← isFilter] at lowered
  obtain ⟨branched, each⟩ := no_empty_junctions_of_ofCriteria lowered
  obtain ⟨statement, draft, -, -, -, -, closed⟩ := (each _ rfl).1 _ _ _ rendered
  exact ⟨native, lowered, branched, rendered, (closed (by decide) (by decide)).1⟩

end Plan

end CriteriaQuery
