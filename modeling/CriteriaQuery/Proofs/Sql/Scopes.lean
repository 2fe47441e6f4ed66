import CriteriaQuery.Proofs.Sql.Meaning

namespace CriteriaQuery

/-! Which table every column of a statement belongs to. Aliases are numbered
through, so they differ among each other; whether one of them hides the root table
depends on the name that the root table was given. -/

open Sql Sql.Rendering

namespace Sql

namespace Condition

/-! ## Scopes of conditions -/

mutual

def aliases : Condition → List String
  | .always => []
  | .all children => aliasesOf children
  | .any children => aliasesOf children
  | .not inner => aliases inner
  | .compare _ _ _ => []
  | .like _ _ => []
  | .notNull _ => []
  | .related link => [link.table]
  | .relatedWhere link inner => link.table :: aliases inner

def aliasesOf : List Condition → List String
  | [] => []
  | child :: rest => aliases child ++ aliasesOf rest

end

mutual

/-- Columns belong to the table of the innermost sub-query around them, or else
to the table with the given alias, and a sub-query hangs on the table just
outside. -/
def IsScoped (table : String) : Condition → Prop
  | .always => True
  | .all children => AreScoped table children
  | .any children => AreScoped table children
  | .not inner => IsScoped table inner
  | .compare column _ _ => column.table = table
  | .like column _ => column.table = table
  | .notNull column => column.table = table
  | .related link => link.outer = table
  | .relatedWhere link inner => link.outer = table ∧ IsScoped link.table inner

def AreScoped (table : String) : List Condition → Prop
  | [] => True
  | child :: rest => IsScoped table child ∧ AreScoped table rest

end

end Condition

end Sql

namespace Predicate

open Condition

variable {relational : Relational}

mutual

theorem aliases_rendered : ∀ (predicate : Predicate) (table scope : String)
    (parameter next : Nat),
    (predicate.rendered relational table scope parameter next).aliases =
      (List.range' next predicate.crossings).map tableAlias
  | .always, table, scope, parameter, next => by
    rw [rendered, aliases, crossings]
    rfl
  | .all children, table, scope, parameter, next => by
    rw [rendered, aliases, crossings]
    exact aliasesOf_renderedAll children table scope parameter next
  | .any children, table, scope, parameter, next => by
    rw [rendered, aliases, crossings]
    exact aliasesOf_renderedAll children table scope parameter next
  | .not inner, table, scope, parameter, next => by
    rw [rendered, aliases, crossings]
    exact aliases_rendered inner table scope parameter next
  | .compare field comparison value, table, scope, parameter, next => by
    rw [rendered, aliases, crossings]
    rfl
  | .text field mode needle, table, scope, parameter, next => by
    rw [rendered, aliases, crossings]
    rfl
  | .present field, table, scope, parameter, next => by
    rw [rendered, aliases, crossings]
    rfl
  | .within path inner, table, scope, parameter, next => by
    rw [rendered, aliases, crossings, aliases_rendered inner,
      Nat.add_comm 1 inner.crossings, List.range'_succ]
    rfl
  | .related path, table, scope, parameter, next => by
    rw [rendered, aliases, crossings]
    rfl

theorem aliasesOf_renderedAll :
    ∀ (children : List Predicate) (table scope : String)
    (parameter next : Nat),
    aliasesOf (renderedAll relational table scope parameter next children) =
      (List.range' next (crossingsOf children)).map tableAlias
  | [], table, scope, parameter, next => by
    rw [renderedAll, aliasesOf, crossingsOf]
    rfl
  | child :: rest, table, scope, parameter, next => by
    rw [renderedAll, aliasesOf, crossingsOf, aliases_rendered child,
      aliasesOf_renderedAll rest, ← List.map_append, List.range'_append_1]

end

mutual

theorem isScoped_rendered : ∀ (predicate : Predicate) (table scope : String)
    (parameter next : Nat),
    (predicate.rendered relational table scope parameter next).IsScoped table
  | .always, table, scope, parameter, next => by
    rw [rendered, IsScoped]
    trivial
  | .all children, table, scope, parameter, next => by
    rw [rendered, IsScoped]
    exact areScoped_renderedAll children table scope parameter next
  | .any children, table, scope, parameter, next => by
    rw [rendered, IsScoped]
    exact areScoped_renderedAll children table scope parameter next
  | .not inner, table, scope, parameter, next => by
    rw [rendered, IsScoped]
    exact isScoped_rendered inner table scope parameter next
  | .compare field comparison value, table, scope, parameter, next => by
    rw [rendered, IsScoped]
  | .text field mode needle, table, scope, parameter, next => by
    rw [rendered, IsScoped]
  | .present field, table, scope, parameter, next => by
    rw [rendered, IsScoped]
  | .within path inner, table, scope, parameter, next => by
    rw [rendered, IsScoped]
    exact ⟨rfl,
      isScoped_rendered inner (tableAlias next) path parameter (next + 1)⟩
  | .related path, table, scope, parameter, next => by
    rw [rendered, IsScoped]
    rfl

theorem areScoped_renderedAll :
    ∀ (children : List Predicate) (table scope : String)
    (parameter next : Nat),
    AreScoped table (renderedAll relational table scope parameter next children)
  | [], table, scope, parameter, next => by
    rw [renderedAll, AreScoped]
    trivial
  | child :: rest, table, scope, parameter, next => by
    rw [renderedAll, AreScoped]
    exact ⟨isScoped_rendered child table scope parameter next,
      areScoped_renderedAll rest table scope _ _⟩

end

end Predicate

namespace Sql

/-! ## Scopes of statements -/

theorem joinAlias_ne_tableAlias (number other : Nat) :
    joinAlias number ≠ tableAlias other := by
  intro same
  simpa [joinAlias, tableAlias] using congrArg String.toList same

/-- Aliases of sub-queries and of joins differ, as their numbers are counted
on. -/
theorem nodup_aliases (start crossings joins : Nat) :
    ((List.range' start crossings).map tableAlias ++
      (List.range' (start + crossings) joins).map joinAlias).Nodup := by
  refine List.Nodup.append ?_ ?_ ?_
  · exact (List.nodup_range' 1).map (append_numeral_injective "a")
  · exact (List.nodup_range' 1).map (append_numeral_injective "j")
  · intro name ofTable ofJoin
    obtain ⟨other, -, rfl⟩ := List.mem_map.mp ofTable
    obtain ⟨number, -, same⟩ := List.mem_map.mp ofJoin
    exact joinAlias_ne_tableAlias number other same

def IsQualified (schema : Schema) (rootAlias : String) (joins : List Join)
    (field : String) (column : Column) : Prop :=
  IsTableAt rootAlias joins (columnPath? schema field) column.table

namespace Statement

def aliases (statement : Statement) : List String :=
  (statement.condition.map Condition.aliases).getD [] ++
    statement.joins.map fun join => join.link.table

/-- No alias hides another one, and every column and every join goes with the
table that it is meant for. -/
structure IsWellScoped (schema : Schema) (plan : Plan) (statement : Statement) :
    Prop where
  aliases_nodup : (statement.rootAlias :: statement.aliases).Nodup
  condition : ∀ condition, statement.condition = some condition →
    condition.IsScoped statement.rootAlias
  paths_nodup : (statement.joins.map Join.path).Nodup
  /-- A join hangs on the table of the path right above its own, which is joined
  before it. -/
  outer : ∀ before join after, statement.joins = before ++ join :: after →
    IsTableAt statement.rootAlias before (Path.parent? join.path) join.link.outer
  columns : List.Forall₂ (IsQualified schema statement.rootAlias statement.joins)
    (plan.select.map SelectPath.source) (statement.columns.map Prod.fst)
  order : List.Forall₂ (IsQualified schema statement.rootAlias statement.joins)
    (plan.sort.map SortKey.field) (statement.order.map Prod.fst)

end Statement

namespace Rendering

variable {relational : Relational} {schema : Schema} {plan : Plan}
  {layout : Layout}

theorem aliases_assembled
    (isFor : layout.IsFor relational schema plan (1 + plan.filter.crossings))
    (target : String) :
    (assembled relational plan target (renderedFilter? relational plan.filter)
      layout).aliases =
      (List.range' 1 plan.filter.crossings).map tableAlias ++
        (List.range' (1 + plan.filter.crossings) layout.joins.length).map
          joinAlias := by
  rw [← isFor.joins.tables]
  unfold Statement.aliases assembled
  rcases renderedFilter?_cases relational plan.filter with
    ⟨always, none⟩ | isFilter
  · rw [none, always, Predicate.crossings]
    rfl
  · rw [isFilter, ← plan.filter.aliases_rendered relational.rootAlias "" 0 1]
    rfl

theorem Layout.IsFor.mem_paths_iff {start : Nat}
    (isFor : layout.IsFor relational schema plan start) (path : String) :
    path ∈ layout.joins.map Join.path ↔
      ∃ field ∈ plan.columnFields, path ∈ schema.boundaries field := by
  rw [List.mem_map]
  constructor
  · rintro ⟨join, isJoin, rfl⟩
    exact isFor.joins.exists_field isJoin
  · rintro ⟨field, member, boundary⟩
    obtain ⟨column, isColumn⟩ := isFor.exists_column member
    exact isColumn.joined path boundary

theorem isScoped_renderedFilter? {filter : Predicate} {condition : Condition}
    (isFilter : renderedFilter? relational filter = some condition) :
    condition.IsScoped relational.rootAlias := by
  rcases renderedFilter?_cases relational filter with ⟨-, none⟩ | isRendered
  · rw [none] at isFilter
    cases isFilter
  · rw [isRendered] at isFilter
    cases isFilter
    exact filter.isScoped_rendered relational.rootAlias "" 0 1

/-- The column of a nested field belongs to the table at the path above, unless
that path begins with a dot: nothing is joined for it then. -/
theorem isQualified_iff {fields : List String} {start : Nat} {joins : List Join}
    (joined : AreJoined relational schema fields start joins) {field : String}
    {column : Column}
    (isColumn : IsColumnOf relational schema joins field column) :
    IsQualified schema relational.rootAlias joins field column ↔
      ∀ above, columnPath? schema field = some above → Path.IsRooted above := by
  have isTable := isColumn.table
  unfold IsQualified
  cases nested : columnPath? schema field with
  | none =>
    rw [boundaries_of_columnPath?_eq_none nested] at isTable
    exact ⟨fun _ => nofun, fun _ => isTable⟩
  | some above =>
    constructor
    · rintro ⟨join, isJoin, rfl, -⟩ path ⟨⟩
      exact joined.isRooted_path isJoin
    · intro rooted
      rw [boundaries_of_columnPath?_eq_some nested (rooted above rfl),
        List.getLast?_concat] at isTable
      exact isTable

theorem areQualified_iff {fields names : List String} {start : Nat}
    {joins : List Join} {columns : List Column}
    (joined : AreJoined relational schema fields start joins)
    (areColumns : List.Forall₂ (IsColumnOf relational schema joins)
      names columns) :
    List.Forall₂ (IsQualified schema relational.rootAlias joins) names columns ↔
      AreRooted schema names := by
  unfold AreRooted
  induction areColumns with
  | nil => simp
  | cons isColumn others induction =>
    rw [List.forall₂_cons, induction, List.forall_mem_cons,
      isQualified_iff joined isColumn]

/-- A statement is well scoped exactly if the root table has an alias of its own
and no path above a selected or sorted field begins with a dot. -/
theorem isWellScoped_iff
    (isFor : layout.IsFor relational schema plan (1 + plan.filter.crossings))
    (target : String) {statement : Statement}
    (isStatement : statement = assembled relational plan target
      (renderedFilter? relational plan.filter) layout) :
    statement.IsWellScoped schema plan ↔
      relational.rootAlias ∉ statement.aliases ∧
      AreRooted schema plan.columnFields := by
  subst isStatement
  have selected : (layout.columns.zip (plan.select.map SelectPath.source)).map
      Prod.fst = layout.columns :=
        List.map_fst_zip (Nat.le_of_eq isFor.columns.length_eq.symm)
  have sorted : (layout.order.zip (plan.sort.map SortKey.direction)).map
      Prod.fst = layout.order := by
    refine List.map_fst_zip (Nat.le_of_eq ?_)
    rw [← isFor.order.length_eq, List.length_map, List.length_map]
  have columns := areQualified_iff isFor.joins isFor.columns
  have order := areQualified_iff isFor.joins isFor.order
  rw [Plan.columnFields, areRooted_append, ← columns, ← order]
  constructor
  · intro wellScoped
    exact ⟨(List.nodup_cons.mp wellScoped.aliases_nodup).1,
      selected ▸ wellScoped.columns, sorted ▸ wellScoped.order⟩
  · rintro ⟨fresh, areSelected, areSorted⟩
    have nodup := nodup_aliases 1 plan.filter.crossings layout.joins.length
    rw [← aliases_assembled isFor target] at nodup
    exact {
      aliases_nodup := List.nodup_cons.mpr ⟨fresh, nodup⟩
      condition := fun _ isFilter => isScoped_renderedFilter? isFilter
      paths_nodup := isFor.joins.paths_nodup
      outer := fun before join after =>
        isFor.joins.isTableAt_outer
          (areRooted_append.mpr ⟨columns.mp areSelected, order.mp areSorted⟩)
      columns := selected.symm ▸ areSelected
      order := sorted.symm ▸ areSorted }

end Rendering

end Sql

namespace SqlQuery

variable {relational : Relational} {schema : Schema} {paging : Paging}
  {query : Query} {target : String} {native : SqlQuery} {plan : Plan}

/-- Aliases are numbered through, and one table is joined for every boundary of a
selected or sorted field. The statement is well scoped exactly if the alias of the
root table is none of these, and no path above a selected or sorted field begins
with a dot. -/
theorem isWellScoped_iff_rootAlias_not_mem
    (compiled : (compiler relational schema paging).compile query target =
      .ok (native, plan)) :
    ∃ statement draft, (Sql.statement relational schema plan target).run .start =
        .ok (statement, draft) ∧
      native.sql = statement.text ∧ native.countSql = statement.countText ∧
      (∀ path, path ∈ statement.joins.map Join.path ↔
        ∃ field ∈ plan.columnFields, path ∈ schema.boundaries field) ∧
      statement.aliases = (List.range' 1 plan.filter.crossings).map tableAlias ++
        (List.range' (1 + plan.filter.crossings) statement.joins.length).map
          joinAlias ∧
      (statement.IsWellScoped schema plan ↔
        relational.rootAlias ∉ statement.aliases ∧
        AreRooted schema plan.columnFields) := by
  obtain ⟨-, rendered⟩ := Compiler.compile_eq_ok_iff.mp compiled
  obtain ⟨layout, statement, draft, isStatement, isFor, ran, rfl, -⟩ :=
    exists_layout_of_ofPlan rendered
  refine ⟨statement, draft, ran, rfl, rfl, fun path => ?_, ?_,
    isWellScoped_iff isFor target isStatement⟩
  · rw [isStatement]
    exact isFor.mem_paths_iff path
  · rw [isStatement]
    exact aliases_assembled isFor target

/-- A root table under the alias that the first sub-query gets is hidden in it. -/
theorem staffQuery_hides_a1 :
    ({ Config.default with relational := ⟨"a1", []⟩ } : Config).fault? = none ∧
    ∃ native statement draft,
      (compiler ⟨"a1", []⟩ Config.default.schema Config.default.paging).compile
        staffQuery "staff" = .ok (native, staffPlan (.ofNat 30) "Math") ∧
      (Sql.statement ⟨"a1", []⟩ Config.default.schema
        (staffPlan (.ofNat 30) "Math") "staff").run .start =
          .ok (statement, draft) ∧
      native.sql = statement.text ∧ statement.aliases = ["a1"] ∧
      ¬ statement.IsWellScoped Config.default.schema
        (staffPlan (.ofNat 30) "Math") := by
  refine ⟨by decide +kernel, ?_⟩
  obtain ⟨native, compiled⟩ := compile_staffQuery "a1"
  obtain ⟨statement, draft, ran, isText, -, isPath, numbered, wellScoped⟩ :=
    isWellScoped_iff_rootAlias_not_mem compiled
  have noJoins : statement.joins = [] := by
    refine List.eq_nil_iff_forall_not_mem.mpr fun join isJoin => ?_
    obtain ⟨field, member, -⟩ :=
      (isPath join.path).mp (List.mem_map_of_mem isJoin)
    cases member
  have once : (staffPlan (.ofNat 30) "Math").filter.crossings = 1 := by
    simp only [staffPlan, Predicate.crossings, Predicate.crossingsOf]
  have isFirst : tableAlias 1 = "a1" := by decide
  rw [noJoins, once, List.length_nil, List.range'_one, List.range'_zero,
    List.map_singleton, List.map_nil, List.append_nil, isFirst] at numbered
  refine ⟨native, statement, draft, compiled, ran, isText, numbered,
    fun isWellScoped => ?_⟩
  refine (wellScoped.mp isWellScoped).1 ?_
  rw [numbered]
  exact List.mem_cons_self

end SqlQuery

end CriteriaQuery
