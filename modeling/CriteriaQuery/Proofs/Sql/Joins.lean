import CriteriaQuery.Proofs.Correspondence
import CriteriaQuery.Proofs.Path.Boundaries
import CriteriaQuery.Proofs.Sql.Values
import Mathlib.Data.List.Nodup

namespace CriteriaQuery

/-! The joins of a statement. Boundaries of selected and sorted fields are joined
one at a time: each one once, to the table of the boundary before it, and under
the next alias. -/

namespace Sql

def joinAlias (number : Nat) : String := "j" ++ Text.numeral number

def joinAt (relational : Relational) (path outer : String) (number : Nat) :
    Join :=
  ⟨path, ⟨relational.relation path, joinAlias number, outer⟩⟩

/-- The alias of the table at a path: of the table joined for it, and of the root
table where there is no path. -/
def IsTableAt (rootAlias : String) (joins : List Join) :
    Option String → String → Prop
  | none, table => table = rootAlias
  | some path, table => ∃ join ∈ joins, join.path = path ∧ join.link.table = table

theorem IsTableAt.mono {rootAlias table : String} {joins more : List Join}
    {path : Option String} (isTable : IsTableAt rootAlias joins path table)
    (kept : joins ⊆ more) : IsTableAt rootAlias more path table := by
  cases path with
  | none => exact isTable
  | some path =>
    obtain ⟨join, member, found⟩ := isTable
    exact ⟨join, kept member, found⟩

def columnPath? (schema : Schema) (field : String) : Option String :=
  (schema.nesting? field).map fun _ => (Path.parent? field).getD ""

theorem boundaries_of_columnPath?_eq_none {schema : Schema} {field : String}
    (ofRoot : columnPath? schema field = none) :
    schema.boundaries field = [] := by
  rw [Schema.boundaries, Option.map_eq_none_iff.mp ofRoot]
  rfl

theorem parted_of_columnPath?_eq_some {schema : Schema} {field above : String}
    (nested : columnPath? schema field = some above) :
    field = above ++ "." ++ Path.leaf field ∧
      schema.boundaries field =
        Path.boundariesFrom "" (Path.segments above ++ [Path.leaf field]) := by
  obtain ⟨path, found, isAbove⟩ := Option.map_eq_some_iff.mp nested
  have parted : field = above ++ "." ++ Path.leaf field := by
    rw [← isAbove]
    exact Path.eq_append_of_nesting? found
  have crossed : schema.boundaries field =
      Path.boundariesFrom "" (Path.segments field) := by
    rw [Schema.boundaries, found]
    exact Path.boundaries_of_nesting? found
  exact ⟨parted, by rw [crossed, Path.segments_eq_concat parted]⟩

theorem boundaries_of_columnPath?_eq_some {schema : Schema}
    {field above : String} (nested : columnPath? schema field = some above)
    (rooted : Path.IsRooted above) :
    schema.boundaries field = Path.boundariesFrom "" (Path.segments above) ++
    [above] := by
  rw [(parted_of_columnPath?_eq_some nested).2,
    Path.boundariesFrom_segments_concat rooted]

def AreRooted (schema : Schema) (fields : List String) : Prop :=
  ∀ field ∈ fields, ∀ above, columnPath? schema field = some above →
    Path.IsRooted above

theorem areRooted_append {schema : Schema} {fields more : List String} :
    AreRooted schema (fields ++ more) ↔
    AreRooted schema fields ∧ AreRooted schema more :=
  List.forall_mem_append

/-- Joins that may stand behind each other, with aliases from a number on: every
one is for a boundary of a field, which no join before it is for, and hangs on the
table of the boundary before that. -/
inductive AreJoined (relational : Relational) (schema : Schema)
    (fields : List String) (start : Nat) : List Join → Prop
  | nil : AreJoined relational schema fields start []
  | concat {joins : List Join} {field path outer : String}
      {before after : List String}
        (earlier : AreJoined relational schema fields start joins)
        (member : field ∈ fields)
      (boundaries : schema.boundaries field = before ++ path :: after)
      (hangs : IsTableAt relational.rootAlias joins before.getLast? outer)
      (fresh : path ∉ joins.map Join.path)
      (identifiers : ∀ name ∈ relationNames relational path,
        isIdentifier name = true) :
      AreJoined relational schema fields start
        (joins ++ [joinAt relational path outer (start + joins.length)])

namespace AreJoined

variable {relational : Relational} {schema : Schema} {fields : List String}
  {start : Nat} {joins : List Join}

theorem tables (joined : AreJoined relational schema fields start joins) :
    joins.map (fun join => join.link.table) =
      (List.range' start joins.length).map joinAlias := by
  induction joined with
  | nil => rfl
  | concat _ _ _ _ _ _ induction =>
    rw [List.map_append, induction, List.length_append, List.length_singleton,
      List.range'_concat, List.map_append, Nat.one_mul]
    rfl

theorem paths_nodup (joined : AreJoined relational schema fields start joins) :
    (joins.map Join.path).Nodup := by
  induction joined with
  | nil => exact List.nodup_nil
  | concat _ _ _ _ fresh _ induction =>
    rw [List.map_append, List.map_singleton, ← List.concat_eq_append]
    exact List.Nodup.concat fresh induction

theorem exists_field (joined : AreJoined relational schema fields start joins)
    {join : Join} (isJoin : join ∈ joins) :
    ∃ field ∈ fields, join.path ∈ schema.boundaries field := by
  induction joined with
  | nil => cases isJoin
  | concat _ member boundaries _ _ _ induction =>
    rcases List.mem_append.mp isJoin with earlier | last
    · exact induction earlier
    · rw [List.mem_singleton.mp last]
      exact ⟨_, member, boundaries ▸ List.mem_append_right _ List.mem_cons_self⟩

/-- A join takes over the names of the relation at its path, and hangs on the root
table or on a joined one. -/
theorem exists_joinAt (joined : AreJoined relational schema fields start joins)
    {join : Join} (isJoin : join ∈ joins) :
    ∃ path outer number, join = joinAt relational path outer number ∧
      (∀ name ∈ relationNames relational path, isIdentifier name = true) ∧
      (outer = relational.rootAlias ∨ ∃ other, outer = joinAlias other) := by
  induction joined generalizing join with
  | nil => cases isJoin
  | @concat joins _ path outer before _ earlier _ _ hangs
      _ identifiers induction =>
    rcases List.mem_append.mp isJoin with among | last
    · exact induction among
    · refine ⟨path, outer, _, List.mem_singleton.mp last, identifiers, ?_⟩
      cases above : before.getLast? with
      | none =>
        rw [above] at hangs
        exact .inl hangs
      | some boundary =>
        rw [above] at hangs
        obtain ⟨other, among, -, rfl⟩ := hangs
        obtain ⟨_, _, number, rfl, -⟩ := induction among
        exact .inr ⟨number, rfl⟩

theorem isRooted_path (joined : AreJoined relational schema fields start joins)
    {join : Join} (isJoin : join ∈ joins) : Path.IsRooted join.path := by
  obtain ⟨field, -, boundary⟩ := joined.exists_field isJoin
  cases nested : schema.nesting? field with
  | none =>
    rw [Schema.boundaries, nested] at boundary
    cases boundary
  | some path =>
    rw [Schema.boundaries, nested] at boundary
    change join.path ∈ path.boundaries at boundary
    rw [Path.boundaries_of_nesting? nested] at boundary
    have rooted : Path.IsRooted "" := by decide
    exact Path.isRooted_of_mem_boundariesFrom rooted
      (fun segment => Path.isSegment_of_mem_segments) boundary

/-- A join hangs on the table of the path right above its own, and that table
stands before it, if no path above a field begins with a dot. -/
theorem isTableAt_outer (joined : AreJoined relational schema fields start joins)
    (rooted : AreRooted schema fields) {before after : List Join} {join : Join}
    (cut : joins = before ++ join :: after) :
    IsTableAt relational.rootAlias before (Path.parent? join.path)
      join.link.outer := by
  induction joined generalizing after with
  | nil => simp at cut
  | @concat joins field path outer above below _ member boundaries hangs
      _ _ induction =>
    rcases List.eq_nil_or_concat after with rfl | ⟨further, last, rfl⟩
    · obtain ⟨rfl, ⟨⟩⟩ := List.append_inj' cut rfl
      cases nested : columnPath? schema field with
      | none =>
        rw [boundaries_of_columnPath?_eq_none nested] at boundaries
        simp at boundaries
      | some parent =>
        have isRooted := rooted field member parent nested
        rw [boundaries_of_columnPath?_eq_some nested isRooted] at boundaries
        have isParent : Path.parent? path = above.getLast? :=
          Path.parent?_eq_getLast?_boundaries isRooted boundaries
        rwa [← isParent] at hangs
    · rw [List.concat_eq_append, ← List.cons_append, ← List.append_assoc] at cut
      exact induction (List.append_inj' cut rfl).1

end AreJoined

/-! ## Joining -/

structure Draft.IsJoined (relational : Relational) (schema : Schema)
    (fields : List String) (start : Nat) (draft : Draft) : Prop where
  joins : AreJoined relational schema fields start draft.joins
  next : draft.nextAlias = start + draft.joins.length

def Draft.joining (relational : Relational) (draft : Draft)
    (path outer : String) : Draft :=
  { draft with
    joins := draft.joins ++ [joinAt relational path outer draft.nextAlias]
    nextAlias := draft.nextAlias + 1 }

structure IsColumnOf (relational : Relational) (schema : Schema)
    (joins : List Join) (field : String) (column : Column) : Prop where
  table : IsTableAt relational.rootAlias joins
    (schema.boundaries field).getLast? column.table
  name : column.name = columnName field ((columnPath? schema field).getD "")
  isIdentifier_name : isIdentifier column.name = true
  joined : ∀ path ∈ schema.boundaries field, ∃ join ∈ joins, join.path = path

theorem IsColumnOf.mono {relational : Relational} {schema : Schema}
    {joins more : List Join} {field : String} {column : Column}
    (isColumn : IsColumnOf relational schema joins field column)
    (kept : joins ⊆ more) : IsColumnOf relational schema more field column where
  table := isColumn.table.mono kept
  name := isColumn.name
  isIdentifier_name := isColumn.isIdentifier_name
  joined path member :=
    (isColumn.joined path member).imp fun _ found => found.imp_left (kept ·)

namespace Rendering

variable {relational : Relational} {schema : Schema} {fields : List String}
  {start : Nat} {draft after : Draft}

/-- A path that was joined before leaves the draft as it is; any other one is
joined under the next alias. -/
theorem leftJoin_cases {path outer table : String}
    (ran : (leftJoin relational path outer).run draft = .ok (table, after)) :
    (after = draft ∧ ∃ join ∈ draft.joins,
      join.path = path ∧ join.link.table = table) ∨
    (path ∉ draft.joins.map Join.path ∧
      (∀ name ∈ relationNames relational path, isIdentifier name = true) ∧
      table = joinAlias draft.nextAlias ∧
      after = draft.joining relational path outer) := by
  obtain ⟨_, _, ⟨⟩, ran⟩ := exists_of_run_bind ran
  cases found : draft.joins.find? (·.path = path) with
  | some join =>
    simp only [found] at ran
    cases ran
    have isFor : join.path = path := by simpa using List.find?_some found
    exact .inl ⟨rfl, join, List.mem_of_find?_eq_some found, isFor, rfl⟩
  | none =>
    simp only [found] at ran
    obtain ⟨link, linked, isLink, ran⟩ := exists_of_run_bind ran
    rw [run_link] at isLink
    obtain ⟨identifiers, ⟨⟩⟩ := checked_eq_ok isLink
    cases ran
    refine .inr ⟨?_, identifiers, rfl, ?_⟩
    · intro among
      obtain ⟨join, isJoin, isFor⟩ := List.mem_map.mp among
      simpa [isFor] using List.find?_eq_none.mp found join isJoin
    · simp [Draft.extended, Draft.joining, joinAt, joinAlias]

theorem isJoined_leftJoin {field path outer table : String}
    {before rest : List String}
    (joined : draft.IsJoined relational schema fields start)
    (member : field ∈ fields)
    (boundaries : schema.boundaries field = before ++ path :: rest)
    (hangs : IsTableAt relational.rootAlias draft.joins before.getLast? outer)
    (ran : (leftJoin relational path outer).run draft = .ok (table, after)) :
    after.IsJoined relational schema fields start ∧ draft.joins ⊆ after.joins ∧
      IsTableAt relational.rootAlias after.joins (some path) table := by
  rcases leftJoin_cases ran with ⟨rfl, found⟩ | ⟨fresh, identifiers, rfl, rfl⟩
  · exact ⟨joined, List.Subset.refl _, found⟩
  · have grown := joined.joins.concat member boundaries hangs fresh identifiers
    rw [← joined.next] at grown
    refine ⟨⟨grown, ?_⟩, List.subset_append_left _ _, _,
      List.mem_append_right _ (List.mem_singleton_self _), rfl, rfl⟩
    rw [Draft.joining, List.length_append, List.length_singleton,
      joined.next, Nat.add_assoc]

theorem isJoined_leftJoins {field table reached : String}
    {before paths : List String}
    (joined : draft.IsJoined relational schema fields start)
    (member : field ∈ fields)
    (boundaries : schema.boundaries field = before ++ paths)
    (isTable : IsTableAt relational.rootAlias draft.joins before.getLast? table)
    (ran : (leftJoins relational paths table).run draft = .ok (reached, after)) :
    after.IsJoined relational schema fields start ∧ draft.joins ⊆ after.joins ∧
      (∀ path ∈ paths, ∃ join ∈ after.joins, join.path = path) ∧
      IsTableAt relational.rootAlias after.joins
        (before ++ paths).getLast? reached := by
  induction paths generalizing before table draft with
  | nil =>
    cases ran
    rw [List.append_nil]
    exact ⟨joined, List.Subset.refl _, nofun, isTable⟩
  | cons path rest induction =>
    obtain ⟨next, middle, ranFirst, ran⟩ := exists_of_run_bind ran
    obtain ⟨joinedMiddle, keptFirst, isNext⟩ :=
      isJoined_leftJoin joined member boundaries isTable ranFirst
    have whole : before ++ path :: rest = (before ++ [path]) ++ rest := by simp
    have nextAt : IsTableAt relational.rootAlias middle.joins
        (before ++ [path]).getLast? next := by
      rwa [List.getLast?_concat]
    obtain ⟨joinedAfter, keptRest, others, isReached⟩ :=
      induction joinedMiddle (boundaries.trans whole) nextAt ran
    refine ⟨joinedAfter, List.Subset.trans keptFirst keptRest, ?_,
      whole ▸ isReached⟩
    rw [List.forall_mem_cons]
    obtain ⟨join, among, isFor, -⟩ := isNext
    exact ⟨⟨join, keptRest among, isFor⟩, others⟩

theorem isColumnOf_joinedColumn {field : String} {column : Column}
    (joined : draft.IsJoined relational schema fields start)
    (member : field ∈ fields)
    (ran : (joinedColumn relational schema field).run draft =
      .ok (column, after)) :
    after.IsJoined relational schema fields start ∧ draft.joins ⊆ after.joins ∧
      IsColumnOf relational schema after.joins field column := by
  unfold joinedColumn at ran
  cases nesting : schema.nesting? field with
  | none =>
    have ofRoot : columnPath? schema field = none := by
      rw [columnPath?, nesting]
      rfl
    have none := boundaries_of_columnPath?_eq_none ofRoot
    simp only [nesting, run_column] at ran
    obtain ⟨identifiers, ⟨⟩⟩ := checked_eq_ok ran
    refine ⟨joined, List.Subset.refl _, ?_, ?_,
      identifiers _ List.mem_cons_self, ?_⟩
    · rw [none]
      rfl
    · rw [ofRoot]
      rfl
    · rw [none]
      exact nofun
  | some path =>
    have crossed : schema.boundaries field = [] ++ path.boundaries := by
      rw [Schema.boundaries, nesting]
      rfl
    simp only [nesting] at ran
    obtain ⟨table, reached, ranJoins, ran⟩ := exists_of_run_bind ran
    obtain ⟨joinedAfter, kept, others, isReached⟩ :=
      isJoined_leftJoins joined member crossed rfl ranJoins
    rw [run_column] at ran
    obtain ⟨identifiers, ⟨⟩⟩ := checked_eq_ok ran
    refine ⟨joinedAfter, kept, ?_, ?_, identifiers _ List.mem_cons_self, ?_⟩
    · rw [crossed]
      exact isReached
    · rw [columnPath?, nesting]
      rfl
    · rw [crossed]
      exact others

theorem areColumnsOf_joinedColumns {names : List String} {columns : List Column}
    (joined : draft.IsJoined relational schema fields start)
    (members : names ⊆ fields)
    (ran : (joinedColumns relational schema names).run draft =
      .ok (columns, after)) :
    after.IsJoined relational schema fields start ∧ draft.joins ⊆ after.joins ∧
      List.Forall₂ (IsColumnOf relational schema after.joins) names columns := by
  induction names generalizing draft columns with
  | nil =>
    cases ran
    exact ⟨joined, List.Subset.refl _, .nil⟩
  | cons field rest induction =>
    rw [List.cons_subset] at members
    obtain ⟨column, middle, ranFirst, ran⟩ := exists_of_run_bind ran
    obtain ⟨others, last, ranRest, ⟨⟩⟩ := exists_of_run_bind ran
    obtain ⟨joinedMiddle, keptFirst, isColumn⟩ :=
      isColumnOf_joinedColumn joined members.1 ranFirst
    obtain ⟨joinedAfter, keptRest, areColumns⟩ :=
      induction joinedMiddle members.2 ranRest
    exact ⟨joinedAfter, List.Subset.trans keptFirst keptRest,
      .cons (isColumn.mono keptRest) areColumns⟩

end Rendering

end Sql

/-! ## Layouts -/

def Plan.columnFields (plan : Plan) : List String :=
  plan.select.map SelectPath.source ++ plan.sort.map SortKey.field

open Sql Sql.Rendering

variable {relational : Relational} {schema : Schema} {plan : Plan}

structure Sql.Rendering.Layout.IsFor (relational : Relational) (schema : Schema)
    (plan : Plan) (start : Nat) (layout : Layout) : Prop where
  joins : AreJoined relational schema plan.columnFields start layout.joins
  columns : List.Forall₂ (IsColumnOf relational schema layout.joins)
    (plan.select.map SelectPath.source) layout.columns
  order : List.Forall₂ (IsColumnOf relational schema layout.joins)
    (plan.sort.map SortKey.field) layout.order

theorem Sql.Rendering.Layout.IsFor.exists_column {start : Nat} {layout : Layout}
    (isFor : layout.IsFor relational schema plan start) {field : String}
    (member : field ∈ plan.columnFields) :
    ∃ column, IsColumnOf relational schema layout.joins field column := by
  rcases List.mem_append.mp member with selected | sorted
  · obtain ⟨column, -, isColumn⟩ := exists_of_mem_left isFor.columns selected
    exact ⟨column, isColumn⟩
  · obtain ⟨column, -, isColumn⟩ := exists_of_mem_left isFor.order sorted
    exact ⟨column, isColumn⟩

theorem Sql.Rendering.isFor_layout {start : Nat} {columns : Layout}
    {after : Draft}
    (ran : (layout relational schema plan).run ⟨[], [], start⟩ =
      .ok (columns, after)) :
    columns.IsFor relational schema plan start := by
  obtain ⟨selected, middle, ranSelect, ran⟩ := exists_of_run_bind ran
  obtain ⟨sorted, last, ranSort, ran⟩ := exists_of_run_bind ran
  cases ran
  have joined : Draft.IsJoined relational schema plan.columnFields start
      ⟨[], [], start⟩ :=
    ⟨.nil, rfl⟩
  obtain ⟨joinedMiddle, -, areSelected⟩ :=
    areColumnsOf_joinedColumns joined (List.subset_append_left _ _) ranSelect
  obtain ⟨joinedLast, kept, areSorted⟩ :=
    areColumnsOf_joinedColumns joinedMiddle (List.subset_append_right _ _) ranSort
  exact ⟨joinedLast.joins,
    areSelected.imp fun _ _ isColumn => isColumn.mono kept, areSorted⟩

/-- What a rendered query consists of: its texts are those of a statement that is
assembled from the rendered filter and a layout, and its parameters are the values
of the filter. -/
theorem SqlQuery.exists_layout_of_ofPlan {target : String} {native : SqlQuery}
    (rendered : ofPlan relational schema plan target = .ok native) :
    ∃ layout : Layout, ∃ statement draft,
      statement = assembled relational plan target
        (renderedFilter? relational plan.filter) layout ∧
      layout.IsFor relational schema plan (1 + plan.filter.crossings) ∧
      (Sql.statement relational schema plan target).run .start =
        .ok (statement, draft) ∧
      native = ⟨statement.text, statement.countText, plan.filter.boundValues⟩ ∧
      isIdentifier target = true ∧
      ∀ name ∈ plan.filter.sqlNames relational "", isIdentifier name = true := by
  rw [ofPlan_eq] at rendered
  rw [run_statement]
  cases refused : refused? relational plan.filter target with
  | some name => simp [refused] at rendered
  | none =>
    have accepted : ∀ name ∈ target :: plan.filter.sqlNames relational "",
        isIdentifier name = true := by
      intro name member
      simpa using List.find?_eq_none.mp refused name member
    rw [List.forall_mem_cons] at accepted
    simp only [refused] at rendered
    cases laidOut : (layout relational schema plan).run
        ⟨[], [], 1 + plan.filter.crossings⟩ with
    | error error => simp [laidOut, Except.map] at rendered
    | ok found =>
      rw [laidOut] at rendered
      cases rendered
      exact ⟨found.1, _, _, rfl, isFor_layout laidOut, rfl, rfl, accepted⟩

end CriteriaQuery
