import CriteriaQuery.Proofs.Sql.Names

namespace CriteriaQuery

/-! The text of a statement taken apart. Fragments of one kind are words that
the renderer has written down; all others are brought in by the configuration,
the query and the target. -/

open Sql Sql.Rendering

namespace Sql

inductive Fragment where
  /-- A text that the renderer has written down. -/
  | fixed (text : String)
  | quote
  /-- A name or a number that is brought in. -/
  | taken (text : String)
  deriving DecidableEq

namespace Fragment

def text : Fragment → String
  | .fixed text => text
  | .quote => "\""
  | .taken text => text

@[simp] theorem text_fixed (word : String) : (fixed word).text = word := rfl

@[simp] theorem text_quote : quote.text = "\"" := rfl

@[simp] theorem text_taken (name : String) : (taken name).text = name := rfl

def spell (fragments : List Fragment) : String := String.join (fragments.map text)

@[simp] theorem spell_nil : spell [] = "" := rfl

@[simp] theorem spell_cons (fragment : Fragment) (rest : List Fragment) :
    spell (fragment :: rest) = fragment.text ++ spell rest := by
  simp [spell, String.join_cons]

@[simp] theorem spell_append (fragments more : List Fragment) :
    spell (fragments ++ more) = spell fragments ++ spell more := by
  simp [spell, String.join_append]

def between (separator : String) (lists : List (List Fragment)) : List Fragment :=
  [fixed separator].intercalate lists

theorem spell_between (separator : String) (lists : List (List Fragment)) :
    spell (between separator lists) = Text.join separator (lists.map spell) := by
  induction lists with
  | nil => rfl
  | cons first rest induction =>
    cases rest with
    | nil => simp [between, Text.join]
    | cons second more =>
      rw [between] at induction ⊢
      rw [List.intercalate_cons_cons, spell_append, spell_append, induction]
      simp [Text.join]

theorem mem_toList_spell_iff {c : Char} {fragments : List Fragment} :
    c ∈ (spell fragments).toList ↔
    ∃ fragment ∈ fragments, c ∈ fragment.text.toList := by
  simp [spell, String.toList_join]

theorem forall_mem_between {holds : Fragment → Prop} {separator : String}
    (atSeparator : holds (.fixed separator)) {lists : List (List Fragment)}
    (each : ∀ fragments ∈ lists, ∀ fragment ∈ fragments, holds fragment) :
    ∀ fragment ∈ between separator lists, holds fragment := by
  induction lists with
  | nil => exact nofun
  | cons first rest induction =>
    rw [List.forall_mem_cons] at each
    cases rest with
    | nil => simpa [between] using each.1
    | cons second more =>
      rw [between, List.intercalate_cons_cons, List.forall_mem_append,
        List.forall_mem_append, List.forall_mem_singleton]
      exact ⟨⟨each.1, atSeparator⟩, induction each.2⟩

theorem subset_between {separator : String} {fragments : List Fragment}
    {lists : List (List Fragment)} (isList : fragments ∈ lists) :
    fragments ⊆ between separator lists := by
  induction lists with
  | nil => cases isList
  | cons first rest induction =>
    cases rest with
    | nil =>
      rw [List.mem_singleton.mp isList]
      simp [between]
    | cons second more =>
      rw [between, List.intercalate_cons_cons]
      rcases List.mem_cons.mp isList with rfl | among
      · exact List.subset_append_of_subset_left _ (List.subset_append_left _ _)
      · exact List.subset_append_of_subset_right _ (induction among)

theorem count_between {fragment : Fragment} {separator : String}
    (different : fragment ≠ .fixed separator) (lists : List (List Fragment)) :
    (between separator lists).count fragment =
      (lists.map (List.count fragment)).sum := by
  induction lists with
  | nil => rfl
  | cons first rest induction =>
    cases rest with
    | nil => simp [between]
    | cons second more =>
      have apart : [fixed separator].count fragment = 0 :=
        List.count_eq_zero.mpr (by simpa using different)
      rw [between] at induction ⊢
      rw [List.intercalate_cons_cons, List.count_append, List.count_append,
        induction, apart]
      rfl

end Fragment

def Column.fragments (column : Column) : List Fragment :=
  [.taken column.table, .fixed ".", .taken column.name]

namespace Link

def fragments (link : Link) (opening middle : String) : List Fragment :=
  [.fixed opening, .taken link.relation.table, .fixed " ", .taken link.table,
    .fixed middle] ++
    (Column.mk link.table link.relation.foreignColumn).fragments ++
    [.fixed " = "] ++ (Column.mk link.outer link.relation.localColumn).fragments

def subqueryFragments (link : Link) : List Fragment :=
  link.fragments "SELECT 1 FROM " " WHERE "

def leftJoinFragments (link : Link) : List Fragment :=
  link.fragments "LEFT JOIN " " ON "

end Link

namespace Condition

mutual

def fragments : Condition → List Fragment
  | .always => [.fixed "1 = 1"]
  | .all children =>
    [.fixed "("] ++ Fragment.between " AND " (fragmentsOf children) ++
      [.fixed ")"]
  | .any children =>
    [.fixed "("] ++ Fragment.between " OR " (fragmentsOf children) ++ [.fixed ")"]
  | .not inner => [.fixed "NOT ("] ++ fragments inner ++ [.fixed ")"]
  | .compare column comparison parameter =>
    column.fragments ++ [.fixed " ", .fixed (comparisonSign comparison),
      .fixed " ", .fixed ":", .taken (parameterName parameter)]
  | .like column parameter =>
    [.fixed "LOWER("] ++ column.fragments ++
      [.fixed ") LIKE ", .fixed ":", .taken (parameterName parameter),
        .fixed " ESCAPE '\\'"]
  | .notNull column => column.fragments ++ [.fixed " IS NOT NULL"]
  | .related link => [.fixed "EXISTS ("] ++ link.subqueryFragments ++ [.fixed ")"]
  | .relatedWhere link inner =>
    [.fixed "EXISTS ("] ++ link.subqueryFragments ++ [.fixed " AND "] ++
      fragments inner ++ [.fixed ")"]

def fragmentsOf : List Condition → List (List Fragment)
  | [] => []
  | child :: rest => fragments child :: fragmentsOf rest

end

end Condition

namespace Statement

def columnFragments (column : Column × String) : List Fragment :=
  column.1.fragments ++ [.fixed " AS ", .quote, .taken column.2, .quote]

def orderFragments (key : Column × Direction) : List Fragment :=
  key.1.fragments ++ [.fixed " ", .fixed key.2.name]

def projectionFragments (statement : Statement) : List Fragment :=
  if statement.columns.isEmpty then [.taken statement.rootAlias, .fixed ".*"]
  else Fragment.between ", " (statement.columns.map columnFragments)

def tableFragments (statement : Statement) : List Fragment :=
  [.taken statement.table, .fixed " ", .taken statement.rootAlias] ++
    statement.joins.flatMap
      (fun join => .fixed "\n" :: join.link.leftJoinFragments) ++
    match statement.condition with
    | some _ => [.fixed "\nWHERE "]
    | none => []

def conditionFragments (statement : Statement) : List Fragment :=
  match statement.condition with
  | some condition => condition.fragments
  | none => []

def sourceFragments (statement : Statement) : List Fragment :=
  statement.tableFragments ++ statement.conditionFragments

def rowFragments (statement : Statement) : List Fragment :=
  [.fixed "SELECT "] ++
    (if statement.distinct then [.fixed "DISTINCT "] else []) ++
    statement.projectionFragments ++ [.fixed "\nFROM "] ++
    statement.sourceFragments

def fragments (statement : Statement) : List Fragment :=
  statement.rowFragments ++
    (if statement.order.isEmpty then []
      else .fixed "\nORDER BY " ::
        Fragment.between ", " (statement.order.map orderFragments)) ++
    [.fixed "\nLIMIT ", .taken (Text.numeral statement.limit), .fixed " OFFSET ",
      .taken (Text.numeral statement.offset)]

def countFragments (statement : Statement) : List Fragment :=
  if statement.distinct || !statement.joins.isEmpty then
    [.fixed "SELECT COUNT(*) FROM ("] ++ statement.rowFragments ++
      [.fixed ") AS counted"]
  else [.fixed "SELECT COUNT(*)\nFROM "] ++ statement.sourceFragments

end Statement

/-! ## Spelling -/

theorem Column.spell_fragments (column : Column) :
    Fragment.spell column.fragments = column.text := by
  simp [fragments, text, String.append_assoc]

namespace Link

theorem spell_fragments (link : Link) (opening middle : String) :
    Fragment.spell (link.fragments opening middle) =
      opening ++ link.relation.table ++ " " ++ link.table ++ middle ++
      link.correlation := by
  simp [fragments, correlation, Column.spell_fragments, String.append_assoc]

theorem spell_subqueryFragments (link : Link) :
    Fragment.spell link.subqueryFragments = link.subquery :=
  link.spell_fragments "SELECT 1 FROM " " WHERE "

theorem spell_leftJoinFragments (link : Link) :
    Fragment.spell link.leftJoinFragments = link.leftJoin :=
  link.spell_fragments "LEFT JOIN " " ON "

end Link

namespace Condition

mutual

theorem spell_fragments : ∀ condition : Condition,
    Fragment.spell condition.fragments = condition.text
  | .always => by simp [fragments, text]
  | .all children => by
    simp [fragments, text, Fragment.spell_between, map_spell_fragmentsOf children,
      String.append_assoc]
  | .any children => by
    simp [fragments, text, Fragment.spell_between, map_spell_fragmentsOf children,
      String.append_assoc]
  | .not inner => by
    simp [fragments, text, spell_fragments inner, String.append_assoc]
  | .compare column comparison parameter => by
    simp [fragments, text, column.spell_fragments, placeholder,
      String.append_assoc]
  | .like column parameter => by
    simp [fragments, text, column.spell_fragments, placeholder,
      String.append_assoc]
  | .notNull column => by simp [fragments, text, column.spell_fragments]
  | .related link => by
    simp [fragments, text, link.spell_subqueryFragments, String.append_assoc]
  | .relatedWhere link inner => by
    simp [fragments, text, link.spell_subqueryFragments, spell_fragments inner,
      String.append_assoc]

theorem map_spell_fragmentsOf : ∀ children : List Condition,
    (fragmentsOf children).map Fragment.spell = texts children
  | [] => rfl
  | child :: rest => by
    rw [fragmentsOf, texts, List.map_cons, spell_fragments child,
      map_spell_fragmentsOf rest]

end

end Condition

namespace Statement

variable (statement : Statement)

theorem spell_columnFragments (column : Column × String) :
    Fragment.spell (columnFragments column) = columnText column := by
  have quoted : " AS \"" = " AS " ++ "\"" := by decide
  rw [columnText, quoted]
  simp [-String.reduceAppend, columnFragments, column.1.spell_fragments,
    String.append_assoc]

theorem spell_orderFragments (key : Column × Direction) :
    Fragment.spell (orderFragments key) = orderText key := by
  simp [orderFragments, orderText, key.1.spell_fragments, String.append_assoc]

theorem spell_projectionFragments :
    Fragment.spell statement.projectionFragments = statement.projection := by
  unfold projectionFragments projection
  split
  · simp
  · rw [Fragment.spell_between, List.map_map]
    congr 2
    exact funext spell_columnFragments

theorem spell_sourceFragments :
    Fragment.spell statement.sourceFragments = statement.source := by
  have joins : Fragment.spell (statement.joins.flatMap fun join =>
      .fixed "\n" :: join.link.leftJoinFragments) =
      String.join
          (statement.joins.map fun join => "\n" ++ join.link.leftJoin) := by
    induction statement.joins with
    | nil => rfl
    | cons join rest induction =>
      simp [String.join_cons, induction, Link.spell_leftJoinFragments,
        String.append_assoc]
  unfold sourceFragments tableFragments conditionFragments source
  rw [Fragment.spell_append, Fragment.spell_append, Fragment.spell_append, joins]
  cases statement.condition with
  | none => simp [String.append_assoc]
  | some condition => simp [condition.spell_fragments, String.append_assoc]

theorem spell_rowFragments :
    Fragment.spell statement.rowFragments = statement.rows := by
  unfold rowFragments rows
  cases statement.distinct <;>
    simp [-String.reduceAppend, spell_projectionFragments, spell_sourceFragments,
      String.append_assoc]

theorem spell_fragments :
    Fragment.spell statement.fragments = statement.text := by
  have order : (statement.order.map orderFragments).map Fragment.spell =
      statement.order.map orderText := by
    rw [List.map_map]
    exact congrArg (List.map · statement.order) (funext spell_orderFragments)
  unfold fragments text
  cases statement.order.isEmpty <;>
    simp [Fragment.spell_between, order, spell_rowFragments, String.append_assoc]

theorem spell_countFragments :
    Fragment.spell statement.countFragments = statement.countText := by
  unfold countFragments countText
  split
  · simp [spell_rowFragments, String.append_assoc]
  · simp [spell_sourceFragments]

end Statement

end Sql

end CriteriaQuery
