import CriteriaQuery.Proofs.Sql.Meaning
import CriteriaQuery.Proofs.Sql.Names

namespace CriteriaQuery

/-! The places of parameters in the text of a statement. They stand in the order
of their numbers, each parameter has one, and nothing else follows a colon. -/

open Sql Sql.Rendering

namespace Sql

/-! ## Placeholders of a text -/

/-- The words that follow colons, each as long as it can be. -/
def wordsBehindColons : List Char → List String
  | [] => []
  | c :: rest =>
    if c = ':' then
      String.ofList (rest.takeWhile (characterKind · = .word)) ::
        wordsBehindColons rest
    else wordsBehindColons rest

def placeholders (text : String) : List String := wordsBehindColons text.toList

example : placeholders "(a1.age > :p0 AND a1.id = :p10)" = ["p0", "p10"] := by
  decide

def IsPlain (text : String) : Prop := ':' ∉ text.toList

instance (text : String) : Decidable (IsPlain text) :=
  inferInstanceAs (Decidable (':' ∉ text.toList))

theorem wordsBehindColons_append {plain : List Char} (none : ':' ∉ plain)
    (rest : List Char) :
    wordsBehindColons (plain ++ rest) = wordsBehindColons rest := by
  induction plain with
  | nil => rfl
  | cons c more induction =>
    rw [List.mem_cons, not_or] at none
    rw [List.cons_append, wordsBehindColons, if_neg (Ne.symm none.1),
      induction none.2]

theorem isPlain_append {left right : String} :
    IsPlain (left ++ right) ↔ IsPlain left ∧ IsPlain right := by
  simp [IsPlain]

theorem isPlain_of_isIdentifier {name : String}
    (named : isIdentifier name = true) : IsPlain name := by
  intro colon
  have word := (characterKind_of_mem named).2 ':' colon
  revert word
  decide

theorem isPlain_numeral (number : Nat) : IsPlain (Text.numeral number) := by
  intro colon
  rw [Text.numeral, String.toList_ofList] at colon
  have digit := Double.isDigit_of_mem_decimal colon
  revert digit
  decide

theorem isPlain_join {separator : String} (plain : IsPlain separator)
    {texts : List String} (each : ∀ text ∈ texts, IsPlain text) :
    IsPlain (Text.join separator texts) := by
  induction texts with
  | nil => exact List.not_mem_nil
  | cons first rest induction =>
    rw [List.forall_mem_cons] at each
    cases rest with
    | nil => exact each.1
    | cons second more =>
      rw [join_cons_cons, isPlain_append, isPlain_append]
      exact ⟨⟨each.1, plain⟩, induction each.2⟩

/-- The text has these placeholders, whatever follows it that does not go on
with a word. -/
def HasPlaceholders (text : String) (names : List String) : Prop :=
  ∀ rest : List Char, (∀ c ∈ rest.head?, characterKind c ≠ .word) →
    wordsBehindColons (text.toList ++ rest) = names ++ wordsBehindColons rest

namespace HasPlaceholders

variable {text more : String} {names others : List String}

theorem placeholders_eq (found : HasPlaceholders text names) :
    placeholders text = names := by
  have whole := found [] nofun
  rwa [List.append_nil, wordsBehindColons, List.append_nil] at whole

theorem of_isPlain (plain : IsPlain text) : HasPlaceholders text [] :=
  fun rest _ => wordsBehindColons_append plain rest

theorem plain_append (found : HasPlaceholders text names) {start : String}
    (plain : IsPlain start) : HasPlaceholders (start ++ text) names := by
  intro rest apart
  rw [String.toList_append, List.append_assoc, wordsBehindColons_append plain]
  exact found rest apart

/-- Placeholders of one text and then those of another one that begins with a
mark. -/
theorem append (first : HasPlaceholders text names)
    (alone : beginsAlone more = true) (second : HasPlaceholders more others) :
    HasPlaceholders (text ++ more) (names ++ others) := by
  intro rest apart
  rw [String.toList_append, List.append_assoc, first, second rest apart,
    List.append_assoc]
  intro c isFirst
  unfold beginsAlone at alone
  cases characters : more.toList with
  | nil => simp [characters] at alone
  | cons d tail =>
    have mark : characterKind d = .mark := by simpa [characters] using alone
    obtain rfl : d = c := by simpa [characters] using isFirst
    rw [mark]
    decide

theorem append_plain (found : HasPlaceholders text names)
    (alone : beginsAlone more = true) (plain : IsPlain more) :
    HasPlaceholders (text ++ more) names := by
  have whole := found.append alone (of_isPlain plain)
  rwa [List.append_nil] at whole

theorem enclosed (found : HasPlaceholders text names) {opening : String}
    (plain : IsPlain opening) : HasPlaceholders (opening ++ text ++ ")") names :=
  (found.plain_append plain).append_plain (by decide) (by decide)

end HasPlaceholders

theorem hasPlaceholders_placeholder (number : Nat) :
    HasPlaceholders (placeholder number) [parameterName number] := by
  intro rest apart
  have plain : ':' ∉ (parameterName number).toList :=
    isPlain_of_isIdentifier (isIdentifier_parameterName number)
  have inside := (characterKind_of_mem (isIdentifier_parameterName number)).2
  -- The name is taken whole, and nothing behind it.
  have word : ((parameterName number).toList ++ rest).takeWhile
      (characterKind · = .word) = (parameterName number).toList := by
    rw [List.takeWhile_append_of_pos (by simpa using inside)]
    have stops : rest.takeWhile (characterKind · = .word) = [] := by
      cases rest with
      | nil => rfl
      | cons c tail => simpa using apart c rfl
    rw [stops, List.append_nil]
  have characters : (placeholder number).toList ++ rest =
      ':' :: ((parameterName number).toList ++ rest) := by
    rw [placeholder, String.toList_append]
    rfl
  rw [characters, wordsBehindColons, if_pos rfl, word, String.ofList_toList,
    wordsBehindColons_append plain]
  rfl

/-! ## Placeholders of a condition -/

theorem isPlain_numbered {letter : String} (plain : IsPlain letter)
    (number : Nat) : IsPlain (letter ++ Text.numeral number) :=
  isPlain_append.mpr ⟨plain, isPlain_numeral number⟩

theorem isPlain_column {column : Column} (table : IsPlain column.table)
    (named : isIdentifier column.name = true) : IsPlain column.text :=
  isPlain_append.mpr ⟨isPlain_append.mpr ⟨table, by decide⟩,
    isPlain_of_isIdentifier named⟩

section Links

variable {link : Link}

structure IsPlainLink (link : Link) : Prop where
  relation : ∀ name ∈ [link.relation.table, link.relation.localColumn,
    link.relation.foreignColumn], isIdentifier name = true
  table : IsPlain link.table
  outer : IsPlain link.outer

theorem IsPlainLink.isPlain_correlation (plain : IsPlainLink link) :
    IsPlain link.correlation := by
  have identifiers := plain.relation
  simp only [List.forall_mem_cons] at identifiers
  obtain ⟨-, localColumn, foreignColumn, -⟩ := identifiers
  have inner : IsPlain (Column.mk link.table link.relation.foreignColumn).text :=
    isPlain_column plain.table foreignColumn
  have outside : IsPlain (Column.mk link.outer link.relation.localColumn).text :=
    isPlain_column plain.outer localColumn
  rw [Link.correlation, isPlain_append, isPlain_append]
  exact ⟨⟨inner, by decide⟩, outside⟩

theorem IsPlainLink.isPlain_clause (plain : IsPlainLink link)
    {opening middle : String} (isOpening : IsPlain opening)
    (isMiddle : IsPlain middle) :
    IsPlain (opening ++ link.relation.table ++ " " ++ link.table ++ middle ++
      link.correlation) := by
  have name := isPlain_of_isIdentifier (plain.relation _ List.mem_cons_self)
  simp only [isPlain_append]
  exact ⟨⟨⟨⟨⟨isOpening, name⟩, by decide⟩, plain.table⟩, isMiddle⟩,
    plain.isPlain_correlation⟩

theorem IsPlainLink.isPlain_subquery (plain : IsPlainLink link) :
    IsPlain link.subquery :=
  plain.isPlain_clause (by decide +kernel) (by decide +kernel)

theorem IsPlainLink.isPlain_leftJoin (plain : IsPlainLink link) :
    IsPlain link.leftJoin :=
  plain.isPlain_clause (by decide +kernel) (by decide +kernel)

end Links

def parameterNames (start count : Nat) : List String :=
  (List.range' start count).map parameterName

theorem parameterNames_append (start count more : Nat) :
    parameterNames start (count + more) =
      parameterNames start count ++ parameterNames (start + count) more := by
  rw [parameterNames, ← List.range'_append_1, List.map_append]
  rfl

end Sql

namespace Predicate

variable {relational : Relational}

mutual

/-- A rendered predicate has the placeholders of its parameters in the order of
their numbers. -/
theorem hasPlaceholders_rendered :
    ∀ (predicate : Predicate) (table scope : String)
    (parameter next : Nat), IsPlain table →
    (∀ name ∈ predicate.sqlNames relational scope, isIdentifier name = true) →
    HasPlaceholders
      (predicate.rendered relational table scope parameter next).text
      (parameterNames parameter predicate.boundValues.length)
  | .always, table, scope, parameter, next, _, _ => by
    rw [rendered, Condition.text, boundValues]
    exact .of_isPlain (by decide)
  | .all children, table, scope, parameter, next, plain, identifiers => by
    rw [sqlNames] at identifiers
    rw [rendered, Condition.text, boundValues]
    exact (hasPlaceholders_renderedAll children table scope parameter
      next plain identifiers
      (by decide) (by decide)).enclosed (by decide)
  | .any children, table, scope, parameter, next, plain, identifiers => by
    rw [sqlNames] at identifiers
    rw [rendered, Condition.text, boundValues]
    exact (hasPlaceholders_renderedAll children table scope parameter
      next plain identifiers
      (by decide) (by decide)).enclosed (by decide)
  | .not inner, table, scope, parameter, next, plain, identifiers => by
    rw [sqlNames] at identifiers
    rw [rendered, Condition.text, boundValues]
    exact (hasPlaceholders_rendered inner table scope parameter next plain
      identifiers).enclosed
      (by decide)
  | .compare field comparison value, table, scope, parameter, next, plain,
      identifiers => by
    rw [sqlNames] at identifiers
    rw [rendered, Condition.text, boundValues]
    have sign : IsPlain (comparisonSign comparison) := by
      cases comparison <;> decide
    refine (hasPlaceholders_placeholder parameter).plain_append ?_
    simp only [isPlain_append]
    exact ⟨⟨⟨isPlain_column plain (identifiers _ List.mem_cons_self), by decide⟩,
        sign⟩, by decide⟩
  | .text field mode needle, table, scope, parameter, next, plain,
      identifiers => by
    rw [sqlNames] at identifiers
    rw [rendered, Condition.text, boundValues]
    refine ((hasPlaceholders_placeholder parameter).plain_append ?_).append_plain
      (by decide) (by decide)
    simp only [isPlain_append]
    exact ⟨⟨by decide,
        isPlain_column plain (identifiers _ List.mem_cons_self)⟩, by decide⟩
  | .present field, table, scope, parameter, next, plain, identifiers => by
    rw [sqlNames] at identifiers
    rw [rendered, Condition.text, boundValues]
    refine .of_isPlain (isPlain_append.mpr ⟨?_, by decide⟩)
    exact isPlain_column plain (identifiers _ List.mem_cons_self)
  | .within path inner, table, scope, parameter, next, plain, identifiers => by
    rw [sqlNames, List.forall_mem_append] at identifiers
    rw [rendered, Condition.text, boundValues]
    have isAlias : IsPlain (tableAlias next) := isPlain_numbered (by decide) next
    have inside := hasPlaceholders_rendered inner (tableAlias next) path
      parameter (next + 1) isAlias identifiers.2
    have link : IsPlainLink (linkAt relational path table next) :=
      ⟨identifiers.1, isAlias, plain⟩
    refine (inside.plain_append ?_).append_plain (by decide) (by decide)
    simp only [isPlain_append]
    exact ⟨⟨by decide, link.isPlain_subquery⟩, by decide⟩
  | .related path, table, scope, parameter, next, plain, identifiers => by
    rw [sqlNames] at identifiers
    rw [rendered, Condition.text, boundValues]
    have isAlias : IsPlain (tableAlias next) := isPlain_numbered (by decide) next
    have link : IsPlainLink (linkAt relational path table next) :=
      ⟨identifiers, isAlias, plain⟩
    refine .of_isPlain ?_
    simp only [isPlain_append]
    exact ⟨⟨by decide, link.isPlain_subquery⟩, by decide⟩

theorem hasPlaceholders_renderedAll :
    ∀ (children : List Predicate) (table scope : String)
    (parameter next : Nat), IsPlain table →
    (∀ name ∈ sqlNamesOf relational scope children, isIdentifier name = true) →
    ∀ {separator : String}, beginsAlone separator = true → IsPlain separator →
    HasPlaceholders
      (Text.join separator
        (Condition.texts
          (renderedAll relational table scope parameter next children)))
      (parameterNames parameter (boundValuesOf children).length)
  | [], table, scope, parameter, next, _, _, _, _, _ => by
    rw [renderedAll, Condition.texts, boundValuesOf]
    exact .of_isPlain List.not_mem_nil
  | [child], table, scope, parameter, next, plain, identifiers, _, _, _ => by
    rw [sqlNamesOf, sqlNamesOf, List.append_nil] at identifiers
    rw [renderedAll, renderedAll, Condition.texts, Condition.texts,
      boundValuesOf, boundValuesOf, List.append_nil]
    exact hasPlaceholders_rendered child table scope parameter
      next plain identifiers
  | child :: second :: rest, table, scope, parameter, next, plain, identifiers,
      separator, alone, isSeparator => by
    rw [sqlNamesOf, List.forall_mem_append] at identifiers
    have first :=
      hasPlaceholders_rendered child table scope parameter
        next plain identifiers.1
    have others := hasPlaceholders_renderedAll (second :: rest) table scope
      (parameter + child.boundValues.length) (next + child.crossings) plain
        identifiers.2 alone
      isSeparator
    rw [renderedAll, Condition.texts, boundValuesOf, List.length_append,
      parameterNames_append]
    rw [renderedAll, Condition.texts] at others ⊢
    rw [join_cons_cons, String.append_assoc]
    exact first.append (beginsAlone_append alone _)
      (others.plain_append isSeparator)

end

end Predicate

namespace Sql

variable {relational : Relational} {schema : Schema} {fields : List String}
  {start : Nat} {joins : List Join}

theorem isPlain_of_admits (rootAlias : IsPlain relational.rootAlias)
    (keys : ∀ key ∈ relational.relations.map Prod.fst, IsPlain key)
    {text : String} (admitted : relational.Admits text) : IsPlain text :=
  fun colon => Relational.not_allows_of_not_mem (by decide) rootAlias keys
    (admitted ':' colon)

/-! ## Placeholders of a statement -/

namespace Statement

structure IsPlainAround (statement : Statement) : Prop where
  table : IsPlain statement.table
  rootAlias : IsPlain statement.rootAlias
  columns : ∀ column ∈ statement.columns, IsPlain (columnText column)
  joins : ∀ join ∈ statement.joins, IsPlain join.link.leftJoin
  order : ∀ key ∈ statement.order, IsPlain (orderText key)

def ConditionHas (statement : Statement) (names : List String) : Prop :=
  match statement.condition with
  | some condition => HasPlaceholders condition.text names
  | none => names = []

variable {statement : Statement} {names : List String}

theorem IsPlainAround.isPlain_projection (plain : statement.IsPlainAround) :
    IsPlain statement.projection := by
  unfold projection
  split
  · exact isPlain_append.mpr ⟨plain.rootAlias, by decide⟩
  · exact isPlain_join (by decide) (List.forall_mem_map.mpr plain.columns)

theorem IsPlainAround.isPlain_joins (plain : statement.IsPlainAround) :
    IsPlain
      (String.join
      (statement.joins.map fun join => "\n" ++ join.link.leftJoin)) := by
  intro colon
  rw [String.toList_join, List.mem_flatMap] at colon
  obtain ⟨clause, isClause, inside⟩ := colon
  obtain ⟨join, isJoin, rfl⟩ := List.mem_map.mp isClause
  exact isPlain_append.mpr ⟨by decide, plain.joins join isJoin⟩ inside

theorem hasPlaceholders_source (plain : statement.IsPlainAround)
    (condition : statement.ConditionHas names) :
    HasPlaceholders statement.source names := by
  have tables : IsPlain (statement.table ++ " " ++ statement.rootAlias ++
      String.join
        (statement.joins.map fun join => "\n" ++ join.link.leftJoin)) := by
    simp only [isPlain_append]
    exact ⟨⟨⟨plain.table, by decide⟩, plain.rootAlias⟩, plain.isPlain_joins⟩
  unfold source
  unfold ConditionHas at condition
  cases given : statement.condition with
  | none =>
    rw [given] at condition
    rw [condition]
    exact .of_isPlain (isPlain_append.mpr ⟨tables, by decide⟩)
  | some filter =>
    rw [given] at condition
    exact (condition.plain_append (by decide)).plain_append tables

theorem hasPlaceholders_rows (plain : statement.IsPlainAround)
    (condition : statement.ConditionHas names) :
    HasPlaceholders statement.rows names := by
  refine (hasPlaceholders_source plain condition).plain_append ?_
  have distinct : IsPlain (if statement.distinct then "DISTINCT " else "") := by
    split <;> decide
  simp only [isPlain_append]
  exact ⟨⟨⟨by decide, distinct⟩, plain.isPlain_projection⟩, by decide⟩

theorem hasPlaceholders_text (plain : statement.IsPlainAround)
    (condition : statement.ConditionHas names) :
    HasPlaceholders statement.text names := by
  have rows := hasPlaceholders_rows plain condition
  have order : IsPlain (Text.join ", " (statement.order.map orderText)) :=
    isPlain_join (by decide) (List.forall_mem_map.mpr plain.order)
  have sorted : HasPlaceholders
      (statement.rows ++
        if statement.order.isEmpty then ""
        else "\nORDER BY " ++ Text.join ", " (statement.order.map orderText))
      names := by
    split
    · rwa [String.append_empty]
    · exact rows.append_plain (beginsAlone_append (by decide) _)
        (isPlain_append.mpr ⟨by decide, order⟩)
  have page : IsPlain ("\nLIMIT " ++ (Text.numeral statement.limit ++
      (" OFFSET " ++ Text.numeral statement.offset))) := by
    simp only [isPlain_append]
    exact ⟨by decide, isPlain_numeral _, by decide, isPlain_numeral _⟩
  unfold text
  rw [String.append_assoc, String.append_assoc, String.append_assoc]
  exact sorted.append_plain (beginsAlone_append (by decide) _) page

theorem hasPlaceholders_countText (plain : statement.IsPlainAround)
    (condition : statement.ConditionHas names) :
    HasPlaceholders statement.countText names := by
  unfold countText
  split
  · exact ((hasPlaceholders_rows plain condition).plain_append
      (by decide)).append_plain (by decide)
      (by decide)
  · exact (hasPlaceholders_source plain condition).plain_append (by decide)

end Statement

variable {plan : Plan} {layout : Layout}

theorem AreJoined.isPlain_link
    (joined : AreJoined relational schema fields start joins)
    (rootAlias : IsPlain relational.rootAlias) {join : Join}
    (isJoin : join ∈ joins) : IsPlainLink join.link := by
  obtain ⟨path, outer, number, rfl, identifiers, hangs⟩ :=
    joined.exists_joinAt isJoin
  refine ⟨identifiers, isPlain_numbered (by decide) number, ?_⟩
  rcases hangs with isRoot | ⟨other, isAlias⟩
  · exact isRoot ▸ rootAlias
  · exact isAlias ▸ isPlain_numbered (by decide) other

theorem IsColumnOf.isPlain_column {field : String} {column : Column}
    (isColumn : IsColumnOf relational schema joins field column)
    (joined : AreJoined relational schema fields start joins)
    (rootAlias : IsPlain relational.rootAlias)
    (keys : ∀ key ∈ relational.relations.map Prod.fst, IsPlain key) :
    IsPlain column.text :=
  Sql.isPlain_column
    (isPlain_of_admits rootAlias keys (isColumn.admits_table joined))
    isColumn.isIdentifier_name

theorem isPlainAround_assembled (rootAlias : IsPlain relational.rootAlias)
    (keys : ∀ key ∈ relational.relations.map Prod.fst, IsPlain key)
    (isFor : layout.IsFor relational schema plan start) {target : String}
    (named : isIdentifier target = true) (condition : Option Condition) :
    (assembled relational plan target condition layout).IsPlainAround where
  table := isPlain_of_isIdentifier named
  rootAlias := rootAlias
  columns := by
    rintro ⟨column, source⟩ member
    have isColumn := List.forall₂_zip isFor.columns.flip member
    have around : IsPlain (column.text ++ " AS \"" ++ source) := by
      simp only [isPlain_append]
      exact ⟨⟨isColumn.isPlain_column isFor.joins rootAlias keys, by decide⟩,
        isPlain_of_admits rootAlias keys (isColumn.admits_field isFor.joins)⟩
    exact isPlain_append.mpr ⟨around, by decide⟩
  joins join isJoin :=
    (isFor.joins.isPlain_link rootAlias isJoin).isPlain_leftJoin
  order := by
    rintro ⟨column, direction⟩ member
    obtain ⟨field, -, isColumn⟩ :=
      exists_of_mem_right isFor.order (List.of_mem_zip member).1
    have name : IsPlain direction.name := by cases direction <;> decide
    exact isPlain_append.mpr
      ⟨isPlain_append.mpr
        ⟨isColumn.isPlain_column isFor.joins rootAlias keys, by decide⟩, name⟩

theorem conditionHas_assembled (rootAlias : IsPlain relational.rootAlias)
    (identifiers : ∀ name ∈ plan.filter.sqlNames relational "",
      isIdentifier name = true)
    (target : String) :
    (assembled relational plan target (renderedFilter? relational plan.filter)
      layout).ConditionHas (parameterNames 0 plan.filter.boundValues.length) := by
  unfold Statement.ConditionHas assembled
  rcases renderedFilter?_cases relational plan.filter with
    ⟨always, none⟩ | isFilter
  · rw [none, always, Predicate.boundValues]
    rfl
  · rw [isFilter]
    exact plan.filter.hasPlaceholders_rendered relational.rootAlias "" 0 1
      rootAlias identifiers

end Sql

namespace SqlQuery

variable {relational : Relational} {schema : Schema} {paging : Paging}
  {plan : Plan} {target : String} {query : SqlQuery}

theorem lookup_named_eq_some_iff (query : SqlQuery) {name : String}
    {value : Json} :
    query.named.lookup name = some value ↔
      ∃ number, name = parameterName number ∧
      query.parameters[number]? = some value := by
  constructor
  · intro found
    obtain ⟨before, after, entries, -⟩ := List.lookup_eq_some_iff.mp found
    have among : (name, value) ∈ query.named := by
      rw [entries]
      exact List.mem_append_right _ List.mem_cons_self
    obtain ⟨⟨bound, number⟩, isBound, ⟨⟩⟩ := List.mem_map.mp among
    exact ⟨number, rfl, List.mem_zipIdx_iff_getElem?.mp isBound⟩
  · rintro ⟨number, rfl, bound⟩
    exact lookup_named query bound

/-- The names of the parameters are numbered through; they stand at the
placeholders of both texts, in their order and each one once. The value of a
parameter is that of the comparison or text condition with its number, counted
from left to right. All this needs of the configuration is that its names bring
in no colons. -/
theorem placeholders_eq_names (rootAlias : ':' ∉ relational.rootAlias.toList)
    (keys : ∀ key ∈ relational.relations.map Prod.fst, ':' ∉ key.toList)
    (rendered : (compiler relational schema paging).render plan target =
      .ok query) :
    query.named.map Prod.fst =
        (List.range plan.filter.boundValues.length).map parameterName ∧
      (query.named.map Prod.fst).Nodup ∧
      placeholders query.sql = query.named.map Prod.fst ∧
      placeholders query.countSql = query.named.map Prod.fst ∧
      ∀ name value, query.named.lookup name = some value ↔
        ∃ number, name = parameterName number ∧
        plan.filter.boundValues[number]? = some value := by
  obtain ⟨layout, statement, draft, rfl, isFor, -, rfl, named, identifiers⟩ :=
    exists_layout_of_ofPlan rendered
  have plain := isPlainAround_assembled rootAlias keys isFor named
    (renderedFilter? relational plan.filter)
  have condition :
      (assembled relational plan target (renderedFilter? relational plan.filter)
        layout).ConditionHas _ :=
        conditionHas_assembled rootAlias identifiers target
  rw [parameterNames, ← List.range_eq_range'] at condition
  rw [names_named]
  refine ⟨rfl, ?_, ?_, ?_, fun name value => lookup_named_eq_some_iff _⟩
  · exact List.nodup_range.map parameterName_injective
  · exact (Statement.hasPlaceholders_text plain condition).placeholders_eq
  · exact (Statement.hasPlaceholders_countText plain condition).placeholders_eq

def teamPlan : Plan :=
  { staffPlan (.ofNat 30) "Math" with
    select := [⟨"department.name", "team"⟩]
    sort := [⟨"age", .descending, none⟩] }

theorem placeholders_teamPlan :
    ∃ query, (compiler ⟨"t0", []⟩ ⟨fun _ => false, '<'⟩ ⟨20, 0, none⟩).render
      teamPlan "staff" = .ok query ∧
    placeholders query.sql = ["p0", "p1"] ∧
    placeholders query.countSql = ["p0", "p1"] ∧
    query.named.lookup "p0" = some (.ofNat 30) ∧
    query.named.lookup "p1" = some (.string "%math%") := by
  have accepted : refused? ⟨"t0", []⟩ teamPlan.filter "staff" = none :=
    refused?_staffPlan "t0" _ _
  have once : teamPlan.filter.crossings = 1 := by
    simp only [teamPlan, staffPlan, Predicate.crossings, Predicate.crossingsOf]
  have laidOut : ((layout ⟨"t0", []⟩ ⟨fun _ => false, '<'⟩ teamPlan).run
      ⟨[], [], 1 + teamPlan.filter.crossings⟩).isOk = true := by
    rw [once]
    decide +kernel
  obtain ⟨query, rendered⟩ := exists_ofPlan_of_isOk accepted laidOut
  have values : teamPlan.filter.boundValues = [.ofNat 30, .string "%math%"] := by
    have pattern : likePattern .contains "Math" = "%math%" := by decide +kernel
    simp only [teamPlan, staffPlan, Predicate.boundValues,
      Predicate.boundValuesOf, pattern]
    rfl
  have names : (List.range 2).map parameterName = ["p0", "p1"] := by decide
  obtain ⟨numbered, -, inText, inCount, bound⟩ :=
    @placeholders_eq_names ⟨"t0", []⟩ _ ⟨20, 0, none⟩ _ _ _ (by decide)
      (by decide) rendered
  rw [numbered, values, List.length_cons, List.length_singleton,
    names] at inText inCount
  refine ⟨query, rendered, inText, inCount, (bound _ _).mpr ⟨0, by decide, ?_⟩,
    (bound _ _).mpr ⟨1, by decide, ?_⟩⟩
  · rw [values]
    rfl
  · rw [values]
    rfl

end SqlQuery

end CriteriaQuery
