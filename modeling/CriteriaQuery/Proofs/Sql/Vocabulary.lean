import CriteriaQuery.Proofs.Sql.Fragments
import CriteriaQuery.Proofs.Sql.Meaning

namespace CriteriaQuery

/-! What a statement is written with: words of a fixed vocabulary, double quotes
around the names of selected columns, and names without any character that does
not belong into a path, unless the configuration brings it in. -/

open Sql Sql.Rendering

namespace Sql

def plainWords : List String :=
  ["1 = 1", " ESCAPE '\\'", " IS NOT NULL", " AND ", " OR ", "=", ">", ">=", "<",
    "<=", ":", ".", " ", "SELECT 1 FROM ", " WHERE ", " = ", "LEFT JOIN ",
    " ON ", "SELECT ", "DISTINCT ", ".*", " AS ", ", ", "\nFROM ", "\n",
    "\nWHERE ", "\nORDER BY ", "ASC", "DESC", "\nLIMIT ", " OFFSET "]

def vocabulary : List String :=
  plainWords ++ ["(", ")", "NOT (", "EXISTS (", "LOWER(", ") LIKE ",
    "SELECT COUNT(*) FROM (", ") AS counted", "SELECT COUNT(*)\nFROM "]

theorem plainWords_subset_vocabulary : plainWords ⊆ vocabulary :=
  List.subset_append_left _ _

theorem not_mem_of_mem_plainWords {word : String} (isWord : word ∈ plainWords) :
    '(' ∉ word.toList ∧ ')' ∉ word.toList := by
  revert word
  decide +kernel

theorem not_mem_of_mem_vocabulary {word : String} (isWord : word ∈ vocabulary) :
    ';' ∉ word.toList ∧ '-' ∉ word.toList ∧ '"' ∉ word.toList := by
  revert word
  decide +kernel

variable {relational : Relational} {schema : Schema} {plan : Plan}
  {layout : Layout}
  {fields words : List String} {start : Nat} {joins : List Join}

/-! ## Vetted fragments -/

/-- A fixed fragment is one of the words, and one that is brought in has allowed
characters only. -/
def Fragment.IsVetted (relational : Relational) (words : List String) :
    Fragment → Prop
  | .fixed word => word ∈ words
  | .quote => False
  | .taken name => relational.Admits name

def AreVetted (relational : Relational) (words : List String)
    (fragments : List Fragment) : Prop :=
  ∀ fragment ∈ fragments, fragment.IsVetted relational words

theorem Fragment.IsVetted.mono {more : List String} {fragment : Fragment}
    (vetted : fragment.IsVetted relational words) (subset : words ⊆ more) :
    fragment.IsVetted relational more := by
  cases fragment with
  | fixed word => exact subset vetted
  | quote => exact vetted
  | taken name => exact vetted

theorem AreVetted.mono {more : List String} {fragments : List Fragment}
    (vetted : AreVetted relational words fragments) (subset : words ⊆ more) :
    AreVetted relational more fragments :=
  fun fragment member => (vetted fragment member).mono subset

@[simp] theorem areVetted_nil : AreVetted relational words [] := nofun

@[simp] theorem areVetted_fixed_cons {word : String} {rest : List Fragment} :
    AreVetted relational words (.fixed word :: rest) ↔
      word ∈ words ∧ AreVetted relational words rest :=
  List.forall_mem_cons

@[simp] theorem areVetted_taken_cons {name : String} {rest : List Fragment} :
    AreVetted relational words (.taken name :: rest) ↔
      relational.Admits name ∧ AreVetted relational words rest :=
  List.forall_mem_cons

@[simp] theorem areVetted_append {fragments more : List Fragment} :
    AreVetted relational words (fragments ++ more) ↔
      AreVetted relational words fragments ∧ AreVetted relational words more :=
  List.forall_mem_append

theorem areVetted_column {column : Column}
    (table : relational.Admits column.table)
    (named : isIdentifier column.name = true) :
    AreVetted relational plainWords column.fragments := by
  have name : relational.Admits column.name :=
    relational.admits_of_isIdentifier named
  have dot : "." ∈ plainWords := by decide +kernel
  simp [Column.fragments, dot, table, name]

theorem areVetted_link {path table outer : String}
    (identifiers : ∀ name ∈ relationNames relational path,
      isIdentifier name = true)
    (isTable : relational.Admits table) (isOuter : relational.Admits outer)
    {opening middle : String} (isOpening : opening ∈ plainWords)
    (isMiddle : middle ∈ plainWords) :
    AreVetted relational plainWords
      (Link.fragments ⟨relational.relation path, table,
        outer⟩ opening middle) := by
  simp only [relationNames, List.forall_mem_cons] at identifiers
  obtain ⟨related, localColumn, foreignColumn, -⟩ := identifiers
  have name : relational.Admits (relational.relation path).table :=
    relational.admits_of_isIdentifier related
  have inner : AreVetted relational plainWords
      (Column.mk table (relational.relation path).foreignColumn).fragments :=
    areVetted_column isTable foreignColumn
  have outside : AreVetted relational plainWords
      (Column.mk outer (relational.relation path).localColumn).fragments :=
    areVetted_column isOuter localColumn
  have marks : " " ∈ plainWords ∧ " = " ∈ plainWords := by decide +kernel
  simp [Link.fragments, isOpening, isMiddle, name, isTable, inner, outside, marks]

end Sql

namespace Predicate

variable {relational : Relational}

theorem areVetted_conditionColumn {field table scope : String}
    (admitted : relational.Admits table)
    (identifiers : ∀ name ∈ [columnName field scope], isIdentifier name = true) :
    AreVetted relational vocabulary
      (Column.mk table (columnName field scope)).fragments := by
  have column : AreVetted relational plainWords
      (Column.mk table (columnName field scope)).fragments :=
    areVetted_column admitted (identifiers _ List.mem_cons_self)
  exact column.mono plainWords_subset_vocabulary

theorem areVetted_subquery {path table : String}
    (admitted : relational.Admits table)
    (identifiers : ∀ name ∈ relationNames relational path,
      isIdentifier name = true)
    (next : Nat) :
    AreVetted relational vocabulary
      (linkAt relational path table next).subqueryFragments := by
  have link : AreVetted relational plainWords
      (linkAt relational path table next).subqueryFragments :=
    areVetted_link identifiers (Relational.admits_tableAlias next) admitted
      (by decide +kernel) (by decide +kernel)
  exact link.mono plainWords_subset_vocabulary

theorem areVetted_junction {separator : String} (isWord : separator ∈ vocabulary)
    {lists : List (List Fragment)}
    (each : ∀ fragments ∈ lists, AreVetted relational vocabulary fragments) :
    AreVetted relational vocabulary
      ([.fixed "("] ++ Fragment.between separator lists ++ [.fixed ")"]) := by
  have marks : "(" ∈ vocabulary ∧ ")" ∈ vocabulary := by decide +kernel
  have inside : AreVetted relational vocabulary
      (Fragment.between separator lists) :=
    Fragment.forall_mem_between isWord each
  simp [inside, marks]

mutual

theorem areVetted_rendered : ∀ (predicate : Predicate) (table scope : String)
    (parameter next : Nat), relational.Admits table →
    (∀ name ∈ predicate.sqlNames relational scope, isIdentifier name = true) →
    AreVetted relational vocabulary
      (predicate.rendered relational table scope parameter next).fragments
  | .always, table, scope, parameter, next, _, _ => by
    have isWord : "1 = 1" ∈ vocabulary := by decide +kernel
    rw [rendered, Condition.fragments]
    simp [isWord]
  | .all children, table, scope, parameter, next, admitted, identifiers => by
    rw [sqlNames] at identifiers
    rw [rendered, Condition.fragments]
    exact areVetted_junction (by decide +kernel)
      (areVetted_renderedAll children table scope parameter
        next admitted identifiers)
  | .any children, table, scope, parameter, next, admitted, identifiers => by
    rw [sqlNames] at identifiers
    rw [rendered, Condition.fragments]
    exact areVetted_junction (by decide +kernel)
      (areVetted_renderedAll children table scope parameter
        next admitted identifiers)
  | .not inner, table, scope, parameter, next, admitted, identifiers => by
    rw [sqlNames] at identifiers
    have words : "NOT (" ∈ vocabulary ∧ ")" ∈ vocabulary := by decide +kernel
    have inside :=
      areVetted_rendered inner table scope parameter next admitted identifiers
    rw [rendered, Condition.fragments]
    simp [inside, words]
  | .compare field comparison value, table, scope, parameter, next, admitted,
      identifiers => by
    rw [sqlNames] at identifiers
    have column := areVetted_conditionColumn admitted identifiers
    have sign : comparisonSign comparison ∈ vocabulary := by
      cases comparison <;> decide +kernel
    have name : relational.Admits (parameterName parameter) :=
      relational.admits_of_isIdentifier (isIdentifier_parameterName parameter)
    have words : " " ∈ vocabulary ∧ ":" ∈ vocabulary := by decide +kernel
    rw [rendered, Condition.fragments]
    simp [column, sign, name, words]
  | .text field mode needle, table, scope, parameter, next, admitted,
      identifiers => by
    rw [sqlNames] at identifiers
    have column := areVetted_conditionColumn admitted identifiers
    have name : relational.Admits (parameterName parameter) :=
      relational.admits_of_isIdentifier (isIdentifier_parameterName parameter)
    have words : "LOWER(" ∈ vocabulary ∧ ") LIKE " ∈ vocabulary ∧
        ":" ∈ vocabulary ∧ " ESCAPE '\\'" ∈ vocabulary := by decide +kernel
    rw [rendered, Condition.fragments]
    simp [column, name, words]
  | .present field, table, scope, parameter, next, admitted, identifiers => by
    rw [sqlNames] at identifiers
    have column := areVetted_conditionColumn admitted identifiers
    have isWord : " IS NOT NULL" ∈ vocabulary := by decide +kernel
    rw [rendered, Condition.fragments]
    simp [column, isWord]
  | .within path inner, table, scope, parameter, next, admitted, identifiers => by
    rw [sqlNames, List.forall_mem_append] at identifiers
    have link := areVetted_subquery admitted identifiers.1 next
    have inside := areVetted_rendered inner (tableAlias next) path parameter
      (next + 1) (Relational.admits_tableAlias next) identifiers.2
    have words : "EXISTS (" ∈ vocabulary ∧ " AND " ∈ vocabulary ∧
        ")" ∈ vocabulary := by
      decide +kernel
    rw [rendered, Condition.fragments]
    simp [link, inside, words]
  | .related path, table, scope, parameter, next, admitted, identifiers => by
    rw [sqlNames] at identifiers
    have link := areVetted_subquery admitted identifiers next
    have words : "EXISTS (" ∈ vocabulary ∧ ")" ∈ vocabulary := by decide +kernel
    rw [rendered, Condition.fragments]
    simp [link, words]

theorem areVetted_renderedAll :
    ∀ (children : List Predicate) (table scope : String)
    (parameter next : Nat), relational.Admits table →
    (∀ name ∈ sqlNamesOf relational scope children, isIdentifier name = true) →
    ∀ fragments ∈ Condition.fragmentsOf
      (renderedAll relational table scope parameter next children),
      AreVetted relational vocabulary fragments
  | [], table, scope, parameter, next, _, _ => by
    rw [renderedAll, Condition.fragmentsOf]
    exact nofun
  | child :: rest, table, scope, parameter, next, admitted, identifiers => by
    rw [sqlNamesOf, List.forall_mem_append] at identifiers
    rw [renderedAll, Condition.fragmentsOf, List.forall_mem_cons]
    exact ⟨areVetted_rendered child table scope parameter
      next admitted identifiers.1,
      areVetted_renderedAll rest table scope _ _ admitted identifiers.2⟩

end

end Predicate

namespace Sql

variable {relational : Relational} {schema : Schema} {plan : Plan}
  {layout : Layout} {words : List String} {start : Nat}

/-! ## Double quotes -/

def AreQuoted (relational : Relational) (words : List String)
    (fragments : List Fragment) : Prop :=
  ∀ fragment ∈ fragments, fragment = .quote ∨ fragment.IsVetted relational words

theorem AreVetted.areQuoted {fragments : List Fragment}
    (vetted : AreVetted relational words fragments) :
    AreQuoted relational words fragments :=
  fun fragment member => .inr (vetted fragment member)

theorem AreVetted.count_quote {fragments : List Fragment}
    (vetted : AreVetted relational words fragments) :
    fragments.count .quote = 0 :=
  List.count_eq_zero.mpr fun member => vetted .quote member

theorem areQuoted_append {fragments more : List Fragment} :
    AreQuoted relational words (fragments ++ more) ↔
      AreQuoted relational words fragments ∧ AreQuoted relational words more :=
  List.forall_mem_append

namespace AreQuoted

variable {fragments : List Fragment} {c : Char}

theorem mono {more : List String} (quoted : AreQuoted relational words fragments)
    (subset : words ⊆ more) : AreQuoted relational more fragments :=
  fun fragment member => (quoted fragment member).imp_right fun vetted =>
    vetted.mono subset

theorem not_mem_spell (quoted : AreQuoted relational words fragments)
    (foreign : ¬ relational.Allows c) (notQuote : c ≠ '"')
    (noWord : ∀ word ∈ words, c ∉ word.toList) :
    c ∉ (Fragment.spell fragments).toList := by
  rw [Fragment.mem_toList_spell_iff]
  rintro ⟨fragment, isFragment, member⟩
  rcases quoted fragment isFragment with rfl | vetted
  · exact notQuote (by simpa using member)
  · cases fragment with
    | fixed word => exact noWord word vetted member
    | quote => exact vetted
    | taken name => exact foreign (vetted c member)

theorem no_semicolon_no_dash (quoted : AreQuoted relational vocabulary fragments)
    (semicolon : ¬ relational.Allows ';') (dash : ¬ relational.Allows '-') :
    ';' ∉ (Fragment.spell fragments).toList ∧
    '-' ∉ (Fragment.spell fragments).toList :=
  ⟨quoted.not_mem_spell semicolon (by decide)
      fun _ isWord => (not_mem_of_mem_vocabulary isWord).1,
    quoted.not_mem_spell dash (by decide)
      fun _ isWord => (not_mem_of_mem_vocabulary isWord).2.1⟩

/-- Every double quote of the text stands for itself. -/
theorem count_spell (quoted : AreQuoted relational vocabulary fragments)
    (foreign : ¬ relational.Allows '"') :
    (Fragment.spell fragments).toList.count '"' = fragments.count .quote := by
  induction fragments with
  | nil => rfl
  | cons fragment rest induction =>
    unfold AreQuoted at quoted
    rw [List.forall_mem_cons] at quoted
    rw [Fragment.spell_cons, String.toList_append, List.count_append,
      induction quoted.2, List.count_cons, Nat.add_comm]
    congr 1
    rcases quoted.1 with rfl | vetted
    · rfl
    · cases fragment with
      | fixed word =>
        exact List.count_eq_zero.mpr (not_mem_of_mem_vocabulary vetted).2.2
      | quote => exact vetted.elim
      | taken name =>
        exact List.count_eq_zero.mpr fun member => foreign (vetted '"' member)

end AreQuoted

/-! ## Statements -/

namespace Statement

variable {statement : Statement}

structure IsVetted (relational : Relational) (statement : Statement) : Prop where
  table : relational.Admits statement.table
  rootAlias : relational.Admits statement.rootAlias
  columns : ∀ column ∈ statement.columns,
    AreVetted relational plainWords column.1.fragments ∧
    relational.Admits column.2
  joins : ∀ join ∈ statement.joins,
    AreVetted relational plainWords join.link.leftJoinFragments
  condition : AreVetted relational vocabulary statement.conditionFragments
  order : ∀ key ∈ statement.order,
    AreVetted relational plainWords (orderFragments key)

/-- The fragments of the condition stand between others without parentheses,
among them so many double quotes. -/
def IsAroundCondition (relational : Relational) (statement : Statement)
    (quotes : Nat) (fragments : List Fragment) : Prop :=
  ∃ before after, fragments = before ++ statement.conditionFragments ++ after ∧
    AreQuoted relational plainWords before ∧ before.count .quote = quotes ∧
    AreVetted relational plainWords after

namespace IsVetted

theorem areQuoted_projection (vetted : statement.IsVetted relational) :
    AreQuoted relational plainWords statement.projectionFragments := by
  unfold projectionFragments
  split
  · have isWord : ".*" ∈ plainWords := by decide +kernel
    have root : AreVetted relational plainWords
        [.taken statement.rootAlias, .fixed ".*"] := by
      simp [vetted.rootAlias, isWord]
    exact root.areQuoted
  · have isWord : ", " ∈ plainWords := by decide +kernel
    have isAs : " AS " ∈ plainWords := by decide +kernel
    refine Fragment.forall_mem_between (.inr isWord)
      (List.forall_mem_map.mpr fun pair member => ?_)
    obtain ⟨ofTable, name⟩ := vetted.columns pair member
    refine areQuoted_append.mpr ⟨ofTable.areQuoted, ?_⟩
    simp [AreQuoted, Fragment.IsVetted, isAs, name]

theorem count_quote_projection (vetted : statement.IsVetted relational) :
    statement.projectionFragments.count .quote =
      2 * statement.columns.length := by
  unfold projectionFragments
  split
  next none => simp [List.isEmpty_iff.mp none]
  next =>
    have each : statement.columns.map
        (List.count Fragment.quote ∘ columnFragments) =
        statement.columns.map fun _ => 2 := by
      refine List.map_congr_left fun pair member => ?_
      rw [Function.comp, columnFragments, List.count_append,
        (vetted.columns pair member).1.count_quote]
      rfl
    rw [Fragment.count_between (by simp), List.map_map, each]
    simp [Nat.mul_comm]

theorem areVetted_tables (vetted : statement.IsVetted relational) :
    AreVetted relational plainWords statement.tableFragments := by
  have words : " " ∈ plainWords ∧ "\n" ∈ plainWords ∧
    "\nWHERE " ∈ plainWords := by decide +kernel
  have joins : AreVetted relational plainWords
      (statement.joins.flatMap fun join =>
        .fixed "\n" :: join.link.leftJoinFragments) := by
    intro fragment member
    obtain ⟨join, isJoin, inside⟩ := List.mem_flatMap.mp member
    have clause : AreVetted relational plainWords
        (.fixed "\n" :: join.link.leftJoinFragments) := by
      simp [vetted.joins join isJoin, words]
    exact clause fragment inside
  unfold tableFragments
  cases statement.condition <;>
    simp [joins, vetted.table, vetted.rootAlias, words]

theorem areVetted_order (vetted : statement.IsVetted relational) :
    AreVetted relational plainWords
      (if statement.order.isEmpty then []
        else .fixed "\nORDER BY " ::
          Fragment.between ", " (statement.order.map orderFragments)) := by
  split
  · exact areVetted_nil
  · have words : "\nORDER BY " ∈ plainWords ∧
      ", " ∈ plainWords := by decide +kernel
    have keys : AreVetted relational plainWords (Fragment.between ", " _) :=
      Fragment.forall_mem_between words.2 (List.forall_mem_map.mpr vetted.order)
    simp [keys, words]

theorem isAround_source (vetted : statement.IsVetted relational) :
    statement.IsAroundCondition relational 0 statement.sourceFragments :=
  ⟨statement.tableFragments, [], (List.append_nil _).symm,
    vetted.areVetted_tables.areQuoted,
    vetted.areVetted_tables.count_quote, areVetted_nil⟩

theorem isAround_rows (vetted : statement.IsVetted relational) :
    statement.IsAroundCondition relational (2 * statement.columns.length)
      statement.rowFragments := by
  have words : "SELECT " ∈ plainWords ∧ "DISTINCT " ∈ plainWords ∧
      "\nFROM " ∈ plainWords := by
    decide +kernel
  have opening : AreVetted relational plainWords
      ([.fixed "SELECT "] ++
        if statement.distinct then [.fixed "DISTINCT "] else []) := by
    cases statement.distinct <;> simp [words]
  have tables : AreVetted relational plainWords
      ([.fixed "\nFROM "] ++ statement.tableFragments) := by
    simp [vetted.areVetted_tables, words]
  refine ⟨([.fixed "SELECT "] ++
        if statement.distinct then [.fixed "DISTINCT "] else []) ++
      statement.projectionFragments ++
      ([.fixed "\nFROM "] ++ statement.tableFragments), [],
    ?_, ?_, ?_, areVetted_nil⟩
  · simp only [rowFragments, sourceFragments, List.append_assoc, List.append_nil]
  · rw [areQuoted_append, areQuoted_append]
    exact ⟨⟨opening.areQuoted, vetted.areQuoted_projection⟩, tables.areQuoted⟩
  · rw [List.count_append, List.count_append, opening.count_quote,
      tables.count_quote,
      vetted.count_quote_projection, Nat.zero_add, Nat.add_zero]

theorem isAround_fragments (vetted : statement.IsVetted relational) :
    statement.IsAroundCondition relational (2 * statement.columns.length)
      statement.fragments := by
  obtain ⟨before, after, rows, isBefore, quotes, isAfter⟩ := vetted.isAround_rows
  have words : "\nLIMIT " ∈ plainWords ∧
    " OFFSET " ∈ plainWords := by decide +kernel
  have page : AreVetted relational plainWords [.fixed "\nLIMIT ",
      .taken (Text.numeral statement.limit), .fixed " OFFSET ",
      .taken (Text.numeral statement.offset)] := by
    simp [Relational.admits_numeral, words]
  refine ⟨before, after ++ (_ ++ _), ?_, isBefore, quotes,
    areVetted_append.mpr ⟨isAfter,
      areVetted_append.mpr ⟨vetted.areVetted_order, page⟩⟩⟩
  simp only [fragments, rows, List.append_assoc]

end IsVetted

theorem IsAroundCondition.areQuoted {quotes : Nat} {fragments : List Fragment}
    (around : statement.IsAroundCondition relational quotes fragments)
    (vetted : statement.IsVetted relational) :
    AreQuoted relational vocabulary fragments := by
  obtain ⟨before, after, rfl, isBefore, -, isAfter⟩ := around
  rw [areQuoted_append, areQuoted_append]
  exact ⟨⟨isBefore.mono plainWords_subset_vocabulary, vetted.condition.areQuoted⟩,
    isAfter.areQuoted.mono plainWords_subset_vocabulary⟩

theorem IsAroundCondition.count_quote {quotes : Nat} {fragments : List Fragment}
    (around : statement.IsAroundCondition relational quotes fragments)
    (vetted : statement.IsVetted relational) :
    fragments.count .quote = quotes := by
  obtain ⟨before, after, rfl, -, isCount, isAfter⟩ := around
  rw [List.count_append, List.count_append, isCount, vetted.condition.count_quote,
    isAfter.count_quote, Nat.add_zero]

theorem IsVetted.areQuoted_countFragments
    (vetted : statement.IsVetted relational) :
    AreQuoted relational vocabulary statement.countFragments := by
  have words : "SELECT COUNT(*) FROM (" ∈ vocabulary ∧
      ") AS counted" ∈ vocabulary ∧
      "SELECT COUNT(*)\nFROM " ∈ vocabulary := by decide +kernel
  have isQuoted {word : String} (isWord : word ∈ vocabulary) :
      AreQuoted relational vocabulary [.fixed word] :=
        List.forall_mem_singleton.mpr (.inr isWord)
  unfold countFragments
  split
  · rw [areQuoted_append, areQuoted_append]
    exact ⟨⟨isQuoted words.1, vetted.isAround_rows.areQuoted vetted⟩,
      isQuoted words.2.1⟩
  · rw [areQuoted_append]
    exact ⟨isQuoted words.2.2, vetted.isAround_source.areQuoted vetted⟩

theorem isVetted_assembled (isFor : layout.IsFor relational schema plan start)
    {target : String} (named : isIdentifier target = true)
    (identifiers : ∀ name ∈ plan.filter.sqlNames relational "",
      isIdentifier name = true) :
    (assembled relational plan target (renderedFilter? relational plan.filter)
      layout).IsVetted
      relational where
  table := Relational.admits_of_isIdentifier named
  rootAlias := relational.admits_rootAlias
  columns := by
    rintro ⟨column, source⟩ member
    have isColumn := List.forall₂_zip isFor.columns.flip member
    exact ⟨areVetted_column (isColumn.admits_table isFor.joins)
      isColumn.isIdentifier_name, isColumn.admits_field isFor.joins⟩
  joins join isJoin := by
    obtain ⟨path, outer, number, rfl, identifiers, hangs⟩ :=
      isFor.joins.exists_joinAt isJoin
    have isOuter : relational.Admits outer := by
      rcases hangs with rfl | ⟨other, rfl⟩
      · exact relational.admits_rootAlias
      · exact Relational.admits_joinAlias other
    exact areVetted_link identifiers (Relational.admits_joinAlias number) isOuter
      (by decide +kernel) (by decide +kernel)
  condition := by
    unfold conditionFragments assembled
    rcases renderedFilter?_cases relational plan.filter with ⟨-, none⟩ | isFilter
    · rw [none]
      exact areVetted_nil
    · rw [isFilter]
      exact plan.filter.areVetted_rendered relational.rootAlias "" 0 1
        relational.admits_rootAlias identifiers
  order := by
    rintro ⟨column, direction⟩ member
    obtain ⟨field, -, isColumn⟩ :=
      exists_of_mem_right isFor.order (List.of_mem_zip member).1
    have name : direction.name ∈ plainWords := by
      cases direction <;> decide +kernel
    have blank : " " ∈ plainWords := by decide +kernel
    have ofTable : AreVetted relational plainWords column.fragments :=
      areVetted_column (isColumn.admits_table isFor.joins)
        isColumn.isIdentifier_name
    simp [orderFragments, ofTable, name, blank]

end Statement

end Sql

namespace SqlQuery

variable {relational : Relational} {schema : Schema} {paging : Paging}
  {query : Query} {target : String} {native : SqlQuery} {plan : Plan}

/-- Both texts are made of words of the vocabulary, of double quotes around the
names of selected columns, and of fragments that are brought in. If the names of
the configuration have characters of paths only, then so have all these
fragments, whatever the query and the target. -/
theorem isPathCharacter_of_mem_taken
    (rootAlias : ∀ c ∈ relational.rootAlias.toList, isPathCharacter c = true)
    (keys : ∀ key ∈ relational.relations.map Prod.fst, ∀ c ∈ key.toList,
      isPathCharacter c = true)
    (compiled : (compiler relational schema paging).compile query target =
      .ok (native, plan)) :
    ∃ statement draft, (Sql.statement relational schema plan target).run .start =
        .ok (statement, draft) ∧
      native.sql = Fragment.spell statement.fragments ∧
      native.countSql = Fragment.spell statement.countFragments ∧
      (∀ word, .fixed word ∈ statement.fragments ++ statement.countFragments →
        word ∈ vocabulary) ∧
      (∀ text, .taken text ∈ statement.fragments ++ statement.countFragments →
        ∀ c ∈ text.toList, isPathCharacter c = true) ∧
      (∀ text ∈ [native.sql, native.countSql],
        ';' ∉ text.toList ∧ '-' ∉ text.toList) ∧
      native.sql.toList.count '"' = 2 * query.select.length := by
  obtain ⟨planned, rendered⟩ := Compiler.compile_eq_ok_iff.mp compiled
  obtain ⟨filter, page, -, -, isPlan⟩ := Plan.ofQuery_eq_ok_iff.mp planned
  obtain ⟨layout, statement, draft, isStatement, isFor, ran, rfl,
      named, identifiers⟩ :=
    exists_layout_of_ofPlan rendered
  have vetted : statement.IsVetted relational := by
    rw [isStatement]
    exact Statement.isVetted_assembled isFor named identifiers
  have foreign {c : Char} (other : isPathCharacter c = false) :
      ¬ relational.Allows c := by
    intro allowed
    rw [Relational.isPathCharacter_of_allows rootAlias keys allowed] at other
    cases other
  have ofRows := vetted.isAround_fragments.areQuoted vetted
  have quoted : AreQuoted relational vocabulary
      (statement.fragments ++ statement.countFragments) :=
    areQuoted_append.mpr ⟨ofRows, vetted.areQuoted_countFragments⟩
  refine ⟨statement, draft, ran, statement.spell_fragments.symm,
    statement.spell_countFragments.symm, fun word member => ?_,
    fun text member c inside => ?_, fun text member => ?_, ?_⟩
  · exact (quoted _ member).resolve_left nofun
  · have admitted : relational.Admits text := (quoted _ member).resolve_left nofun
    exact Relational.isPathCharacter_of_allows rootAlias keys (admitted c inside)
  · have inFragments : text = Fragment.spell statement.fragments ∨
        text = Fragment.spell statement.countFragments := by
      rw [statement.spell_fragments, statement.spell_countFragments]
      simpa using member
    rcases inFragments with rfl | rfl
    · exact ofRows.no_semicolon_no_dash (foreign (by decide))
        (foreign (by decide))
    · exact vetted.areQuoted_countFragments.no_semicolon_no_dash
        (foreign (by decide)) (foreign (by decide))
  · have columns : statement.columns.length = query.select.length := by
      rw [isStatement, isPlan]
      have laidOut := isFor.columns.length_eq
      simp [assembled, ← laidOut, isPlan]
    change statement.text.toList.count '"' = _
    rw [← statement.spell_fragments, ofRows.count_spell (foreign (by decide)),
      vetted.isAround_fragments.count_quote vetted, columns]

def mappedDepartments : Relational :=
  ⟨"t0", [("department", ⟨"departments", "department_id", "id"⟩)]⟩

def rosterQuery : Query where
  criteria := [⟨"age", some .greaterThan, [.ofNat 30]⟩]
  sort := [⟨"age", .descending⟩]
  select := [⟨"department.name", "team"⟩]
  pageNumber := some 0
  pageSize := some 10
  distinct := false

def rosterPlan : Plan where
  filter := .compare "age" .greater (.ofNat 30)
  sort := [⟨"age", .descending, none⟩]
  page := ⟨0, 10⟩
  select := [⟨"department.name", "team"⟩]
  distinct := false

theorem compile_rosterQuery : ∃ native,
    (compiler mappedDepartments ⟨fun _ => false, '<'⟩ ⟨20, 0, none⟩).compile
      rosterQuery "staff" = .ok (native, rosterPlan) := by
  have parted : Criterion.parts ⟨fun _ => false, '<'⟩
      rosterQuery.criteria = .ok _ :=
    Criterion.parts_eq_ok_iff.mpr (.cons rfl .nil)
  have lowered : Predicate.ofCriteria ⟨fun _ => false, '<'⟩ rosterQuery.criteria =
      .ok rosterPlan.filter := by
    rw [Predicate.ofCriteria, parted]
    rfl
  have names : rosterPlan.filter.sqlNames mappedDepartments "" = ["age"] := by
    have age : columnName "age" "" = "age" := by decide
    rw [rosterPlan, Predicate.sqlNames, age]
  have accepted : refused? mappedDepartments rosterPlan.filter "staff" =
      none := by
    rw [refused?, names]
    decide
  have laidOut : ((layout mappedDepartments ⟨fun _ => false, '<'⟩ rosterPlan).run
      ⟨[], [], 1 + rosterPlan.filter.crossings⟩).isOk = true := by
    have none : rosterPlan.filter.crossings = 0 := by
      rw [rosterPlan, Predicate.crossings]
    rw [none]
    decide +kernel
  obtain ⟨native, rendered⟩ := exists_ofPlan_of_isOk accepted laidOut
  exact ⟨native, Compiler.compile_eq_ok_iff.mpr
    ⟨Plan.ofQuery_eq_ok_iff.mpr ⟨_, _, lowered, rfl, rfl⟩, rendered⟩⟩

theorem isPathCharacter_of_rosterQuery : ∃ native statement draft,
    (compiler mappedDepartments ⟨fun _ => false, '<'⟩ ⟨20, 0, none⟩).compile
      rosterQuery "staff" = .ok (native, rosterPlan) ∧
    (Sql.statement mappedDepartments ⟨fun _ => false, '<'⟩ rosterPlan
      "staff").run .start = .ok (statement, draft) ∧
    native.sql = Fragment.spell statement.fragments ∧
    (∀ text, .taken text ∈ statement.fragments → ∀ c ∈ text.toList,
      isPathCharacter c = true) ∧
    native.sql.toList.count '"' = 2 := by
  obtain ⟨native, compiled⟩ := compile_rosterQuery
  have rootAlias : mappedDepartments.rootAlias.toList.all isPathCharacter =
    true := by decide
  have keys : ∀ key ∈ mappedDepartments.relations.map Prod.fst,
      key.toList.all isPathCharacter = true := by decide
  obtain ⟨statement, draft, ran, isText, -, -, taken, -, quotes⟩ :=
    isPathCharacter_of_mem_taken (List.all_eq_true.mp rootAlias)
      (fun key isKey => List.all_eq_true.mp (keys key isKey)) compiled
  exact ⟨native, statement, draft, compiled, ran, isText,
    fun text member => taken text (List.mem_append_left _ member), quotes⟩

end SqlQuery

end CriteriaQuery
