import CriteriaQuery.Proofs.Json.Text
import CriteriaQuery.Proofs.Predicate.Junctions
import CriteriaQuery.Proofs.Sql.Joins
import CriteriaQuery.Proofs.Sql.Reading
import Mathlib.Data.Set.Basic

namespace CriteriaQuery

/-! Conditions as a database reads them. Which rows a table has and which
conditions on columns they satisfy is left open; however it is settled, the
condition rendered for a predicate says what the predicate says. -/

open Sql Sql.Rendering

namespace Sql

/-! ## Conditions of rows -/

/-- A way to settle what conditions leave open. A parameter is given by its name
and the value bound to it. -/
structure Database (Row : Type) where
  rows : String → Set Row
  /-- Names that differ only in the case of letters are one name. -/
  foldsCase : Bool
  compares : Row → String → Comparison → String → Option Json → Prop
  isLike : Row → String → String → Option Json → Prop
  isPresent : Row → String → Prop
  /-- The column of a row goes with a column of the row that it hangs on. -/
  correlates : Row → String → Row → String → Prop

namespace Database

variable {Row : Type} (db : Database Row)

def sameName (name other : String) : Bool :=
  if db.foldsCase then Text.equalIgnoringCase name other else name == other

def bind (rowOf : String → Row) (name : String) (row : Row) : String → Row :=
  fun other => if db.sameName other name then row else rowOf other

theorem bind_same (rowOf : String → Row) (name : String) (row : Row) :
    db.bind rowOf name row name = row := by
  have same : db.sameName name name = true := by
    simp [sameName, Text.equalIgnoringCase]
  rw [bind, if_pos same]

theorem bind_other {name other : String} (apart : db.sameName other name = false)
    (rowOf : String → Row) (row : Row) :
    db.bind rowOf name row other = rowOf other := by
  rw [bind, if_neg (by simp [apart])]

end Database

section Holds

variable {Row : Type} (db : Database Row) (bound : String → Option Json)

def Atom.Holds (rowOf : String → Row) : Atom → Prop
  | .compare column comparison parameter =>
    db.compares (rowOf column.table) column.name comparison parameter
      (bound parameter)
  | .like column parameter =>
    db.isLike (rowOf column.table) column.name parameter (bound parameter)
  | .notNull column => db.isPresent (rowOf column.table) column.name
  | .correlation inner outer =>
    db.correlates (rowOf inner.table) inner.name (rowOf outer.table) outer.name

namespace Formula

/-- A formula holds of the rows by their aliases. An alias inside a sub-query
hides one of the same name outside. -/
def Holds : Formula → (String → Row) → Prop
  | .truth, _ => True
  | .atom part, rowOf => part.Holds db bound rowOf
  | .not inner, rowOf => ¬ Holds inner rowOf
  | .and left right, rowOf => Holds left rowOf ∧ Holds right rowOf
  | .or left right, rowOf => Holds left rowOf ∨ Holds right rowOf
  | .someRow table name inner, rowOf =>
    ∃ row ∈ db.rows table, Holds inner (db.bind rowOf name row)

variable {db bound} {rowOf : String → Row}

theorem holds_conjunction {formulas : List Formula} :
    (conjunction formulas).Holds db bound rowOf ↔
      ∀ formula ∈ formulas, formula.Holds db bound rowOf := by
  induction formulas with
  | nil => simp [conjunction, Holds]
  | cons first rest induction =>
    cases rest with
    | nil => simp [conjunction]
    | cons second more =>
      change (Formula.and first (conjunction (second :: more))).Holds
        db bound rowOf ↔ _
      rw [Holds, induction]
      simp only [List.mem_cons, forall_eq_or_imp]

theorem holds_disjunction {formulas : List Formula} :
    (disjunction formulas).Holds db bound rowOf ↔
      ∃ formula ∈ formulas, formula.Holds db bound rowOf := by
  induction formulas with
  | nil => simp [disjunction, Holds]
  | cons first rest induction =>
    cases rest with
    | nil => simp [disjunction]
    | cons second more =>
      change (Formula.or first (disjunction (second :: more))).Holds
        db bound rowOf ↔ _
      rw [Holds, induction]
      simp only [List.mem_cons, exists_eq_or_imp]

end Formula

end Holds

/-! ## Predicates of rows -/

namespace Database

variable {Row : Type} (db : Database Row) (relational : Relational)

def Hangs (path : String) (row outer : Row) : Prop :=
  row ∈ db.rows (relational.relation path).table ∧
    db.correlates row (relational.relation path).foreignColumn outer
      (relational.relation path).localColumn

mutual

/-- A predicate is true of a row at a boundary. Its leaves have the value of the
atoms that they render to; `parameter` is the number of the next parameter. -/
def IsTrue (scope : String) (parameter : Nat) : Predicate → Row → Prop
  | .always, _ => True
  | .all children, row => EachTrue scope parameter children row
  | .any children, row => SomeTrue scope parameter children row
  | .not inner, row => ¬ IsTrue scope parameter inner row
  | .compare field comparison value, row =>
    db.compares row (columnName field scope) comparison
      (parameterName parameter) (some value)
  | .text field mode needle, row =>
    db.isLike row (columnName field scope) (parameterName parameter)
      (some (.string (likePattern mode needle)))
  | .present field, row => db.isPresent row (columnName field scope)
  | .within path inner, row =>
    ∃ related, db.Hangs relational path related row ∧
      IsTrue path parameter inner related
  | .related path, row => ∃ related, db.Hangs relational path related row

def EachTrue (scope : String) (parameter : Nat) : List Predicate → Row → Prop
  | [], _ => True
  | child :: rest, row =>
    IsTrue scope parameter child row ∧
      EachTrue scope (parameter + child.boundValues.length) rest row

def SomeTrue (scope : String) (parameter : Nat) : List Predicate → Row → Prop
  | [], _ => False
  | child :: rest, row =>
    IsTrue scope parameter child row ∨
      SomeTrue scope (parameter + child.boundValues.length) rest row

end

end Database

/-! ## Aliases and parameters -/

theorem le_of_isDigit {c : Char} (digit : c.isDigit = true) :
    c.val ≤ '9'.val := by
  simp only [Char.isDigit, Bool.and_eq_true, decide_eq_true_eq] at digit
  exact digit.2

theorem toLower_of_isDigit {c : Char} (digit : c.isDigit = true) :
    c.toLower = c := by
  refine dif_neg ?_
  rintro ⟨upper, -⟩
  exact absurd (UInt32.le_trans upper (le_of_isDigit digit)) (by decide)

theorem toUpper_of_isDigit {c : Char} (digit : c.isDigit = true) :
    c.toUpper = c := by
  refine dif_neg ?_
  rintro ⟨lower, -⟩
  exact absurd (UInt32.le_trans lower (le_of_isDigit digit)) (by decide)

theorem map_decimal {change : Char → Char}
    (keeps : ∀ c, c.isDigit = true → change c = c) (number : Nat) :
    (Text.decimal number).map change = Text.decimal number := by
  refine (List.map_congr_left fun c member => ?_).trans (List.map_id _)
  exact keeps c (Double.isDigit_of_mem_decimal member)

theorem toList_tableAlias (number : Nat) :
    (tableAlias number).toList = 'a' :: Text.decimal number := by
  simp [tableAlias, Text.numeral]

/-- Aliases with different numbers differ, also when the case of letters does not
matter. -/
theorem sameName_tableAlias {Row : Type} (db : Database Row) {number other : Nat}
    (apart : number ≠ other) :
    db.sameName (tableAlias number) (tableAlias other) = false := by
  have lower (number : Nat) : (tableAlias number).toList.map Char.toLower =
      (tableAlias number).toList := by
    rw [toList_tableAlias, List.map_cons, map_decimal fun c => toLower_of_isDigit]
    rfl
  have different : (tableAlias number).toList ≠ (tableAlias other).toList := by
    rw [toList_tableAlias, toList_tableAlias]
    exact fun same => apart (Text.decimal_injective (List.cons.inj same).2)
  unfold Database.sameName Text.equalIgnoringCase
  rw [lower, lower]
  split
  · simpa using different
  · simpa using fun same => different (congrArg String.toList same)

theorem isDigit_of_mem_keywords {word : String} (keyword : word ∈ keywords)
    {c : Char} (member : c ∈ word.toList) : c.isDigit = false := by
  have letters : (keywords.all fun word => word.toList.all fun c => !c.isDigit) =
      true := by
    decide
  rw [List.all_eq_true] at letters
  have ofWord := List.all_eq_true.mp (letters word keyword) c member
  rwa [Bool.not_eq_true'] at ofWord

theorem isName_tableAlias (number : Nat) : IsName (tableAlias number) := by
  refine ⟨isIdentifier_append_numeral (by decide) number, ?_⟩
  have upper : (Text.asciiUpper (tableAlias number)).toList =
      'A' :: Text.decimal number := by
    rw [Text.asciiUpper, String.toList_ofList, toList_tableAlias, List.map_cons,
      map_decimal fun c => toUpper_of_isDigit]
    rfl
  have nonempty : Text.decimal number ≠ [] := Nat.toDigits_ne_nil
  -- A digit of the number tells the alias from every keyword.
  obtain ⟨digit, member⟩ := List.exists_mem_of_ne_nil _ nonempty
  rw [isKeyword, List.contains_eq_mem, decide_eq_false_iff_not]
  intro keyword
  have noDigit := isDigit_of_mem_keywords keyword
    (by rw [upper]; exact List.mem_cons_of_mem _ member)
  rw [Double.isDigit_of_mem_decimal member] at noDigit
  cases noDigit

theorem append_numeral_injective (letter : String) :
    Function.Injective fun number => letter ++ Text.numeral number := by
  intro number other same
  have characters := congrArg String.toList same
  simp only [Text.numeral, String.toList_append, String.toList_ofList,
    List.append_cancel_left_eq] at characters
  exact Text.decimal_injective characters

theorem parameterName_injective : Function.Injective parameterName :=
  append_numeral_injective "p"

theorem lookup_numbered {values : List Json} {index : Nat} {value : Json}
    (found : values[index]? = some value) (start : Nat) :
    ((values.zipIdx start).map fun (value, number) =>
      (parameterName number, value)).lookup
      (parameterName (start + index)) = some value := by
  induction values generalizing start index with
  | nil => cases found
  | cons first rest induction =>
    rw [List.zipIdx_cons, List.map_cons, List.lookup_cons]
    cases index with
    | zero => simpa using found
    | succ index =>
      have apart : ¬ parameterName (start + (index + 1)) =
          parameterName start := by
        intro same
        have := parameterName_injective same
        omega
      have further := induction (List.getElem?_cons_succ ▸ found) (start + 1)
      rw [beq_false_of_ne apart]
      simpa [Nat.add_assoc, Nat.add_comm 1] using further

theorem lookup_named (query : SqlQuery) {index : Nat} {value : Json}
    (found : query.parameters[index]? = some value) :
    query.named.lookup (parameterName index) = some value := by
  have numbered := lookup_numbered found 0
  rwa [Nat.zero_add] at numbered

end Sql

namespace Predicate

/-! ## Readable conditions -/

mutual

def crossedPaths : Predicate → List String
  | .always => []
  | .all children => crossedPathsOf children
  | .any children => crossedPathsOf children
  | .not inner => crossedPaths inner
  | .compare _ _ _ => []
  | .text _ _ _ => []
  | .present _ => []
  | .within path inner => path :: crossedPaths inner
  | .related path => [path]

def crossedPathsOf : List Predicate → List String
  | [] => []
  | child :: rest => crossedPaths child ++ crossedPathsOf rest

end

variable {relational : Relational}

theorem isNamed_linkAt {path outer : String} {number : Nat}
    (identifiers : ∀ name ∈ relationNames relational path,
      isIdentifier name = true)
    (plain : isKeyword (relational.relation path).table = false)
    (outerNamed : IsName outer) :
    (linkAt relational path outer number).IsNamed := by
  simp only [relationNames, List.mem_cons, List.not_mem_nil, or_false,
    forall_eq_or_imp, forall_eq] at identifiers
  obtain ⟨table, localColumn, foreignColumn⟩ := identifiers
  exact ⟨⟨table, plain⟩, isName_tableAlias number,
    ⟨isName_tableAlias number, foreignColumn⟩, outerNamed, localColumn⟩

theorem renderedAll_ne_nil {children : List Predicate}
    (some : 2 ≤ children.length) {table scope : String} {parameter next : Nat} :
    renderedAll relational table scope parameter next children ≠ [] := by
  cases children with
  | nil => cases some
  | cons child rest =>
    rw [renderedAll]
    exact List.cons_ne_nil _ _

mutual

/-- The condition of a predicate without small junctions can be read, once its
names are identifiers. -/
theorem isReadable_rendered : ∀ (predicate : Predicate) (table scope : String)
    (parameter next : Nat), predicate.IsBranched → IsName table →
    (∀ name ∈ predicate.sqlNames relational scope, isIdentifier name = true) →
    (∀ path ∈ predicate.crossedPaths,
      isKeyword (relational.relation path).table = false) →
    (predicate.rendered relational table scope parameter next).IsReadable
  | .always, table, scope, parameter, next, _, _, _, _ => by
    rw [rendered, Condition.IsReadable]
    trivial
  | .all children, table, scope, parameter, next, branched, named,
      identifiers, tables => by
    rw [IsBranched] at branched
    rw [sqlNames] at identifiers
    rw [crossedPaths] at tables
    rw [rendered, Condition.IsReadable]
    exact ⟨renderedAll_ne_nil branched.1,
      areReadable_renderedAll children table scope parameter next branched.2
        named identifiers tables⟩
  | .any children, table, scope, parameter, next, branched, named,
      identifiers, tables => by
    rw [IsBranched] at branched
    rw [sqlNames] at identifiers
    rw [crossedPaths] at tables
    rw [rendered, Condition.IsReadable]
    exact ⟨renderedAll_ne_nil branched.1,
      areReadable_renderedAll children table scope parameter next branched.2
        named identifiers tables⟩
  | .not inner, table, scope, parameter, next, branched, named,
      identifiers, tables => by
    rw [IsBranched] at branched
    rw [sqlNames] at identifiers
    rw [crossedPaths] at tables
    rw [rendered, Condition.IsReadable]
    exact isReadable_rendered inner table scope parameter next branched named
      identifiers tables
  | .compare field comparison value, table, scope, parameter, next, _, named,
      identifiers, _ => by
    rw [sqlNames] at identifiers
    rw [rendered, Condition.IsReadable]
    exact ⟨named, identifiers _ List.mem_cons_self⟩
  | .text field mode needle, table, scope, parameter, next, _, named,
      identifiers, _ => by
    rw [sqlNames] at identifiers
    rw [rendered, Condition.IsReadable]
    exact ⟨named, identifiers _ List.mem_cons_self⟩
  | .present field, table, scope, parameter, next, _, named, identifiers, _ => by
    rw [sqlNames] at identifiers
    rw [rendered, Condition.IsReadable]
    exact ⟨named, identifiers _ List.mem_cons_self⟩
  | .within path inner, table, scope, parameter, next, branched, named,
      identifiers, tables => by
    rw [IsBranched] at branched
    rw [sqlNames, List.forall_mem_append] at identifiers
    rw [crossedPaths, List.forall_mem_cons] at tables
    rw [rendered, Condition.IsReadable]
    exact ⟨isNamed_linkAt identifiers.1 tables.1 named,
      isReadable_rendered inner (tableAlias next) path parameter (next + 1)
        branched (isName_tableAlias next) identifiers.2 tables.2⟩
  | .related path, table, scope, parameter, next, _, named,
      identifiers, tables => by
    rw [sqlNames] at identifiers
    rw [crossedPaths, List.forall_mem_cons] at tables
    rw [rendered, Condition.IsReadable]
    exact isNamed_linkAt identifiers tables.1 named

theorem areReadable_renderedAll :
    ∀ (children : List Predicate) (table scope : String)
    (parameter next : Nat), AreBranched children → IsName table →
    (∀ name ∈ sqlNamesOf relational scope children, isIdentifier name = true) →
    (∀ path ∈ crossedPathsOf children,
      isKeyword (relational.relation path).table = false) →
    Condition.AreReadable
      (renderedAll relational table scope parameter next children)
  | [], table, scope, parameter, next, _, _, _, _ => by
    rw [renderedAll, Condition.AreReadable]
    trivial
  | child :: rest, table, scope, parameter, next, branched, named,
      identifiers, tables => by
    rw [AreBranched] at branched
    rw [sqlNamesOf, List.forall_mem_append] at identifiers
    rw [crossedPathsOf, List.forall_mem_append] at tables
    rw [renderedAll, Condition.AreReadable]
    exact ⟨isReadable_rendered child table scope parameter next branched.1
        named identifiers.1
        tables.1,
      areReadable_renderedAll rest table scope _ _ branched.2 named
        identifiers.2 tables.2⟩

end

/-! ## Meaning of rendered conditions -/

section Meaning

variable {Row : Type} {db : Database Row} {bound : String → Option Json}

def AreBound (bound : String → Option Json) (values : List Json)
    (parameter : Nat) : Prop :=
  ∀ index value, values[index]? = some value →
    bound (parameterName (parameter + index)) = some value

theorem areBound_append {values more : List Json} {parameter : Nat} :
    AreBound bound (values ++ more) parameter ↔
      AreBound bound values parameter ∧
      AreBound bound more (parameter + values.length) := by
  constructor
  · refine fun all => ⟨fun index value found => ?_, fun index value found => ?_⟩
    · refine all index value ?_
      rw [List.getElem?_append_left (List.getElem?_eq_some_iff.mp found).1, found]
    · rw [Nat.add_assoc]
      refine all _ value ?_
      rw [List.getElem?_append_right (by omega), Nat.add_sub_cancel_left, found]
  · rintro ⟨first, second⟩ index value found
    by_cases inside : index < values.length
    · rw [List.getElem?_append_left inside] at found
      exact first index value found
    · rw [List.getElem?_append_right (by omega)] at found
      have later := second _ value found
      rwa [show parameter + values.length + (index - values.length) =
        parameter + index by omega] at later

theorem holds_link {path table : String} {next : Nat} {rowOf : String → Row}
    {row : Row} (apart : db.sameName table (tableAlias next) = false) :
    (row ∈ db.rows (relational.relation path).table ∧
      (linkAt relational path table next).atom.Holds db bound
        (db.bind rowOf (tableAlias next) row)) ↔
      db.Hangs relational path row (rowOf table) := by
  have inner := db.bind_same rowOf (tableAlias next) row
  have outer := db.bind_other apart rowOf row
  simp only [Link.atom, linkAt, Atom.Holds, inner, outer, Database.Hangs]

mutual

/-- The condition of a predicate says of the rows under the aliases what the
predicate says of the row under its own. It hides that row by no alias in it. -/
theorem holds_rendered : ∀ (predicate : Predicate) (table scope : String)
    (parameter next : Nat) (rowOf : String → Row),
    AreBound bound predicate.boundValues parameter →
    (∀ number, next ≤ number → db.sameName table (tableAlias number) = false) →
    ((predicate.rendered relational table scope parameter next).formula.Holds
      db bound rowOf ↔
      db.IsTrue relational scope parameter predicate (rowOf table))
  | .always, table, scope, parameter, next, rowOf, _, _ => by
    rw [rendered, Condition.formula, Formula.Holds, Database.IsTrue]
  | .all children, table, scope, parameter, next, rowOf, values, apart => by
    rw [boundValues] at values
    rw [rendered, Condition.formula, Formula.holds_conjunction, Database.IsTrue]
    exact holds_each_renderedAll children table scope parameter
      next rowOf values apart
  | .any children, table, scope, parameter, next, rowOf, values, apart => by
    rw [boundValues] at values
    rw [rendered, Condition.formula, Formula.holds_disjunction, Database.IsTrue]
    exact holds_some_renderedAll children table scope parameter
      next rowOf values apart
  | .not inner, table, scope, parameter, next, rowOf, values, apart => by
    rw [boundValues] at values
    rw [rendered, Condition.formula, Formula.Holds, Database.IsTrue]
    exact not_congr
      (holds_rendered inner table scope parameter next rowOf values apart)
  | .compare field comparison value, table, scope, parameter, next,
      rowOf, values, _ => by
    rw [boundValues] at values
    have given := values 0 value rfl
    rw [Nat.add_zero] at given
    rw [rendered, Condition.formula, Formula.Holds, Database.IsTrue,
      Atom.Holds, given]
  | .text field mode needle, table, scope, parameter, next, rowOf, values, _ => by
    rw [boundValues] at values
    have given := values 0 _ rfl
    rw [Nat.add_zero] at given
    rw [rendered, Condition.formula, Formula.Holds, Database.IsTrue,
      Atom.Holds, given]
  | .present field, table, scope, parameter, next, rowOf, _, _ => by
    rw [rendered, Condition.formula, Formula.Holds, Database.IsTrue, Atom.Holds]
  | .within path inner, table, scope, parameter, next, rowOf, values, apart => by
    rw [boundValues] at values
    -- Aliases inside have greater numbers, so they hide neither the row that the
    -- sub-query is about nor the row that it hangs on.
    have further (number : Nat) (above : next + 1 ≤ number) :
        db.sameName (tableAlias next) (tableAlias number) = false :=
      sameName_tableAlias db (by omega)
    rw [rendered, Condition.formula, Formula.Holds, Database.IsTrue]
    refine exists_congr fun row => ?_
    have inside := holds_rendered inner (tableAlias next) path parameter
      (next + 1) (db.bind rowOf (tableAlias next) row) values further
    rw [db.bind_same] at inside
    rw [Formula.Holds, Formula.Holds, ← and_assoc]
    exact and_congr (holds_link (apart next (Nat.le_refl next))) inside
  | .related path, table, scope, parameter, next, rowOf, _, apart => by
    rw [rendered, Condition.formula, Formula.Holds, Database.IsTrue]
    refine exists_congr fun row => ?_
    rw [Formula.Holds]
    exact holds_link (apart next (Nat.le_refl next))

theorem holds_each_renderedAll :
    ∀ (children : List Predicate) (table scope : String)
    (parameter next : Nat) (rowOf : String → Row),
    AreBound bound (boundValuesOf children) parameter →
    (∀ number, next ≤ number → db.sameName table (tableAlias number) = false) →
    ((∀ formula ∈ Condition.formulas
          (renderedAll relational table scope parameter next children),
        formula.Holds db bound rowOf) ↔
      db.EachTrue relational scope parameter children (rowOf table))
  | [], table, scope, parameter, next, rowOf, _, _ => by
    simp [renderedAll, Condition.formulas, Database.EachTrue]
  | child :: rest, table, scope, parameter, next, rowOf, values, apart => by
    rw [boundValuesOf, areBound_append] at values
    rw [renderedAll, Condition.formulas, List.forall_mem_cons, Database.EachTrue]
    exact and_congr
      (holds_rendered child table scope parameter next rowOf values.1 apart)
      (holds_each_renderedAll rest table scope _ _ rowOf values.2
        fun number above => apart number (by omega))

theorem holds_some_renderedAll :
    ∀ (children : List Predicate) (table scope : String)
    (parameter next : Nat) (rowOf : String → Row),
    AreBound bound (boundValuesOf children) parameter →
    (∀ number, next ≤ number → db.sameName table (tableAlias number) = false) →
    ((∃ formula ∈ Condition.formulas
          (renderedAll relational table scope parameter next children),
        formula.Holds db bound rowOf) ↔
      db.SomeTrue relational scope parameter children (rowOf table))
  | [], table, scope, parameter, next, rowOf, _, _ => by
    simp [renderedAll, Condition.formulas, Database.SomeTrue]
  | child :: rest, table, scope, parameter, next, rowOf, values, apart => by
    rw [boundValuesOf, areBound_append] at values
    rw [renderedAll, Condition.formulas, List.exists_mem_cons_iff,
      Database.SomeTrue]
    exact or_congr
      (holds_rendered child table scope parameter next rowOf values.1 apart)
      (holds_some_renderedAll rest table scope _ _ rowOf values.2
        fun number above => apart number (by omega))

end

end Meaning

end Predicate

/-! ## Compiled conditions -/

namespace SqlQuery

variable {relational : Relational} {schema : Schema} {paging : Paging}
  {query : Query} {target : String} {native : SqlQuery} {plan : Plan}

theorem statement_of_ofPlan
    (rendered : ofPlan relational schema plan target = .ok native) :
    ∃ statement draft, (Sql.statement relational schema plan target).run .start =
        .ok (statement, draft) ∧
      native = ⟨statement.text, statement.countText, plan.filter.boundValues⟩ ∧
      statement.condition = renderedFilter? relational plan.filter ∧
      ∀ name ∈ plan.filter.sqlNames relational "", isIdentifier name = true := by
  obtain ⟨layout, statement, draft, rfl, -, ran, isNative, -, identifiers⟩ :=
    exists_layout_of_ofPlan rendered
  exact ⟨_, draft, ran, isNative, rfl, identifiers⟩

/-- The condition of a compiled query is read in one way only, and read so it says
of the root row what the filter says, over every database. A query without a
condition has a filter that always holds. -/
theorem condition_holds_iff_filter_isTrue
    (compiled : (compiler relational schema paging).compile query target =
      .ok (native, plan))
    (rootNamed : IsName relational.rootAlias)
    (tables : ∀ path ∈ plan.filter.crossedPaths,
      isKeyword (relational.relation path).table = false) :
    ∃ statement draft, (Sql.statement relational schema plan target).run .start =
        .ok (statement, draft) ∧
      native.sql = statement.text ∧ native.countSql = statement.countText ∧
      (statement.condition = none ∧ plan.filter = .always ∨
        ∃ condition formula, statement.condition = some condition ∧
          (∀ other, ReadsAs condition.text other ↔ other = formula) ∧
          ∀ (Row : Type) (db : Database Row) (rowOf : String → Row),
            (∀ number,
              db.sameName relational.rootAlias (tableAlias number) = false) →
            (formula.Holds db (fun name => native.named.lookup name) rowOf ↔
              db.IsTrue relational "" 0 plan.filter
                (rowOf relational.rootAlias))) := by
  obtain ⟨planned, rendered⟩ := Compiler.compile_eq_ok_iff.mp compiled
  obtain ⟨filter, page, lowered, -, rfl⟩ := Plan.ofQuery_eq_ok_iff.mp planned
  obtain ⟨statement, draft, ran, rfl, isFilter, identifiers⟩ :=
    statement_of_ofPlan rendered
  refine ⟨statement, draft, ran, rfl, rfl, ?_⟩
  rw [isFilter, renderedFilter?]
  cases always : filter.isAlways with
  | true =>
    left
    cases filter with
    | always => exact ⟨rfl, rfl⟩
    | _ => cases always
  | false =>
    right
    have readable :=
      Predicate.isReadable_rendered filter relational.rootAlias "" 0 1
      (Predicate.isBranched_of_ofCriteria lowered) rootNamed identifiers tables
    refine ⟨_, _, rfl, fun other => Condition.readsAs_text readable, ?_⟩
    intro Row db rowOf apart
    refine Predicate.holds_rendered filter relational.rootAlias "" 0 1 rowOf ?_
      fun number _ => apart number
    intro index value found
    rw [Nat.zero_add]
    exact lookup_named ⟨statement.text, statement.countText,
      filter.boundValues⟩ found

def staffQuery : Query where
  criteria := [⟨"age", some .greaterThan, [.ofNat 30]⟩,
    ⟨"department.name", some .contain, [.string "Math"]⟩]
  sort := []
  select := []
  pageNumber := some 2
  pageSize := some 10
  distinct := true

theorem compile_staffQuery (rootAlias : String) :
    ∃ native,
      (compiler ⟨rootAlias, []⟩ ⟨fun _ => false, '<'⟩ ⟨20, 0, none⟩).compile
      staffQuery "staff" = .ok (native, staffPlan (.ofNat 30) "Math") := by
  have parted : Criterion.parts ⟨fun _ => false, '<'⟩
      staffQuery.criteria = .ok _ :=
    Criterion.parts_eq_ok_iff.mpr (.cons rfl (.cons rfl .nil))
  have lowered : Predicate.ofCriteria ⟨fun _ => false, '<'⟩ staffQuery.criteria =
      .ok (staffPlan (.ofNat 30) "Math").filter := by
    rw [Predicate.ofCriteria, parted]
    rfl
  have rendered : ∃ native, ofPlan ⟨rootAlias, []⟩ ⟨fun _ => false, '<'⟩
      (staffPlan (.ofNat 30) "Math") "staff" = .ok native := by
    rw [ofPlan_eq, refused?_staffPlan]
    exact ⟨_, rfl⟩
  obtain ⟨native, rendered⟩ := rendered
  exact ⟨native, Compiler.compile_eq_ok_iff.mpr
    ⟨Plan.ofQuery_eq_ok_iff.mpr ⟨_, _, lowered, rfl, rfl⟩, rendered⟩⟩

theorem condition_of_staffQuery : ∃ native statement draft condition formula,
    (compiler ⟨"t0", []⟩ ⟨fun _ => false, '<'⟩ ⟨20, 0, none⟩).compile staffQuery
      "staff" = .ok (native, staffPlan (.ofNat 30) "Math") ∧
    (Sql.statement ⟨"t0", []⟩ ⟨fun _ => false, '<'⟩
      (staffPlan (.ofNat 30) "Math") "staff").run .start =
        .ok (statement, draft) ∧
    native.sql = statement.text ∧ statement.condition = some condition ∧
    (∀ other, ReadsAs condition.text other ↔ other = formula) ∧
    ∀ (Row : Type) (db : Database Row) (rowOf : String → Row),
      formula.Holds db (fun name => native.named.lookup name) rowOf ↔
        db.compares (rowOf "t0") "age" .greater "p0" (some (.ofNat 30)) ∧
        ∃ related, db.Hangs ⟨"t0", []⟩ "department" related (rowOf "t0") ∧
          db.isLike related "name" "p1" (some (.string "%math%")) := by
  obtain ⟨native, compiled⟩ := compile_staffQuery "t0"
  have tables : ∀ path ∈ (staffPlan (.ofNat 30) "Math").filter.crossedPaths,
      isKeyword ((Relational.mk "t0" []).relation path).table = false := by
    simp only [staffPlan, Predicate.crossedPaths, Predicate.crossedPathsOf]
    decide
  obtain ⟨statement, draft, ran, text, -,
    ⟨-, always⟩ | ⟨condition, formula, isCondition, reads,
    holds⟩⟩ := condition_holds_iff_filter_isTrue compiled (by decide) tables
  · cases always
  · refine ⟨native, statement, draft, condition, formula, compiled, ran, text,
      isCondition, reads, fun Row db rowOf => ?_⟩
    have apart (number : Nat) : db.sameName "t0" (tableAlias number) = false := by
      have different : "t0" ≠ tableAlias number := by
        intro same
        simpa [toList_tableAlias] using congrArg String.toList same
      simp [Database.sameName, Text.equalIgnoringCase,
        toList_tableAlias, different]
    have age : columnName "age" "" = "age" := by decide
    have name : columnName "department.name" "department" = "name" := by decide
    have pattern : likePattern .contains "Math" = "%math%" := by decide +kernel
    rw [holds Row db rowOf apart]
    simp only [staffPlan, Database.IsTrue, Database.EachTrue, age, name,
      pattern, and_true]
    rfl

end SqlQuery

end CriteriaQuery
