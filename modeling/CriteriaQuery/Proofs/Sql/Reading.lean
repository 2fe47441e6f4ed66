import CriteriaQuery.Proofs.Double.Text
import CriteriaQuery.Proofs.Sql.Grammar

namespace CriteriaQuery.Sql

/-! The text of a condition is read back as the formula that the condition stands
for. -/

/-! ## The formula of a condition -/

namespace Formula

def conjunction : List Formula → Formula
  | [] => .truth
  | [formula] => formula
  | formula :: rest => .and formula (conjunction rest)

def disjunction : List Formula → Formula
  | [] => .not .truth
  | [formula] => formula
  | formula :: rest => .or formula (disjunction rest)

end Formula

def Link.atom (link : Link) : Atom :=
  .correlation ⟨link.table, link.relation.foreignColumn⟩
    ⟨link.outer, link.relation.localColumn⟩

def Link.IsNamed (link : Link) : Prop :=
  IsName link.relation.table ∧ IsName link.table ∧ link.atom.IsNamed

namespace Condition

mutual

def formula : Condition → Formula
  | .always => .truth
  | .all children => .conjunction (formulas children)
  | .any children => .disjunction (formulas children)
  | .not inner => .not (formula inner)
  | .compare column comparison parameter =>
    .atom (.compare column comparison (parameterName parameter))
  | .like column parameter => .atom (.like column (parameterName parameter))
  | .notNull column => .atom (.notNull column)
  | .related link => .someRow link.relation.table link.table (.atom link.atom)
  | .relatedWhere link inner =>
    .someRow link.relation.table link.table
      (.and (.atom link.atom) (formula inner))

def formulas : List Condition → List Formula
  | [] => []
  | child :: rest => formula child :: formulas rest

end

mutual

def IsReadable : Condition → Prop
  | .always => True
  | .all children => children ≠ [] ∧ AreReadable children
  | .any children => children ≠ [] ∧ AreReadable children
  | .not inner => IsReadable inner
  | .compare column _ _ => column.IsNamed
  | .like column _ => column.IsNamed
  | .notNull column => column.IsNamed
  | .related link => link.IsNamed
  | .relatedWhere link inner => link.IsNamed ∧ IsReadable inner

def AreReadable : List Condition → Prop
  | [] => True
  | child :: rest => IsReadable child ∧ AreReadable rest

end

theorem texts_ne_nil :
    ∀ {children : List Condition}, children ≠ [] → texts children ≠ []
  | [], nonempty => absurd rfl nonempty
  | _ :: _, _ => List.cons_ne_nil _ _

end Condition

/-! ## Tokens of a condition -/

theorem isIdentifier_append_numeral {letter : String}
    (named : isIdentifier letter = true) (number : Nat) :
    isIdentifier (letter ++ Text.numeral number) = true := by
  unfold isIdentifier at named ⊢
  rw [String.toList_append, Text.numeral, String.toList_ofList]
  cases characters : letter.toList with
  | nil => simp [characters] at named
  | cons first rest =>
    simp only [characters, Bool.and_eq_true, List.all_eq_true] at named
    simp only [List.cons_append, Bool.and_eq_true, List.all_eq_true,
      List.mem_append]
    refine ⟨named.1, fun c member => ?_⟩
    rcases member with member | member
    · exact named.2 c member
    · simp [Char.isAlphanum, Double.isDigit_of_mem_decimal member]

theorem isIdentifier_parameterName (number : Nat) :
    isIdentifier (parameterName number) = true :=
  isIdentifier_append_numeral (by decide) number

theorem tokens_column {column : Column} (named : column.IsNamed) :
    tokens column.text = column.tokens := by
  have dot : tokens "." = ["."] := by decide
  rw [Column.text, String.append_assoc, tokens_between _ (by decide) (by decide),
    dot, tokens_identifier named.1.1, tokens_identifier named.2]
  rfl

theorem tokens_placeholder (number : Nat) :
    tokens (placeholder number) = [":", parameterName number] := by
  have colon : tokens ":" = [":"] := by decide
  rw [placeholder, tokens_mark_append (by decide), colon,
    tokens_identifier (isIdentifier_parameterName number)]
  rfl

theorem tokens_compare {column : Column} (named : column.IsNamed)
    (comparison : Comparison) (parameter : Nat) :
    tokens (Condition.compare column comparison parameter).text =
      (Atom.compare column comparison (parameterName parameter)).tokens := by
  have blank : tokens " " = [] := by decide
  have sign : tokens (comparisonSign comparison) =
      [comparisonSign comparison] := by
    cases comparison <;> decide
  simp only [Condition.text, String.append_assoc]
  rw [tokens_between _ (by decide) (by decide),
    tokens_between _ (by decide) (by decide),
    tokens_column named, blank, sign, tokens_placeholder]
  rfl

theorem tokens_like {column : Column} (named : column.IsNamed) (parameter : Nat) :
    tokens (Condition.like column parameter).text =
      (Atom.like column (parameterName parameter)).tokens := by
  have lower : tokens "LOWER(" = ["LOWER", "("] := by decide
  have like : tokens ") LIKE " = [")", "LIKE"] := by decide
  have escape : tokens " ESCAPE '\\'" = ["ESCAPE", "'\\'"] := by decide
  simp only [Condition.text, String.append_assoc]
  rw [@tokens_mark_append "LOWER(" (by decide),
    @tokens_between _ ") LIKE " (by decide) (by decide),
    @tokens_append_mark _ " ESCAPE '\\'" (by decide), lower, like, escape,
    tokens_column named, tokens_placeholder]
  rfl

theorem tokens_notNull {column : Column} (named : column.IsNamed) :
    tokens (Condition.notNull column).text = (Atom.notNull column).tokens := by
  have notNull : tokens " IS NOT NULL" = ["IS", "NOT", "NULL"] := by decide
  rw [Condition.text, tokens_append_mark _ (by decide), notNull,
    tokens_column named]
  rfl

theorem tokens_correlation {link : Link} (named : link.IsNamed) :
    tokens link.correlation = link.atom.tokens := by
  have equals : tokens " = " = ["="] := by decide
  rw [Link.correlation, String.append_assoc,
    tokens_between _ (by decide) (by decide), equals,
    tokens_column named.2.2.1, tokens_column named.2.2.2]
  rfl

theorem tokens_subquery {link : Link} (named : link.IsNamed) :
    tokens link.subquery = "SELECT" :: "1" :: "FROM" :: link.relation.table ::
      link.table :: "WHERE" :: link.atom.tokens := by
  have select : tokens "SELECT 1 FROM " = ["SELECT", "1", "FROM"] := by
    decide +kernel
  have blank : tokens " " = [] := by decide
  have filtered : tokens " WHERE " = ["WHERE"] := by decide
  unfold Link.subquery
  rw [String.append_assoc, String.append_assoc, String.append_assoc,
    String.append_assoc,
    @tokens_mark_append "SELECT 1 FROM " (by decide), select,
    @tokens_between _ " " (by decide) (by decide), blank,
    @tokens_between _ " WHERE " (by decide) (by decide), filtered,
    tokens_identifier named.1.1, tokens_identifier named.2.1.1,
    tokens_correlation named]
  rfl

/-! ## Reading a condition -/

/-- Whatever stands behind the text, its beginning is read as the formula. -/
def ReadsFrom (level : Level) (text : String) (formula : Formula) : Prop :=
  ∀ rest, Reads level (tokens text ++ rest) formula rest

theorem readsFrom_atom {text : String} {atom : Atom} (named : atom.IsNamed)
    (cut : tokens text = atom.tokens) :
    ReadsFrom .negation text (.atom atom) := by
  intro rest
  rw [cut]
  exact .primary (.atom named rest)

theorem readsFrom_truth : ReadsFrom .negation "1 = 1" .truth := by
  intro rest
  have cut : tokens "1 = 1" = ["1", "=", "1"] := by decide
  rw [cut]
  exact .primary (.truth rest)

theorem tokens_enclosed {opening : String} (alone : endsAlone opening = true)
    (text : String) :
    tokens (opening ++ text ++ ")") = tokens opening ++
    (tokens text ++ [")"]) := by
  have close : tokens ")" = [")"] := by decide
  rw [tokens_append_mark _ (by decide), tokens_mark_append alone, close,
    List.append_assoc]

theorem join_cons_cons (separator first second : String) (rest : List String) :
    Text.join separator (first :: second :: rest) =
      first ++ separator ++ Text.join separator (second :: rest) := rfl

namespace ReadsFrom

variable {text : String} {formula : Formula}

theorem parentheses (inner : ReadsFrom .disjunction text formula) :
    ReadsFrom .negation ("(" ++ text ++ ")") formula := by
  intro rest
  have opening : tokens "(" = ["("] := by decide
  rw [tokens_enclosed (by decide), opening, List.append_assoc, List.append_assoc]
  exact .primary (.parentheses (inner (")" :: rest)))

theorem not (inner : ReadsFrom .negation text formula) :
    ReadsFrom .negation ("NOT (" ++ text ++ ")") (.not formula) := by
  intro rest
  have opening : tokens "NOT (" = ["NOT", "("] := by decide
  rw [tokens_enclosed (by decide), opening, List.append_assoc, List.append_assoc]
  exact .not
    (.primary (.parentheses (.conjunction (.negation (inner (")" :: rest))))))

theorem conjunction {texts : List String} {formulas : List Formula}
    (each : List.Forall₂ (ReadsFrom .negation) texts formulas)
    (nonempty : texts ≠ []) :
    ReadsFrom .conjunction (Text.join " AND " texts) (.conjunction formulas) := by
  -- Only the last text stands without a separator behind it.
  induction each with
  | nil => exact absurd rfl nonempty
  | cons first others induction =>
    intro rest
    cases others with
    | nil => exact .negation (first rest)
    | cons second further =>
      have separator : tokens " AND " = ["AND"] := by decide
      rw [join_cons_cons, String.append_assoc,
        tokens_between _ (by decide) (by decide), separator,
        List.append_assoc, List.append_assoc]
      exact .and (first _) (induction (List.cons_ne_nil _ _) rest)

theorem disjunction {texts : List String} {formulas : List Formula}
    (each : List.Forall₂ (ReadsFrom .negation) texts formulas)
    (nonempty : texts ≠ []) :
    ReadsFrom .disjunction (Text.join " OR " texts) (.disjunction formulas) := by
  induction each with
  | nil => exact absurd rfl nonempty
  | cons first others induction =>
    intro rest
    cases others with
    | nil => exact .conjunction (.negation (first rest))
    | cons second further =>
      have separator : tokens " OR " = ["OR"] := by decide
      rw [join_cons_cons, String.append_assoc,
        tokens_between _ (by decide) (by decide), separator,
        List.append_assoc, List.append_assoc]
      exact .or (.negation (first _)) (induction (List.cons_ne_nil _ _) rest)

theorem someRow {link : Link} (named : link.IsNamed) :
    ReadsFrom .negation ("EXISTS (" ++ link.subquery ++ ")")
      (.someRow link.relation.table link.table (.atom link.atom)) := by
  intro rest
  have opening : tokens "EXISTS (" = ["EXISTS", "("] := by decide
  rw [tokens_enclosed (by decide), opening, tokens_subquery named]
  simp only [List.cons_append, List.nil_append, List.append_assoc]
  exact .primary (.someRow named.1 named.2.1
    (.conjunction (.negation (.primary (.atom named.2.2 _)))))

theorem someRowWhere {link : Link} (named : link.IsNamed)
    (inner : ReadsFrom .negation text formula) :
    ReadsFrom .negation ("EXISTS (" ++ link.subquery ++ " AND " ++ text ++ ")")
      (.someRow link.relation.table link.table
        (.and (.atom link.atom) formula)) := by
  intro rest
  have opening : tokens "EXISTS (" = ["EXISTS", "("] := by decide
  have separator : tokens " AND " = ["AND"] := by decide
  rw [@String.append_assoc "EXISTS (", @String.append_assoc "EXISTS (",
    tokens_enclosed (by decide), opening, String.append_assoc,
    tokens_between _ (by decide) (by decide), separator, tokens_subquery named]
  simp only [List.cons_append, List.nil_append, List.append_assoc]
  exact .primary (.someRow named.1 named.2.1
    (.conjunction (.and (.primary (.atom named.2.2 _)) (.negation (inner _)))))

end ReadsFrom

mutual

theorem Condition.readsFrom_text : ∀ condition : Condition, condition.IsReadable →
    ReadsFrom .negation condition.text condition.formula
  | .always, _ => by
    rw [text, formula]
    exact readsFrom_truth
  | .all children, readable => by
    rw [IsReadable] at readable
    rw [text, formula]
    exact ReadsFrom.parentheses fun rest => .conjunction (ReadsFrom.conjunction
      (readsFrom_texts children readable.2) (texts_ne_nil readable.1) rest)
  | .any children, readable => by
    rw [IsReadable] at readable
    rw [text, formula]
    exact ReadsFrom.parentheses
      (ReadsFrom.disjunction (readsFrom_texts children readable.2)
      (texts_ne_nil readable.1))
  | .not inner, readable => by
    rw [IsReadable] at readable
    rw [text, formula]
    exact (readsFrom_text inner readable).not
  | .compare column comparison parameter, readable => by
    rw [IsReadable] at readable
    rw [formula]
    exact readsFrom_atom ⟨readable, isIdentifier_parameterName parameter⟩
      (tokens_compare readable comparison parameter)
  | .like column parameter, readable => by
    rw [IsReadable] at readable
    rw [formula]
    exact readsFrom_atom ⟨readable, isIdentifier_parameterName parameter⟩
      (tokens_like readable parameter)
  | .notNull column, readable => by
    rw [IsReadable] at readable
    rw [formula]
    exact readsFrom_atom readable (tokens_notNull readable)
  | .related link, readable => by
    rw [IsReadable] at readable
    rw [text, formula]
    exact ReadsFrom.someRow readable
  | .relatedWhere link inner, readable => by
    rw [IsReadable] at readable
    rw [text, formula]
    exact ReadsFrom.someRowWhere readable.1 (readsFrom_text inner readable.2)

theorem Condition.readsFrom_texts :
    ∀ children : List Condition, AreReadable children →
    List.Forall₂ (ReadsFrom .negation) (texts children) (formulas children)
  | [], _ => .nil
  | child :: rest, readable => by
    rw [AreReadable] at readable
    exact .cons (readsFrom_text child readable.1)
      (readsFrom_texts rest readable.2)

end

/-- The text of a condition with proper names has one reading, and that is what
the condition says. -/
theorem Condition.readsAs_text {condition : Condition}
    (readable : condition.IsReadable) {other : Formula} :
    ReadsAs condition.text other ↔ other = condition.formula := by
  have read : ReadsAs condition.text condition.formula := by
    have whole := condition.readsFrom_text readable []
    rw [List.append_nil] at whole
    exact .conjunction (.negation whole)
  constructor
  · intro otherwise
    exact (Reads.unique otherwise read (by simp [Level.Stops])
      (by simp [Level.Stops])).1
  · rintro rfl
    exact read

end CriteriaQuery.Sql
