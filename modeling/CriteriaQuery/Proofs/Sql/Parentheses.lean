import CriteriaQuery.Proofs.Predicate.Junctions
import CriteriaQuery.Proofs.Sql.Vocabulary

namespace CriteriaQuery

/-! The parentheses of a statement. Every junction of a rendered condition has
at least two parts, and so no parentheses in the text are empty. -/

open Sql Sql.Rendering

namespace Sql

/-! ## Texts without empty parentheses -/

def IsBare (text : String) : Prop := '(' ∉ text.toList ∧ ')' ∉ text.toList

instance (text : String) : Decidable (IsBare text) :=
  inferInstanceAs (Decidable (_ ∧ _))

theorem isBare_append {text more : String} :
    IsBare (text ++ more) ↔ IsBare text ∧ IsBare more := by
  simp only [IsBare, String.toList_append, List.mem_append, not_or]
  exact and_and_and_comm

def IsApart (left right : Char) : Prop := ¬ (left = '(' ∧ right = ')')

instance (left right : Char) : Decidable (IsApart left right) :=
  inferInstanceAs (Decidable (¬ _))

/-- No parentheses in the text are empty, and neither are any that arise beside
another such text. -/
structure IsClosed (text : String) : Prop where
  apart : text.toList.IsChain IsApart
  begins : text.toList.head? ≠ some ')'
  ends : text.toList.getLast? ≠ some '('

theorem IsBare.isClosed {text : String} (bare : IsBare text) : IsClosed text where
  apart := by
    refine List.Pairwise.isChain
      (List.pairwise_of_forall_mem_list fun left isLeft right _ => ?_)
    rintro ⟨rfl, -⟩
    exact bare.1 isLeft
  begins isFirst := bare.2 (List.mem_of_head? isFirst)
  ends isLast := bare.1 (List.mem_of_getLast? isLast)

namespace IsClosed

variable {text : String}

theorem contains_eq_false (closed : IsClosed text) :
    Text.contains text "()" = false := by
  rw [Bool.eq_false_iff, Text.contains, Ne, Text.occursIn_iff]
  rintro ⟨before, after, whole⟩
  have beside := List.isChain_iff_forall_rel_of_append_cons_cons.mp closed.apart
    (show text.toList = before ++ '(' :: ')' :: after by simpa using whole.symm)
  exact beside ⟨rfl, rfl⟩

theorem append (closed : IsClosed text) {more : String} (other : IsClosed more) :
    IsClosed (text ++ more) where
  apart := by
    rw [String.toList_append, List.isChain_append]
    refine ⟨closed.apart, other.apart, fun last isLast first isFirst => ?_⟩
    rintro ⟨rfl, rfl⟩
    exact closed.ends isLast
  begins := by
    rw [String.toList_append, List.head?_append]
    cases first : text.toList.head? with
    | none => simpa using other.begins
    | some c => simpa [first] using closed.begins
  ends := by
    rw [String.toList_append, List.getLast?_append]
    cases last : more.toList.getLast? with
    | none => simpa using closed.ends
    | some c => simpa [last] using other.ends

theorem append_close (closed : IsClosed text) (nonempty : text.toList ≠ []) :
    IsClosed (text ++ ")") where
  apart := by
    rw [String.toList_append, List.isChain_append]
    refine ⟨closed.apart, by decide, fun last isLast first _ => ?_⟩
    rintro ⟨rfl, -⟩
    exact closed.ends isLast
  begins := by
    obtain ⟨first, rest, characters⟩ := List.exists_cons_of_ne_nil nonempty
    have begins := closed.begins
    rw [characters] at begins
    simpa [characters] using begins
  ends := by simp

theorem open_append (closed : IsClosed text) (nonempty : text.toList ≠ []) :
    IsClosed ("(" ++ text) where
  apart := by
    rw [String.toList_append, List.isChain_append]
    refine ⟨by decide, closed.apart, fun last _ first isFirst => ?_⟩
    rintro ⟨-, rfl⟩
    exact closed.begins isFirst
  begins := by simp
  ends := by
    rw [String.toList_append, List.getLast?_append_of_ne_nil _ nonempty]
    exact closed.ends

theorem parenthesized (closed : IsClosed text) (nonempty : text ≠ "") :
    IsClosed ("(" ++ text ++ ")") := by
  rw [String.append_assoc]
  exact (closed.append_close (by simpa using nonempty)).open_append (by simp)

theorem enclosed (closed : IsClosed text) (nonempty : text ≠ "") {start : String}
    (isStart : IsClosed start) : IsClosed (start ++ "(" ++ text ++ ")") := by
  have whole := isStart.append (closed.parenthesized nonempty)
  rwa [← String.append_assoc, ← String.append_assoc] at whole

theorem join {separator : String} (isSeparator : IsClosed separator)
    {texts : List String} (each : ∀ text ∈ texts, IsClosed text) :
    IsClosed (Text.join separator texts) := by
  induction texts with
  | nil =>
    have none : IsBare "" := by decide
    exact none.isClosed
  | cons first rest induction =>
    rw [List.forall_mem_cons] at each
    cases rest with
    | nil => exact each.1
    | cons second more =>
      rw [join_cons_cons]
      exact (each.1.append isSeparator).append (induction each.2)

end IsClosed

/-! ## Conditions -/

theorem isBare_spell {fragments : List Fragment}
    (fixed : ∀ word, .fixed word ∈ fragments → IsBare word)
    (taken : ∀ name, .taken name ∈ fragments → IsBare name) :
    IsBare (Fragment.spell fragments) := by
  have each : ∀ fragment ∈ fragments, IsBare fragment.text := by
    intro fragment member
    cases fragment with
    | fixed word => exact fixed word member
    | quote => exact (by decide : IsBare "\"")
    | taken name => exact taken name member
  constructor
  · rw [Fragment.mem_toList_spell_iff]
    rintro ⟨fragment, member, inside⟩
    exact (each fragment member).1 inside
  · rw [Fragment.mem_toList_spell_iff]
    rintro ⟨fragment, member, inside⟩
    exact (each fragment member).2 inside

def HaveBareNames (fragments : List Fragment) : Prop :=
  ∀ name, .taken name ∈ fragments → IsBare name

theorem haveBareNames_append {fragments more : List Fragment} :
    HaveBareNames (fragments ++ more) ↔
    HaveBareNames fragments ∧ HaveBareNames more := by
  simp only [HaveBareNames, List.mem_append]
  exact ⟨fun bare => ⟨fun name member => bare name (.inl member),
    fun name member => bare name (.inr member)⟩,
    fun ⟨first, second⟩ name member => member.elim (first name) (second name)⟩

theorem HaveBareNames.of_between {separator : String}
    {lists : List (List Fragment)}
    (bare : HaveBareNames (Fragment.between separator lists)) :
    ∀ fragments ∈ lists, HaveBareNames fragments :=
  fun _ isList name member => bare name (Fragment.subset_between isList member)

theorem isBare_column {column : Column} (bare : HaveBareNames column.fragments) :
    IsBare column.text := by
  rw [← column.spell_fragments]
  have dot : IsBare "." := by decide
  exact isBare_spell (by simp [Column.fragments, dot]) bare

theorem isBare_subquery {link : Link}
    (bare : HaveBareNames link.subqueryFragments) : IsBare link.subquery := by
  rw [← link.spell_subqueryFragments]
  have words : IsBare "SELECT 1 FROM " ∧ IsBare " " ∧ IsBare " WHERE " ∧
      IsBare "." ∧ IsBare " = " := by decide +kernel
  refine isBare_spell ?_ bare
  simp [Link.subqueryFragments, Link.fragments, Column.fragments, words]

theorem Link.subquery_ne_empty (link : Link) : link.subquery ≠ "" := by
  unfold subquery
  intro same
  have characters := congrArg String.toList same
  simp only [String.toList_append, List.append_eq_nil_iff,
    String.toList_empty] at characters
  exact absurd characters.1.1.1.2 (by decide)

namespace Condition

mutual

def IsBranched : Condition → Prop
  | .always => True
  | .all children => 2 ≤ children.length ∧ AreBranched children
  | .any children => 2 ≤ children.length ∧ AreBranched children
  | .not inner => IsBranched inner
  | .compare _ _ _ => True
  | .like _ _ => True
  | .notNull _ => True
  | .related _ => True
  | .relatedWhere _ inner => IsBranched inner

def AreBranched : List Condition → Prop
  | [] => True
  | child :: rest => IsBranched child ∧ AreBranched rest

end

theorem text_ne_empty (condition : Condition) : condition.text ≠ "" := by
  cases condition <;> simp [text, Column.text]

theorem join_texts_ne_empty {separator : String} {children : List Condition}
    (branched : 2 ≤ children.length) :
    Text.join separator (texts children) ≠ "" := by
  match children with
  | first :: second :: rest =>
    rw [texts, texts, join_cons_cons]
    simp [first.text_ne_empty]

theorem isClosed_junction {separator : String} (isSeparator : IsClosed separator)
    {children : List Condition} (branched : 2 ≤ children.length)
    (each : ∀ text ∈ texts children, IsClosed text) :
    IsClosed ("(" ++ Text.join separator (texts children) ++ ")") :=
  (IsClosed.join isSeparator each).parenthesized (join_texts_ne_empty branched)

theorem isClosed_negation {inner : Condition} (inside : IsClosed inner.text) :
    IsClosed (Condition.not inner).text := by
  have opening : "NOT (" = "NOT " ++ "(" := by decide
  have isStart : IsBare "NOT " := by decide
  rw [text, opening]
  exact inside.enclosed inner.text_ne_empty isStart.isClosed

theorem isClosed_like {column : Column} {parameter : Nat}
    (bare : HaveBareNames (Condition.like column parameter).fragments) :
    IsClosed (Condition.like column parameter).text := by
  simp only [fragments, haveBareNames_append] at bare
  have ofTable : IsBare column.text := isBare_column bare.1.2
  have name : IsBare (parameterName parameter) := bare.2 _ (by simp)
  have words : IsBare "LOWER" ∧ IsBare " LIKE " ∧ IsBare ":" ∧
      IsBare " ESCAPE '\\'" := by
    decide +kernel
  have rest : IsBare (" LIKE " ++ placeholder parameter ++ " ESCAPE '\\'") := by
    simp only [placeholder, isBare_append]
    exact ⟨⟨words.2.1, words.2.2.1, name⟩, words.2.2.2⟩
  have whole : (Condition.like column parameter).text =
      "LOWER" ++ "(" ++ column.text ++ ")" ++
        (" LIKE " ++ placeholder parameter ++ " ESCAPE '\\'") := by
    have opening : "LOWER(" = "LOWER" ++ "(" := by decide
    have closing : ") LIKE " = ")" ++ " LIKE " := by decide
    rw [text, opening, closing]
    simp only [String.append_assoc]
  rw [whole]
  exact (ofTable.isClosed.enclosed (by simp [Column.text])
    words.1.isClosed).append rest.isClosed

/-- A sub-query in parentheses after `EXISTS`, whatever conditions stand in it. -/
theorem isClosed_exists {subquery : String} (inside : IsClosed subquery)
    (nonempty : subquery ≠ "") : IsClosed ("EXISTS (" ++ subquery ++ ")") := by
  have opening : "EXISTS (" = "EXISTS " ++ "(" := by decide
  have isStart : IsBare "EXISTS " := by decide
  rw [opening]
  exact inside.enclosed nonempty isStart.isClosed

theorem isClosed_related {link : Link}
    (bare : HaveBareNames link.subqueryFragments) :
    IsClosed (Condition.related link).text := by
  rw [text]
  exact isClosed_exists (isBare_subquery bare).isClosed link.subquery_ne_empty

theorem isClosed_relatedWhere {link : Link} {inner : Condition}
    (bare : HaveBareNames link.subqueryFragments) (inside : IsClosed inner.text) :
    IsClosed (Condition.relatedWhere link inner).text := by
  have isWord : IsBare " AND " := by decide
  have clause :=
    ((isBare_subquery bare).isClosed.append isWord.isClosed).append inside
  have whole : (Condition.relatedWhere link inner).text =
      "EXISTS (" ++ (link.subquery ++ " AND " ++ inner.text) ++ ")" := by
    rw [text]
    simp only [String.append_assoc]
  rw [whole]
  exact isClosed_exists clause (by simp [link.subquery_ne_empty])

mutual

theorem isClosed_text : ∀ condition : Condition, condition.IsBranched →
    HaveBareNames condition.fragments → IsClosed condition.text
  | .always, _, _ => by
    have isWord : IsBare "1 = 1" := by decide
    exact isWord.isClosed
  | .all children, branched, bare => by
    rw [IsBranched] at branched
    simp only [fragments, haveBareNames_append] at bare
    have separator : IsBare " AND " := by decide
    rw [text]
    exact isClosed_junction separator.isClosed branched.1
      (areClosed_texts children branched.2 bare.1.2.of_between)
  | .any children, branched, bare => by
    rw [IsBranched] at branched
    simp only [fragments, haveBareNames_append] at bare
    have separator : IsBare " OR " := by decide
    rw [text]
    exact isClosed_junction separator.isClosed branched.1
      (areClosed_texts children branched.2 bare.1.2.of_between)
  | .not inner, branched, bare => by
    rw [IsBranched] at branched
    simp only [fragments, haveBareNames_append] at bare
    exact isClosed_negation (isClosed_text inner branched bare.1.2)
  | .compare column comparison parameter, _, bare => by
    have words : IsBare "." ∧ IsBare " " ∧ IsBare ":" := by decide
    have sign : IsBare (comparisonSign comparison) := by
      cases comparison <;> decide
    rw [← spell_fragments]
    refine (isBare_spell ?_ bare).isClosed
    simp [fragments, Column.fragments, words, sign]
  | .like column parameter, _, bare => isClosed_like bare
  | .notNull column, _, bare => by
    have words : IsBare "." ∧ IsBare " IS NOT NULL" := by decide +kernel
    rw [← spell_fragments]
    refine (isBare_spell ?_ bare).isClosed
    simp [fragments, Column.fragments, words]
  | .related link, _, bare => by
    simp only [fragments, haveBareNames_append] at bare
    exact isClosed_related bare.1.2
  | .relatedWhere link inner, branched, bare => by
    rw [IsBranched] at branched
    simp only [fragments, haveBareNames_append] at bare
    exact isClosed_relatedWhere bare.1.1.1.2
      (isClosed_text inner branched bare.1.2)

theorem areClosed_texts : ∀ children : List Condition, AreBranched children →
    (∀ fragments ∈ fragmentsOf children, HaveBareNames fragments) →
    ∀ text ∈ texts children, IsClosed text
  | [], _, _ => by
    rw [texts]
    exact nofun
  | child :: rest, branched, bare => by
    rw [AreBranched] at branched
    rw [fragmentsOf, List.forall_mem_cons] at bare
    rw [texts, List.forall_mem_cons]
    exact ⟨isClosed_text child branched.1 bare.1,
      areClosed_texts rest branched.2 bare.2⟩

end

end Condition

end Sql

namespace Predicate

variable {relational : Relational}

theorem length_renderedAll (children : List Predicate) (table scope : String)
    (parameter next : Nat) :
    (renderedAll relational table scope parameter next children).length =
      children.length := by
  induction children generalizing parameter next with
  | nil =>
    rw [renderedAll]
    rfl
  | cons child rest induction =>
    rw [renderedAll, List.length_cons, induction, List.length_cons]

mutual

theorem isBranched_rendered : ∀ (predicate : Predicate) (table scope : String)
    (parameter next : Nat), predicate.IsBranched →
    (predicate.rendered relational table scope parameter next).IsBranched
  | .always, table, scope, parameter, next, _ => by
    rw [rendered, Condition.IsBranched]
    trivial
  | .all children, table, scope, parameter, next, branched => by
    rw [IsBranched] at branched
    rw [rendered, Condition.IsBranched, length_renderedAll]
    exact ⟨branched.1,
      areBranched_renderedAll children table scope parameter next branched.2⟩
  | .any children, table, scope, parameter, next, branched => by
    rw [IsBranched] at branched
    rw [rendered, Condition.IsBranched, length_renderedAll]
    exact ⟨branched.1,
      areBranched_renderedAll children table scope parameter next branched.2⟩
  | .not inner, table, scope, parameter, next, branched => by
    rw [IsBranched] at branched
    rw [rendered, Condition.IsBranched]
    exact isBranched_rendered inner table scope parameter next branched
  | .compare field comparison value, table, scope, parameter, next, _ => by
    rw [rendered, Condition.IsBranched]
    trivial
  | .text field mode needle, table, scope, parameter, next, _ => by
    rw [rendered, Condition.IsBranched]
    trivial
  | .present field, table, scope, parameter, next, _ => by
    rw [rendered, Condition.IsBranched]
    trivial
  | .within path inner, table, scope, parameter, next, branched => by
    rw [IsBranched] at branched
    rw [rendered, Condition.IsBranched]
    exact isBranched_rendered inner (tableAlias next) path parameter
      (next + 1) branched
  | .related path, table, scope, parameter, next, _ => by
    rw [rendered, Condition.IsBranched]
    trivial

theorem areBranched_renderedAll :
    ∀ (children : List Predicate) (table scope : String)
    (parameter next : Nat), AreBranched children →
    Condition.AreBranched
      (renderedAll relational table scope parameter next children)
  | [], table, scope, parameter, next, _ => by
    rw [renderedAll, Condition.AreBranched]
    trivial
  | child :: rest, table, scope, parameter, next, branched => by
    rw [AreBranched] at branched
    rw [renderedAll, Condition.AreBranched]
    exact ⟨isBranched_rendered child table scope parameter next branched.1,
      areBranched_renderedAll rest table scope _ _ branched.2⟩

end

end Predicate

namespace Sql

variable {relational : Relational} {plan : Plan}

/-! ## Statements -/

namespace Statement

variable {statement : Statement}

def IsBranched (statement : Statement) : Prop :=
  ∀ condition, statement.condition = some condition → condition.IsBranched

theorem isBranched_assembled (branched : plan.filter.IsBranched) (target : String)
    (layout : Layout) :
    (assembled relational plan target (renderedFilter? relational plan.filter)
      layout).IsBranched := by
  intro condition isCondition
  rcases renderedFilter?_cases relational plan.filter with ⟨-, none⟩ | isFilter
  · simp [assembled, none] at isCondition
  · simp only [assembled, isFilter, Option.some.injEq] at isCondition
    rw [← isCondition]
    exact plan.filter.isBranched_rendered relational.rootAlias "" 0 1 branched

section Closed

variable (vetted : statement.IsVetted relational)
  (branched : statement.IsBranched)
  (opening : ¬ relational.Allows '(') (closing : ¬ relational.Allows ')')

include vetted branched opening closing

theorem isClosed_conditionFragments :
    IsClosed (Fragment.spell statement.conditionFragments) := by
  have bare : HaveBareNames statement.conditionFragments := fun name member =>
    ⟨fun inside => opening (vetted.condition _ member _ inside),
      fun inside => closing (vetted.condition _ member _ inside)⟩
  unfold conditionFragments at bare ⊢
  cases given : statement.condition with
  | none =>
    have none : IsBare "" := by decide
    exact none.isClosed
  | some condition =>
    rw [given] at bare
    rw [condition.spell_fragments]
    exact condition.isClosed_text (branched condition given) bare

theorem IsAroundCondition.isClosed {quotes : Nat} {fragments : List Fragment}
    (around : statement.IsAroundCondition relational quotes fragments) :
    IsClosed (Fragment.spell fragments) := by
  obtain ⟨before, after, rfl, isBefore, -, isAfter⟩ := around
  have isBare {some : List Fragment}
      (quoted : AreQuoted relational plainWords some) :
      IsBare (Fragment.spell some) :=
    ⟨quoted.not_mem_spell opening (by decide) fun _ isWord =>
      (not_mem_of_mem_plainWords isWord).1, quoted.not_mem_spell closing
        (by decide) fun _ isWord => (not_mem_of_mem_plainWords isWord).2⟩
  rw [Fragment.spell_append, Fragment.spell_append]
  exact ((isBare isBefore).isClosed.append
    (isClosed_conditionFragments vetted branched opening closing)).append
    (isBare isAfter.areQuoted).isClosed

theorem isClosed_text : IsClosed statement.text := by
  rw [← statement.spell_fragments]
  exact vetted.isAround_fragments.isClosed vetted branched opening closing

theorem isClosed_countText : IsClosed statement.countText := by
  have start : IsClosed "SELECT COUNT(*) FROM " :=
    ⟨by decide +kernel, by decide, by decide⟩
  have whole : IsClosed "SELECT COUNT(*)\nFROM " :=
    ⟨by decide +kernel, by decide, by decide⟩
  have name : IsBare " AS counted" := by decide
  have rows := vetted.isAround_rows.isClosed vetted branched opening closing
  have source := vetted.isAround_source.isClosed vetted branched opening closing
  rw [statement.spell_rowFragments] at rows
  rw [statement.spell_sourceFragments] at source
  unfold countText
  split
  · have before : "SELECT COUNT(*) FROM (" = "SELECT COUNT(*) FROM " ++ "(" := by
      decide +kernel
    have after : ") AS counted" = ")" ++ " AS counted" := by decide
    rw [before, after, ← String.append_assoc]
    exact (rows.enclosed (by simp [Statement.rows]) start).append name.isClosed
  · exact whole.append source

end Closed

end Statement

end Sql

end CriteriaQuery
