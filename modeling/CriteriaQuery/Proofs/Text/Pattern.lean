import CriteriaQuery.Proofs.Sql.Rendering
import CriteriaQuery.Proofs.Text.Occurrence
import CriteriaQuery.Search.Clause

namespace CriteriaQuery

/-! Pattern languages with one character for any sequence, one for any single
character, and a backslash that makes the next character literal. An escaped
needle stands for itself in each of them, so the patterns of text conditions
match a text just where the needle stands in it. -/

/-! ## Languages -/

inductive PatternItem where
  | literal (c : Char)
  | one
  | many
  deriving DecidableEq, Repr

namespace PatternItem

/-- The items match the whole text, in order. A sequence of any length is tried
with every rest that it can leave. -/
def matchAll : List PatternItem → List Char → Bool
  | [], text => text.isEmpty
  | .many :: rest, text => text.tails.any (matchAll rest)
  | .literal c :: rest, first :: text => c == first && matchAll rest text
  | .one :: rest, _ :: text => matchAll rest text
  | _ :: _, [] => false

end PatternItem

structure PatternLanguage where
  many : Char
  one : Char
  deriving DecidableEq, Repr

namespace PatternLanguage

def like : PatternLanguage := ⟨'%', '_'⟩

def wildcard : PatternLanguage := ⟨'*', '?'⟩

def item (language : PatternLanguage) (c : Char) : PatternItem :=
  if c = language.many then .many
  else if c = language.one then .one else .literal c

/-- The items of a pattern. A backslash at the end has nothing to make literal;
such a text is no pattern. -/
def items? (language : PatternLanguage) : List Char → Option (List PatternItem)
  | [] => some []
  | ['\\'] => none
  | '\\' :: c :: rest => (items? language rest).map (.literal c :: ·)
  | c :: rest => (items? language rest).map (language.item c :: ·)

def Matches (language : PatternLanguage) (pattern text : String) : Prop :=
  ∃ items, language.items? pattern.toList = some items ∧
    PatternItem.matchAll items text.toList = true

end PatternLanguage

/-! ## What items match -/

namespace PatternItem

theorem matchAll_many_iff {items : List PatternItem} {text : List Char} :
    matchAll (.many :: items) text = true ↔
    ∃ rest, rest <:+ text ∧ matchAll items rest = true := by
  rw [matchAll, List.any_eq_true]
  simp only [List.mem_tails]

theorem matchAll_literals_iff {items : List PatternItem}
    {literals text : List Char} :
    matchAll (literals.map .literal ++ items) text = true ↔
      ∃ rest, text = literals ++ rest ∧ matchAll items rest = true := by
  induction literals generalizing text with
  | nil => simp
  | cons c literals induction =>
    cases text with
    | nil => simp [matchAll]
    | cons first text =>
      rw [List.map_cons, List.cons_append, matchAll, Bool.and_eq_true,
        beq_iff_eq, induction]
      simp only [List.cons_append, List.cons.injEq]
      constructor
      · rintro ⟨rfl, rest, rfl, matched⟩
        exact ⟨rest, ⟨rfl, rfl⟩, matched⟩
      · rintro ⟨rest, ⟨rfl, rfl⟩, matched⟩
        exact ⟨rfl, rest, rfl, matched⟩

theorem matchAll_literals_end_iff {literals text : List Char} :
    matchAll (literals.map .literal) text = true ↔ text = literals := by
  have whole := @matchAll_literals_iff [] literals text
  rw [List.append_nil] at whole
  rw [whole]
  simp [matchAll]

theorem matchAll_many_end (text : List Char) : matchAll [.many] text = true :=
  matchAll_many_iff.mpr ⟨[], List.nil_suffix, rfl⟩

def finding (mode : TextMode) (needle : List Char) : List PatternItem :=
  match mode with
  | .contains => .many :: (needle.map .literal ++ [.many])
  | .startsWith => needle.map .literal ++ [.many]
  | .endsWith => .many :: needle.map .literal

theorem matchAll_finding_iff (mode : TextMode) (needle text : List Char) :
    matchAll (finding mode needle) text = true ↔ mode.Finds needle text := by
  have begins (rest : List Char) :
      matchAll (needle.map .literal ++ [.many]) rest = true ↔
      needle <+: rest := by
    rw [matchAll_literals_iff]
    simp only [matchAll_many_end, and_true]
    exact exists_congr fun more => eq_comm
  cases mode with
  | startsWith => exact begins text
  | endsWith =>
    rw [finding, matchAll_many_iff]
    simp only [matchAll_literals_end_iff, exists_eq_right]
    rfl
  | contains =>
    rw [finding, matchAll_many_iff]
    simp only [begins]
    constructor
    · rintro ⟨rest, ends, starts⟩
      exact starts.isInfix.trans ends.isInfix
    · rintro ⟨front, back, rfl⟩
      exact ⟨needle ++ back, ⟨front, by simp⟩, List.prefix_append needle back⟩

end PatternItem

/-! ## Escaped needles -/

namespace PatternLanguage

variable {language : PatternLanguage} {special : Char → Bool}

def IsCovered (language : PatternLanguage) (special : Char → Bool) : Prop :=
  ∀ c, special c = false → c ≠ '\\' ∧ c ≠ language.many ∧ c ≠ language.one

@[simp] theorem items?_nil : language.items? [] = some [] := rfl

theorem items?_plain {c : Char} (notEscape : c ≠ '\\') (rest : List Char) :
    language.items? (c :: rest) =
      (language.items? rest).map (language.item c :: ·) := by
  rw [items?]
  · intro isEscape
    contradiction
  · intro next more isEscape
    contradiction

/-- Escaped characters are read as themselves, whatever follows them. -/
theorem items?_escaped_append (covered : language.IsCovered special)
    (characters rest : List Char) :
    language.items? ((characters.flatMap fun c =>
        if special c then ['\\', c] else [c]) ++ rest) =
      (language.items? rest).map (characters.map .literal ++ ·) := by
  induction characters with
  | nil => simp
  | cons c characters induction =>
    rw [List.flatMap_cons, List.append_assoc]
    cases escaped : special c with
    | true =>
      simp [items?, induction, Function.comp_def]
    | false =>
      rcases covered c escaped with ⟨notEscape, notMany, notOne⟩
      have plain : language.item c = .literal c := by
        rw [item, if_neg notMany, if_neg notOne]
      simp [items?_plain notEscape, plain, induction, Function.comp_def]

def patternOf (language : PatternLanguage) (special : Char → Bool)
    (mode : TextMode) (needle : String) : String :=
  let literal := Text.escape special needle
  let any := String.singleton language.many
  match mode with
  | .contains => any ++ literal ++ any
  | .startsWith => literal ++ any
  | .endsWith => any ++ literal

theorem items?_patternOf (covered : language.IsCovered special)
    (notEscape : language.many ≠ '\\') (mode : TextMode) (needle : String) :
    language.items? (language.patternOf special mode needle).toList =
      some (PatternItem.finding mode needle.toList) := by
  have any (rest : List Char) : language.items? (language.many :: rest) =
      (language.items? rest).map (.many :: ·) := by
    rw [items?_plain notEscape, item, if_pos rfl]
  have alone := items?_escaped_append covered needle.toList []
  have before := items?_escaped_append covered needle.toList [language.many]
  rw [List.append_nil] at alone
  cases mode with
  | contains => simp [patternOf, Text.escape, any, before, PatternItem.finding]
  | startsWith => simp [patternOf, Text.escape, any, before, PatternItem.finding]
  | endsWith => simp [patternOf, Text.escape, any, alone, PatternItem.finding]

/-- An escaped pattern matches a text just where the mode finds the needle. -/
theorem matches_patternOf_iff (covered : language.IsCovered special)
    (notEscape : language.many ≠ '\\') (mode : TextMode) (needle text : String) :
    language.Matches (language.patternOf special mode needle) text ↔
      mode.Finds needle.toList text.toList := by
  rw [Matches, items?_patternOf covered notEscape]
  simp only [Option.some.injEq, exists_eq_left']
  exact PatternItem.matchAll_finding_iff mode needle.toList text.toList

end PatternLanguage

/-! ## Text conditions -/

namespace PatternLanguage

theorem isCovered_like : like.IsCovered Sql.Rendering.isLikeSpecial := by
  intro c plain
  simpa [Sql.Rendering.isLikeSpecial, like, and_assoc] using plain

theorem isCovered_wildcard :
    wildcard.IsCovered SearchClause.isWildcardSpecial := by
  intro c plain
  simpa [SearchClause.isWildcardSpecial, wildcard, and_assoc] using plain

theorem matches_likePattern_iff (mode : TextMode) (needle text : String) :
    like.Matches (Sql.Rendering.likePattern mode needle) text ↔
      mode.Finds (Text.lowered needle) text.toList := by
  have escaped : Sql.Rendering.likePattern mode needle =
      like.patternOf Sql.Rendering.isLikeSpecial mode
        (Text.lowerCase needle) := by
    cases mode <;> rfl
  rw [escaped, matches_patternOf_iff isCovered_like (by decide)]
  rfl

theorem exists_wildcard {mode : TextMode} (room : mode ≠ .startsWith)
    (field needle : String) :
    ∃ pattern, SearchClause.ofText field mode needle = .wildcard field pattern ∧
      ∀ text, wildcard.Matches pattern text ↔
        mode.Finds (Text.lowered needle) text.toList := by
  refine ⟨wildcard.patternOf SearchClause.isWildcardSpecial mode
    (Text.lowerCase needle), ?_, matches_patternOf_iff isCovered_wildcard
      (by decide) mode (Text.lowerCase needle)⟩
  cases mode with
  | startsWith => contradiction
  | contains => rfl
  | endsWith => rfl

end PatternLanguage

/-- The pattern that a text operator binds in a statement, and the one that it
sends to a search index unless it looks at beginnings, match a text just where
the needle stands in it in lower case, whatever characters the needle has. -/
theorem TextMode.patterns_match_literally (mode : TextMode)
    (field needle : String) (values : List Json) :
    ∃ predicate, Predicate.onField? field mode.operator (.string needle) values =
      some predicate ∧ (∃ pattern,
        (∀ relational table scope draft,
          (Sql.Rendering.condition relational table scope predicate).run draft =
            Sql.Rendering.checked [Sql.columnName field scope]
              (.like ⟨table, Sql.columnName field scope⟩ draft.parameters.length,
                draft.extended [.string pattern] 0)) ∧
        ∀ text, PatternLanguage.like.Matches pattern text ↔
          mode.Finds (Text.lowered needle) text.toList) ∧
      (mode ≠ .startsWith → ∃ pattern,
        (SearchClause.ofPredicate predicate).toJson =
          SearchClause.ignoringCase "wildcard" field pattern ∧
        ∀ text, PatternLanguage.wildcard.Matches pattern text ↔
          mode.Finds (Text.lowered needle) text.toList) := by
  refine ⟨.text field mode needle,
    mode.onField?_operator field needle values, ?_, ?_⟩
  · refine ⟨Sql.Rendering.likePattern mode needle, ?_,
      PatternLanguage.matches_likePattern_iff mode needle⟩
    intro relational table scope draft
    exact Sql.Rendering.run_condition relational (.text field mode needle)
      table scope draft
  · intro room
    rcases PatternLanguage.exists_wildcard room field needle with
      ⟨pattern, emitted, literally⟩
    refine ⟨pattern, ?_, literally⟩
    rw [SearchClause.ofPredicate, emitted, SearchClause.toJson]

theorem TextMode.wildcards_in_label : ∃ pattern,
    (SearchClause.ofPredicate (.text "label" .endsWith "A*?\\")).toJson =
      SearchClause.ignoringCase "wildcard" "label" pattern ∧
    PatternLanguage.wildcard.Matches pattern "see a*?\\" ∧
    ¬ PatternLanguage.wildcard.Matches pattern "see abc\\" := by
  rcases TextMode.patterns_match_literally .endsWith "label" "A*?\\" [] with
    ⟨predicate, asked, -, search⟩
  cases asked
  rcases search (by decide) with ⟨pattern, emitted, literally⟩
  refine ⟨pattern, emitted, (literally _).mpr (by decide +kernel), ?_⟩
  intro matched
  exact absurd ((literally _).mp matched) (by decide +kernel)

end CriteriaQuery
