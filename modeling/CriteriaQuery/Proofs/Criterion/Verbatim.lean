import CriteriaQuery.Proofs.Predicate.Elements
import CriteriaQuery.Proofs.Text.LowerCase

namespace CriteriaQuery

/-! Needles that stand verbatim in a text. Lower casing text and needle apart
keeps the needle in its place as long as the needle settles the form of its
sigmas; for every other needle there is a text in which it is lost. -/

/-! ## Needles that settle their lower case -/

namespace TextMode

/-- Where the mode lets something stand before or after the needle, no sigma of
the needle changes its form for it. -/
def settles (mode : TextMode) (needle : List Char) : Bool :=
  match mode with
  | .contains => !Text.beginsWithSigma needle && !Text.endsInSigma needle
  | .startsWith => !Text.endsInSigma needle
  | .endsWith => !Text.beginsWithSigma needle

open Text

theorem finds_lowerFrom {mode : TextMode} {needle text : List Char}
    (settled : mode.settles needle = true) (finds : mode.Finds needle text) :
    mode.Finds (lowerFrom [] needle) (lowerFrom [] text) := by
  cases mode with
  | contains =>
    rw [settles, Bool.and_eq_true, Bool.not_eq_true',
      Bool.not_eq_true'] at settled
    rcases finds with ⟨front, back, rfl⟩
    rw [List.append_assoc, lowerFrom_append, lowerFrom_append,
      lowerBetween_of_not_beginsWithSigma settled.1,
      lowerBetween_of_not_endsInSigma settled.2]
    exact ⟨_, _, List.append_assoc _ _ _⟩
  | startsWith =>
    rw [settles, Bool.not_eq_true'] at settled
    rcases finds with ⟨back, rfl⟩
    rw [lowerFrom_append, lowerBetween_of_not_endsInSigma settled]
    exact List.prefix_append _ _
  | endsWith =>
    rw [settles, Bool.not_eq_true'] at settled
    rcases finds with ⟨front, rfl⟩
    rw [lowerFrom_append, ← lowerBetween_nil (front.reverse ++ []),
      lowerBetween_of_not_beginsWithSigma settled, lowerBetween_nil]
    exact List.suffix_append _ _

theorem not_isInfix_of_count_lt {c : Char} {needle text : List Char}
    (fewer : text.count c < needle.count c) : ¬ needle <:+: text := by
  intro occurs
  have := occurs.sublist.count_le c
  omega

theorem lowerBetween_letter (before after : List Char) :
    lowerBetween before ['Α'] after = ['α'] := by
  rw [lowerBetween, lowerAmid, if_neg (by decide), lowerBetween, List.append_nil]
  decide +kernel

theorem meetsCased_letter : meetsCased ['Α'] = true := by decide +kernel

/-- With a letter after it the needle is lost, although the text begins with
it. -/
theorem lost_before_letter {needle : List Char}
    (ends : endsInSigma needle = true) :
    ¬ lowerFrom [] needle <:+: lowerFrom [] (needle ++ ['Α']) := by
  apply not_isInfix_of_count_lt (c := 'ς')
  rw [lowerFrom_append, ← lowerBetween_nil _ ['Α'], lowerBetween_letter,
    List.count_append]
  exact count_final_lt ends meetsCased_letter

/-- With a letter before it the needle is lost, although the text ends with it. -/
theorem lost_behind_letter {needle : List Char}
    (begins : beginsWithSigma needle = true) :
    ¬ lowerFrom [] needle <:+: lowerFrom [] (['Α'] ++ needle) := by
  apply not_isInfix_of_count_lt (c := 'σ')
  have fewer := count_medial_lt begins meetsCased_letter
  rw [lowerBetween_nil] at fewer
  rw [lowerFrom_append, lowerBetween_letter, List.count_append, List.append_nil]
  exact (Nat.zero_add _).trans_lt fewer

theorem exists_lost_of_not_settles {mode : TextMode} {needle : List Char}
    (unsettled : mode.settles needle = false) :
    ∃ text, mode.Finds needle text ∧
    ¬ lowerFrom [] needle <:+: lowerFrom [] text := by
  cases mode with
  | contains =>
    cases begins : beginsWithSigma needle with
    | true =>
      exact ⟨_, (List.suffix_append ['Α'] needle).isInfix,
        lost_behind_letter begins⟩
    | false =>
      have ends : endsInSigma needle = true := by
        simpa [settles, begins] using unsettled
      exact ⟨_, (List.prefix_append needle ['Α']).isInfix,
        lost_before_letter ends⟩
  | startsWith =>
    have ends : endsInSigma needle = true := by simpa [settles] using unsettled
    exact ⟨_, List.prefix_append needle ['Α'], lost_before_letter ends⟩
  | endsWith =>
    have begins : beginsWithSigma needle = true := by
      simpa [settles] using unsettled
    exact ⟨_, List.suffix_append ['Α'] needle, lost_behind_letter begins⟩

end TextMode

/-! ## Criteria -/

namespace Criterion

variable {schema : Schema} {key : String}

def Refuses (schema : Schema) (criteria : List Criterion) (document : Json) :
    Prop :=
  ∃ predicate, Predicate.ofCriteria schema criteria = .ok predicate ∧
    (DocumentFilter.ofPredicate predicate).holds document = false

/-- A criterion on a field by itself asks its operator's question of each element
above the field. -/
theorem exists_filter_of_onField (schema : Schema) (criterion : Criterion)
    {operator : Operator} {first : Json} {more : List Json}
    (chosen : criterion.operator = some operator)
    (onField : operator.role = .and) (other : operator ≠ .specified)
    (given : criterion.values = first :: more)
    (named : criterion.hasBlankKey = false) :
    ∃ predicate, Predicate.ofCriteria schema [criterion] = .ok predicate ∧
      ∀ document, (DocumentFilter.ofPredicate predicate).holds document = true ↔
        ∃ values ∈ schema.valuesPerElement (schema.parseKey criterion.key).path
          document, operator.Accepts first (first :: more) values := by
  have notOr : criterion.operator ≠ some .or := by
    rw [chosen]
    rintro ⟨⟩
    cases onField
  have notParentheses : criterion.operator ≠ some .parentheses := by
    rw [chosen]
    rintro ⟨⟩
    cases onField
  rcases Predicate.exists_onField? onField other
    (schema.parseKey criterion.key).path first
    (first :: more) with ⟨inner, asked⟩
  have read : criterion.part schema = _ := part_of_field notOr notParentheses
  rw [predicate?_of_onField chosen other given named] at read
  simp only [asked, Option.map_some, Option.getD_some] at read
  refine ⟨_, ofCriteria_of_part_eq_predicate read, fun document => ?_⟩
  rw [DocumentFilter.ofPredicate, DocumentFilter.holds_inside,
    Predicate.holds_nested_iff_elementsWithin]
  simp only [Predicate.holds_onField_iff asked, Schema.valuesPerElement,
    List.mem_map, exists_exists_and_eq_and]

theorem matches_text_iff (named : Text.isBlankText key = false) (mode : TextMode)
    (needle : String) (document : Json) :
    Matches schema [⟨key, some mode.operator, [.string needle]⟩] document ↔
      ∃ text, .string text ∈ (schema.valuesPerElement
          (schema.parseKey key).path document).flatten ∧
        mode.Finds (Text.lowered needle) (Text.lowered text) := by
  have onField : mode.operator.role = .and := by cases mode <;> rfl
  have other : mode.operator ≠ .specified := by cases mode <;> nofun
  rcases exists_filter_of_onField schema
      ⟨key, some mode.operator, [.string needle]⟩ rfl onField other rfl named with
    ⟨predicate, lowered, holds⟩
  simp only [Matches, lowered, Except.ok.injEq, exists_eq_left', holds,
    mode.accepts_operator_iff, List.mem_flatten]
  constructor
  · rintro ⟨values, element, text, held, found⟩
    exact ⟨text, ⟨values, element, held⟩, found⟩
  · rintro ⟨text, ⟨values, element, held⟩, found⟩
    exact ⟨values, element, text, held, found⟩

/-- A rooted path reaches just the values that are asked for their text. -/
theorem matches_text_iff_valuesAt (named : Text.isBlankText key = false)
    (rooted : Path.IsRooted (schema.parseKey key).path) (mode : TextMode)
    (needle : String) (document : Json) :
    Matches schema [⟨key, some mode.operator, [.string needle]⟩] document ↔
      ∃ text, .string text ∈ document.valuesAt (schema.parseKey key).path ∧
        mode.Finds (Text.lowered needle) (Text.lowered text) := by
  rw [matches_text_iff named, schema.flatten_valuesPerElement rooted]

theorem refuses_doesNotContain_iff (named : Text.isBlankText key = false)
    (needle : String) (document : Json) :
    Refuses schema [⟨key, some .doesNotContain, [.string needle]⟩] document ↔
      ∀ values ∈ schema.valuesPerElement (schema.parseKey key).path document,
        (∃ value ∈ values, value.isNull = false) → ∃ text, .string text ∈ values ∧
          Text.lowered needle <:+: Text.lowered text := by
  rcases exists_filter_of_onField schema
      ⟨key, some .doesNotContain, [.string needle]⟩ rfl rfl nofun rfl named with
    ⟨predicate, lowered, holds⟩
  have fails (document : Json) : (DocumentFilter.ofPredicate predicate).holds
      document = false ↔
      ¬ ∃ values ∈ schema.valuesPerElement (schema.parseKey key).path document,
        Operator.doesNotContain.Accepts (.string needle)
          [.string needle] values := by
    rw [← holds, Bool.not_eq_true]
  simp only [Refuses, lowered, Except.ok.injEq, exists_eq_left', fails]
  constructor
  · intro refused values element present
    by_contra absent
    refine refused ⟨values, element, present, fun text held => ?_⟩
    exact fun found => absent ⟨text, held, found⟩
  · rintro found ⟨values, element, present, absent⟩
    rcases found values element present with ⟨text, held, occurs⟩
    exact absent text held occurs

/-! ## Verbatim occurrences -/

theorem lowered_ofList (characters : List Char) :
    Text.lowered (String.ofList characters) = Text.lowerFrom [] characters := by
  rw [Text.lowered, Text.lowerCase, String.toList_ofList, String.toList_ofList]

theorem lowered_eq (text : String) :
    Text.lowered text = Text.lowerFrom [] text.toList := by
  rw [← lowered_ofList, String.ofList_toList]

def holding (schema : Schema) (key text : String) : Json :=
  let path := (schema.parseKey key).path
  .placed path (.string text) "" (schema.boundaries path)

theorem valuesPerElement_holding (text : String) :
    schema.valuesPerElement (schema.parseKey key).path (holding schema key text) =
      [[.string text]] :=
  schema.valuesPerElement_placed _ text

theorem matches_holding_iff (named : Text.isBlankText key = false)
    (mode : TextMode) (needle text : String) :
    Matches schema [⟨key, some mode.operator, [.string needle]⟩]
      (holding schema key text) ↔
      mode.Finds (Text.lowered needle) (Text.lowered text) := by
  rw [matches_text_iff named, valuesPerElement_holding]
  simp

theorem refuses_holding_iff (named : Text.isBlankText key = false)
    (needle text : String) :
    Refuses schema [⟨key, some .doesNotContain, [.string needle]⟩]
      (holding schema key text) ↔
      Text.lowered needle <:+: Text.lowered text := by
  rw [refuses_doesNotContain_iff named, valuesPerElement_holding]
  simp [Json.isNull]

theorem matches_of_settles (named : Text.isBlankText key = false)
    {mode : TextMode} {needle : String}
    (settled : mode.settles needle.toList = true) {document : Json}
    {text : String}
    (held : .string text ∈ (schema.valuesPerElement
      (schema.parseKey key).path document).flatten)
    (occurs : mode.Finds needle.toList text.toList) :
    Matches schema [⟨key, some mode.operator, [.string needle]⟩] document := by
  refine (matches_text_iff named mode needle document).mpr ⟨text, held, ?_⟩
  rw [lowered_eq, lowered_eq]
  exact TextMode.finds_lowerFrom settled occurs

theorem refuses_of_settles (named : Text.isBlankText key = false)
    {needle : String} (settled : TextMode.contains.settles needle.toList = true)
    {document : Json}
    (held : ∀ values ∈ schema.valuesPerElement (schema.parseKey key).path
      document, ∃ text, .string text ∈ values ∧ needle.toList <:+: text.toList) :
    Refuses schema [⟨key, some .doesNotContain, [.string needle]⟩] document := by
  refine (refuses_doesNotContain_iff named needle document).mpr ?_
  intro values element present
  rcases held values element with ⟨text, inside, occurs⟩
  have occurs : TextMode.contains.Finds needle.toList text.toList := occurs
  refine ⟨text, inside, ?_⟩
  rw [lowered_eq, lowered_eq]
  exact TextMode.finds_lowerFrom settled occurs

/-- A needle that leaves a sigma open stands verbatim in a text, but not in lower
case. -/
theorem exists_text_of_not_settles {mode : TextMode} {needle : String}
    (unsettled : ¬ mode.settles needle.toList = true) :
    ∃ text : String, mode.Finds needle.toList text.toList ∧
      ¬ Text.lowered needle <:+: Text.lowered text := by
  rw [Bool.not_eq_true] at unsettled
  rcases TextMode.exists_lost_of_not_settles unsettled with ⟨text, occurs, lost⟩
  refine ⟨.ofList text, ?_, ?_⟩
  · rwa [String.toList_ofList]
  · rwa [lowered_ofList, lowered_eq]

/-- Each text operator finds every verbatim occurrence of a needle where it looks
for one, whatever the text and the document around it, just for the needles that
settle the form of their sigmas; and just for them no element that holds the
needle verbatim is taken for one that does not contain it. -/
theorem verbatim_occurrence_matches_iff (named : Text.isBlankText key = false)
    (needle : String) :
    (∀ mode : TextMode,
      (∀ document text,
        .string text ∈ (schema.valuesPerElement
          (schema.parseKey key).path document).flatten →
        mode.Finds needle.toList text.toList →
        Matches schema [⟨key, some mode.operator, [.string needle]⟩] document) ↔
      mode.settles needle.toList = true) ∧
    ((∀ document,
      (∀ values ∈ schema.valuesPerElement (schema.parseKey key).path document,
        ∃ text, .string text ∈ values ∧ needle.toList <:+: text.toList) →
      Refuses schema [⟨key, some .doesNotContain, [.string needle]⟩] document) ↔
      TextMode.contains.settles needle.toList = true) := by
  constructor
  · intro mode
    constructor
    · intro finds
      by_contra unsettled
      rcases exists_text_of_not_settles unsettled with ⟨text, occurs, lost⟩
      have found := finds (holding schema key text) text
        (by simp [valuesPerElement_holding]) occurs
      exact lost ((matches_holding_iff named mode needle text).mp found).isInfix
    · intro settled document text held occurs
      exact matches_of_settles named settled held occurs
  · constructor
    · intro refuses
      by_contra unsettled
      rcases exists_text_of_not_settles unsettled with ⟨text, occurs, lost⟩
      have refused := refuses (holding schema key text) (by
        rw [valuesPerElement_holding]
        simpa using occurs.isInfix)
      exact lost ((refuses_holding_iff named needle text).mp refused)
    · intro settled document held
      exact refuses_of_settles named settled held

/-- In the second role a needle is found whose sigma stands before a letter, and
one is lost whose sigma is its end. -/
theorem sigma_in_second_label :
    let document : Json := .object
      [("roles", .array [.object [("label", .string "Β")],
        .object [("label", .string "ΑΣΑ")]])]
    Matches ⟨fun _ => false, '<'⟩
        [⟨"roles.label", some .contain, [.string "ΣΑ"]⟩] document ∧
      ¬ Matches ⟨fun _ => false, '<'⟩
        [⟨"roles.label", some .contain, [.string "ΑΣ"]⟩] document := by
  intro document
  constructor
  · exact ((verbatim_occurrence_matches_iff (by decide) "ΣΑ").1 .contains).mpr
      (by decide +kernel) document "ΑΣΑ" (.tail _ (.head _)) (by decide +kernel)
  · intro found
    rcases (matches_text_iff_valuesAt (by decide) (by decide) .contains "ΑΣ"
        document).mp found with
      ⟨text, held, occurs⟩
    have values : document.valuesAt "roles.label" =
      [.string "Β", .string "ΑΣΑ"] := rfl
    rcases List.mem_pair.mp (values ▸ held) with same | same
    · cases same
      exact absurd occurs (by decide +kernel)
    · cases same
      exact absurd occurs (by decide +kernel)

end Criterion

end CriteriaQuery
