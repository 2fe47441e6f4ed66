import CriteriaQuery.Proofs.Criterion.Groups
import CriteriaQuery.Proofs.Predicate.Nested

namespace CriteriaQuery

/-! What each field operator asks of a document. A nested field is looked up in
each value that the path above it reaches, and one of these values has to
satisfy the operator as a whole; only an absence test is negated from outside. -/

/-! ## The table -/

def Text.lowered (text : String) : List Char := (lowerCase text).toList

/-- What an operator asks of the values found at its field. The first of the
wanted values is `first`. -/
def Operator.Accepts (operator : Operator) (first : Json)
    (wanted found : List Json) : Prop :=
  match operator with
  | .equal => ∃ value ∈ found, ∃ other ∈ wanted, value.looselyEqual other = true
  | .notEqual =>
    (∃ value ∈ found, value.isNull = false) ∧
      ∀ value ∈ found, ∀ other ∈ wanted, value.looselyEqual other = false
  | .contain =>
    ∃ text, Json.string text ∈ found ∧
      Text.lowered first.plainText <:+: Text.lowered text
  | .doesNotContain =>
    (∃ value ∈ found, value.isNull = false) ∧
      ∀ text, Json.string text ∈ found →
      ¬ Text.lowered first.plainText <:+: Text.lowered text
  | .startWith =>
    ∃ text, Json.string text ∈ found ∧
      Text.lowered first.plainText <+: Text.lowered text
  | .endWith =>
    ∃ text, Json.string text ∈ found ∧
      Text.lowered first.plainText <:+ Text.lowered text
  | .greaterThan => ∃ value ∈ found, value.strictOrder? first = some .gt
  | .greaterThanOrEqual =>
    ∃ value ∈ found, value.strictOrder? first = some .gt ∨
      value.strictOrder? first = some .eq
  | .lessThan => ∃ value ∈ found, value.strictOrder? first = some .lt
  | .lessThanOrEqual =>
    ∃ value ∈ found, value.strictOrder? first = some .lt ∨
      value.strictOrder? first = some .eq
  | .specified => ∃ value ∈ found, value.isNull = false
  | .parentheses | .or => False

namespace Schema

def scopes (schema : Schema) (path : String) (document : Json) : List Json :=
  match schema.nesting? path, Path.parent? path with
  | some _, some above => document.valuesAt above
  | _, _ => [document]

def scopedField (schema : Schema) (path : String) : String :=
  if (schema.nesting? path).isSome then Path.leaf path else path

/-- The field of a key is there. With the left-join marker the value above a
nested field is enough. -/
def Present (schema : Schema) (key : FieldKey) (document : Json) : Prop :=
  if key.leftJoin = true ∧ (schema.nesting? key.path).isSome = true then
    ∃ scope ∈ schema.scopes key.path document, scope.isNull = false
  else
    ∃ scope ∈ schema.scopes key.path document,
      Operator.specified.Accepts .null []
        (scope.valuesAt (schema.scopedField key.path))

end Schema

/-! ## Conditions on a field -/

def Comparison.Admits : Comparison → Option Ordering → Prop
  | .equal, order => order = some .eq
  | .greater, order => order = some .gt
  | .greaterOrEqual, order => order = some .gt ∨ order = some .eq
  | .less, order => order = some .lt
  | .lessOrEqual, order => order = some .lt ∨ order = some .eq

namespace Predicate

variable {scope field : String} {document : Json}

theorem holds_equalsSome_iff {values : List Json} :
    (equalsSome field values).Holds scope document ↔
      ∃ found ∈ document.valuesAt (Path.relativeTo field scope),
        ∃ wanted ∈ values, found.looselyEqual wanted = true := by
  rw [equalsSome, holds_disjunction]
  simp only [List.mem_map, exists_exists_and_eq_and, Holds, Comparison.holds]
  constructor
  · rintro ⟨wanted, given, found, member, equal⟩
    exact ⟨found, member, wanted, given, equal⟩
  · rintro ⟨found, member, wanted, given, equal⟩
    exact ⟨wanted, given, found, member, equal⟩

theorem any_accepts_iff {comparison : Comparison} {order : Option Ordering} :
    order.any comparison.accepts = true ↔ comparison.Admits order := by
  cases order with
  | none => cases comparison <;> simp [Comparison.Admits]
  | some order =>
    cases comparison <;> cases order <;>
      simp [Comparison.accepts, Comparison.Admits]

theorem holds_compare_iff {comparison : Comparison}
    (ordered : comparison ≠ .equal) {wanted : Json} :
    (compare field comparison wanted).Holds scope document ↔
      ∃ found ∈ document.valuesAt (Path.relativeTo field scope),
        comparison.Admits (found.strictOrder? wanted) := by
  rw [Holds]
  refine exists_congr fun found => and_congr_right fun _ => ?_
  rw [← any_accepts_iff]
  cases comparison with
  | equal => contradiction
  | _ => rfl

theorem holds_presentWithout_iff {inner : Predicate} :
    (all [present field, not inner]).Holds scope document ↔
      (∃ value ∈ document.valuesAt (Path.relativeTo field scope),
        value.isNull = false) ∧
        ¬ inner.Holds scope document := by
  simp only [Holds, HoldsAll, and_true]

theorem holds_text_iff {mode : TextMode} {needle : String} :
    (text field mode needle).Holds scope document ↔
      ∃ found, Json.string found ∈ document.valuesAt
        (Path.relativeTo field scope) ∧ match mode with
        | .contains => Text.lowered needle <:+: Text.lowered found
        | .startsWith => Text.lowered needle <+: Text.lowered found
        | .endsWith => Text.lowered needle <:+ Text.lowered found := by
  rw [Holds]
  refine exists_congr fun found => and_congr_right fun _ => ?_
  cases mode with
  | contains => exact Text.occursIn_iff _ _
  | startsWith => exact List.isPrefixOf_iff_prefix
  | endsWith => exact List.isSuffixOf_iff_suffix

theorem holds_onField_iff {operator : Operator} {first : Json}
    {values : List Json} {predicate : Predicate}
    (chosen : onField? field operator first values = some predicate) :
    predicate.Holds scope document ↔
      operator.Accepts first values
        (document.valuesAt (Path.relativeTo field scope)) := by
  cases operator with
  | equal =>
    cases chosen
    exact holds_equalsSome_iff
  | notEqual =>
    cases chosen
    rw [holds_presentWithout_iff, holds_equalsSome_iff, Operator.Accepts]
    refine and_congr_right fun _ => ?_
    simp only [not_exists, not_and, Bool.not_eq_true]
  | contain =>
    cases chosen
    exact holds_text_iff
  | doesNotContain =>
    cases chosen
    rw [holds_presentWithout_iff, holds_text_iff, Operator.Accepts]
    refine and_congr_right fun _ => ?_
    simp only [not_exists, not_and]
  | startWith =>
    cases chosen
    exact holds_text_iff
  | endWith =>
    cases chosen
    exact holds_text_iff
  | greaterThan =>
    cases chosen
    exact holds_compare_iff (by decide)
  | greaterThanOrEqual =>
    cases chosen
    exact holds_compare_iff (by decide)
  | lessThan =>
    cases chosen
    exact holds_compare_iff (by decide)
  | lessThanOrEqual =>
    cases chosen
    exact holds_compare_iff (by decide)
  | specified => cases chosen
  | parentheses => cases chosen
  | or => cases chosen

end Predicate

/-! ## Scopes -/

namespace Schema

open CriteriaQuery.Path

variable {schema : Schema} {path : String}

theorem parted_of_nesting? {nested : NestedPath} (rooted : IsRooted path)
    (found : schema.nesting? path = some nested) :
    ∃ above, path = above ++ "." ++ leaf path ∧ parent? path = some above ∧
    IsRooted above := by
  rcases isSegment_or_eq_append path with ⟨plain, -⟩ | ⟨above, parted, parent⟩
  · rw [nesting?, nesting?_of_isSegment plain] at found
    cases found
  · rw [parted] at rooted
    rcases rooted.of_append_dot with ⟨nonempty, aboveRooted⟩
    exact ⟨above, parted, by rw [parent, if_neg nonempty], aboveRooted⟩

/-- A condition on the field of a path, inside the boundaries of the path, is a
condition on the scoped field in some scope. -/
theorem holds_nested_boundaries_iff (schema : Schema) (rooted : IsRooted path)
    (document : Json) :
    ∃ boundary, relativeTo path boundary = schema.scopedField path ∧
      ∀ inner : Predicate,
        (Predicate.nested (schema.boundaries path) inner).Holds "" document ↔
        ∃ scope ∈ schema.scopes path document, inner.Holds boundary scope := by
  cases found : schema.nesting? path with
  | none =>
    refine ⟨"", ?_, fun inner => ?_⟩
    · simp [scopedField, found, relativeTo_root rooted]
    · simp [boundaries, scopes, found, Predicate.nested]
  | some nested =>
    rcases parted_of_nesting? rooted found with ⟨above, parted, parent, -⟩
    refine ⟨above, ?_, fun inner => ?_⟩
    · rw [scopedField, found, ← relativeTo_append_dot above (leaf path), ← parted]
      rfl
    · have crossed : schema.boundaries path =
          boundariesFrom "" (segments path) := by
        rw [boundaries, found]
        exact boundaries_of_nesting? found
      rw [crossed, Predicate.holds_nested_iff rooted parted (isSegment_leaf path)]
      simp only [scopes, found, parent]

/-- A presence test that is not one of the relation above goes through all
boundaries. -/
theorem presence_eq_nested {key : FieldKey}
    (leaf : ¬ (key.leftJoin = true ∧ (schema.nesting? key.path).isSome = true)) :
    Predicate.presence schema key =
      Predicate.nested (schema.boundaries key.path) (.present key.path) := by
  unfold Predicate.presence boundaries
  cases found : schema.nesting? key.path with
  | none => rfl
  | some nested =>
    have unmarked : key.leftJoin = false := by simpa [found] using leaf
    simp [unmarked]

/-- A presence test of the relation above a nested field leaves out the last
boundary. -/
theorem presence_eq_related {key : FieldKey} {nested : NestedPath}
    {above : String} (marked : key.leftJoin = true)
    (found : schema.nesting? key.path = some nested)
    (parted : key.path = above ++ "." ++ leaf key.path)
    (parent : parent? key.path = some above) :
    Predicate.presence schema key =
      Predicate.nested (boundariesFrom "" (segments above)) (.related above) := by
  have crossed : nested.boundaries.dropLast =
      boundariesFrom "" (segments above) := by
    rw [boundaries_of_nesting? found, parted, segments_append_dot,
      segments_of_isSegment (isSegment_leaf key.path)]
    cases cut : segments above with
    | nil => exact absurd cut (Text.split_ne_nil '.' above)
    | cons first rest =>
      exact dropLast_boundariesFrom "" first rest (leaf key.path)
  simp only [Predicate.presence, found, marked, FieldKey.parent?, parent, crossed]

theorem holds_presence_iff {key : FieldKey} (rooted : IsRooted key.path)
    (document : Json) :
    (Predicate.presence schema key).Holds "" document ↔
    schema.Present key document := by
  unfold Present
  split
  next marked =>
    rcases Option.isSome_iff_exists.mp marked.2 with ⟨nested, found⟩
    rcases parted_of_nesting? rooted found with
      ⟨above, parted, parent, aboveRooted⟩
    rw [presence_eq_related marked.1 found parted parent,
      Predicate.holds_nested_related_iff aboveRooted]
    simp only [scopes, found, parent]
  next leaf =>
    rcases holds_nested_boundaries_iff schema rooted document with
      ⟨boundary, relative, inScope⟩
    rw [presence_eq_nested leaf, inScope]
    simp only [Predicate.Holds, relative, Operator.Accepts]

end Schema

/-! ## Criteria -/

theorem Predicate.exists_onField? {operator : Operator}
    (onField : operator.role = .and) (other : operator ≠ .specified)
    (field : String) (first : Json) (values : List Json) :
    ∃ inner, onField? field operator first values = some inner := by
  cases operator with
  | specified => contradiction
  | parentheses => cases onField
  | or => cases onField
  | _ => exact ⟨_, rfl⟩

namespace Criterion

variable {schema : Schema} {criterion : Criterion} {first : Json}
  {more : List Json}

theorem predicate?_of_specified (chosen : criterion.operator = some .specified)
    (given : criterion.values = first :: more)
    (named : criterion.hasBlankKey = false) :
    criterion.predicate? schema =
      let presence := Predicate.presence schema (schema.parseKey criterion.key)
      some (if criterion.specifiedFlag then presence else .not presence) := by
  simp [predicate?, chosen, given, named]

theorem predicate?_of_onField {operator : Operator}
    (chosen : criterion.operator = some operator) (other : operator ≠ .specified)
    (given : criterion.values = first :: more)
    (named : criterion.hasBlankKey = false) :
    criterion.predicate? schema =
      let path := (schema.parseKey criterion.key).path
      (Predicate.onField? path operator first (first :: more)).map
        (Predicate.nested (schema.boundaries path)) := by
  unfold predicate?
  rw [chosen, given, named]
  cases operator with
  | specified => contradiction
  | _ => rfl

/-- A criterion by itself asks its operator's question in the scopes of its
path. A presence test is asked as a whole, and so is its negation. -/
theorem matches_iff_operator_accepts {operator : Operator}
    (chosen : criterion.operator = some operator)
    (onField : operator.role = .and) (given : criterion.values = first :: more)
    (named : criterion.hasBlankKey = false)
    (rooted : Path.IsRooted (schema.parseKey criterion.key).path)
    (document : Json) :
    Matches schema [criterion] document ↔
      if operator = .specified then
        if criterion.specifiedFlag then
          schema.Present (schema.parseKey criterion.key) document
        else ¬ schema.Present (schema.parseKey criterion.key) document
      else
        ∃ scope ∈ schema.scopes (schema.parseKey criterion.key).path document,
          operator.Accepts first (first :: more)
            (scope.valuesAt
              (schema.scopedField (schema.parseKey criterion.key).path)) := by
  have notOr : criterion.operator ≠ some .or := by
    rintro equal
    cases chosen.symm.trans equal
    cases onField
  have notParentheses : criterion.operator ≠ some .parentheses := by
    rintro equal
    cases chosen.symm.trans equal
    cases onField
  have read : criterion.part schema = _ := part_of_field notOr notParentheses
  by_cases specified : operator = .specified
  · subst operator
    rw [predicate?_of_specified chosen given named] at read
    rw [matches_singleton_iff read, if_pos rfl]
    simp only [Option.map_some, Option.getD_some, Part.Holds]
    split
    · exact Schema.holds_presence_iff rooted document
    · exact not_congr (Schema.holds_presence_iff rooted document)
  · rcases Predicate.exists_onField? onField specified
      (schema.parseKey criterion.key).path first
      (first :: more) with ⟨inner, asked⟩
    rcases Schema.holds_nested_boundaries_iff schema rooted document with
      ⟨boundary, relative, inScope⟩
    rw [predicate?_of_onField chosen specified given named] at read
    simp only [asked, Option.map_some, Option.getD_some] at read
    rw [matches_singleton_iff read, if_neg specified, Part.Holds, inScope]
    simp only [Predicate.holds_onField_iff asked, relative]

/-- One element of an array is enough, although another one has an unwanted
value. -/
theorem matches_notEqual_of_some_element :
    Matches ⟨fun _ => false, '<'⟩
      [⟨" dept.name", some .notEqual, [.string "Math", .null]⟩]
      (.object [("dept", .array [.object [("name", .string "Math")],
        .object [("name", .array [.string "Arts"])]])]) := by
  refine
    (matches_iff_operator_accepts rfl rfl rfl (by decide) (by decide) _).mpr ?_
  rw [if_neg (by decide)]
  refine ⟨.object [("name", .array [.string "Arts"])], .tail _ (.head _),
    ⟨.string "Arts", .head _, rfl⟩, ?_⟩
  intro value found other given
  have arts : value = .string "Arts" := List.mem_singleton.mp found
  subst value
  rcases List.mem_cons.mp given with rfl | given
  · rfl
  · cases List.mem_singleton.mp given
    rfl

end Criterion

end CriteriaQuery
