import CriteriaQuery.Plan.Condition
import CriteriaQuery.Proofs.Path.Boundaries
import CriteriaQuery.Proofs.Predicate.Truth

namespace CriteriaQuery

/-! A predicate nested in all boundaries of a path asks for one of the values
that the path above reaches. -/

namespace Json

theorem elements_of_items (items : List Json) :
    itemElements items = items.flatMap elements := by
  induction items with
  | nil => rfl
  | cons item rest induction => rw [itemElements, induction, List.flatMap_cons]

theorem valuesAtKey_array (key : String) (items : List Json) :
    valuesAtKey key (.array items) = items.flatMap (valuesAtKey key) := by
  rw [valuesAtKey, elements, elements_of_items, List.filterMap_flatMap]
  rfl

/-- Arrays at the end of one part of the way are walked through by the next. -/
theorem flatMap_valuesAlong_nil (segment : String) (rest : List String)
    (document : Json) :
    (valuesAlong [] document).flatMap (valuesAlong (segment :: rest)) =
      valuesAlong (segment :: rest) document := by
  cases document with
  | array items =>
    rw [valuesAlong, valuesAlong, valuesAtKey_array, List.flatMap_assoc]
    exact congrArg (List.flatMap · items) (funext fun item => rfl)
  | _ => simp [valuesAlong]

theorem valuesAlong_append (first : String) (left : List String)
    (segment : String) (right : List String) (document : Json) :
    valuesAlong (first :: (left ++ segment :: right)) document =
      (valuesAlong (first :: left) document).flatMap
        (valuesAlong (segment :: right)) := by
  induction left generalizing first document with
  | nil =>
    rw [List.nil_append, valuesAlong, valuesAlong, List.flatMap_assoc]
    exact congrArg (List.flatMap · _)
      (funext fun value => (flatMap_valuesAlong_nil segment right value).symm)
  | cons second left induction =>
    rw [List.cons_append, valuesAlong, valuesAlong, List.flatMap_assoc]
    exact congrArg (List.flatMap · _) (funext fun value => induction second value)

theorem valuesAt_of_isSegment {segment : String} (plain : Path.IsSegment segment)
    (document : Json) :
    document.valuesAt segment = valuesAlong [segment] document := by
  rw [valuesAt, Path.segments_of_isSegment plain]

theorem valuesAt_append_dot (above below : String) (document : Json) :
    document.valuesAt (above ++ "." ++ below) =
      (document.valuesAt above).flatMap (valuesAt below) := by
  unfold valuesAt
  rw [Path.segments_append_dot]
  cases start : Path.segments above with
  | nil => exact absurd start (Text.split_ne_nil '.' above)
  | cons first left =>
    cases rest : Path.segments below with
    | nil => exact absurd rest (Text.split_ne_nil '.' below)
    | cons segment right =>
      exact valuesAlong_append first left segment right document

end Json

namespace Predicate

open CriteriaQuery.Path

theorem holds_nested_extend {first : String} (plain : IsSegment first)
    (scope : String) (boundaries : List String) (inner : Predicate)
    (document : Json) :
    (nested (extend scope first :: boundaries) inner).Holds scope document ↔
      ∃ element ∈ Json.valuesAlong [first] document,
        (nested boundaries inner).Holds (extend scope first) element := by
  rw [nested, List.foldr_cons, Holds, relativeTo_extend plain,
    Json.valuesAt_of_isSegment plain]
  rfl

/-- Going through the boundaries one by one reaches the same values as the
segments do at once. -/
theorem holds_nested_boundariesFrom (inner : Predicate)
    (last first scope : String) (rest : List String) (document : Json)
    (plain : ∀ segment ∈ first :: rest, IsSegment segment) :
    (nested (boundariesFrom scope (first :: (rest ++ [last]))) inner).Holds scope
      document ↔ ∃ element ∈ Json.valuesAlong (first :: rest) document,
        inner.Holds ((first :: rest).foldl extend scope) element := by
  induction rest generalizing first scope document with
  | nil =>
    rw [boundariesFrom_cons_concat, holds_nested_extend (plain first (by simp))]
    rfl
  | cons second rest induction =>
    have later := fun element => induction second (extend scope first) element
      fun segment member => plain segment (List.mem_cons_of_mem first member)
    have together := Json.valuesAlong_append first [] second rest document
    rw [List.nil_append] at together
    rw [boundariesFrom_cons_concat,
      holds_nested_extend (plain first (by simp)), together]
    simp only [List.cons_append, later, List.mem_flatMap]
    constructor
    · rintro ⟨element, reached, value, inside, holds⟩
      exact ⟨value, ⟨element, reached, inside⟩, holds⟩
    · rintro ⟨value, ⟨element, reached, inside⟩, holds⟩
      exact ⟨element, reached, value, inside, holds⟩

/-- Nested in all boundaries of a path, a predicate is asked of the values that
the path above reaches. -/
theorem holds_nested_iff {path above below : String} (rooted : IsRooted path)
    (parted : path = above ++ "." ++ below) (plain : IsSegment below)
    (inner : Predicate) (document : Json) :
    (nested (boundariesFrom "" (segments path)) inner).Holds "" document ↔
      ∃ element ∈ document.valuesAt above, inner.Holds above element := by
  subst path
  rcases rooted.of_append_dot with ⟨-, aboveRooted⟩
  have whole := foldl_extend_segments aboveRooted
  rw [segments_append_dot, segments_of_isSegment plain, Json.valuesAt]
  cases cut : segments above with
  | nil => exact absurd cut (Text.split_ne_nil '.' above)
  | cons first rest =>
    rw [cut] at whole
    rw [List.cons_append, holds_nested_boundariesFrom, whole]
    intro segment member
    exact isSegment_of_mem_segments (cut ▸ member)

/-- A relation is there when the path to it reaches something, whatever
boundaries are crossed on the way. -/
theorem holds_nested_related_iff {path : String} (rooted : IsRooted path)
    (document : Json) :
    (nested (boundariesFrom "" (segments path)) (.related path)).Holds ""
      document ↔ ∃ value ∈ document.valuesAt path, value.isNull = false := by
  rcases isSegment_or_eq_append path with ⟨plain, -⟩ | ⟨above, parted, -⟩
  · rw [segments_of_isSegment plain]
    simp only [boundariesFrom, nested, List.foldr_nil, Holds,
      relativeTo_root rooted]
  · have relative : relativeTo path above = leaf path := by
      rw [← relativeTo_append_dot above (leaf path), ← parted]
    have values : document.valuesAt path = (document.valuesAt above).flatMap
        (Json.valuesAt (leaf path)) := by
      rw [← Json.valuesAt_append_dot, ← parted]
    rw [holds_nested_iff rooted parted (isSegment_leaf path), values]
    simp only [Holds, relative, List.mem_flatMap]
    constructor
    · rintro ⟨element, reached, value, inside, present⟩
      exact ⟨value, ⟨element, reached, inside⟩, present⟩
    · rintro ⟨value, ⟨element, reached, inside⟩, present⟩
      exact ⟨element, reached, value, inside, present⟩

end Predicate

end CriteriaQuery
