import CriteriaQuery.Proofs.Criterion.OperatorTable

namespace CriteriaQuery

/-! The elements of a document in which a condition on a field is asked, one by
one, and the values that each of them has at the field. A document can be made
for every path that has one given value there. -/

namespace Json

/-- The elements that boundaries lead to. Each boundary is seen from the one
before it. -/
def elementsWithin (scope : String) : List String → Json → List Json
  | [], document => [document]
  | boundary :: rest, document =>
    (document.valuesAt (Path.relativeTo boundary scope)).flatMap
      (elementsWithin boundary rest)

def along : List String → Json → Json
  | [], value => value
  | segment :: rest, value => .object [(segment, along rest value)]

def placed (path : String) (value : Json) (scope : String) : List String → Json
  | [] => along (Path.segments (Path.relativeTo path scope)) value
  | boundary :: rest =>
    along (Path.segments (Path.relativeTo boundary scope))
      (placed path value boundary rest)

theorem valuesAlong_along {value : Json} (plain : valuesAlong [] value = [value])
    (segments : List String) :
    valuesAlong segments (along segments value) = [value] := by
  induction segments with
  | nil => exact plain
  | cons segment rest induction =>
    simp [along, valuesAlong, valuesAtKey, elements, get?, Keyed.get?, induction]

theorem valuesAt_along {value : Json} (plain : valuesAlong [] value = [value])
    (path : String) :
    (along (Path.segments path) value).valuesAt path = [value] :=
  valuesAlong_along plain (Path.segments path)

theorem valuesAlong_nil_along {value : Json} {segments : List String}
    (some : segments ≠ []) :
    valuesAlong [] (along segments value) = [along segments value] := by
  cases segments with
  | nil => contradiction
  | cons segment rest => rfl

theorem valuesAlong_nil_placed (path : String) (value : Json) (scope : String)
    (boundaries : List String) :
    valuesAlong [] (placed path value scope boundaries) =
      [placed path value scope boundaries] := by
  cases boundaries with
  | nil => exact valuesAlong_nil_along (Text.split_ne_nil '.' _)
  | cons boundary rest => exact valuesAlong_nil_along (Text.split_ne_nil '.' _)

theorem elementsWithin_placed (path : String) (value : Json) (scope : String)
    (boundaries : List String) :
    elementsWithin scope boundaries (placed path value scope boundaries) =
      [along (Path.segments (Path.relativeTo path (boundaries.getLastD scope)))
        value] := by
  induction boundaries generalizing scope with
  | nil => rfl
  | cons boundary rest induction =>
    rw [placed, elementsWithin,
      valuesAt_along (valuesAlong_nil_placed path value boundary rest),
      List.flatMap_singleton, induction, List.getLastD_cons]

end Json

theorem Predicate.holds_nested_iff_elementsWithin (scope : String)
    (boundaries : List String) (inner : Predicate) (document : Json) :
    (nested boundaries inner).Holds scope document ↔
      ∃ element ∈ document.elementsWithin scope boundaries,
        inner.Holds (boundaries.getLastD scope) element := by
  induction boundaries generalizing scope document with
  | nil => simp [nested, Json.elementsWithin]
  | cons boundary rest induction =>
    change (within boundary (nested rest inner)).Holds scope document ↔ _
    simp only [Holds, induction, Json.elementsWithin, List.mem_flatMap,
      List.getLastD_cons]
    constructor
    · rintro ⟨value, reached, element, inside, holds⟩
      exact ⟨element, ⟨value, reached, inside⟩, holds⟩
    · rintro ⟨element, ⟨value, reached, inside⟩, holds⟩
      exact ⟨value, reached, element, inside, holds⟩

namespace Schema

open CriteriaQuery.Path

def valuesPerElement (schema : Schema) (path : String) (document : Json) :
    List (List Json) :=
  let boundaries := schema.boundaries path
  (document.elementsWithin "" boundaries).map
    (Json.valuesAt (Path.relativeTo path (boundaries.getLastD "")))

theorem valuesPerElement_placed (schema : Schema) (path text : String) :
    schema.valuesPerElement path
      (Json.placed path (.string text) "" (schema.boundaries path)) =
      [[.string text]] := by
  rw [valuesPerElement, Json.elementsWithin_placed, List.map_singleton,
    Json.valuesAt_along rfl]

theorem elementsWithin_boundariesFrom (last first scope : String)
    (rest : List String) (document : Json)
    (plain : ∀ segment ∈ first :: rest, IsSegment segment) :
    document.elementsWithin scope
      (boundariesFrom scope (first :: (rest ++ [last]))) =
      Json.valuesAlong (first :: rest) document := by
  have firstPlain : IsSegment first := plain first List.mem_cons_self
  rw [boundariesFrom_cons_concat, Json.elementsWithin,
    relativeTo_extend firstPlain, Json.valuesAt_of_isSegment firstPlain]
  induction rest generalizing first scope document with
  | nil => exact List.flatMap_singleton' _
  | cons second rest induction =>
    have together := Json.valuesAlong_append first [] second rest document
    have restPlain : ∀ segment ∈ second :: rest, IsSegment segment :=
      fun segment member => plain segment (List.mem_cons_of_mem first member)
    have secondPlain : IsSegment second := restPlain second List.mem_cons_self
    rw [List.nil_append] at together
    rw [together]
    congr 1
    funext value
    rw [List.cons_append, boundariesFrom_cons_concat, Json.elementsWithin,
      relativeTo_extend secondPlain, Json.valuesAt_of_isSegment secondPlain]
    exact induction second (extend scope first) value restPlain secondPlain

theorem getLastD_boundariesFrom (last first scope : String) (rest : List String) :
    (boundariesFrom scope (first :: (rest ++ [last]))).getLastD scope =
      (first :: rest).foldl extend scope := by
  rw [boundariesFrom_concat, List.getLastD_concat]

/-- Taken together, the values at a field are those that its path reaches. -/
theorem flatten_valuesPerElement (schema : Schema) {path : String}
    (rooted : IsRooted path) (document : Json) :
    (schema.valuesPerElement path document).flatten = document.valuesAt path := by
  cases found : schema.nesting? path with
  | none =>
    simp [valuesPerElement, boundaries, found, Json.elementsWithin,
      relativeTo_root rooted]
  | some nested =>
    rcases parted_of_nesting? rooted found with ⟨above, parted, -, aboveRooted⟩
    have whole := foldl_extend_segments aboveRooted
    have crossed : schema.boundaries path =
        boundariesFrom "" (segments path) := by
      rw [boundaries, found]
      exact boundaries_of_nesting? found
    have relative : relativeTo path above = leaf path := by
      rw [← relativeTo_append_dot above (leaf path), ← parted]
    have reached : document.valuesAt path =
        (document.valuesAt above).flatMap (Json.valuesAt (leaf path)) := by
      rw [← Json.valuesAt_append_dot, ← parted]
    have plain : ∀ segment ∈ segments above, IsSegment segment :=
      fun segment member => isSegment_of_mem_segments member
    rw [reached, valuesPerElement, crossed, ← List.flatMap_def,
      Json.valuesAt.eq_def above]
    have cut : segments path = segments above ++ [leaf path] := by
      rw [← segments_of_isSegment (isSegment_leaf path),
        ← segments_append_dot, ← parted]
    rw [cut]
    cases start : segments above with
    | nil => exact absurd start (Text.split_ne_nil '.' above)
    | cons first rest =>
      rw [start] at whole plain
      rw [List.cons_append, getLastD_boundariesFrom,
        elementsWithin_boundariesFrom _ _ _ _ _ plain, whole, relative]

end Schema

end CriteriaQuery
