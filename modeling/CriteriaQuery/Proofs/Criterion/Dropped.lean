import CriteriaQuery.Proofs.Criterion.Groups
import Mathlib.Data.List.Induction

namespace CriteriaQuery

/-! A dropped criterion puts no condition on the other criteria of its group,
but it is still a member of the group. Where it is the only one, the group
holds of every document, and taking the criterion away takes this alternative
away. -/

/-! ## Lists joined before they are cut -/

section Pieces

variable {α : Type} (isSeparator : α → Bool)

theorem pieces_eq_cons (items : List α) :
    ∃ first later, pieces isSeparator items = first :: later ∧
      (first = [] ↔ ∀ item ∈ items.head?, isSeparator item = true) := by
  cases items with
  | nil => exact ⟨[], [], rfl, by simp⟩
  | cons item rest =>
    cases separates : isSeparator item with
    | true =>
      exact ⟨[], _, pieces_of_separator separates rest, by simp [separates]⟩
    | false =>
      obtain ⟨piece, more, -, whole⟩ := pieces_of_plain separates rest
      exact ⟨item :: piece, more, whole, by simp [separates]⟩

/-- The last piece of one list and the first piece of the next become one. -/
theorem pieces_append (left : List α) :
    ∃ earlier last, (last = [] ↔ ∀ item ∈ left.getLast?,
      isSeparator item = true) ∧
      ∀ right first later, pieces isSeparator right = first :: later →
        pieces isSeparator (left ++ right) = earlier ++
        (last ++ first) :: later := by
  -- From the right, as an item joins the piece that the items after it begin.
  induction left using List.reverseRecOn with
  | nil => exact ⟨[], [], by simp, fun right first later cut => cut⟩
  | append_singleton front item induction =>
    rcases induction with ⟨earlier, last, -, joined⟩
    by_cases separates : isSeparator item = true
    · refine ⟨earlier ++ [last], [], by simp [separates],
        fun right first later cut => ?_⟩
      have next : pieces isSeparator (item :: right) = [] :: first :: later := by
        simp [pieces, separates, cut]
      simpa using joined (item :: right) [] (first :: later) next
    · refine ⟨earlier, last ++ [item], by simp [separates],
        fun right first later cut => ?_⟩
      have next : pieces isSeparator (item :: right) =
          (item :: first) :: later := by
        simp [pieces, separates, cut]
      simpa using joined (item :: right) (item :: first) later next

end Pieces

/-! ## A part among its neighbours -/

namespace Part

variable {document : Json}

theorem holds_combine_of_pieces {parts : List Part}
    {earlier later : List (List Part)} {middle : List Part}
    (cut : pieces isSeparator parts = earlier ++ middle :: later)
    (nonempty : middle ≠ []) :
    (combine parts).Holds "" document ↔
      (∃ group ∈ earlier ++ later, group ≠ [] ∧
        ∀ part ∈ group, part.Holds document) ∨
      ∀ part ∈ middle, part.Holds document := by
  have member : ∀ group, group ∈ runs isSeparator parts ↔
      (group ∈ earlier ++ later ∧ group ≠ []) ∨ group = middle := by
    intro group
    have shape : group ∈ runs isSeparator parts ↔
        (group ∈ earlier ++ middle :: later) ∧ group ≠ [] := by
      rw [runs, cut, List.mem_filter]
      simp
    rw [shape]
    constructor
    · rintro ⟨inside, other⟩
      rcases List.mem_append.mp inside with inside | inside
      · exact .inl ⟨List.mem_append_left later inside, other⟩
      · rcases List.mem_cons.mp inside with equal | inside
        · exact .inr equal
        · exact .inl ⟨List.mem_append_right earlier inside, other⟩
    · rintro (⟨inside, other⟩ | rfl)
      · refine ⟨?_, other⟩
        rcases List.mem_append.mp inside with inside | inside <;> simp [inside]
      · exact ⟨by simp, nonempty⟩
  have some : runs isSeparator parts ≠ [] :=
    List.ne_nil_of_mem ((member middle).mpr (.inr rfl))
  rw [holds_combine, or_iff_right some]
  simp only [member]
  constructor
  · rintro ⟨group, ⟨inside, other⟩ | rfl, all⟩
    · exact .inl ⟨group, inside, other, all⟩
    · exact .inr all
  · rintro (⟨group, inside, other, all⟩ | all)
    · exact ⟨group, .inl ⟨inside, other⟩, all⟩
    · exact ⟨middle, .inr rfl, all⟩

variable (before after : List Part)

/-- A part that contributes nothing matters only where it is a group by
itself. -/
theorem holds_combine_nothing :
    (combine (before ++ .nothing :: after)).Holds "" document ↔
      ((∀ left ∈ before.getLast?, left.isSeparator = true) ∧
        ∀ right ∈ after.head?, right.isSeparator = true) ∨
      (combine (before ++ after)).Holds "" document := by
  rcases pieces_append isSeparator before with ⟨earlier, last, noLast, joined⟩
  rcases pieces_eq_cons isSeparator after with ⟨first, later, cut, noFirst⟩
  have withNothing : pieces isSeparator (.nothing :: after) =
      (.nothing :: first) :: later := by
    simp [pieces, cut, isSeparator]
  rw [← noLast, ← noFirst,
    holds_combine_of_pieces (joined _ _ _ withNothing) (by simp)]
  by_cases alone : last = [] ∧ first = []
  · simp [alone, Part.Holds]
  · have nonempty : last ++ first ≠ [] := by
      simpa using fun empty => not_and.mp alone empty
    rw [holds_combine_of_pieces (joined _ _ _ cut) nonempty, or_iff_right alone]
    simp [or_imp, forall_and, Part.Holds]

theorem holds_combine_mono {part part' : Part}
    (inside : part.isSeparator = false) (inside' : part'.isSeparator = false)
    (imply : part.Holds document → part'.Holds document)
    (holds : (combine (before ++ part :: after)).Holds "" document) :
    (combine (before ++ part' :: after)).Holds "" document := by
  rcases pieces_append isSeparator before with ⟨earlier, last, -, joined⟩
  rcases pieces_eq_cons isSeparator after with ⟨first, later, cut, -⟩
  have cutBefore : pieces isSeparator (part :: after) =
      (part :: first) :: later := by
    simp [pieces, cut, inside]
  have cutAfter : pieces isSeparator (part' :: after) =
      (part' :: first) :: later := by
    simp [pieces, cut, inside']
  rw [holds_combine_of_pieces (joined _ _ _ cutBefore) (by simp)] at holds
  rw [holds_combine_of_pieces (joined _ _ _ cutAfter) (by simp)]
  refine holds.imp_right fun all other member => ?_
  rcases List.mem_append.mp member with member | member
  · exact all other (List.mem_append_left _ member)
  · rcases List.mem_cons.mp member with rfl | member
    · exact imply (all part (by simp))
    · exact all other (by simp [member])

end Part

/-! ## Criteria lists -/

namespace Criterion

variable {schema : Schema} {document : Json}

theorem parts_append_eq_ok_iff {left right : List Criterion} {found : List Part} :
    parts schema (left ++ right) = .ok found ↔
      ∃ lefts rights, parts schema left = .ok lefts ∧
        parts schema right = .ok rights ∧ found = lefts ++ rights := by
  simp only [parts_eq_ok_iff]
  exact forall₂_append_left_iff

theorem parts_around_eq_ok_iff {before after : List Criterion}
    {criterion : Criterion} {found : List Part} :
    parts schema (before ++ criterion :: after) = .ok found ↔
      ∃ lefts part rights, parts schema before = .ok lefts ∧
        criterion.part schema = .ok part ∧
        parts schema after = .ok rights ∧ found = lefts ++ part :: rights := by
  rw [parts_append_eq_ok_iff]
  simp only [parts_eq_ok_iff, List.forall₂_cons_left_iff]
  constructor
  · rintro ⟨lefts, others, readBefore,
      ⟨part, rights, readPart, readAfter, rfl⟩, whole⟩
    exact ⟨lefts, part, rights, readBefore, readPart, readAfter, whole⟩
  · rintro ⟨lefts, part, rights, readBefore, readPart, readAfter, whole⟩
    exact ⟨lefts, _, readBefore, ⟨part, rights, readPart, readAfter, rfl⟩, whole⟩

theorem lowered_iff_parts {criteria : List Criterion} :
    (∃ predicate, Predicate.ofCriteria schema criteria = .ok predicate) ↔
      ∃ found, parts schema criteria = .ok found := by
  unfold Predicate.ofCriteria
  cases parts schema criteria <;> simp [Except.map]

/-- No other criterion is in the group of a criterion between the two lists. -/
def StandsAlone (before after : List Criterion) : Prop :=
  (∀ left ∈ before.getLast?, left.isOr = true) ∧
    ∀ right ∈ after.head?, right.isOr = true

theorem matches_around_dropped_iff {criterion : Criterion}
    (dropped : criterion.IsDropped) {before after : List Criterion}
    {found : List Part}
    (read : parts schema (before ++ criterion :: after) = .ok found)
    (document : Json) :
    Matches schema (before ++ criterion :: after) document ↔
      StandsAlone before after ∨ Matches schema (before ++ after) document := by
  rcases parts_around_eq_ok_iff.mp read with
    ⟨lefts, part, rights, readBefore, readPart, readAfter, rfl⟩
  have nothing : part = .nothing := by
    rw [part_of_isDropped dropped] at readPart
    cases readPart
    rfl
  have separates : ∀ (criterion : Criterion) (part : Part),
      criterion.part schema = .ok part →
      (criterion.isOr = true ↔ part.isSeparator = true) := by
    intro criterion part read
    rw [isOr_eq_isSeparator read]
  have alone : StandsAlone before after ↔
      (∀ left ∈ lefts.getLast?, left.isSeparator = true) ∧
        ∀ right ∈ rights.head?, right.isSeparator = true :=
    and_congr (forall₂_getLast? separates (parts_eq_ok_iff.mp readBefore))
      (forall₂_head? separates (parts_eq_ok_iff.mp readAfter))
  have without : parts schema (before ++ after) = .ok (lefts ++ rights) :=
    parts_append_eq_ok_iff.mpr ⟨lefts, rights, readBefore, readAfter, rfl⟩
  rw [matches_iff_of_parts read, matches_iff_of_parts without, alone, nothing]
  exact Part.holds_combine_nothing lefts rights

/-! ## Lists inside lists -/

/-- Two criteria lists that differ in one place: one holds `inner` where the
other holds `inner'`, as the whole list or inside parentheses at any depth. -/
inductive Replaced (inner inner' : List Criterion) :
    List Criterion → List Criterion → Prop where
  | whole : Replaced inner inner' inner inner'
  | inside {before after nested nested' : List Criterion}
      {outer outer' : Criterion} (operator : outer.operator = some .parentheses)
      (operator' : outer'.operator = some .parentheses)
      (opened : outer.nested = .ok (some nested))
        (opened' : outer'.nested = .ok (some nested'))
      (replaced : Replaced inner inner' nested nested') :
      Replaced inner inner' (before ++ outer :: after) (before ++ outer' :: after)

theorem part_of_parentheses {criterion : Criterion} {nested : List Criterion}
    {part : Part} (operator : criterion.operator = some .parentheses)
    (opened : criterion.nested = .ok (some nested))
    (read : criterion.part schema = .ok part) :
    part.isSeparator = false ∧
      ∀ document, part.Holds document ↔ Matches schema nested document := by
  cases nested with
  | nil =>
    rw [part_of_unopened operator (.inr opened)] at read
    cases read
    have none : parts schema [] = .ok [] := by simp [parts]
    exact ⟨rfl, fun document =>
      iff_of_true trivial ((matches_iff_of_parts none).mpr trivial)⟩
  | cons first more =>
    constructor
    · cases part with
      | separator => simp [operator_of_part_eq_separator read] at operator
      | _ => rfl
    · intro document
      rw [← matches_parentheses_iff operator opened (by simp),
        matches_singleton_iff read]

theorem part_of_parentheses_isOk {criterion : Criterion} {nested : List Criterion}
    (operator : criterion.operator = some .parentheses)
    (opened : criterion.nested = .ok (some nested)) :
    (∃ part, criterion.part schema = .ok part) ↔
      ∃ predicate, Predicate.ofCriteria schema nested = .ok predicate := by
  cases nested with
  | nil =>
    rw [part_of_unopened operator (.inr opened), lowered_iff_parts]
    simp [parts]
  | cons first more =>
    rw [part_of_opened operator opened (by simp)]
    cases Predicate.ofCriteria schema (first :: more) <;> simp [Except.map]

namespace Replaced

variable {inner inner' whole whole' : List Criterion}

theorem inner_lowered (replaced : Replaced inner inner' whole whole')
    (lowered : ∃ predicate, Predicate.ofCriteria schema whole = .ok predicate) :
    ∃ predicate, Predicate.ofCriteria schema inner = .ok predicate := by
  induction replaced with
  | whole => exact lowered
  | inside operator _ opened _ _ induction =>
    rcases lowered_iff_parts.mp lowered with ⟨found, read⟩
    rcases parts_around_eq_ok_iff.mp read with ⟨_, part, _, -, readPart, -, -⟩
    exact induction ((part_of_parentheses_isOk operator opened).mp
      ⟨part, readPart⟩)

theorem whole_lowered (replaced : Replaced inner inner' whole whole')
    (lowered' : ∃ predicate, Predicate.ofCriteria schema inner' = .ok predicate)
    (lowered : ∃ predicate, Predicate.ofCriteria schema whole = .ok predicate) :
    ∃ predicate, Predicate.ofCriteria schema whole' = .ok predicate := by
  induction replaced with
  | whole => exact lowered'
  | @inside before after nested nested' outer outer' operator operator' opened
      opened' _ induction =>
    rcases lowered_iff_parts.mp lowered with ⟨found, read⟩
    rcases parts_around_eq_ok_iff.mp read with
      ⟨lefts, part, rights, readBefore, readPart, readAfter, -⟩
    have nestedLowered :=
      (part_of_parentheses_isOk operator opened).mp ⟨part, readPart⟩
    rcases (part_of_parentheses_isOk operator' opened').mpr
        (induction nestedLowered) with
      ⟨part', readPart'⟩
    exact lowered_iff_parts.mpr ⟨lefts ++ part' :: rights,
      parts_around_eq_ok_iff.mpr
      ⟨lefts, part', rights, readBefore, readPart', readAfter, rfl⟩⟩

/-- Lists are combined without negation, so what a nested list lets through the
whole list does not keep out. -/
theorem matches_mono (replaced : Replaced inner inner' whole whole')
    (imply : Matches schema inner document → Matches schema inner' document)
    (lowered : ∃ predicate, Predicate.ofCriteria schema whole' = .ok predicate)
    (holds : Matches schema whole document) : Matches schema whole' document := by
  induction replaced with
  | whole => exact imply holds
  | @inside before after nested nested' outer outer' operator operator' opened
      opened' _ induction =>
    rcases lowered_iff_parts.mp lowered with ⟨_, read'⟩
    rcases lowered_iff_parts.mp (holds.imp fun _ found => found.1) with ⟨_, read⟩
    rcases parts_around_eq_ok_iff.mp read with
      ⟨lefts, part, rights, readBefore, readPart, readAfter, rfl⟩
    rcases parts_around_eq_ok_iff.mp read' with
      ⟨lefts', part', rights', readBefore', readPart', readAfter', rfl⟩
    have nestedLowered :=
      (part_of_parentheses_isOk operator' opened').mp ⟨part', readPart'⟩
    have sameBefore : lefts = lefts' := by simpa [readBefore] using readBefore'
    have sameAfter : rights = rights' := by simpa [readAfter] using readAfter'
    subst sameBefore sameAfter
    rcases part_of_parentheses operator opened readPart with
      ⟨inside, opens⟩
    rcases part_of_parentheses operator' opened' readPart' with
      ⟨inside', opens'⟩
    rw [matches_iff_of_parts read] at holds
    rw [matches_iff_of_parts read']
    refine Part.holds_combine_mono lefts rights inside inside'
      (fun holdsPart => ?_) holds
    exact (opens' document).mpr
      (induction nestedLowered ((opens document).mp holdsPart))

theorem swap (replaced : Replaced inner inner' whole whole') :
    Replaced inner' inner whole' whole := by
  induction replaced with
  | whole => exact .whole
  | inside operator operator' opened opened' _ induction =>
    exact .inside operator' operator opened' opened induction

end Replaced

/-- Taking a dropped criterion out of a list never lets more documents through.
It changes nothing unless the criterion is a group by itself; then what is left
holds only where another group does. -/
theorem matches_without_dropped {criterion : Criterion}
    (dropped : criterion.IsDropped) {before after whole without : List Criterion}
    (deleted : Replaced (before ++ criterion :: after)
      (before ++ after) whole without)
    {predicate : Predicate}
    (lowered : Predicate.ofCriteria schema whole = .ok predicate) :
    (∃ remaining, Predicate.ofCriteria schema without = .ok remaining) ∧
    ∀ document,
      (Matches schema (before ++ criterion :: after) document ↔
        StandsAlone before after ∨ Matches schema (before ++ after) document) ∧
      (Matches schema without document → Matches schema whole document) ∧
      ((StandsAlone before after → Matches schema (before ++ after) document) →
        (Matches schema whole document ↔ Matches schema without document)) := by
  have innerLowered := deleted.inner_lowered ⟨predicate, lowered⟩
  rcases lowered_iff_parts.mp innerLowered with ⟨found, read⟩
  have withoutLowered : ∃ remaining, Predicate.ofCriteria schema without =
      .ok remaining := by
    refine deleted.whole_lowered ?_ ⟨predicate, lowered⟩
    rcases parts_around_eq_ok_iff.mp read with
      ⟨lefts, _, rights, readBefore, -, readAfter, -⟩
    exact lowered_iff_parts.mpr
      ⟨_, parts_append_eq_ok_iff.mpr ⟨lefts, rights, readBefore, readAfter, rfl⟩⟩
  refine ⟨withoutLowered, fun document => ?_⟩
  have around := matches_around_dropped_iff dropped read document
  have widens : Matches schema without document → Matches schema whole document :=
    deleted.swap.matches_mono (fun holds => around.mpr (.inr holds))
      ⟨predicate, lowered⟩
  refine ⟨around, widens, fun other => ⟨?_, widens⟩⟩
  refine deleted.matches_mono (fun holds => ?_) withoutLowered
  exact (around.mp holds).elim other id

def unnamed : Criterion := ⟨" ", some .equal, [.bool true]⟩

def orAnn : List Criterion := [.or, ⟨"name", some .equal, [.string "Ann"]⟩]

theorem ofCriteria_unnamed_orAnn :
    Predicate.ofCriteria ⟨fun _ => false, '<'⟩ (unnamed :: orAnn) =
      .ok (.any [.always, .compare "name" .equal (.string "Ann")]) := by
  have read : parts ⟨fun _ => false, '<'⟩ (unnamed :: orAnn) = .ok _ :=
    parts_eq_ok_iff.mpr (.cons rfl (.cons (part_of_or rfl) (.cons rfl .nil)))
  rw [Predicate.ofCriteria, read]
  rfl

theorem ofCriteria_orAnn :
    Predicate.ofCriteria ⟨fun _ => false, '<'⟩ orAnn =
      .ok (.compare "name" .equal (.string "Ann")) := by
  have read : parts ⟨fun _ => false, '<'⟩ orAnn = .ok _ :=
    parts_eq_ok_iff.mpr (.cons (part_of_or rfl) (.cons rfl .nil))
  rw [Predicate.ofCriteria, read]
  rfl

/-- A criterion that contributes nothing lets Bob through, whom the name keeps
out. -/
theorem bob_through_unnamed :
    Matches ⟨fun _ => false, '<'⟩ [parentheses (unnamed :: orAnn)]
      (.object [("name", .string "Bob")]) ∧
    ¬ Matches ⟨fun _ => false, '<'⟩ [parentheses orAnn]
      (.object [("name", .string "Bob")]) := by
  have opened := nested_parentheses (unnamed :: orAnn)
  have opened' := nested_parentheses orAnn
  have nonempty : orAnn ≠ [] := by simp [orAnn]
  have lowered : Predicate.ofCriteria ⟨fun _ => false, '<'⟩
      [parentheses (unnamed :: orAnn)] =
      .ok (.any [.always, .compare "name" .equal (.string "Ann")]) := by
    rw [ofCriteria_singleton, part_of_opened rfl opened (by simp),
      ofCriteria_unnamed_orAnn]
    rfl
  have deleted : Replaced ([] ++ unnamed :: orAnn) ([] ++ orAnn)
      ([] ++ [parentheses (unnamed :: orAnn)]) ([] ++ [parentheses orAnn]) :=
    .inside rfl rfl opened opened' .whole
  have dropped : unnamed.IsDropped := .inl (by decide +kernel)
  have found := (matches_without_dropped dropped deleted lowered).2
    (.object [("name", .string "Bob")])
  constructor
  · rw [matches_parentheses_iff rfl opened (by simp)]
    exact found.1.mpr (.inl ⟨by simp, by simp [orAnn, isOr, Criterion.or]⟩)
  · rw [matches_parentheses_iff rfl opened' nonempty]
    rintro ⟨predicate, read, holds⟩
    rw [ofCriteria_orAnn] at read
    cases read
    revert holds
    decide +kernel

end Criterion

end CriteriaQuery
