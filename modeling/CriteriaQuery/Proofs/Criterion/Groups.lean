import CriteriaQuery.Proofs.Criterion.Json
import CriteriaQuery.Proofs.Criterion.Part
import CriteriaQuery.Proofs.Predicate.Truth

namespace CriteriaQuery

/-! A criteria list matches a document when one of its groups does, and a group
does when each of its criteria does by itself. -/

namespace Part

def Holds (document : Json) : Part → Prop
  | .predicate value => value.Holds "" document
  | _ => True

variable {document : Json}

theorem holds_group {parts : List Part} :
    (group parts).Holds "" document ↔ ∀ part ∈ parts, part.Holds document := by
  rw [group, Predicate.holds_conjunction]
  constructor
  · intro all part member
    cases part with
    | predicate value => exact all value (List.mem_filterMap.mpr ⟨_, member, rfl⟩)
    | _ => trivial
  · intro all value member
    rcases List.mem_filterMap.mp member with ⟨part, member, found⟩
    cases part with
    | predicate inner =>
      cases found
      exact all _ member
    | _ => cases found

theorem holds_combine {parts : List Part} :
    (combine parts).Holds "" document ↔
      runs isSeparator parts = [] ∨
        ∃ group ∈ runs isSeparator parts, ∀ part ∈ group,
        part.Holds document := by
  unfold combine
  split
  next none => simp [none, Predicate.Holds]
  next some =>
    rw [Predicate.holds_disjunction, or_iff_right some]
    simp only [List.mem_map, exists_exists_and_eq_and, holds_group]

end Part

namespace Criterion

def Matches (schema : Schema) (criteria : List Criterion) (document : Json) :
    Prop :=
  ∃ predicate, Predicate.ofCriteria schema criteria = .ok predicate ∧
    (DocumentFilter.ofPredicate predicate).holds document = true

variable {schema : Schema} {document : Json}

theorem matches_iff_of_lowered {criteria : List Criterion} {predicate : Predicate}
    (lowered : Predicate.ofCriteria schema criteria = .ok predicate) :
    Matches schema criteria document ↔ predicate.Holds "" document := by
  simp only [Matches, lowered, Except.ok.injEq, exists_eq_left']
  exact DocumentFilter.holds_inside "" predicate document

theorem matches_iff_of_parts {criteria : List Criterion} {found : List Part}
    (read : parts schema criteria = .ok found) :
    Matches schema criteria document ↔ (Part.combine found).Holds "" document :=
  matches_iff_of_lowered (by rw [Predicate.ofCriteria, read]; rfl)

theorem matches_singleton_iff {criterion : Criterion} {part : Part}
    (read : criterion.part schema = .ok part) :
    Matches schema [criterion] document ↔ part.Holds document := by
  have lowered : Predicate.ofCriteria schema [criterion] =
      .ok (Part.combine [part]) := by
    rw [ofCriteria_singleton, read]
    rfl
  rw [matches_iff_of_lowered lowered]
  cases part with
  | predicate value => exact Iff.rfl
  | separator => exact Iff.rfl
  | nothing => exact Iff.rfl

/-! ## Criteria that contribute nothing -/

/-- The criterion has no operator, or is a parentheses criterion that holds no
nested list, or lacks a key or values. A separator is not dropped. -/
def IsDropped (criterion : Criterion) : Prop :=
  match criterion.operator with
  | none => True
  | some .or => False
  | some .parentheses =>
    criterion.nested = .ok none ∨ criterion.nested = .ok (some [])
  | some _ => criterion.hasBlankKey = true ∨ criterion.values = []

theorem part_of_isDropped {criterion : Criterion}
    (dropped : criterion.IsDropped) : criterion.part schema = .ok .nothing := by
  unfold IsDropped at dropped
  split at dropped
  next none => simp [part, none, predicate?]
  next => contradiction
  next operator => exact part_of_unopened operator dropped
  next kind notOr notParentheses operator =>
    have absent : criterion.predicate? schema = none := by
      unfold predicate?
      split
      next first more _ values =>
        have blank : criterion.hasBlankKey = true := by
          rcases dropped with blank | empty
          · exact blank
          · simp [values] at empty
        rw [if_pos blank]
      next => rfl
    rw [part_of_field (by simpa [operator] using notOr)
      (by simpa [operator] using notParentheses), absent]
    rfl

/-! ## Groups -/

theorem isOr_eq_isSeparator {criterion : Criterion} {part : Part}
    (read : criterion.part schema = .ok part) :
    criterion.isOr = part.isSeparator := by
  by_cases separates : criterion.operator = some .or
  · rw [part_of_or separates] at read
    cases read
    simp [isOr, separates, Part.isSeparator]
  · have notOr : criterion.isOr = false := by simpa [isOr] using separates
    rw [notOr]
    cases part with
    | separator => exact absurd (operator_of_part_eq_separator read) separates
    | _ => rfl

/-- The groups of a criteria list and of its parts stand side by side. -/
theorem groups_forall₂ {criteria : List Criterion} {found : List Part}
    (read : parts schema criteria = .ok found) :
    List.Forall₂
      (List.Forall₂ fun criterion part => criterion.part schema = .ok part)
      (groups criteria) (runs Part.isSeparator found) :=
  runs_forall₂ (fun _ _ read => isOr_eq_isSeparator read)
    (parts_eq_ok_iff.mp read)

theorem part_of_mem {criteria : List Criterion} {found : List Part}
    (read : parts schema criteria = .ok found) {criterion : Criterion}
    (member : criterion ∈ criteria) :
    ∃ part, criterion.part schema = .ok part := by
  rcases exists_of_mem_left (parts_eq_ok_iff.mp read) member with
    ⟨part, -, lowered⟩
  exact ⟨part, lowered⟩

theorem matches_parentheses_iff {criterion : Criterion} {nested : List Criterion}
    (operator : criterion.operator = some .parentheses)
    (opened : criterion.nested = .ok (some nested)) (nonempty : nested ≠ []) :
    Matches schema [criterion] document ↔ Matches schema nested document := by
  cases lowered : Predicate.ofCriteria schema nested with
  | error error =>
    have failed : Predicate.ofCriteria schema [criterion] = .error error := by
      rw [ofCriteria_singleton, part_of_opened operator opened nonempty, lowered]
      rfl
    simp [Matches, lowered, failed]
  | ok predicate =>
    have read : criterion.part schema = .ok (.predicate predicate) := by
      rw [part_of_opened operator opened nonempty, lowered]
      rfl
    rw [matches_singleton_iff read, matches_iff_of_lowered lowered]
    rfl

/-- Criteria are alternatives of groups, and a group asks for all of its
criteria. A criterion of a group counts as if it stood alone: parentheses as
the list inside them, and a dropped criterion as no condition. -/
theorem holds_iff_some_group {criteria : List Criterion} {predicate : Predicate}
    (lowered : Predicate.ofCriteria schema criteria = .ok predicate)
    (document : Json) :
    ((DocumentFilter.ofPredicate predicate).holds document = true ↔
      groups criteria = [] ∨
        ∃ group ∈ groups criteria, ∀ criterion ∈ group,
          Matches schema [criterion] document) ∧
    (∀ criterion ∈ criteria, ∃ alone,
      Predicate.ofCriteria schema [criterion] = .ok alone) ∧
    (∀ criterion nested, criterion.operator = some .parentheses →
      criterion.nested = .ok (some nested) → nested ≠ [] →
        (Matches schema [criterion] document ↔ Matches schema nested document)) ∧
    (∀ criterion : Criterion,
      criterion.IsDropped → Matches schema [criterion] document) := by
  have read : ∃ found, parts schema criteria = .ok found := by
    cases read : parts schema criteria with
    | error error => simp [Predicate.ofCriteria, read, Except.map] at lowered
    | ok found => exact ⟨found, rfl⟩
  rcases read with ⟨found, read⟩
  have related := groups_forall₂ read
  refine ⟨?_, ?_, ?_, ?_⟩
  · have whole : (DocumentFilter.ofPredicate predicate).holds document = true ↔
        (Part.combine found).Holds "" document := by
      rw [← matches_iff_of_parts read, matches_iff_of_lowered lowered]
      exact DocumentFilter.holds_inside "" predicate document
    have none : groups criteria = [] ↔ runs Part.isSeparator found = [] := by
      rw [← List.length_eq_zero_iff, related.length_eq, List.length_eq_zero_iff]
    have some : (∃ group ∈ groups criteria,
          ∀ criterion ∈ group, Matches schema [criterion] document) ↔
        ∃ group ∈ runs Part.isSeparator found, ∀ part ∈ group,
        part.Holds document :=
      forall₂_exists_iff (fun criteria parts group =>
        forall₂_forall_iff
          (fun criterion part read => matches_singleton_iff read) group) related
    rw [whole, Part.holds_combine, none, some]
  · intro criterion member
    rcases part_of_mem read member with ⟨part, read⟩
    exact ⟨Part.combine [part], by rw [ofCriteria_singleton, read]; rfl⟩
  · intro criterion nested operator opened nonempty
    exact matches_parentheses_iff operator opened nonempty
  · intro criterion dropped
    exact (matches_singleton_iff (part_of_isDropped dropped)).mpr trivial

def alternatives : List Criterion :=
  [⟨"name", some .equal, [.string "Ann"]⟩, .or,
    parentheses [⟨"active", some .equal, [.bool true]⟩, .or,
      ⟨"dept.name", some .notEqual, [.string "Math"]⟩],
    ⟨" ", some .contain, [.string "x"]⟩]

theorem ofCriteria_alternatives :
    Predicate.ofCriteria ⟨fun _ => false, '<'⟩ alternatives =
      .ok (.any [.compare "name" .equal (.string "Ann"),
        .any [.compare "active" .equal (.bool true),
          .within "dept" (.all [.present "dept.name",
            .not (.compare "dept.name" .equal (.string "Math"))])]]) := by
  have inner : Predicate.ofCriteria ⟨fun _ => false, '<'⟩
      [⟨"active", some .equal, [.bool true]⟩, .or,
        ⟨"dept.name", some .notEqual, [.string "Math"]⟩] =
      .ok (.any [.compare "active" .equal (.bool true),
        .within "dept" (.all [.present "dept.name",
          .not (.compare "dept.name" .equal (.string "Math"))])]) := by
    rw [Predicate.ofCriteria,
      parts_eq_ok_iff.mpr (.cons rfl (.cons (part_of_or rfl) (.cons rfl .nil)))]
    rfl
  have outer : parts ⟨fun _ => false, '<'⟩ alternatives = .ok _ :=
    parts_eq_ok_iff.mpr (.cons rfl (.cons (part_of_or rfl) (.cons (by
      rw [part_of_opened rfl (nested_parentheses _) (by simp), inner]
      rfl) (.cons rfl .nil))))
  rw [Predicate.ofCriteria, outer]
  rfl

theorem some_group_of_alternatives :
    ∃ group ∈ groups alternatives, ∀ criterion ∈ group,
      Matches ⟨fun _ => false, '<'⟩ [criterion]
        (.object [("dept", .object [("name", .string "Arts")]),
          ("name", .string "Bob")]) :=
  ((holds_iff_some_group ofCriteria_alternatives _).1.mp
    (by decide +kernel)).resolve_left
    (by decide +kernel)

end Criterion

end CriteriaQuery
