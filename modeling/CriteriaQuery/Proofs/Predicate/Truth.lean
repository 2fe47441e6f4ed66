import CriteriaQuery.Document.Filter

namespace CriteriaQuery

/-! The truth of a predicate on a document, by recursion on the predicate. The
document stands at a boundary, and fields are read relative to it. The filter
made of a predicate holds of a document exactly when the predicate is true. -/

namespace Predicate

mutual

def Holds (scope : String) : Predicate → Json → Prop
  | .always, _ => True
  | .all children, document => HoldsAll scope children document
  | .any children, document => HoldsAny scope children document
  | .not inner, document => ¬ Holds scope inner document
  | .compare field comparison value, document =>
    ∃ found ∈ document.valuesAt (Path.relativeTo field scope),
      comparison.holds found value = true
  | .text field mode needle, document =>
    ∃ text, Json.string text ∈ document.valuesAt (Path.relativeTo field scope) ∧
      mode.holds text needle = true
  | .present field, document =>
    ∃ found ∈ document.valuesAt (Path.relativeTo field scope),
      found.isNull = false
  | .within path inner, document =>
    ∃ element ∈ document.valuesAt (Path.relativeTo path scope),
      Holds path inner element
  | .related path, document =>
    ∃ found ∈ document.valuesAt (Path.relativeTo path scope), found.isNull = false

def HoldsAll (scope : String) : List Predicate → Json → Prop
  | [], _ => True
  | child :: rest, document =>
    Holds scope child document ∧ HoldsAll scope rest document

def HoldsAny (scope : String) : List Predicate → Json → Prop
  | [], _ => False
  | child :: rest, document =>
    Holds scope child document ∨ HoldsAny scope rest document

end

variable {scope : String} {document : Json}

theorem holdsAll_iff {children : List Predicate} :
    HoldsAll scope children document ↔
    ∀ child ∈ children, child.Holds scope document := by
  induction children with
  | nil => simp [HoldsAll]
  | cons child rest induction => simp [HoldsAll, induction]

theorem holdsAny_iff {children : List Predicate} :
    HoldsAny scope children document ↔
    ∃ child ∈ children, child.Holds scope document := by
  induction children with
  | nil => simp [HoldsAny]
  | cons child rest induction => simp [HoldsAny, induction]

/-! ## Simplifying constructors -/

theorem holds_conjunction {children : List Predicate} :
    (conjunction children).Holds scope document ↔
      ∀ child ∈ children, child.Holds scope document := by
  match children with
  | [] => simp [conjunction, Holds]
  | [child] => simp [conjunction]
  | first :: second :: rest => exact holdsAll_iff

theorem holds_disjunction {children : List Predicate} :
    (disjunction children).Holds scope document ↔
      ∃ child ∈ children, child.Holds scope document := by
  match children with
  | [] => simp [disjunction, Holds, HoldsAny]
  | [child] => simp [disjunction]
  | first :: second :: rest => exact holdsAny_iff

end Predicate

/-! ## Filters of predicates -/

namespace DocumentFilter

theorem holdsAll_iff {children : List DocumentFilter} {document : Json} :
    holdsAll children document = true ↔
    ∀ child ∈ children, child.holds document = true := by
  induction children with
  | nil => simp [holdsAll]
  | cons child rest induction => simp [holdsAll, induction]

theorem holdsAny_iff {children : List DocumentFilter} {document : Json} :
    holdsAny children document = true ↔
    ∃ child ∈ children, child.holds document = true := by
  induction children with
  | nil => simp [holdsAny]
  | cons child rest induction => simp [holdsAny, induction]

def conjuncts : DocumentFilter → List DocumentFilter
  | .all inner => inner
  | .always => []
  | child => [child]

theorem holds_conjuncts {child : DocumentFilter} {document : Json} :
    (∀ part ∈ child.conjuncts, part.holds document = true) ↔
    child.holds document = true := by
  cases child with
  | all inner => rw [conjuncts, holds, holdsAll_iff]
  | always => simp [conjuncts, holds]
  | _ => simp [conjuncts]

theorem conjunction_eq (children : List DocumentFilter) :
    conjunction children =
      match children.flatMap conjuncts with
      | [] => .always
      | [part] => part
      | parts => .all parts := rfl

/-- Spreading out inner conjunctions and leaving out filters that always hold
does not change when all children hold. -/
theorem holds_conjunction {children : List DocumentFilter} {document : Json} :
    (conjunction children).holds document = true ↔
      ∀ child ∈ children, child.holds document = true := by
  have parts : (conjunction children).holds document = true ↔
      ∀ part ∈ children.flatMap conjuncts, part.holds document = true := by
    rw [conjunction_eq]
    split
    next none => simp [none, holds]
    next part single => simp [single]
    next parts _ _ => rw [holds, holdsAll_iff]
  rw [parts]
  constructor
  · intro all child member
    exact holds_conjuncts.mp fun part inside =>
      all part (List.mem_flatMap.mpr ⟨child, member, inside⟩)
  · intro all part member
    rcases List.mem_flatMap.mp member with ⟨child, member, inside⟩
    exact holds_conjuncts.mpr (all child member) part inside

mutual

theorem holds_inside (scope : String) :
    ∀ (predicate : Predicate) (document : Json),
    (inside scope predicate).holds document = true ↔
    predicate.Holds scope document
  | .always, document => by simp [inside, holds, Predicate.Holds]
  | .all children, document => by
    rw [inside, holds_conjunction, Predicate.Holds, Predicate.holdsAll_iff]
    exact forall_mem_insideAll scope children document
  | .any children, document => by
    rw [inside, holds, holdsAny_iff, Predicate.Holds, Predicate.holdsAny_iff]
    exact exists_mem_insideAll scope children document
  | .not inner, document => by
    rw [inside, holds, Predicate.Holds, ← holds_inside scope inner document]
    simp [holdsAny]
  | .compare field comparison value, document => by
    rw [inside, holds, Predicate.Holds, List.any_eq_true]
  | .text field mode needle, document => by
    rw [inside, holds, Predicate.Holds, List.any_eq_true]
    constructor
    · rintro ⟨found, member, accepted⟩
      cases found with
      | string text => exact ⟨text, member, accepted⟩
      | _ => simp at accepted
    · rintro ⟨text, member, accepted⟩
      exact ⟨.string text, member, accepted⟩
  | .present field, document => by
    rw [inside, holds, Predicate.Holds, List.any_eq_true]
    simp
  | .within path inner, document => by
    rw [inside, holds, Predicate.Holds, List.any_eq_true]
    exact exists_congr fun element =>
      and_congr_right fun _ => holds_inside path inner element
  | .related path, document => by
    rw [inside, holds, Predicate.Holds, List.any_eq_true]
    simp

theorem forall_mem_insideAll (scope : String) :
    ∀ (children : List Predicate) (document : Json),
      (∀ filter ∈ insideAll scope children, filter.holds document = true) ↔
        ∀ child ∈ children, child.Holds scope document
  | [], document => by simp [insideAll]
  | child :: rest, document => by
    simp [insideAll, holds_inside scope child document,
      forall_mem_insideAll scope rest document]

theorem exists_mem_insideAll (scope : String) :
    ∀ (children : List Predicate) (document : Json),
      (∃ filter ∈ insideAll scope children, filter.holds document = true) ↔
        ∃ child ∈ children, child.Holds scope document
  | [], document => by simp [insideAll]
  | child :: rest, document => by
    simp [insideAll, holds_inside scope child document,
      exists_mem_insideAll scope rest document]

end

/-- The filter of a predicate holds of a document exactly when the predicate is
true of it at the root, the boundary with the empty path. -/
theorem ofPredicate_holds_iff (predicate : Predicate) (document : Json) :
    (ofPredicate predicate).holds document = true ↔ predicate.Holds "" document :=
  holds_inside "" predicate document

end DocumentFilter

end CriteriaQuery
