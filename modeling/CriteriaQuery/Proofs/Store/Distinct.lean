import CriteriaQuery.Proofs.Json.Text
import CriteriaQuery.Proofs.Store.Paging
import Mathlib.Data.Set.Card

namespace CriteriaQuery

/-! Repetitions are told by text. Since no two values have the same text, what is
left of a list are its values, each of them once. The rows of a distinct query
are then as many as there are different ones among what it keeps of the matching
documents. -/

/-! ## Values without repetitions -/

theorem ncard_setOf_mem {α : Type} {values : List α} (nodup : values.Nodup) :
    {value | value ∈ values}.ncard = values.length := by
  classical
  rw [← List.coe_toFinset, Set.ncard_coe_finset,
    List.toFinset_card_of_nodup nodup]

namespace Json

theorem mem_distinctFrom {seen : List String} {values : List Json}
    {value : Json} :
    value ∈ distinctFrom seen values ↔ value ∈ values ∧ value.text ∉ seen := by
  induction values generalizing seen with
  | nil => simp [distinctFrom]
  | cons first rest induction =>
    simp only [distinctFrom, List.contains_iff_mem]
    split
    next repeated =>
      rw [induction, List.mem_cons]
      constructor
      · intro ⟨member, new⟩
        exact ⟨.inr member, new⟩
      · intro ⟨member, new⟩
        rcases member with rfl | member
        · exact absurd repeated new
        · exact ⟨member, new⟩
    next new =>
      rw [List.mem_cons, List.mem_cons, induction, List.mem_cons, not_or]
      constructor
      · intro kept
        rcases kept with rfl | ⟨member, -, notSeen⟩
        · exact ⟨.inl rfl, new⟩
        · exact ⟨.inr member, notSeen⟩
      · intro ⟨member, notSeen⟩
        rcases member with rfl | member
        · exact .inl rfl
        · by_cases same : value = first
          · exact .inl same
          · exact .inr ⟨member, text_injective.ne same, notSeen⟩

theorem nodup_distinctFrom (seen : List String) (values : List Json) :
    (distinctFrom seen values).Nodup := by
  induction values generalizing seen with
  | nil => exact .nil
  | cons first rest induction =>
    simp only [distinctFrom]
    split
    · exact induction seen
    · apply List.nodup_cons.mpr
      constructor
      · intro member
        exact (mem_distinctFrom.mp member).2 List.mem_cons_self
      · exact induction (first.text :: seen)

theorem distinctFrom_of_nodup {seen : List String} {values : List Json}
    (nodup : values.Nodup) (new : ∀ value ∈ values, value.text ∉ seen) :
    distinctFrom seen values = values := by
  induction values generalizing seen with
  | nil => rfl
  | cons first rest induction =>
    obtain ⟨notMember, restNodup⟩ := List.nodup_cons.mp nodup
    have firstNew := new first List.mem_cons_self
    have restNew : ∀ value ∈ rest, value.text ∉ first.text :: seen := by
      intro value member
      rw [List.mem_cons, not_or]
      constructor
      · intro same
        exact notMember (text_injective same ▸ member)
      · exact new value (List.mem_cons_of_mem first member)
    simp only [distinctFrom, List.contains_iff_mem, firstNew, if_false,
      induction restNodup restNew]

theorem mem_distinct {values : List Json} {value : Json} :
    value ∈ distinct values ↔ value ∈ values := by
  simp [distinct, mem_distinctFrom]

theorem nodup_distinct (values : List Json) : (distinct values).Nodup :=
  nodup_distinctFrom [] values

theorem distinct_of_nodup {values : List Json} (nodup : values.Nodup) :
    distinct values = values :=
  distinctFrom_of_nodup nodup (by simp)

end Json

namespace Collection

variable {documents : Collection} {query : DocumentQuery}

/-! ## Rows without repetitions -/

def found (documents : Collection) (query : DocumentQuery) : Set Json :=
  {document | document ∈ documents ∧ query.filter.holds document = true}

theorem mem_matching {document : Json} :
    document ∈ documents.matching query ↔ document ∈ documents.found query := by
  rw [matching, (List.mergeSort_perm _ _).mem_iff, List.mem_filter]
  rfl

theorem rows_of_distinct (distinct : query.distinct = true) :
    documents.rows query = Json.distinct
      ((documents.matching query).map query.keep) := by
  unfold rows
  rw [distinct]
  rfl

theorem nodup_rows (distinct : query.distinct = true) :
    (documents.rows query).Nodup := by
  rw [rows_of_distinct distinct]
  exact Json.nodup_distinct _

theorem mem_rows {row : Json} :
    row ∈ documents.rows query ↔ row ∈ query.keep '' documents.found query := by
  have kept : row ∈ (documents.matching query).map query.keep ↔
      row ∈ query.keep '' documents.found query := by
    simp only [List.mem_map, mem_matching, Set.mem_image]
  cases distinct : query.distinct with
  | true => rw [rows_of_distinct distinct, Json.mem_distinct, kept]
  | false => rw [rows_of_not_distinct distinct, kept]

theorem setOf_mem_rows (documents : Collection) (query : DocumentQuery) :
    {row | row ∈ documents.rows query} = query.keep '' documents.found query := by
  ext row
  exact mem_rows

theorem finite_found (documents : Collection) (query : DocumentQuery) :
    (documents.found query).Finite :=
  (List.finite_toSet documents).subset fun _ member => member.1

theorem length_rows (distinct : query.distinct = true) :
    (documents.rows query).length =
      (query.keep '' documents.found query).ncard := by
  rw [← setOf_mem_rows, ncard_setOf_mem (nodup_rows distinct)]

end Collection

end CriteriaQuery
