import CriteriaQuery.Criterion.Basic

namespace CriteriaQuery

/-! A criterion is read back from its JSON form, and the list in a parentheses
criterion is the list that was put there. -/

theorem Decode.items_any (items : List Json) :
    Decode.items Decode.any items = .ok items := by
  induction items with
  | nil => rfl
  | cons item rest induction =>
    rw [Decode.items, induction]
    rfl

namespace Criterion

theorem ofJson_toJson (criterion : Criterion) :
    ofJson criterion.toJson = .ok criterion := by
  rcases criterion with ⟨key, operator, values⟩
  have operatorRead : decodeOperator
      ((operator.map fun operator => Json.string operator.name).getD .null) =
        .ok operator := by
    cases operator with
    | none => rfl
    | some operator => simp [decodeOperator, Operator.ofName?_name]
  simp [toJson, ofJson, Decode.record, Keyed.get?, ofFields, Decode.orDefault,
    Decode.text, operatorRead, Decode.list, Decode.items_any, bind, Except.bind,
    pure, Except.pure]

theorem nestedItem_toJson (index : Nat) (criterion : Criterion) :
    nestedItem index criterion.toJson = .ok criterion := by
  have read : nestedItem.read index criterion.toJson = .ok criterion := by
    simp only [nestedItem.read, ofJson_toJson]
  unfold nestedItem
  split
  next name given =>
    have known : (Operator.ofName? name).isNone = false := by
      rcases criterion with ⟨key, operator, values⟩
      cases operator with
      | none => simp [toJson, Json.get?, Keyed.get?] at given
      | some operator =>
        have equal : operator.name = name := by
          simpa [toJson, Json.get?, Keyed.get?] using given
        rw [← equal, Operator.ofName?_name]
        rfl
    simpa [known] using read
  next => exact read

theorem nestedItems_toJson (index : Nat) (criteria : List Criterion) :
    nestedItems index (criteria.map toJson) = .ok criteria := by
  induction criteria generalizing index with
  | nil => rfl
  | cons criterion rest induction =>
    rw [List.map_cons, nestedItems, nestedItem_toJson, induction]
    rfl

theorem nested_parentheses (criteria : List Criterion) :
    (parentheses criteria).nested = .ok (some criteria) := by
  simp [nested, parentheses, nestedItems_toJson, Except.map]

end Criterion

end CriteriaQuery
