import CriteriaQuery.Proofs.Json.CanonicalOrder
import CriteriaQuery.Store.Collection

namespace CriteriaQuery

/-! The orders that sorting goes by. Values in canonical order and documents by
sort keys, in any mix of directions, are both totally preordered: of two there
is always one that does not come after the other, and what comes between is
never out of place. -/

section

variable {α : Type} {order : α → α → Ordering}

/-- The laws of a total preorder, for an order that also says when two values
stand side by side. -/
structure TotallyPreorders (order : α → α → Ordering) : Prop where
  refl (value : α) : order value value = .eq
  reversed (left right : α) : order right left = (order left right).swap
  trans (left middle right : α) :
    order left middle ≠ .gt → order middle right ≠ .gt → order left right ≠ .gt

theorem TotallyPreorders.of_transCmp [Std.TransCmp order] :
    TotallyPreorders order where
  refl _ := Std.ReflCmp.compare_self
  reversed _ _ := Std.OrientedCmp.eq_swap
  trans left middle right before after := by
    have first := Ordering.isLE_iff_ne_gt.mpr before
    have second := Ordering.isLE_iff_ne_gt.mpr after
    exact Ordering.isLE_iff_ne_gt.mp (Std.TransCmp.isLE_trans first second)

end

namespace DocumentSort

instance (key : DocumentSort) : Std.TransCmp key.order where
  eq_swap {left right} := by
    unfold order
    split <;> exact Std.OrientedCmp.eq_swap
  isLE_trans {left middle right} before after := by
    have canonical : Std.TransCmp Json.canonicalOrder := inferInstance
    rcases key with ⟨field, direction⟩
    cases direction with
    | ascending => exact canonical.isLE_trans before after
    | descending => exact canonical.isLE_trans after before

instance transCmp_orderAll :
    (keys : List DocumentSort) → Std.TransCmp (orderAll keys)
  | [] => { eq_swap := rfl, isLE_trans := fun _ _ => rfl }
  | key :: rest =>
    have := transCmp_orderAll rest
    inferInstanceAs (Std.TransCmp (compareLex key.order (orderAll rest)))

/-- Values in canonical order are totally preordered, and so are documents by
any sort keys. -/
theorem canonicalOrder_and_orderAll_preorder :
    TotallyPreorders Json.canonicalOrder ∧
      ∀ keys : List DocumentSort, TotallyPreorders (orderAll keys) :=
  ⟨.of_transCmp, fun _ => .of_transCmp⟩

def inOrder (keys : List DocumentSort) (left right : Json) : Bool :=
  orderAll keys left right != .gt

theorem inOrder_eq_isLE (keys : List DocumentSort) (left right : Json) :
    inOrder keys left right = (orderAll keys left right).isLE := by
  unfold inOrder
  cases orderAll keys left right <;> rfl

theorem inOrder_trans (keys : List DocumentSort) (left middle right : Json)
    (before : inOrder keys left middle = true)
    (after : inOrder keys middle right = true) :
    inOrder keys left right = true := by
  rw [inOrder_eq_isLE] at before after ⊢
  exact Std.TransCmp.isLE_trans before after

theorem inOrder_total (keys : List DocumentSort) (left right : Json) :
    (inOrder keys left right || inOrder keys right left) = true := by
  have swapped : orderAll keys left right = (orderAll keys right left).swap :=
    Std.OrientedCmp.eq_swap
  rw [inOrder_eq_isLE, inOrder_eq_isLE, swapped]
  cases orderAll keys right left <;> rfl

end DocumentSort

end CriteriaQuery
