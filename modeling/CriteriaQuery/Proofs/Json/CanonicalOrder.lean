import CriteriaQuery.Json.Order

namespace CriteriaQuery

/-! The canonical order of JSON values is a total preorder. What is compared
before the items of arrays is a key of three parts, each of them linearly
ordered; arrays with the same key are compared item by item. -/

/-! ## Orders seen from one value -/

section OrdersFrom

variable {α : Type} {order : α → α → Ordering} {first : α}

/-- The laws of a total preorder for the triples that begin with one value. On
trees they are proved value by value, where nothing is known yet of the order
as a whole. -/
structure OrdersFrom (order : α → α → Ordering) (first : α) : Prop where
  swap (second : α) : order first second = (order second first).swap
  lt_trans (second third : α) :
    order first second = .lt → order second third = .lt → order first third = .lt
  congr_left (second third : α) :
    order first second = .eq → order first third = order second third
  congr_right (second third : α) :
    order second third = .eq → order first second = order first third

theorem OrdersFrom.of_transCmp [Std.TransCmp order] (first : α) :
    OrdersFrom order first where
  swap _ := Std.OrientedCmp.eq_swap
  lt_trans _ _ := Std.TransCmp.lt_trans
  congr_left _ _ := Std.TransCmp.congr_left
  congr_right _ _ := Std.TransCmp.congr_right

theorem transCmp_of_ordersFrom (orders : ∀ first, OrdersFrom order first) :
    Std.TransCmp order where
  eq_swap {left right} := (orders left).swap right
  isLE_trans {left middle right} before after := by
    cases first : order left middle with
    | gt => simp [first] at before
    | eq =>
      rw [(orders left).congr_left middle right first]
      exact after
    | lt =>
      cases second : order middle right with
      | gt => simp [second] at after
      | eq =>
        rw [← (orders left).congr_right middle right second, first]
        rfl
      | lt =>
        rw [(orders left).lt_trans middle right first second]
        rfl

/-- One part decides, and where it does not tell the values apart, another part
does. -/
theorem OrdersFrom.then {β γ : Type} {major : α → β} {minor : α → γ}
    {majorOrder : β → β → Ordering} {minorOrder : γ → γ → Ordering}
    (majors : OrdersFrom majorOrder (major first))
    (minors : OrdersFrom minorOrder (minor first)) :
    OrdersFrom (fun left right =>
      (majorOrder (major left) (major right)).then
        (minorOrder (minor left) (minor right)))
      first where
  swap second := by
    rw [majors.swap (major second), minors.swap (minor second),
      Ordering.swap_then]
  lt_trans second third before after := by
    rw [Ordering.then_eq_lt] at before after ⊢
    rcases before with less | ⟨same, less⟩
    · left
      rcases after with lessAfter | ⟨sameAfter, -⟩
      · exact majors.lt_trans _ _ less lessAfter
      · rw [← majors.congr_right _ _ sameAfter, less]
    · rcases after with lessAfter | ⟨sameAfter, lessAfter⟩
      · left
        rw [majors.congr_left _ _ same, lessAfter]
      · right
        constructor
        · rw [majors.congr_left _ _ same, sameAfter]
        · exact minors.lt_trans _ _ less lessAfter
  congr_left second third same := by
    rw [Ordering.then_eq_eq] at same
    rw [majors.congr_left _ _ same.1, minors.congr_left _ _ same.2]
  congr_right second third same := by
    rw [Ordering.then_eq_eq] at same
    rw [majors.congr_right _ _ same.1, minors.congr_right _ _ same.2]

end OrdersFrom

namespace Json

/-! ## The key of a value -/

def numericKey : Json → Int
  | .bool value => if value then 1 else 0
  | .number value => value.key
  | _ => 0

def textualKey : Json → String
  | .string value => value
  | .object members => (Json.object members).text
  | _ => ""

def items : Json → List Json
  | .array items => items
  | _ => []

def keyOrder : Json → Json → Ordering :=
  compareLex (compareOn kindRank)
    (compareLex (compareOn numericKey) (compareOn textualKey))

instance : Std.TransCmp keyOrder :=
  inferInstanceAs (Std.TransCmp (compareLex _ (compareLex _ _)))

theorem canonicalOrder_eq (left right : Json) :
    canonicalOrder left right =
      (keyOrder left right).then (itemsOrder left.items right.items) := by
  cases left <;> cases right
  -- Values of one kind differ in the part of the key that is their own.
  case bool.bool left right => cases left <;> cases right <;> rfl
  case number.number left right =>
    simp [canonicalOrder, strictOrder?, keyOrder, compareLex, compareOn,
      kindRank, numericKey, textualKey, items, itemsOrder]
  case string.string left right =>
    simp [canonicalOrder, strictOrder?, keyOrder, compareLex, compareOn,
      kindRank, numericKey, textualKey, items, itemsOrder]
  case array.array left right =>
    simp [canonicalOrder, keyOrder, compareLex, compareOn, kindRank, numericKey,
      textualKey, items]
  case object.object left right =>
    simp [canonicalOrder, keyOrder, compareLex, compareOn, kindRank, numericKey,
      textualKey, items, itemsOrder]
  -- Values of different kinds differ in rank.
  all_goals rfl

/-! ## The laws -/

theorem ordersFrom_of_items {value : Json}
    (items : OrdersFrom itemsOrder value.items) :
    OrdersFrom canonicalOrder value := by
  have keys : OrdersFrom keyOrder (id value) := .of_transCmp value
  have same : canonicalOrder = fun left right =>
      (keyOrder (id left) (id right)).then
          (itemsOrder left.items right.items) := by
    funext left right
    exact canonicalOrder_eq left right
  rw [same]
  exact keys.then items

theorem itemsOrder_ordersFrom_nil : OrdersFrom itemsOrder [] where
  swap second := by cases second <;> rfl
  lt_trans second third before after := by
    cases second with
    | nil => cases before
    | cons => cases third <;> first | rfl | cases after
  congr_left second third same := by
    cases second with
    | nil => rfl
    | cons => cases same
  congr_right second third same := by
    cases second <;> cases third <;> first | rfl | cases same

theorem itemsOrder_ordersFrom_cons {item : Json} {rest : List Json}
    (head : OrdersFrom canonicalOrder item) (tail : OrdersFrom itemsOrder rest) :
    OrdersFrom itemsOrder (item :: rest) := by
  -- Lists that are not empty are ordered as pairs of an item and the rest.
  have pairs : OrdersFrom (fun left right : Json × List Json =>
      (canonicalOrder left.1 right.1).then (itemsOrder left.2 right.2))
          (item, rest) :=
    OrdersFrom.then head tail
  constructor
  · intro second
    cases second with
    | nil => rfl
    | cons other others => exact pairs.swap (other, others)
  · intro second third before after
    cases second with
    | nil => cases before
    | cons other others =>
      cases third with
      | nil => cases after
      | cons last more =>
        exact pairs.lt_trans (other, others) (last, more) before after
  · intro second third same
    cases second with
    | nil => cases same
    | cons other others =>
      cases third with
      | nil => rfl
      | cons last more => exact pairs.congr_left (other, others) (last, more) same
  · intro second third same
    cases second with
    | nil =>
      cases third with
      | nil => rfl
      | cons => cases same
    | cons other others =>
      cases third with
      | nil => cases same
      | cons last more =>
        exact pairs.congr_right (other, others) (last, more) same

mutual

theorem ordersFrom : ∀ value : Json, OrdersFrom canonicalOrder value
  | .null | .bool _ | .number _ | .string _ | .object _ =>
    ordersFrom_of_items itemsOrder_ordersFrom_nil
  | .array items => ordersFrom_of_items (itemsOrder_ordersFrom items)

theorem itemsOrder_ordersFrom : ∀ items : List Json, OrdersFrom itemsOrder items
  | [] => itemsOrder_ordersFrom_nil
  | item :: rest =>
    itemsOrder_ordersFrom_cons (ordersFrom item) (itemsOrder_ordersFrom rest)

end

instance : Std.TransCmp canonicalOrder := transCmp_of_ordersFrom ordersFrom

end Json

end CriteriaQuery
