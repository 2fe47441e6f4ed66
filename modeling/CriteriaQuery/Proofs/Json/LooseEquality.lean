import CriteriaQuery.Json.Order

namespace CriteriaQuery

/-! Loosely equal values cannot be told apart by comparing them with a third
one, so loose equality sorts identifiers into classes. -/

namespace Number

theorem same_refl (number : Number) : number.same number = true := by
  cases number <;> simp [same]

theorem same_comm (left right : Number) : left.same right = right.same left := by
  cases left <;> cases right <;> simp [same, Bool.beq_comm]

theorem same_congr_left {left middle : Number} (equal : left.same middle = true)
    (right : Number) : left.same right = middle.same right := by
  cases left <;> cases middle <;> simp [same] at equal <;> cases right <;>
    simp [same, equal]

end Number

namespace Json

mutual

theorem same_refl : ∀ value : Json, value.same value = true
  | .null => rfl
  | .bool value => by simp [same]
  | .number value => value.same_refl
  | .string value => by simp [same]
  | .array items => sameItems_refl items
  | .object members => sameMembers_refl members

theorem sameItems_refl : ∀ items : List Json, sameItems items items = true
  | [] => rfl
  | item :: rest => by
    rw [sameItems, same_refl item, sameItems_refl rest]
    rfl

theorem sameMembers_refl : ∀ members : List (String × Json),
    sameMembers members members = true
  | [] => rfl
  | (key, value) :: rest => by
    rw [sameMembers, same_refl value, sameMembers_refl rest]
    simp

end

mutual

theorem same_comm : ∀ left right : Json, left.same right = right.same left
  | .null, right => by cases right <;> rfl
  | .bool _, right => by cases right <;> first | rfl | exact Bool.beq_comm
  | .number left, right => by cases right <;> first | rfl | exact left.same_comm _
  | .string _, right => by cases right <;> first | rfl | exact Bool.beq_comm
  | .array lefts, right => by cases right <;>
      first | rfl | exact sameItems_comm lefts _
  | .object lefts, right => by cases right <;>
      first | rfl | exact sameMembers_comm lefts _

theorem sameItems_comm : ∀ lefts rights : List Json,
    sameItems lefts rights = sameItems rights lefts
  | [], [] => rfl
  | [], _ :: _ => rfl
  | _ :: _, [] => rfl
  | left :: lefts, right :: rights => by
    rw [sameItems, sameItems, same_comm left right, sameItems_comm lefts rights]

theorem sameMembers_comm : ∀ lefts rights : List (String × Json),
    sameMembers lefts rights = sameMembers rights lefts
  | [], [] => rfl
  | [], _ :: _ => rfl
  | _ :: _, [] => rfl
  | (leftKey, left) :: lefts, (rightKey, right) :: rights => by
    rw [sameMembers, sameMembers, same_comm left right,
      sameMembers_comm lefts rights, Bool.beq_comm]

end

mutual

theorem same_congr_left : ∀ left middle : Json, left.same middle = true →
    ∀ right, left.same right = middle.same right
  | .null, middle, equal, right => by
    cases middle <;> first | rfl | cases equal
  | .bool left, middle, equal, right => by
    cases middle with
    | bool middle =>
      have equal : left = middle := by simpa [same] using equal
      rw [equal]
    | _ => cases equal
  | .number left, middle, equal, right => by
    cases middle with
    | number middle =>
      cases right with
      | number right => exact Number.same_congr_left equal right
      | _ => rfl
    | _ => cases equal
  | .string left, middle, equal, right => by
    cases middle with
    | string middle =>
      have equal : left = middle := by simpa [same] using equal
      rw [equal]
    | _ => cases equal
  | .array lefts, middle, equal, right => by
    cases middle with
    | array middles =>
      cases right with
      | array rights => exact sameItems_congr_left lefts middles equal rights
      | _ => rfl
    | _ => cases equal
  | .object lefts, middle, equal, right => by
    cases middle with
    | object middles =>
      cases right with
      | object rights => exact sameMembers_congr_left lefts middles equal rights
      | _ => rfl
    | _ => cases equal

theorem sameItems_congr_left : ∀ lefts middles : List Json,
    sameItems lefts middles = true →
    ∀ rights, sameItems lefts rights = sameItems middles rights
  | [], [], _, _ => rfl
  | [], _ :: _, equal, _ => by cases equal
  | _ :: _, [], equal, _ => by cases equal
  | left :: lefts, middle :: middles, equal, rights => by
    rw [sameItems, Bool.and_eq_true] at equal
    cases rights with
    | nil => rfl
    | cons right rights =>
      rw [sameItems, sameItems, same_congr_left left middle equal.1 right,
        sameItems_congr_left lefts middles equal.2 rights]

theorem sameMembers_congr_left : ∀ lefts middles : List (String × Json),
    sameMembers lefts middles = true →
      ∀ rights, sameMembers lefts rights = sameMembers middles rights
  | [], [], _, _ => rfl
  | [], _ :: _, equal, _ => by cases equal
  | _ :: _, [], equal, _ => by cases equal
  | (leftKey, left) :: lefts, (middleKey, middle) :: middles, equal, rights => by
    rw [sameMembers, Bool.and_eq_true, Bool.and_eq_true, beq_iff_eq] at equal
    rcases equal with ⟨⟨rfl, equal⟩, more⟩
    cases rights with
    | nil => rfl
    | cons right rights =>
      rcases right with ⟨rightKey, right⟩
      rw [sameMembers, sameMembers, same_congr_left left middle equal right,
        sameMembers_congr_left lefts middles more rights]

end

/-! ## Loose equality -/

theorem looselyEqual_bool (left right : Bool) :
    (bool left).looselyEqual (bool right) = (left == right) := by
  rw [Bool.eq_iff_iff]
  simp [looselyEqual, strictOrder?]

theorem looselyEqual_number (left right : Number) :
    (number left).looselyEqual (number right) = (left.key == right.key) := by
  rw [Bool.eq_iff_iff]
  simp [looselyEqual, strictOrder?]

theorem looselyEqual_string (left right : String) :
    (string left).looselyEqual (string right) = (left == right) := by
  rw [Bool.eq_iff_iff]
  simp [looselyEqual, strictOrder?]

theorem looselyEqual_refl (value : Json) : value.looselyEqual value = true := by
  cases value with
  | array items => exact sameItems_refl items
  | object members => exact sameMembers_refl members
  | _ => simp [looselyEqual, strictOrder?]

theorem looselyEqual_comm (left right : Json) :
    left.looselyEqual right = right.looselyEqual left := by
  cases left <;> cases right
  case bool.bool => rw [looselyEqual_bool, looselyEqual_bool, Bool.beq_comm]
  case number.number =>
    rw [looselyEqual_number, looselyEqual_number, Bool.beq_comm]
  case string.string =>
    rw [looselyEqual_string, looselyEqual_string, Bool.beq_comm]
  case array.array lefts rights => exact sameItems_comm lefts rights
  case object.object lefts rights => exact sameMembers_comm lefts rights
  all_goals rfl

theorem looselyEqual_congr_left {left middle : Json}
    (equal : left.looselyEqual middle = true) (right : Json) :
    left.looselyEqual right = middle.looselyEqual right := by
  cases left <;> cases middle
  case null.null => rfl
  case bool.bool left middle =>
    rw [looselyEqual_bool, beq_iff_eq] at equal
    rw [equal]
  case number.number left middle =>
    rw [looselyEqual_number, beq_iff_eq] at equal
    cases right with
    | number right => rw [looselyEqual_number, looselyEqual_number, equal]
    | _ => rfl
  case string.string left middle =>
    rw [looselyEqual_string, beq_iff_eq] at equal
    rw [equal]
  case array.array lefts middles =>
    cases right with
    | array rights => exact sameItems_congr_left lefts middles equal rights
    | _ => rfl
  case object.object lefts middles =>
    cases right with
    | object rights => exact sameMembers_congr_left lefts middles equal rights
    | _ => rfl
  all_goals cases equal

theorem looselyEqual_congr_right {middle right : Json}
    (equal : middle.looselyEqual right = true) (left : Json) :
    left.looselyEqual middle = left.looselyEqual right := by
  rw [looselyEqual_comm left middle, looselyEqual_congr_left equal,
    looselyEqual_comm]

end Json

end CriteriaQuery
