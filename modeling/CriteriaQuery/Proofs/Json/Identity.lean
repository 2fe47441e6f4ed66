import CriteriaQuery.Proofs.Json.Text

namespace CriteriaQuery

/-! Two JSON values are identical when they have equal structure and their numbers
have the same encoding and the same digits. Then they are one value. -/

namespace Number

/-- The same encoding and the same digits. A sign stands among the digits, so that
the float zeros are two numbers. -/
def identical : Number → Number → Bool
  | .integer left _ _, .integer right _ _ => integerText left == integerText right
  | .float left, .float right => left.text == right.text
  | _, _ => false

theorem identical_iff (left right : Number) :
    left.identical right = true ↔ left = right := by
  cases left with
  | integer left _ _ =>
    cases right with
    | integer right _ _ => simp [identical, integerText_injective.eq_iff]
    | float right => simp [identical]
  | float left =>
    cases right with
    | integer right _ _ => simp [identical]
    | float right => simp [identical, Double.text_injective.eq_iff]

end Number

namespace Json

mutual

def identical : Json → Json → Bool
  | .null, .null => true
  | .bool left, .bool right => left == right
  | .number left, .number right => left.identical right
  | .string left, .string right => left == right
  | .array left, .array right => identicalItems left right
  | .object left, .object right => identicalMembers left right
  | _, _ => false

def identicalItems : List Json → List Json → Bool
  | [], [] => true
  | left :: lefts, right :: rights =>
    left.identical right && identicalItems lefts rights
  | _, _ => false

def identicalMembers : List (String × Json) → List (String × Json) → Bool
  | [], [] => true
  | (leftKey, left) :: lefts, (rightKey, right) :: rights =>
    leftKey == rightKey && left.identical right && identicalMembers lefts rights
  | _, _ => false

end

mutual

theorem identical_iff :
    ∀ left right : Json, left.identical right = true ↔ left = right
  | .null, right => by cases right <;> simp [identical]
  | .bool left, right => by cases right <;> simp [identical]
  | .number left, right => by cases right <;>
      simp [identical, Number.identical_iff]
  | .string left, right => by cases right <;> simp [identical]
  | .array left, right => by
    cases right with
    | array right =>
      simp only [identical, identicalItems_iff left right, array.injEq]
    | _ => simp [identical]
  | .object left, right => by
    cases right with
    | object right =>
      simp only [identical, identicalMembers_iff left right, object.injEq]
    | _ => simp [identical]

theorem identicalItems_iff : ∀ left right : List Json,
    identicalItems left right = true ↔ left = right
  | [], right => by cases right <;> simp [identicalItems]
  | left :: lefts, right => by
    cases right with
    | nil => simp [identicalItems]
    | cons right rights =>
      rw [identicalItems, Bool.and_eq_true, identical_iff left right,
        identicalItems_iff lefts rights, List.cons.injEq]

theorem identicalMembers_iff : ∀ left right : List (String × Json),
    identicalMembers left right = true ↔ left = right
  | [], right => by cases right <;> simp [identicalMembers]
  | (leftKey, left) :: lefts, right => by
    cases right with
    | nil => simp [identicalMembers]
    | cons entry rights =>
      obtain ⟨rightKey, right⟩ := entry
      rw [identicalMembers, Bool.and_eq_true, Bool.and_eq_true, beq_iff_eq,
        identical_iff left right, identicalMembers_iff lefts rights,
        List.cons.injEq, Prod.mk.injEq]

end

instance : DecidableEq Json :=
  fun left right => decidable_of_iff _ (identical_iff left right)

end Json

end CriteriaQuery
