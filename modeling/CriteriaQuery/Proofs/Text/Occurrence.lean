import CriteriaQuery.Proofs.Criterion.OperatorTable
import Mathlib.Data.List.Infix

namespace CriteriaQuery

/-! Where a needle stands in a text, character by character, and the operators
that ask for it. -/

namespace TextMode

def Finds (mode : TextMode) (needle text : List Char) : Prop :=
  match mode with
  | .contains => needle <:+: text
  | .startsWith => needle <+: text
  | .endsWith => needle <:+ text

instance (mode : TextMode) (needle text : List Char) :
    Decidable (mode.Finds needle text) :=
  match mode with
  | .contains => inferInstanceAs (Decidable (needle <:+: text))
  | .startsWith => inferInstanceAs (Decidable (needle <+: text))
  | .endsWith => inferInstanceAs (Decidable (needle <:+ text))

theorem Finds.isInfix {mode : TextMode} {needle text : List Char}
    (finds : mode.Finds needle text) : needle <:+: text := by
  cases mode with
  | contains => exact finds
  | startsWith => exact List.IsPrefix.isInfix finds
  | endsWith => exact List.IsSuffix.isInfix finds

def operator : TextMode → Operator
  | .contains => .contain
  | .startsWith => .startWith
  | .endsWith => .endWith

theorem onField?_operator (mode : TextMode) (field needle : String)
    (values : List Json) :
    Predicate.onField? field mode.operator (.string needle) values =
      some (.text field mode needle) := by
  cases mode <;> rfl

theorem accepts_operator_iff (mode : TextMode) (needle : String)
    (wanted found : List Json) :
    mode.operator.Accepts (.string needle) wanted found ↔
      ∃ text, Json.string text ∈ found ∧
      mode.Finds (Text.lowered needle) (Text.lowered text) := by
  cases mode <;> rfl

end TextMode

end CriteriaQuery
