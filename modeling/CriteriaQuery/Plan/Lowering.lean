import CriteriaQuery.Criterion.Weight
import CriteriaQuery.Plan.Condition

namespace CriteriaQuery

/-! The predicate of a criteria list. Parentheses are opened first; then every
criterion is a separator, a predicate or nothing, and the parts are combined
group by group. -/

inductive Part where
  | separator
  | nothing
  | predicate (value : Predicate)

namespace Part

def isSeparator : Part → Bool
  | .separator => true
  | _ => false

def predicate? : Part → Option Predicate
  | .predicate value => some value
  | _ => none

def group (parts : List Part) : Predicate :=
  .conjunction (parts.filterMap predicate?)

/-- Some group holds, if there is one. A group whose criteria all contribute
nothing is a group that always holds. -/
def combine (parts : List Part) : Predicate :=
  match runs isSeparator parts with
  | [] => .always
  | groups => .disjunction (groups.map group)

end Part

namespace Criterion

/-- The parts of a criteria list, from left to right. A nested list is read as
a whole before the lists inside it are. -/
def parts (schema : Schema) : List Criterion → Except CriteriaError (List Part)
  | [] => .ok []
  | criterion :: rest =>
    match criterion.operator with
    | some .or => do return .separator :: (← parts schema rest)
    | some .parentheses =>
      match _opened : criterion.nested with
      | .error error => .error error
      | .ok none | .ok (some []) => do return .nothing :: (← parts schema rest)
      | .ok (some (first :: more)) => do
        let inner ← parts schema (first :: more)
        return .predicate (Part.combine inner) :: (← parts schema rest)
    | _ => do
      let part := match criterion.predicate? schema with
        | some predicate => Part.predicate predicate
        | none => Part.nothing
      return part :: (← parts schema rest)
termination_by criteria => totalWeight criteria
decreasing_by
  all_goals rw [totalWeight_cons criterion rest]
  · simp [weight]
  · simp [weight]
  · simp [weight]
  · have := totalWeight_lt_of_nested ‹criterion.nested = _›
    omega
  · simp [weight]
  · simp [weight]

end Criterion

def Predicate.ofCriteria (schema : Schema) (criteria : List Criterion) :
    Except CriteriaError Predicate :=
  (Criterion.parts schema criteria).map Part.combine

theorem Predicate.ofCriteria_nil (schema : Schema) :
    ofCriteria schema [] = .ok .always := by
  rw [ofCriteria, Criterion.parts]
  rfl

end CriteriaQuery
