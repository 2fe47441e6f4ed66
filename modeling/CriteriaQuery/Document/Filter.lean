import CriteriaQuery.Json.Basic
import CriteriaQuery.Json.Order
import CriteriaQuery.Path.Basic
import CriteriaQuery.Predicate.Basic
import CriteriaQuery.Text.LowerCase

namespace CriteriaQuery

/-! Filters over documents, and what they mean on documents in memory. Inside a
boundary the fields of a filter are relative to it. -/

/-! ## Values at paths

The values that a dotted path reaches in a document. Arrays are walked
through at every step of the path, and an array at its end gives its items. -/

namespace Json

mutual

def elements : Json → List Json
  | .array items => itemElements items
  | value => [value]

def itemElements : List Json → List Json
  | [] => []
  | item :: rest => item.elements ++ itemElements rest

end

def valuesAtKey (key : String) (document : Json) : List Json :=
  document.elements.filterMap (get? key)

def valuesAlong : List String → Json → List Json
  | [], .array items => items
  | [], value => [value]
  | segment :: rest, document =>
    (document.valuesAtKey segment).flatMap (valuesAlong rest)

def valuesAt (path : String) (document : Json) : List Json :=
  valuesAlong (Path.segments path) document

end Json

/-! ## Filters -/

inductive DocumentFilter where
  | always
  | all (children : List DocumentFilter)
  | any (children : List DocumentFilter)
  | none (children : List DocumentFilter)
  | compare (field : String) (comparison : Comparison) (value : Json)
  | text (field : String) (mode : TextMode) (needle : String)
  | present (field : String)
  /-- The path leads to something else than null and the empty array. -/
  | nonEmpty (path : String)
  | element (path : String) (inner : DocumentFilter)
  deriving Repr

def Comparison.accepts : Comparison → Ordering → Bool
  | .equal, order => order == .eq
  | .greater, order => order == .gt
  | .greaterOrEqual, order => order != .lt
  | .less, order => order == .lt
  | .lessOrEqual, order => order != .gt

/-- A value found in a document compares with the value of a filter. Values
that are not ordered can still be equal. -/
def Comparison.holds (comparison : Comparison) (found wanted : Json) : Bool :=
  match comparison with
  | .equal => Json.looselyEqual found wanted
  | comparison => (Json.strictOrder? found wanted).any comparison.accepts

def TextMode.holds (mode : TextMode) (text needle : String) : Bool :=
  let text := Text.lowerCase text
  let needle := Text.lowerCase needle
  match mode with
  | .contains => Text.contains text needle
  | .startsWith => Text.beginsWith text needle
  | .endsWith => Text.endsWith text needle

namespace DocumentFilter

/-- All children hold. Inner conjunctions are spread out and filters that
always hold are left out. -/
def conjunction (children : List DocumentFilter) : DocumentFilter :=
  let spread := children.flatMap fun
    | .all inner => inner
    | .always => []
    | child => [child]
  match spread with
  | [] => .always
  | [child] => child
  | children => .all children

mutual

def inside (scope : String) : Predicate → DocumentFilter
  | .always => .always
  | .all children => conjunction (insideAll scope children)
  | .any children => .any (insideAll scope children)
  | .not inner => .none [inside scope inner]
  | .compare field comparison value =>
    .compare (Path.relativeTo field scope) comparison value
  | .text field mode needle => .text (Path.relativeTo field scope) mode needle
  | .present field => .present (Path.relativeTo field scope)
  | .within path inner =>
    .element (Path.relativeTo path scope) (inside path inner)
  | .related path => .nonEmpty (Path.relativeTo path scope)

def insideAll (scope : String) : List Predicate → List DocumentFilter
  | [] => []
  | child :: rest => inside scope child :: insideAll scope rest

end

def ofPredicate (predicate : Predicate) : DocumentFilter := inside "" predicate

/-! ## Meaning -/

mutual

/-- The filter holds of a document. A condition on a path holds when it holds of
some value that the path reaches. -/
def holds : DocumentFilter → Json → Bool
  | .always, _ => true
  | .all children, document => holdsAll children document
  | .any children, document => holdsAny children document
  | .none children, document => !holdsAny children document
  | .compare field comparison value, document =>
    (document.valuesAt field).any fun found => comparison.holds found value
  | .text field mode needle, document =>
    (document.valuesAt field).any fun
      | .string found => mode.holds found needle
      | _ => false
  | .present path, document | .nonEmpty path, document =>
    (document.valuesAt path).any fun found => !found.isNull
  | .element path inner, document =>
    (document.valuesAt path).any fun element => holds inner element

def holdsAll : List DocumentFilter → Json → Bool
  | [], _ => true
  | child :: rest, document => holds child document && holdsAll rest document

def holdsAny : List DocumentFilter → Json → Bool
  | [], _ => false
  | child :: rest, document => holds child document || holdsAny rest document

end

end DocumentFilter

end CriteriaQuery
