import CriteriaQuery.Search.Request
import Mathlib.Data.Set.Basic

namespace CriteriaQuery

/-! Query bodies as a search index reads them. Which elements stand at a path
and which clauses on fields an element satisfies is left open; however it is
settled, the body rendered for a predicate says what the predicate says. -/

/-- A way to read what a query body leaves open. -/
structure SearchReading (Element : Type) where
  /-- The elements at a path, as seen from an enclosing element. -/
  elementsAt : String → Element → Set Element
  /-- The clauses on fields that an element satisfies. -/
  satisfies : Json → Element → Prop

namespace SearchReading

variable {Element : Type} (reading : SearchReading Element)

/-! ## Reading query bodies -/

def fieldKinds : List String :=
  ["match_phrase", "range", "prefix", "wildcard", "exists"]

mutual

def Holds : Json → Element → Prop
  | .object [("match_all", _)], _ => True
  | .object [("bool", .object members)], element =>
    HoldsBool (Keyed.get? "minimum_should_match" members = some (.ofNat 1))
      members element
  | .object [("nested", .object members)], element =>
    ∃ path, Keyed.get? "path" members = some (.string path) ∧
      ∃ inner ∈ reading.elementsAt path element, HoldsQuery members inner
  | .object [(kind, body)], element =>
    kind ∈ fieldKinds ∧ reading.satisfies (.object [(kind, body)]) element
  | _, _ => False

/-- Every member of a `bool` clause allows the element. Its `should` clauses
count when one of them is required. -/
def HoldsBool (required : Prop) : Members → Element → Prop
  | [], _ => True
  | (name, .array clauses) :: rest, element =>
    (name = "must" → HoldsEach clauses element) ∧
      (name = "must_not" → ¬ HoldsSome clauses element) ∧
      (name = "should" → required → HoldsSome clauses element) ∧
      HoldsBool required rest element
  | _ :: rest, element => HoldsBool required rest element

def HoldsQuery : Members → Element → Prop
  | [], _ => False
  | (name, query) :: rest, element =>
    if name = "query" then Holds query element else HoldsQuery rest element

def HoldsEach : List Json → Element → Prop
  | [], _ => True
  | clause :: rest, element => Holds clause element ∧ HoldsEach rest element

def HoldsSome : List Json → Element → Prop
  | [], _ => False
  | clause :: rest, element => Holds clause element ∨ HoldsSome rest element

end

/-! ## Predicates under the same reading -/

mutual

/-- A predicate is true of an element. A condition on a field has the value of
the clause that it renders to. -/
def IsTrue : Predicate → Element → Prop
  | .always, _ => True
  | .all children, element => EachTrue children element
  | .any children, element => SomeTrue children element
  | .not inner, element => ¬ IsTrue inner element
  | .compare field comparison value, element =>
    reading.satisfies (SearchClause.ofComparison field comparison value).toJson
      element
  | .text field mode needle, element =>
    reading.satisfies (SearchClause.ofText field mode needle).toJson element
  | .present field, element =>
    reading.satisfies (SearchClause.present field).toJson element
  | .within path inner, element =>
    ∃ found ∈ reading.elementsAt path element, IsTrue inner found
  | .related path, element => (reading.elementsAt path element).Nonempty

def EachTrue : List Predicate → Element → Prop
  | [], _ => True
  | child :: rest, element => IsTrue child element ∧ EachTrue rest element

def SomeTrue : List Predicate → Element → Prop
  | [], _ => False
  | child :: rest, element => IsTrue child element ∨ SomeTrue rest element

end

variable {reading} {element : Element}

theorem eachTrue_iff {children : List Predicate} :
    reading.EachTrue children element ↔
    ∀ child ∈ children, reading.IsTrue child element := by
  induction children with
  | nil => simp [EachTrue]
  | cons child rest induction => simp [EachTrue, induction]

theorem someTrue_iff {children : List Predicate} :
    reading.SomeTrue children element ↔
    ∃ child ∈ children, reading.IsTrue child element := by
  induction children with
  | nil => simp [SomeTrue]
  | cons child rest induction => simp [SomeTrue, induction]

/-! ## Rendered clauses

Each lemma reads the body of one kind of clause. -/

theorem holdsEach_toJsonAll {clauses : List SearchClause} :
    reading.HoldsEach (SearchClause.toJsonAll clauses) element ↔
      ∀ clause ∈ clauses, reading.Holds clause.toJson element := by
  induction clauses with
  | nil => simp [SearchClause.toJsonAll, HoldsEach]
  | cons clause rest induction =>
    simp [SearchClause.toJsonAll, HoldsEach, induction]

theorem holdsSome_toJsonAll {clauses : List SearchClause} :
    reading.HoldsSome (SearchClause.toJsonAll clauses) element ↔
      ∃ clause ∈ clauses, reading.Holds clause.toJson element := by
  induction clauses with
  | nil => simp [SearchClause.toJsonAll, HoldsSome]
  | cons clause rest induction =>
    simp [SearchClause.toJsonAll, HoldsSome, induction]

theorem holds_matchAll : reading.Holds SearchClause.matchAll.toJson element := by
  rw [SearchClause.toJson, Holds]
  trivial

theorem holds_all {must mustNot : List SearchClause} :
    reading.Holds (SearchClause.all must mustNot).toJson element ↔
      (∀ clause ∈ must, reading.Holds clause.toJson element) ∧
        ∀ clause ∈ mustNot, ¬ reading.Holds clause.toJson element := by
  rw [SearchClause.toJson, Holds]
  cases must <;> cases mustNot <;>
    simp [SearchClause.optionalClauses, SearchClause.toJsonAll, HoldsBool,
      HoldsEach, HoldsSome, holdsEach_toJsonAll, holdsSome_toJsonAll]

theorem holds_any {should : List SearchClause} :
    reading.Holds (SearchClause.any should).toJson element ↔
      ∃ clause ∈ should, reading.Holds clause.toJson element := by
  have one : ∃ number, Json.ofNat 1 = .number number := ⟨_, rfl⟩
  obtain ⟨number, one⟩ := one
  rw [SearchClause.toJson, Holds, one]
  simp [Keyed.get?, HoldsBool, holdsSome_toJsonAll]

theorem holds_nested {path : String} {inner : SearchClause} :
    reading.Holds (SearchClause.nested path inner).toJson element ↔
      ∃ found ∈ reading.elementsAt path element,
      reading.Holds inner.toJson found := by
  rw [SearchClause.toJson, Holds]
  simp [Keyed.get?, HoldsQuery]

theorem holds_ofComparison (field : String) (comparison : Comparison)
    (value : Json) :
    reading.Holds (SearchClause.ofComparison field comparison value).toJson
      element ↔
      reading.satisfies (SearchClause.ofComparison field comparison value).toJson
      element := by
  cases comparison <;>
    simp [SearchClause.ofComparison, SearchClause.toJson, Holds, fieldKinds]

theorem holds_ofText (field : String) (mode : TextMode) (needle : String) :
    reading.Holds (SearchClause.ofText field mode needle).toJson element ↔
      reading.satisfies (SearchClause.ofText field mode needle).toJson
        element := by
  cases mode <;>
    simp [SearchClause.ofText, SearchClause.toJson, SearchClause.ignoringCase,
      Holds, fieldKinds]

theorem holds_present (field : String) :
    reading.Holds (SearchClause.present field).toJson element ↔
      reading.satisfies (SearchClause.present field).toJson element := by
  simp [SearchClause.toJson, Holds, fieldKinds]

/-! ## Rendered predicates -/

theorem holds_ofPredicate_not {inner : Predicate} :
    reading.Holds (SearchClause.ofPredicate (.not inner)).toJson element ↔
      ¬ reading.Holds (SearchClause.ofPredicate inner).toJson element := by
  rw [SearchClause.ofPredicate, holds_all]
  simp

/-- Taking the negated children of a conjunction apart from the others and
stating them without their negation gives back all children. -/
theorem holds_positive_and_negated {children : List Predicate} :
    ((∀ clause ∈ SearchClause.positive children,
        reading.Holds clause.toJson element) ∧
      ∀ clause ∈ SearchClause.negated children,
      ¬ reading.Holds clause.toJson element) ↔
    ∀ child ∈ children,
    reading.Holds (SearchClause.ofPredicate child).toJson element := by
  induction children with
  | nil => simp [SearchClause.positive, SearchClause.negated]
  | cons child rest induction =>
    rw [List.forall_mem_cons, ← induction]
    cases child with
    | not inner =>
      rw [SearchClause.positive, SearchClause.negated, List.forall_mem_cons,
        holds_ofPredicate_not]
      exact and_left_comm
    | _ =>
      rw [SearchClause.positive, SearchClause.negated,
        List.forall_mem_cons, and_assoc]
      all_goals simp

mutual

theorem holds_ofPredicate : ∀ (predicate : Predicate) (element : Element),
    reading.Holds (SearchClause.ofPredicate predicate).toJson element ↔
      reading.IsTrue predicate element
  | .always, element => by
    rw [SearchClause.ofPredicate, IsTrue]
    exact iff_of_true holds_matchAll trivial
  | .all children, element => by
    rw [SearchClause.ofPredicate, holds_all, holds_positive_and_negated,
      IsTrue, eachTrue_iff]
    exact forall_mem_holds_iff children element
  | .any children, element => by
    rw [SearchClause.ofPredicate, holds_any, IsTrue, someTrue_iff]
    exact exists_mem_holds_iff children element
  | .not inner, element => by
    rw [holds_ofPredicate_not, IsTrue, holds_ofPredicate inner element]
  | .compare field comparison value, element => by
    rw [SearchClause.ofPredicate, IsTrue]
    exact holds_ofComparison field comparison value
  | .text field mode needle, element => by
    rw [SearchClause.ofPredicate, IsTrue]
    exact holds_ofText field mode needle
  | .present field, element => by
    rw [SearchClause.ofPredicate, IsTrue]
    exact holds_present field
  | .within path inner, element => by
    rw [SearchClause.ofPredicate, holds_nested, IsTrue]
    exact exists_congr fun found => and_congr_right fun _ =>
      holds_ofPredicate inner found
  | .related path, element => by
    rw [SearchClause.ofPredicate, holds_nested, IsTrue]
    exact exists_congr fun found => and_iff_left holds_matchAll

theorem forall_mem_holds_iff : ∀ (children : List Predicate) (element : Element),
    (∀ child ∈ children,
      reading.Holds (SearchClause.ofPredicate child).toJson element) ↔
      ∀ child ∈ children, reading.IsTrue child element
  | [], element => by simp
  | child :: rest, element => by
    rw [List.forall_mem_cons, List.forall_mem_cons,
      holds_ofPredicate child element, forall_mem_holds_iff rest element]

theorem exists_mem_holds_iff : ∀ (children : List Predicate) (element : Element),
    (∃ clause ∈ SearchClause.ofChildren children,
      reading.Holds clause.toJson element) ↔
      ∃ child ∈ children, reading.IsTrue child element
  | [], element => by simp [SearchClause.ofChildren]
  | child :: rest, element => by
    simp only [SearchClause.ofChildren, List.mem_cons, exists_eq_or_imp]
    rw [holds_ofPredicate child element, exists_mem_holds_iff rest element]

end

end SearchReading

namespace SearchRequest

theorem get?_query_ofPlan (plan : Plan) (index : String) :
    (ofPlan plan index).body.get? "query" =
      some (SearchClause.ofPredicate plan.filter).toJson := by
  unfold ofPlan
  simp only [Json.ofMembers, Json.get?]
  split <;> split <;>
    simp [Keyed.ofList, Keyed.get?_set_self, Keyed.get?_set_of_ne]

/-- The query of a request is true of an element exactly when the filter of the
plan is, whichever elements stand at the paths and whichever clauses on fields
they satisfy. -/
theorem query_holds_iff_filter {Element : Type} (reading : SearchReading Element)
    (plan : Plan) (index : String) (element : Element) :
    ∃ query, (ofPlan plan index).body.get? "query" = some query ∧
      (reading.Holds query element ↔ reading.IsTrue plan.filter element) :=
  ⟨_, get?_query_ofPlan plan index,
    SearchReading.holds_ofPredicate plan.filter element⟩

end SearchRequest

end CriteriaQuery
