import CriteriaQuery.Document.Query
import CriteriaQuery.Proofs.Criterion.OperatorTable

namespace CriteriaQuery

/-! A criterion that one value can satisfy does not depend on which objects are
embedded: going through the boundaries of its path one by one and walking down
the whole path at once reach the same values. -/

def Operator.isPositive : Operator → Bool
  | .equal | .contain | .startWith | .endWith | .greaterThan
  | .greaterThanOrEqual | .lessThan
  | .lessThanOrEqual | .specified => true
  | .notEqual | .doesNotContain | .parentheses | .or => false

theorem Operator.accepts_iff_of_isPositive {operator : Operator}
    (positive : operator.isPositive = true) {first : Json}
    {wanted found : List Json} :
    operator.Accepts first wanted found ↔
      ∃ value ∈ found, operator.Accepts first wanted [value] := by
  cases operator with
  | notEqual | doesNotContain | parentheses | or => cases positive
  | contain | startWith | endWith =>
    simp only [Accepts, List.mem_singleton]
    constructor
    · rintro ⟨text, member, holds⟩
      exact ⟨.string text, member, text, rfl, holds⟩
    · rintro ⟨value, member, text, rfl, holds⟩
      exact ⟨text, member, holds⟩
  | _ => simp only [Accepts, List.mem_singleton, exists_eq_left]

namespace Schema

variable {schema : Schema} {path : String}

/-- The scopes of a path have the values at their field that the path reaches. -/
theorem flatMap_scopes (rooted : Path.IsRooted path) (document : Json) :
    (schema.scopes path document).flatMap
      (Json.valuesAt (schema.scopedField path)) = document.valuesAt path := by
  cases found : schema.nesting? path with
  | none => simp [scopes, scopedField, found]
  | some nested =>
    obtain ⟨above, parted, parent, -⟩ := parted_of_nesting? rooted found
    have reached := Json.valuesAt_append_dot above (Path.leaf path) document
    rw [← parted] at reached
    simp only [scopes, scopedField, found, parent, Option.isSome_some,
      if_true, reached]

/-- A positive operator is content with some scope of a path exactly if it is
content with all values that the path reaches. -/
theorem exists_scope_accepted_iff {operator : Operator}
    (positive : operator.isPositive = true) (rooted : Path.IsRooted path)
    {first : Json} {wanted : List Json} (document : Json) :
    (∃ scope ∈ schema.scopes path document,
      operator.Accepts first wanted (scope.valuesAt (schema.scopedField path))) ↔
      operator.Accepts first wanted (document.valuesAt path) := by
  rw [← flatMap_scopes rooted document,
    Operator.accepts_iff_of_isPositive positive]
  simp only [List.mem_flatMap]
  constructor
  · rintro ⟨scope, member, accepted⟩
    obtain ⟨value, found, holds⟩ :=
      (Operator.accepts_iff_of_isPositive positive).mp accepted
    exact ⟨value, ⟨scope, member, found⟩, holds⟩
  · rintro ⟨value, ⟨scope, member, found⟩, holds⟩
    exact ⟨scope, member,
      (Operator.accepts_iff_of_isPositive positive).mpr ⟨value, found, holds⟩⟩

end Schema

namespace Criterion

variable {schema : Schema} {criterion : Criterion} {operator : Operator}
  {first : Json} {more : List Json}

/-- The operator of a criterion is content with the values that the path
reaches; for an absence test it must not be. -/
def IsContentWith (criterion : Criterion) (operator : Operator) (first : Json)
    (found : List Json) : Prop :=
  if operator = .specified ∧ criterion.specifiedFlag = false then
    ¬ operator.Accepts first criterion.values found
  else operator.Accepts first criterion.values found

theorem exists_predicate?_of_isPositive
    (chosen : criterion.operator = some operator)
    (positive : operator.isPositive = true)
    (given : criterion.values = first :: more)
    (named : criterion.hasBlankKey = false)
    (rooted : Path.IsRooted (schema.parseKey criterion.key).path)
    (unmarked : operator = .specified →
      (schema.parseKey criterion.key).leftJoin = false) :
    ∃ predicate, criterion.predicate? schema = some predicate ∧ ∀ document,
      predicate.Holds "" document ↔ criterion.IsContentWith operator first
        (document.valuesAt (schema.parseKey criterion.key).path) := by
  have reached (document : Json) :=
    @Schema.exists_scope_accepted_iff schema _ _ positive rooted
      first criterion.values document
  by_cases specified : operator = .specified
  · subst specified
    have present (document : Json) :
        (Predicate.presence schema (schema.parseKey criterion.key)).Holds ""
          document ↔ Operator.specified.Accepts first criterion.values
            (document.valuesAt (schema.parseKey criterion.key).path) := by
      rw [Schema.holds_presence_iff rooted, Schema.Present,
        if_neg (by simp [unmarked rfl]), ← reached]
      rfl
    refine ⟨_, predicate?_of_specified chosen given named, fun document => ?_⟩
    cases flag : criterion.specifiedFlag with
    | true => simpa [IsContentWith, flag] using present document
    | false =>
      simpa [IsContentWith, flag, Predicate.Holds] using not_congr
        (present document)
  · have onField : operator.role = .and := by
      cases operator with
      | parentheses | or => cases positive
      | _ => rfl
    obtain ⟨inner, asked⟩ := Predicate.exists_onField? onField specified
      (schema.parseKey criterion.key).path first (first :: more)
    have found : criterion.predicate? schema =
        some (Predicate.nested
          (schema.boundaries (schema.parseKey criterion.key).path) inner) := by
      rw [predicate?_of_onField chosen specified given named]
      simp only [asked, Option.map_some]
    refine ⟨_, found, fun document => ?_⟩
    obtain ⟨boundary, relative, inScope⟩ :=
      Schema.holds_nested_boundaries_iff schema rooted document
    rw [inScope, IsContentWith, if_neg (by simp [specified]), ← reached,
      given, ← relative]
    simp only [Predicate.holds_onField_iff asked]

/-- A positive criterion by itself is lowered to a predicate that asks for the
values that its path reaches, whichever objects are embedded. Without a key it
asks for nothing. -/
theorem exists_lowered_of_isPositive
    (chosen : criterion.operator = some operator)
    (positive : operator.isPositive = true)
    (given : criterion.values = first :: more)
    (rooted : Path.IsRooted (schema.parseKey criterion.key).path)
    (unmarked : operator = .specified →
      (schema.parseKey criterion.key).leftJoin = false) :
    ∃ predicate, Predicate.ofCriteria schema [criterion] = .ok predicate ∧
      ∀ document, predicate.Holds "" document ↔ criterion.hasBlankKey = true ∨
        criterion.IsContentWith operator first
          (document.valuesAt (schema.parseKey criterion.key).path) := by
  have notOr : criterion.operator ≠ some .or := by
    rintro equal
    cases chosen.symm.trans equal
    cases positive
  have notParentheses : criterion.operator ≠ some .parentheses := by
    rintro equal
    cases chosen.symm.trans equal
    cases positive
  have read : criterion.part schema = _ := part_of_field notOr notParentheses
  rw [ofCriteria_singleton, read]
  cases named : criterion.hasBlankKey with
  | true =>
    have dropped : criterion.predicate? schema = none := by
      simp [predicate?, chosen, given, named]
    rw [dropped]
    exact ⟨.always, rfl, fun document => by simp [Predicate.Holds]⟩
  | false =>
    obtain ⟨predicate, found, holds⟩ :=
      exists_predicate?_of_isPositive chosen positive given named rooted unmarked
    rw [found]
    refine ⟨predicate, rfl, fun document => ?_⟩
    rw [holds]
    simp

end Criterion

namespace DocumentQuery

variable {schema : Schema} {paging : Paging} {query : Query} {page : PageRequest}

/-- A criterion with a positive operator is compiled to filters with the same
answers on every document, whichever objects are embedded. The left-join marker,
which asks for a relation instead of its field, must not stand in the key of a
presence test. -/
theorem filters_agree_of_isPositive {other : Schema}
    (sameMarker : schema.leftJoinMarker = other.leftJoinMarker)
    {criterion : Criterion} (alone : query.criteria = [criterion])
    {operator : Operator} (chosen : criterion.operator = some operator)
    (positive : operator.isPositive = true) (given : criterion.values ≠ [])
    (rooted : Path.IsRooted (schema.parseKey criterion.key).path)
    (unmarked : operator = .specified →
      (schema.parseKey criterion.key).leftJoin = false)
    (paged : Plan.pageOf paging query = .ok page) (target : String) :
    ∃ found plan otherFound otherPlan,
      (compiler schema paging).compile query target = .ok (found, plan) ∧
      (compiler other paging).compile query target = .ok (otherFound, otherPlan) ∧
      ∀ document, found.filter.holds document =
        otherFound.filter.holds document := by
  obtain ⟨first, more, given⟩ := List.exists_cons_of_ne_nil given
  have sameKey : other.parseKey criterion.key =
      schema.parseKey criterion.key := by
    rw [Schema.parseKey, Schema.parseKey, sameMarker]
  obtain ⟨filter, lowered, holds⟩ :=
    Criterion.exists_lowered_of_isPositive chosen positive given rooted unmarked
  rw [← sameKey] at rooted unmarked
  obtain ⟨otherFilter, otherLowered, otherHolds⟩ :=
    Criterion.exists_lowered_of_isPositive chosen positive given rooted unmarked
  rw [← alone] at lowered otherLowered
  have compiled : (compiler schema paging).compile query target = .ok (_, _) :=
    compile_eq_ok_iff.mpr ⟨filter, page, lowered, paged, rfl, rfl⟩
  have otherCompiled : (compiler other paging).compile query target =
      .ok (_, _) :=
    compile_eq_ok_iff.mpr ⟨otherFilter, page, otherLowered, paged, rfl, rfl⟩
  refine ⟨_, _, _, _, compiled, otherCompiled, fun document => ?_⟩
  rw [Bool.eq_iff_iff]
  change (DocumentFilter.ofPredicate filter).holds document = true ↔
    (DocumentFilter.ofPredicate otherFilter).holds document = true
  rw [DocumentFilter.ofPredicate_holds_iff, DocumentFilter.ofPredicate_holds_iff,
    holds, otherHolds, sameKey]

theorem filters_agree_on_roles : ∃ found plan otherFound otherPlan,
    Path.startsEmbedded (· == "roles") "roles.name" = true ∧
    Path.startsEmbedded (fun _ => false) "roles.name" = false ∧
    (compiler ⟨(· == "roles"), '<'⟩ ⟨20, 0, none⟩).compile
      (Query.empty.filter "roles.name" .equal [.string "admin"]) "people" =
        .ok (found, plan) ∧
    (compiler ⟨fun _ => false, '<'⟩ ⟨20, 0, none⟩).compile
      (Query.empty.filter "roles.name" .equal [.string "admin"]) "people" =
        .ok (otherFound, otherPlan) ∧
    ∀ document, found.filter.holds document =
      otherFound.filter.holds document := by
  obtain ⟨found, plan, otherFound, otherPlan, compiled, otherCompiled, agree⟩ :=
    @filters_agree_of_isPositive ⟨(· == "roles"), '<'⟩ ⟨20, 0, none⟩
      (Query.empty.filter "roles.name" .equal [.string "admin"])
        _ ⟨fun _ => false, '<'⟩ rfl
      ⟨"roles.name", some .equal, [.string "admin"]⟩ rfl .equal rfl rfl (by simp)
      (by decide +kernel) nofun rfl "people"
  exact ⟨found, plan, otherFound, otherPlan, by decide, by decide, compiled,
    otherCompiled, agree⟩

end DocumentQuery

end CriteriaQuery
