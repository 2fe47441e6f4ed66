import CriteriaQuery.Proofs.Parameters.Indices

namespace CriteriaQuery.Parameters

/-! Parameters are read by their names alone. Neither their order matters nor a
value that a later one of the same name replaces, whether they describe a query
or not. -/

variable {parameters other : Parameters}

/-! ## The same values -/

def lastOnly : Parameters → Parameters
  | [] => []
  | (name, value) :: rest =>
    if name ∈ rest.map Prod.fst then lastOnly rest
    else (name, value) :: lastOnly rest

example : lastOnly [("key0", "a"), ("key1", "b"), ("key0", "c")] =
    [("key1", "b"), ("key0", "c")] := by decide

theorem sameValues_of_perm (distinct : (parameters.map Prod.fst).Nodup)
    (perm : parameters.Perm other) : SameValues parameters other := by
  have distinctOther : (other.map Prod.fst).Nodup :=
    (perm.map Prod.fst).nodup_iff.mp distinct
  intro name
  apply Option.ext
  intro value
  rw [get?_eq_some_iff_mem distinct,
    get?_eq_some_iff_mem distinctOther, perm.mem_iff]

theorem sameValues_lastOnly (parameters : Parameters) :
    SameValues parameters.lastOnly parameters := by
  intro wanted
  induction parameters with
  | nil => rfl
  | cons entry rest induction =>
    rcases entry with ⟨name, value⟩
    rw [lastOnly, get?_cons]
    split
    next later =>
      rw [induction]
      by_cases same : wanted = name
      · rcases Option.isSome_iff_exists.mp (get?_isSome_iff.mpr later) with
          ⟨found, read⟩
        rw [same, read, Option.some_or]
      · rw [if_neg same, Option.or_none]
    next => rw [get?_cons, induction]

theorem nodup_names_lastOnly (parameters : Parameters) :
    (parameters.lastOnly.map Prod.fst).Nodup := by
  induction parameters with
  | nil => exact List.nodup_nil
  | cons entry rest induction =>
    rw [lastOnly]
    split
    · exact induction
    next last =>
      rw [List.map_cons, List.nodup_cons,
        (sameValues_lastOnly rest).mem_names_iff]
      exact ⟨last, induction⟩

/-! ## The same result -/

namespace SameValues

theorem criteria_eq (same : SameValues parameters other) :
    parameters.criteria = other.criteria := by
  have criterionAt : parameters.criterionAt = other.criterionAt := by
    funext index
    simp only [Parameters.criterionAt, same _]
  rw [criteria, criteria, indices_congr same, criterionAt]

theorem sort_eq (same : SameValues parameters other) :
    parameters.sort = other.sort := by
  have sortAt : parameters.sortAt = other.sortAt := by
    funext index
    simp only [Parameters.sortAt, same _]
  rw [sort, sort, indices_congr same, sortAt]

theorem select_eq (same : SameValues parameters other) :
    parameters.select = other.select := by
  have selectAt? : parameters.selectAt? = other.selectAt? := by
    funext index
    simp only [Parameters.selectAt?, same _]
  rw [select, select, indices_congr same, selectAt?]

theorem query_eq (same : SameValues parameters other) :
    parameters.query = other.query := by
  have number (name : String) : parameters.number name = other.number name := by
    simp only [Parameters.number, same _]
  have flag (name : String) : parameters.flag name = other.flag name := by
    simp only [Parameters.flag, same _]
  simp only [query, same.criteria_eq, same.sort_eq, same.select_eq, number, flag]

end SameValues

/-- Parameters with different names describe the same in any order, and of a name
that is given more than once the last value alone counts. -/
theorem read_by_last_values :
    (∀ parameters other : Parameters,
      (parameters.map Prod.fst).Nodup → parameters.Perm other →
      other.query = parameters.query ∧ other.criteria = parameters.criteria) ∧
    ∀ parameters : Parameters, (parameters.lastOnly.map Prod.fst).Nodup ∧
      parameters.query = parameters.lastOnly.query ∧
      parameters.criteria = parameters.lastOnly.criteria := by
  constructor
  · intro parameters other distinct perm
    have same := sameValues_of_perm distinct perm
    exact ⟨same.query_eq.symm, same.criteria_eq.symm⟩
  · intro parameters
    have same := sameValues_lastOnly parameters
    exact ⟨nodup_names_lastOnly parameters, same.query_eq.symm,
      same.criteria_eq.symm⟩

def tenBeforeTwo : Parameters :=
  [("key10", "b"), ("operation10", "EQUAL"), ("key2", "a"),
    ("operation2", "EQUAL")]

theorem two_before_ten_in_any_order :
    (tenBeforeTwo.map Prod.fst).Nodup ∧ tenBeforeTwo.Perm tenBeforeTwo.reverse ∧
      query tenBeforeTwo.reverse = query tenBeforeTwo ∧
      criteria tenBeforeTwo.reverse =
        .ok [⟨"a", some .equal, []⟩, ⟨"b", some .equal, []⟩] := by
  have distinct : (tenBeforeTwo.map Prod.fst).Nodup := by decide
  have perm : tenBeforeTwo.Perm tenBeforeTwo.reverse := (List.reverse_perm _).symm
  have read := read_by_last_values.1 _ _ distinct perm
  refine ⟨distinct, perm, read.1, read.2.trans ?_⟩
  rfl

end CriteriaQuery.Parameters
