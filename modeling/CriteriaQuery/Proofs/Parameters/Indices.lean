import CriteriaQuery.Parameters.Reading
import CriteriaQuery.Proofs.Text.Numeral
import Mathlib.Data.List.Sort

namespace CriteriaQuery.Parameters

/-! What parameters say of a name, and the indices that their names end in. Both
depend on the last value of each name alone. -/

open Double (digitsValue digitsValue_decimal)

variable {parameters other : Parameters}

/-! ## Values -/

theorem get?_cons (name value : String) (rest : Parameters) (wanted : String) :
    get? ((name, value) :: rest) wanted =
      (get? rest wanted).or (if wanted = name then some value else none) := by
  rw [get?, List.reverse_cons, List.lookup_append, List.lookup_singleton]
  simp only [beq_iff_eq]
  rfl

theorem get?_isSome_iff {name : String} :
    (get? parameters name).isSome = true ↔ name ∈ parameters.map Prod.fst := by
  induction parameters with
  | nil => simp [get?]
  | cons entry rest induction =>
    rw [get?_cons, Option.isSome_or, Bool.or_eq_true, induction, List.map_cons,
      List.mem_cons, or_comm]
    by_cases same : name = entry.1 <;> simp [same]

theorem mem_of_get?_eq_some {name value : String}
    (given : get? parameters name = some value) :
    (name, value) ∈ parameters := by
  induction parameters with
  | nil => simp [get?] at given
  | cons entry rest induction =>
    rw [get?_cons] at given
    rcases Option.or_eq_some_iff.mp given with later | ⟨-, here⟩
    · exact List.mem_cons_of_mem entry (induction later)
    · have same : name = entry.1 := by
        by_contra different
        simp [different] at here
      rw [if_pos same, Option.some.injEq] at here
      rw [same, ← here]
      exact List.mem_cons_self

theorem get?_eq_some_iff_mem (distinct : (parameters.map Prod.fst).Nodup)
    {name value : String} :
    get? parameters name = some value ↔ (name, value) ∈ parameters := by
  refine ⟨mem_of_get?_eq_some, fun member => ?_⟩
  have given : (get? parameters name).isSome = true :=
    get?_isSome_iff.mpr (List.mem_map_of_mem member)
  rcases Option.isSome_iff_exists.mp given with ⟨found, read⟩
  have same :=
    List.inj_on_of_nodup_map distinct (mem_of_get?_eq_some read) member rfl
  rw [read, (Prod.mk.inj same).2]

def SameValues (parameters other : Parameters) : Prop :=
  ∀ name, parameters.get? name = other.get? name

theorem SameValues.mem_names_iff (same : SameValues parameters other)
    (name : String) :
    name ∈ parameters.map Prod.fst ↔ name ∈ other.map Prod.fst := by
  rw [← get?_isSome_iff, ← get?_isSome_iff, same name]

/-! ## Names with an index -/

theorem indexAfter?_eq_some_iff {start name : String} {index : Nat} :
    indexAfter? start name = some index ↔
      ∃ digits, Text.IsDigits digits ∧
        (name = start ++ String.ofList digits ∨
          name = start ++ String.ofList ('+' :: digits)) ∧
        digitsValue digits = index ∧ index ≤ Text.limit64 := by
  have behind (rest : List Char) :
      name.toList = start.toList ++ rest ↔
      name = start ++ String.ofList rest := by
    rw [← String.toList_inj, String.toList_append, String.toList_ofList]
  unfold indexAfter?
  cases after : Text.after? start.toList name.toList with
  | none =>
    simp only [reduceCtorEq, false_iff]
    rintro ⟨digits, -, isName, -⟩
    rw [← behind, ← behind, ← Text.after?_eq_some_iff, ← Text.after?_eq_some_iff,
      after] at isName
    rcases isName with none | none <;> cases none
  | some rest =>
    simp only [Text.toOption_eq_some_iff, Text.readNatural_eq_ok_iff,
      String.toList_ofList]
    have isName (found : List Char) : rest = found ↔
        name = start ++ String.ofList found := by
      rw [← behind, Text.after?_eq_some_iff.mp after, List.append_cancel_left_eq]
    simp only [isName]

theorem indexAfter?_indexed {start : String} {index : Nat}
    (small : index ≤ Text.limit64) :
    indexAfter? start (indexed start index) = some index :=
  indexAfter?_eq_some_iff.mpr
    ⟨_, Text.isDigits_decimal index, .inl rfl, digitsValue_decimal index, small⟩

/-! ## Indices -/

theorem mem_insertIndex {index found : Nat} {indices : List Nat} :
    found ∈ insertIndex index indices ↔ found = index ∨ found ∈ indices := by
  induction indices with
  | nil => simp [insertIndex]
  | cons first rest induction =>
    rw [insertIndex]
    split
    · exact List.mem_cons
    · split
      next same => simp [same]
      next => rw [List.mem_cons, induction, List.mem_cons, or_left_comm]

theorem ascending_insertIndex {index : Nat} {indices : List Nat}
    (ascending : indices.Pairwise (· < ·)) :
    (insertIndex index indices).Pairwise (· < ·) := by
  induction indices with
  | nil => exact List.pairwise_singleton _ index
  | cons first rest induction =>
    have parts := List.pairwise_cons.mp ascending
    rw [insertIndex]
    split
    next less =>
      rw [List.pairwise_cons, List.forall_mem_cons]
      exact ⟨⟨less, fun later member => less.trans (parts.1 later member)⟩,
        ascending⟩
    next notLess =>
      split
      · exact ascending
      next different =>
        rw [List.pairwise_cons]
        refine ⟨fun later member => ?_, induction parts.2⟩
        rcases mem_insertIndex.mp member with rfl | member
        · omega
        · exact parts.1 later member

theorem indices_cons (starts : List String) (name value : String)
    (rest : Parameters) :
    indices starts ((name, value) :: rest) =
      match starts.findSome? (indexAfter? · name) with
      | some index => insertIndex index (indices starts rest)
      | none => indices starts rest := rfl

theorem mem_indices_iff {starts : List String} {index : Nat} :
    index ∈ indices starts parameters ↔
      ∃ name ∈ parameters.map Prod.fst, starts.findSome? (indexAfter? · name) =
        some index := by
  induction parameters with
  | nil => simp [indices]
  | cons entry rest induction =>
    rcases entry with ⟨name, value⟩
    simp only [indices_cons, List.map_cons, List.mem_cons, exists_eq_or_imp]
    cases found : starts.findSome? (indexAfter? · name) with
    | some first => rw [mem_insertIndex, induction, Option.some.injEq, eq_comm]
    | none => simp [induction]

theorem ascending_indices (starts : List String) (parameters : Parameters) :
    (indices starts parameters).Pairwise (· < ·) := by
  induction parameters with
  | nil => exact .nil
  | cons entry rest induction =>
    rcases entry with ⟨name, value⟩
    rw [indices_cons]
    cases starts.findSome? (indexAfter? · name) with
    | some index => exact ascending_insertIndex induction
    | none => exact induction

theorem indices_congr (same : SameValues parameters other)
    (starts : List String) :
    indices starts parameters = indices starts other := by
  refine (ascending_indices starts parameters).eq_of_mem_iff
    (ascending_indices starts other) fun index => ?_
  simp only [mem_indices_iff, same.mem_names_iff]

end CriteriaQuery.Parameters
