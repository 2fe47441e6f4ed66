import CriteriaQuery.Proofs.Criterion.Json
import CriteriaQuery.Query.Json

namespace CriteriaQuery

/-! A query is read back from its JSON form with every field as it was. A
parentheses criterion that is written and read again keeps the list inside it. -/

/-! ## What is read back -/

namespace Decode

def ReadsBack {α : Type} (write : α → Json)
    (read : Json → Except DecodeError α) : Prop :=
  ∀ value, read (write value) = .ok value

theorem ReadsBack.list {α : Type} {write : α → Json}
    {read : Json → Except DecodeError α} (readsBack : ReadsBack write read) :
    ReadsBack (fun values => .array (values.map write)) (list read) := by
  intro values
  rw [Decode.list]
  induction values with
  | nil => rfl
  | cons value rest induction =>
    rw [List.map_cons, items, readsBack value, induction]
    rfl

theorem ReadsBack.orDefault {α : Type} {write : α → Json}
    {read : Json → Except DecodeError α} (readsBack : ReadsBack write read)
    (fallback value : α) :
    Decode.orDefault fallback read (some (write value)) = .ok value :=
      readsBack value

theorem ofNat_toNat (value : UInt32) :
    ∃ low high, Json.ofNat value.toNat =
      .number (.integer value.toNat low high) := by
  have small : value.toNat < 4294967296 := value.toNat_lt
  have range : -(1 <<< 63) ≤ (value.toNat : Int) ∧
      (value.toNat : Int) < 1 <<< 64 := by
    rw [show (1 <<< 63 : Int) = 9223372036854775808 from rfl,
      show (1 <<< 64 : Int) = 18446744073709551616 from rfl]
    omega
  exact ⟨range.1, range.2, Json.ofInt_of_range range.1 range.2⟩

theorem natural32_ofNat (value : UInt32) :
    natural32 (.ofNat value.toNat) = .ok value := by
  have small : value.toNat < 4294967296 := value.toNat_lt
  have range : 0 ≤ (value.toNat : Int) ∧ (value.toNat : Int) < 1 <<< 32 := by
    rw [show (1 <<< 32 : Int) = 4294967296 from rfl]
    omega
  rcases ofNat_toNat value with ⟨low, high, written⟩
  rw [written, natural32, if_pos range, Int.toNat_natCast, UInt32.ofNat_toNat]

end Decode

open Decode

/-! ## The parts of a query -/

theorem Direction.readsBack : ReadsBack Direction.toJson Direction.ofJson := by
  intro direction
  cases direction <;> rfl

theorem SortSpec.readsBack : ReadsBack SortSpec.toJson SortSpec.ofJson := by
  intro spec
  rcases spec with ⟨field, direction⟩
  have directionRead := Direction.readsBack.orDefault .ascending direction
  simp only [toJson, ofJson, record, List.map, Keyed.get?, String.reduceEq,
    if_true, if_false,
    required, text, directionRead, bind, Except.bind, pure, Except.pure]

theorem SelectPath.readsBack : ReadsBack SelectPath.toJson SelectPath.ofJson := by
  intro path
  rfl

namespace Query

theorem decodePage_pageJson (page : Option UInt32) :
    decodePage (some (pageJson page)) = .ok page := by
  cases page with
  | none => rfl
  | some value =>
    rcases ofNat_toNat value with ⟨low, high, written⟩
    have valueRead := natural32_ofNat value
    rw [written] at valueRead
    rw [decodePage, pageJson, written, Decode.orDefault,
      Decode.optional, valueRead]
    · rfl
    · intro same
      cases same

theorem readsBack : ReadsBack toJson ofJson := by
  intro query
  rcases query with ⟨criteria, sort, select, pageNumber, pageSize, distinct⟩
  have criteriaRead : decodeCriteria
      (some (.array (criteria.map Criterion.toJson))) = .ok criteria :=
        (ReadsBack.list Criterion.ofJson_toJson).orDefault [] criteria
  have sortRead : decodeSort (some (.array (sort.map SortSpec.toJson))) =
      .ok sort :=
    SortSpec.readsBack.list.orDefault [] sort
  have selectRead : decodeSelect (some (.array (select.map SelectPath.toJson))) =
      .ok select :=
    SelectPath.readsBack.list.orDefault [] select
  have distinctRead : decodeDistinct (some (.bool distinct)) = .ok distinct := rfl
  simp only [toJson, ofJson, record, List.map, Keyed.get?, String.reduceEq,
    if_true, if_false, distinctRead, sortRead, decodePage_pageJson, selectRead,
    criteriaRead, bind, Except.bind, pure, Except.pure]

end Query

/-! ## Nested lists -/

namespace Criterion

def reread : Nat → Criterion → Except DecodeError Criterion
  | 0, criterion => .ok criterion
  | times + 1, criterion => do reread times (← ofJson criterion.toJson)

theorem reread_eq (times : Nat) (criterion : Criterion) :
    reread times criterion = .ok criterion := by
  induction times with
  | zero => rfl
  | succ times induction =>
    rw [reread, ofJson_toJson]
    exact induction

end Criterion

/-- Queries are read back from their JSON form. A criteria list put into a
parentheses criterion is found in it, however often the criterion was written
and read in between. -/
theorem Query.json_form_is_read_back :
    (∀ query : Query, Query.ofJson query.toJson = .ok query) ∧
    ∀ (criteria : List Criterion) (times : Nat), ∃ criterion,
      Criterion.reread times (.parentheses criteria) = .ok criterion ∧
        criterion.nested = .ok (some criteria) := by
  constructor
  · exact Query.readsBack
  · intro criteria times
    exact ⟨.parentheses criteria, Criterion.reread_eq times _,
      Criterion.nested_parentheses criteria⟩

end CriteriaQuery
