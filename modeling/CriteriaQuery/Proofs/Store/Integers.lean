import CriteriaQuery.Proofs.Double.Integer
import CriteriaQuery.Proofs.Store.Memory
import Mathlib.Data.List.Find

namespace CriteriaQuery

/-! Integers in filters, sort keys and identifiers. They are compared by their
nearest floats, so two of them are told apart just when these floats differ, and
two that are told apart are compared as integers are. -/

@[ext] structure WholeNumber where
  value : Int
  low : -(1 <<< 63) ≤ value
  high : value < 1 <<< 64

namespace WholeNumber

variable {left right : WholeNumber}

def toJson (whole : WholeNumber) : Json :=
  .number (.integer whole.value whole.low whole.high)

theorem toJson_injective : Function.Injective toJson := by
  intro left right same
  injection same with number
  injection number with value
  exact WholeNumber.ext value

def rounded (whole : WholeNumber) : Int := Double.roundInteger whole.value

/-- The nearest floats of two integers differ, unless the integers are the
same. -/
def IsToldFrom (left right : WholeNumber) : Prop :=
  left.rounded = right.rounded → left = right

/-! ## Comparison -/

theorem strictOrder?_toJson (left right : WholeNumber) :
    left.toJson.strictOrder? right.toJson =
      some (compare left.rounded right.rounded) :=
  congrArg some (Number.compare_key_integer _ _ _ _)

theorem looselyEqual_toJson :
    left.toJson.looselyEqual right.toJson = true ↔
    left.rounded = right.rounded := by
  rw [Json.looselyEqual, strictOrder?_toJson]
  simp

theorem canonicalOrder_toJson (left right : WholeNumber) :
    left.toJson.canonicalOrder right.toJson =
      compare left.rounded right.rounded := by
  change (compare 2 2).then ((left.toJson.strictOrder? right.toJson).getD .eq) = _
  rw [strictOrder?_toJson]
  rfl

theorem rounded_le_of_le (le : left.value ≤ right.value) :
    left.rounded ≤ right.rounded :=
  Double.roundInteger_mono le

theorem IsToldFrom.symm (told : left.IsToldFrom right) : right.IsToldFrom left :=
  fun same => (told same.symm).symm

/-- An integer of less than 54 binary digits is told from every other one. -/
theorem isToldFrom_of_lt (small : left.value.natAbs < 2 ^ 53) :
    left.IsToldFrom right :=
  fun same => WholeNumber.ext (Double.eq_of_roundInteger_eq small same)

theorem isToldFrom_of_le (smallLeft : left.value.natAbs ≤ 2 ^ 53)
    (smallRight : right.value.natAbs ≤ 2 ^ 53) : left.IsToldFrom right := by
  intro same
  rw [rounded, rounded, Double.roundInteger_of_natAbs_le smallLeft,
    Double.roundInteger_of_natAbs_le smallRight] at same
  exact WholeNumber.ext same

theorem IsToldFrom.compare_rounded (told : left.IsToldFrom right) :
    compare left.rounded right.rounded = compare left.value right.value := by
  cases order : compare left.value right.value with
  | lt =>
    rw [Int.compare_eq_lt] at order ⊢
    refine lt_of_le_of_ne (rounded_le_of_le order.le) fun same => ?_
    rw [told same] at order
    exact lt_irrefl _ order
  | gt =>
    rw [Int.compare_eq_gt] at order ⊢
    refine lt_of_le_of_ne (rounded_le_of_le order.le) fun same => ?_
    rw [told same.symm] at order
    exact lt_irrefl _ order
  | eq =>
    rw [Int.compare_eq_eq] at order ⊢
    rw [WholeNumber.ext order]

theorem IsToldFrom.value_le_of_rounded_le (told : left.IsToldFrom right)
    (le : left.rounded ≤ right.rounded) : left.value ≤ right.value := by
  by_contra greater
  have same :=
    le_antisymm le (rounded_le_of_le (Int.le_of_lt (Int.not_le.mp greater)))
  rw [told same] at greater
  exact greater le_rfl

theorem looselyEqual_iff_of_isToldFrom (told : left.IsToldFrom right) :
    left.toJson.looselyEqual right.toJson = true ↔ left = right :=
  looselyEqual_toJson.trans ⟨told, congrArg rounded⟩

/-! ## Filters -/

theorem holds_toJson (comparison : Comparison) (told : left.IsToldFrom right) :
    comparison.holds left.toJson right.toJson =
      comparison.accepts (compare left.value right.value) := by
  have ordered : left.toJson.strictOrder? right.toJson =
      some (compare left.value right.value) := by
    rw [strictOrder?_toJson, told.compare_rounded]
  cases comparison with
  | equal =>
    unfold Comparison.holds Json.looselyEqual
    rw [ordered]
    rfl
  | _ =>
    unfold Comparison.holds
    rw [ordered]
    rfl

theorem holds_compare_iff {comparison : Comparison} {field : String}
    {wanted : WholeNumber} {found : List WholeNumber} {document : Json}
    (reached : document.valuesAt field = found.map toJson)
    (told : ∀ value ∈ found, value.IsToldFrom wanted) :
    (DocumentFilter.compare field comparison wanted.toJson).holds document =
      true ↔ ∃ value ∈ found, comparison.accepts
        (compare value.value wanted.value) = true := by
  rw [DocumentFilter.holds, reached, List.any_map, List.any_eq_true]
  refine exists_congr fun value => and_congr_right fun member => ?_
  rw [Function.comp_apply, holds_toJson comparison (told value member)]

/-! ## Sort keys -/

theorem least?_toJson (first : WholeNumber) (rest : List WholeNumber) :
    ∃ chosen ∈ first :: rest, Json.least? ((first :: rest).map toJson) =
      some chosen.toJson ∧
      ∀ other ∈ first :: rest, chosen.rounded ≤ other.rounded := by
  induction rest generalizing first with
  | nil => exact ⟨first, by simp, rfl, by simp⟩
  | cons second rest induction =>
    obtain ⟨chosen, member, least, before⟩ := induction second
    rw [List.map_cons, Json.least?, least]
    dsimp only
    rw [canonicalOrder_toJson]
    by_cases later : chosen.rounded < first.rounded
    · refine ⟨chosen, List.mem_cons_of_mem _ member, ?_, ?_⟩
      · rw [Int.compare_eq_gt.mpr later]
        rfl
      · rw [List.forall_mem_cons]
        exact ⟨later.le, before⟩
    · refine ⟨first, List.mem_cons_self, ?_, ?_⟩
      · rw [if_neg (by rwa [beq_iff_eq, Int.compare_eq_gt])]
      · rw [List.forall_mem_cons]
        exact ⟨le_rfl,
          fun other among => (not_lt.mp later).trans (before other among)⟩

theorem greatest?_toJson (first : WholeNumber) (rest : List WholeNumber) :
    ∃ chosen ∈ first :: rest, Json.greatest? ((first :: rest).map toJson) =
      some chosen.toJson ∧
      ∀ other ∈ first :: rest, other.rounded ≤ chosen.rounded := by
  induction rest generalizing first with
  | nil => exact ⟨first, by simp, rfl, by simp⟩
  | cons second rest induction =>
    obtain ⟨chosen, member, greatest, after⟩ := induction second
    rw [List.map_cons, Json.greatest?, greatest]
    dsimp only
    rw [canonicalOrder_toJson]
    by_cases later : chosen.rounded < first.rounded
    · refine ⟨first, List.mem_cons_self, ?_, ?_⟩
      · rw [Int.compare_eq_gt.mpr later]
        rfl
      · rw [List.forall_mem_cons]
        exact ⟨le_rfl, fun other among => (after other among).trans later.le⟩
    · refine ⟨chosen, List.mem_cons_of_mem _ member, ?_, ?_⟩
      · rw [if_neg (by rwa [beq_iff_eq, Int.compare_eq_gt])]
      · rw [List.forall_mem_cons]
        exact ⟨not_lt.mp later, after⟩

def IsFirst : Direction → WholeNumber → WholeNumber → Prop
  | .ascending, left, right => left.value ≤ right.value
  | .descending, left, right => right.value ≤ left.value

/-- A document is sorted by the integer that comes first among those on the path
of the key. -/
theorem exists_sortValue {key : DocumentSort} {document : Json}
    {found : List WholeNumber}
    (reached : document.valuesAt key.field = found.map toJson)
    (nonempty : found ≠ [])
    (told : ∀ value ∈ found, ∀ other ∈ found, value.IsToldFrom other) :
    ∃ chosen ∈ found, key.value document = chosen.toJson ∧
      ∀ other ∈ found, IsFirst key.direction chosen other := by
  obtain ⟨first, rest, rfl⟩ := List.exists_cons_of_ne_nil nonempty
  rcases key with ⟨field, direction⟩
  cases direction with
  | ascending =>
    obtain ⟨chosen, member, least, before⟩ := least?_toJson first rest
    refine ⟨chosen, member, ?_, fun other among => ?_⟩
    · rw [DocumentSort.value, reached]
      dsimp only
      rw [least]
      rfl
    · exact (told chosen member other among).value_le_of_rounded_le
        (before other among)
  | descending =>
    obtain ⟨chosen, member, greatest, after⟩ := greatest?_toJson first rest
    refine ⟨chosen, member, ?_, fun other among => ?_⟩
    · rw [DocumentSort.value, reached]
      dsimp only
      rw [greatest]
      rfl
    · exact (told other among chosen member).value_le_of_rounded_le
        (after other among)

theorem order_toJson {key : DocumentSort} {document other : Json}
    (value : key.value document = left.toJson)
    (otherValue : key.value other = right.toJson)
    (told : left.IsToldFrom right) :
    key.order document other =
      match key.direction with
      | .ascending => compare left.value right.value
      | .descending => compare right.value left.value := by
  have forward : left.toJson.canonicalOrder right.toJson =
      compare left.value right.value := by
    rw [canonicalOrder_toJson, told.compare_rounded]
  have backward : right.toJson.canonicalOrder left.toJson =
      compare right.value left.value := by
    rw [canonicalOrder_toJson, told.symm.compare_rounded]
  rw [← value, ← otherValue] at forward backward
  unfold DocumentSort.order
  cases key.direction with
  | ascending => exact forward
  | descending => exact backward

/-! ## Identifiers -/

/-- An identifier is the integer, or is no integer and loosely equal to it. -/
def identifies (id : WholeNumber) : Json → Bool
  | .number (.integer value _ _) => value == id.value
  | other => other.looselyEqual id.toJson

theorem looselyEqual_eq_identifies {id : WholeNumber} {candidate : Json}
    (told : ∀ other : WholeNumber,
      candidate = other.toJson → other.IsToldFrom id) :
    candidate.looselyEqual id.toJson = id.identifies candidate := by
  cases candidate with
  | number number =>
    cases number with
    | integer value low high =>
      have equal := looselyEqual_iff_of_isToldFrom (told ⟨value, low, high⟩ rfl)
      rw [Bool.eq_iff_iff]
      refine equal.trans ?_
      rw [WholeNumber.ext_iff, identifies, beq_iff_eq]
    | float value => rfl
  | _ => rfl

def isIdOf (idField : String) (id : WholeNumber) (document : Json) : Bool :=
  (document.get? idField).any id.identifies

variable {documents : Collection} {idField : String} {id : WholeNumber}

def IsToldFromIds (idField : String) (documents : Collection)
    (id : WholeNumber) : Prop :=
  ∀ document ∈ documents, ∀ other : WholeNumber,
    document.get? idField = some other.toJson → other.IsToldFrom id

theorem hasId_eq_isIdOf (told : IsToldFromIds idField documents id)
    {document : Json} (member : document ∈ documents) :
    Collection.hasId idField id.toJson document = isIdOf idField id document := by
  unfold Collection.hasId isIdOf
  cases found : document.get? idField with
  | none => rfl
  | some candidate =>
    refine looselyEqual_eq_identifies fun other same => ?_
    exact told document member other (same ▸ found)

theorem get?_toJson (told : IsToldFromIds idField documents id) :
    documents.get? idField id.toJson = documents.find? (isIdOf idField id) :=
  List.find?_congr fun _ member => hasId_eq_isIdOf told member

theorem upsert_toJson (told : IsToldFromIds idField documents id)
    (entity : Json) :
    documents.upsert idField id.toJson entity =
      match documents.findIdx? (isIdOf idField id) with
      | some position => documents.set position entity
      | none => documents ++ [entity] := by
  induction documents with
  | nil => rfl
  | cons document rest induction =>
    have further :=
      induction fun other member => told other (List.mem_cons_of_mem _ member)
    rw [Collection.upsert, hasId_eq_isIdOf told List.mem_cons_self,
      List.findIdx?_cons]
    by_cases has : isIdOf idField id document = true
    · rw [if_pos has, if_pos has]
      rfl
    · rw [if_neg has, if_neg has, further]
      cases rest.findIdx? (isIdOf idField id) <;> rfl

theorem latest?_toJson {writes : MemoryStore.Transaction} {name : String}
    (told : ∀ write ∈ writes, ∀ other : WholeNumber,
      write.id = other.toJson → other.IsToldFrom id) :
    MemoryStore.latest? writes name id.toJson =
      (writes.reverse.find? fun write =>
        write.collection == name && id.identifies write.id).map
            MemoryStore.Write.entity := by
  unfold MemoryStore.latest?
  congr 1
  refine List.find?_congr fun write member => ?_
  rw [looselyEqual_eq_identifies (told write (List.mem_reverse.mp member))]

/-! ## Integers that are told apart -/

structure AreComparedExactly (left right : WholeNumber) : Prop where
  strictOrder : left.toJson.strictOrder? right.toJson =
    some (compare left.value right.value)
  looselyEqual : left.toJson.looselyEqual right.toJson = true ↔ left = right

theorem areComparedExactly_iff :
    left.AreComparedExactly right ↔ left.IsToldFrom right := by
  constructor
  · intro exact same
    exact exact.looselyEqual.mp (looselyEqual_toJson.mpr same)
  · intro told
    constructor
    · rw [strictOrder?_toJson, told.compare_rounded]
    · exact looselyEqual_iff_of_isToldFrom told

/-- Integers are compared by their nearest floats, which never turns their order
round. They are compared exactly just when they are told apart by these floats,
and then filters, sort keys and a memory store take none of them for another. -/
theorem integers_confused_only_by_rounding :
    (∀ left right : WholeNumber,
      left.toJson.strictOrder? right.toJson =
        some (compare left.rounded right.rounded) ∧
      (left.toJson.looselyEqual right.toJson = true ↔
        left.rounded = right.rounded) ∧
      (left.value ≤ right.value → left.rounded ≤ right.rounded) ∧
      (left.AreComparedExactly right ↔ left.IsToldFrom right) ∧
      (left.value.natAbs < 2 ^ 53 ∨ right.value.natAbs < 2 ^ 53 ∨
        left.value.natAbs ≤ 2 ^ 53 ∧ right.value.natAbs ≤ 2 ^ 53 →
        left.IsToldFrom right)) ∧
    (∀ (field : String) (document : Json) (found : List WholeNumber)
      (wanted : WholeNumber), document.valuesAt field = found.map toJson →
      (∀ value ∈ found, value.IsToldFrom wanted) → ∀ comparison : Comparison,
        (DocumentFilter.compare field comparison wanted.toJson).holds
          document = true ↔
          ∃ value ∈ found, comparison.accepts
            (compare value.value wanted.value) = true) ∧
    (∀ (key : DocumentSort) (document : Json) (found : List WholeNumber),
      document.valuesAt key.field = found.map toJson → found ≠ [] →
      (∀ value ∈ found, ∀ other ∈ found, value.IsToldFrom other) →
        ∃ chosen ∈ found, key.value document = chosen.toJson ∧
          ∀ other ∈ found, IsFirst key.direction chosen other) ∧
    (∀ (key : DocumentSort) (document other : Json) (left right : WholeNumber),
      key.value document = left.toJson → key.value other = right.toJson →
      left.IsToldFrom right →
        key.order document other =
          match key.direction with
          | .ascending => compare left.value right.value
          | .descending => compare right.value left.value) ∧
    ∀ (store : MemoryStore) (relation name : String) (id : WholeNumber),
      store.collectionOf relation = .ok name →
      IsToldFromIds store.idField (store.collection name) id →
        (∀ writes : MemoryStore.Transaction,
          (∀ write ∈ writes, ∀ other : WholeNumber,
            write.id = other.toJson → other.IsToldFrom id) →
          TransactionalStore.load relation id.toJson (store, writes) =
            .ok (((writes.reverse.find? fun write =>
                write.collection == name && id.identifies write.id).map
                  MemoryStore.Write.entity).or
                ((store.collection name).find? (isIdOf store.idField id)))
              (store, writes)) ∧
        ∀ entity : Json,
          (store.applyWrite ⟨name, id.toJson, entity⟩).collection name =
          match (store.collection name).findIdx? (isIdOf store.idField id) with
          | some position => (store.collection name).set position entity
          | none => store.collection name ++ [entity] := by
  refine ⟨fun left right => ⟨strictOrder?_toJson left right, looselyEqual_toJson,
      rounded_le_of_le, areComparedExactly_iff, ?_⟩,
    fun field document found wanted reached told comparison =>
      holds_compare_iff reached told,
    fun key document found => exists_sortValue,
    fun key document other left right => order_toJson,
    fun store relation name id collection told =>
      ⟨fun writes toldWrites => ?_, fun entity => ?_⟩⟩
  · rintro (small | small | ⟨smallLeft, smallRight⟩)
    · exact isToldFrom_of_lt small
    · exact (isToldFrom_of_lt small).symm
    · exact isToldFrom_of_le smallLeft smallRight
  · rw [← latest?_toJson toldWrites, ← get?_toJson told]
    simp only [TransactionalStore.load, collection, MemoryStore.get?]
  · rw [← upsert_toJson told, MemoryStore.collection_applyWrite, if_pos rfl]

/-- An integer that is a float. The next integer is none, and the one behind it
is the next float. -/
def limit : WholeNumber := ⟨9007199254740992, by decide, by decide⟩

def nextInteger : WholeNumber := ⟨9007199254740993, by decide, by decide⟩

def nextFloat : WholeNumber := ⟨9007199254740994, by decide, by decide⟩

def person (id : WholeNumber) (name : String) : Json :=
  .object [("id", id.toJson), ("name", .string name)]

def onlyAnn : MemoryStore :=
  (MemoryStore.new "people" "id").insert "people" (person limit "Ann")

theorem cid_saved_beside_ann :
    onlyAnn.collectionOf rootRelation = .ok "people" ∧
      IsToldFromIds "id" [person limit "Ann"] nextFloat ∧
      (onlyAnn.applyWrite
        ⟨"people", nextFloat.toJson, person nextFloat "Cid"⟩).collection
        "people" = [person limit "Ann", person nextFloat "Cid"] := by
  have told : IsToldFromIds "id" [person limit "Ann"] nextFloat := by
    intro document member other found same
    cases List.mem_singleton.mp member
    have isLimit : limit = other := toJson_injective (Option.some.inj found)
    rw [← isLimit] at same
    exact absurd same (by decide +kernel)
  refine ⟨rfl, told, ?_⟩
  have saved :=
    (integers_confused_only_by_rounding.2.2.2.2 onlyAnn rootRelation "people"
    nextFloat rfl told).2 (person nextFloat "Cid")
  rw [saved]
  rfl

/-- Saving Bob overwrites Ann, although his identifier is another integer. -/
theorem bob_overwrites_ann :
    limit ≠ nextInteger ∧
      limit.toJson.strictOrder? nextInteger.toJson = some .eq ∧
      limit.toJson.looselyEqual nextInteger.toJson = true ∧
      (onlyAnn.applyWrite
        ⟨"people", nextInteger.toJson, person nextInteger "Bob"⟩).collection
        "people" = [person nextInteger "Bob"] := by
  have has : Collection.hasId "id" nextInteger.toJson (person limit "Ann") =
      true := by
    decide +kernel
  refine ⟨?_, by decide +kernel, by decide +kernel, ?_⟩
  · intro same
    cases congrArg value same
  · rw [MemoryStore.collection_applyWrite, if_pos rfl]
    exact if_pos has

end WholeNumber

end CriteriaQuery
