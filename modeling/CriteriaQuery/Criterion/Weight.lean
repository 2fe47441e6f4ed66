import CriteriaQuery.Criterion.Basic

namespace CriteriaQuery

/-! The weight of a criteria list counts the JSON values in it. The list inside
a parentheses criterion weighs less than the criterion, so opening nested lists
comes to an end. -/

namespace Json

mutual

def size : Json → Nat
  | .array items => itemsSize items + 1
  | .object members => membersSize members + 1
  | _ => 1

def itemsSize : List Json → Nat
  | [] => 0
  | item :: rest => item.size + itemsSize rest

def membersSize : List (String × Json) → Nat
  | [] => 0
  | (_, value) :: rest => value.size + membersSize rest

end

theorem size_pos (value : Json) : 0 < value.size := by
  cases value <;> simp [size]

theorem size_le_of_get? {key : String} {value : Json} {members : Members}
    (found : Keyed.get? key members = some value) :
    value.size ≤ membersSize members := by
  induction members with
  | nil => simp [Keyed.get?] at found
  | cons member rest induction =>
    obtain ⟨name, other⟩ := member
    rw [membersSize]
    unfold Keyed.get? at found
    split at found
    · cases found; omega
    · have := induction found
      omega

end Json

namespace Criterion

def weight (criterion : Criterion) : Nat := Json.itemsSize criterion.values + 1

def totalWeight (criteria : List Criterion) : Nat :=
  criteria.foldr (weight · + ·) 0

@[simp] theorem totalWeight_cons (criterion : Criterion) (rest : List Criterion) :
    totalWeight (criterion :: rest) = criterion.weight + totalWeight rest := by
  simp [totalWeight]

theorem weight_le_totalWeight {criterion : Criterion} {criteria : List Criterion}
    (member : criterion ∈ criteria) :
    criterion.weight ≤ totalWeight criteria := by
  induction criteria with
  | nil => cases member
  | cons first rest induction =>
    rw [totalWeight_cons]
    rcases List.mem_cons.mp member with rfl | member
    · omega
    · have := induction member
      omega

theorem decode_items_any {items read : List Json}
    (found : Decode.items Decode.any items = .ok read) : read = items := by
  induction items generalizing read with
  | nil => simpa [Decode.items] using found.symm
  | cons item rest induction =>
    simp only [Decode.items, Decode.any, bind, Except.bind] at found
    cases tail : Decode.items Decode.any rest with
    | error reason => simp [tail] at found
    | ok values =>
      simp only [tail, pure, Except.pure, Except.ok.injEq] at found
      rw [← found, induction tail]

theorem values_of_ofFields {key operation values : Option Json}
    {criterion : Criterion}
    (found : ofFields [key, operation, values] = .ok criterion) :
    criterion.values = [] ∨ values = some (.array criterion.values) := by
  simp only [ofFields, bind, Except.bind, pure, Except.pure] at found
  split at found
  · simp at found
  split at found
  · simp at found
  split at found
  · simp at found
  next list read =>
  cases found
  match values with
  | none => left; simpa [Decode.orDefault] using read.symm
  | some (.array items) =>
    have equal : list = items :=
      decode_items_any (by simpa [Decode.orDefault, Decode.list] using read)
    right; rw [equal]
  | some .null | some (.bool _) | some (.number _) | some (.string _)
  | some (.object _) =>
    simp [Decode.orDefault, Decode.list] at read

theorem weight_le_of_ofJson {value : Json} {criterion : Criterion}
    (found : ofJson value = .ok criterion) : criterion.weight ≤ value.size := by
  have positive := value.size_pos
  suffices bound : criterion.values = [] ∨
      (Json.array criterion.values).size < value.size by
    rcases bound with none | bound
    · simp only [weight, none, Json.itemsSize]
      omega
    · simp only [Json.size] at bound
      simp only [weight]
      omega
  cases value with
  | null | bool _ | number _ | string _ => simp [ofJson, Decode.record] at found
  | object members =>
    simp only [ofJson, Decode.record, List.map_cons, List.map_nil] at found
    refine (values_of_ofFields found).imp_right fun given => ?_
    have := Json.size_le_of_get? given
    simp only [Json.size] at this ⊢
    omega
  | array items =>
    simp only [ofJson, Decode.record, bind, Except.bind] at found
    split at found
    · simp at found
    next result read =>
    split at found
    · simp at found
    cases found
    match items, read with
    | [], read => exact (values_of_ofFields read).imp_right nofun
    | [_], read => exact (values_of_ofFields read).imp_right nofun
    | [_, _], read => exact (values_of_ofFields read).imp_right nofun
    | key :: operation :: values :: rest, read =>
      have read : ofFields [some key, some operation, some values] =
          .ok criterion := by
        simpa using read
      refine (values_of_ofFields read).imp_right fun given => ?_
      cases given
      simp only [Json.size, Json.itemsSize]
      omega

theorem ofJson_of_nestedItem {index : Nat} {item : Json} {criterion : Criterion}
    (found : nestedItem index item = .ok criterion) :
    ofJson item = .ok criterion := by
  have read : nestedItem.read index item = .ok criterion := by
    unfold nestedItem at found
    split at found
    · split at found
      · simp at found
      · exact found
    · exact found
  unfold nestedItem.read at read
  split at read
  · cases read; assumption
  · simp at read

theorem totalWeight_le_of_nestedItems {index : Nat} {items : List Json}
    {criteria : List Criterion} (found : nestedItems index items = .ok criteria) :
    totalWeight criteria ≤ Json.itemsSize items := by
  induction items generalizing index criteria with
  | nil => cases found; simp [totalWeight]
  | cons item rest induction =>
    simp only [nestedItems, bind, Except.bind, pure, Except.pure] at found
    split at found
    · simp at found
    next criterion first =>
    split at found
    · simp at found
    next others tail =>
    cases found
    have := weight_le_of_ofJson (ofJson_of_nestedItem first)
    have := induction tail
    rw [totalWeight_cons, Json.itemsSize]
    omega

/-- The list inside a criterion weighs less than the criterion. -/
theorem totalWeight_lt_of_nested {criterion : Criterion}
    {criteria : List Criterion}
    (found : criterion.nested = .ok (some criteria)) :
    totalWeight criteria < criterion.weight := by
  unfold nested at found
  split at found
  next items rest values =>
    cases read : nestedItems 0 items with
    | error reason => simp [read, Except.map] at found
    | ok nested =>
      have equal : nested = criteria := by simpa [read, Except.map] using found
      have := totalWeight_le_of_nestedItems (equal ▸ read)
      simp only [weight, values, Json.itemsSize, Json.size]
      omega
  · simp at found

end Criterion

end CriteriaQuery
