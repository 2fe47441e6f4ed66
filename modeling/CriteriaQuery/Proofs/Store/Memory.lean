import CriteriaQuery.Proofs.Json.LooseEquality
import CriteriaQuery.Store.Memory

namespace CriteriaQuery

/-! What a memory store holds after writes. Of the writes under an identifier
the last one counts, as long as no write brings an entity under it or takes one
away from it. -/

namespace Collection

variable {idField : String} {id entity : Json}

theorem hasId_congr {other : Json} (equal : id.looselyEqual other = true) :
    hasId idField id entity = hasId idField other entity := by
  unfold hasId
  cases entity.get? idField with
  | none => rfl
  | some candidate => exact Json.looselyEqual_congr_right equal candidate

/-- An entity with one identifier has just the ones that are loosely equal. -/
theorem hasId_eq_looselyEqual (carries : hasId idField id entity = true)
    (other : Json) : hasId idField other entity = id.looselyEqual other := by
  unfold hasId at carries ⊢
  cases found : entity.get? idField with
  | none =>
    rw [found] at carries
    cases carries
  | some candidate =>
    rw [found] at carries
    exact Json.looselyEqual_congr_left carries other

theorem get?_upsert {other : Json}
    (keeps : hasId idField other entity = id.looselyEqual other)
    (documents : Collection) :
    get? idField other (upsert idField id entity documents) =
      if id.looselyEqual other = true then some entity
      else get? idField other documents := by
  induction documents with
  | nil =>
    rw [upsert, get?, List.find?_cons, keeps]
    cases id.looselyEqual other <;> rfl
  | cons document rest induction =>
    unfold get? at induction ⊢
    rw [upsert]
    by_cases has : hasId idField id document = true
    -- The replaced document was found under `other` just when the entity is.
    · rw [if_pos has, List.find?_cons, List.find?_cons, keeps,
        hasId_eq_looselyEqual has other]
      cases id.looselyEqual other <;> rfl
    · rw [if_neg has, List.find?_cons, List.find?_cons, induction]
      cases equal : id.looselyEqual other with
      | false => rfl
      | true =>
        rw [← hasId_congr equal, Bool.eq_false_iff.mpr has]

end Collection

namespace MemoryStore

/-- A write neither brings an entity under an identifier nor takes one away from
it. -/
def Write.Keeps (idField : String) (id : Json) (write : Write) : Prop :=
  Collection.hasId idField id write.entity = write.id.looselyEqual id

theorem collection_applyWrite (store : MemoryStore) (write : Write)
    (name : String) :
    (store.applyWrite write).collection name =
      if name = write.collection then
        (store.collection name).upsert store.idField write.id write.entity
      else store.collection name := by
  unfold applyWrite
  by_cases same : name = write.collection
  · rw [if_pos same, same, collection, Keyed.get?_set_self]
    rfl
  · rw [if_neg same, collection, Keyed.get?_set_of_ne same]
    rfl

theorem get?_applyWrite {store : MemoryStore} {write : Write} {name : String}
    {id : Json}
    (keeps : write.collection = name → write.Keeps store.idField id) :
    (store.applyWrite write).get? name id =
      if write.collection = name ∧ write.id.looselyEqual id = true then
        some write.entity
      else store.get? name id := by
  have sameField : (store.applyWrite write).idField = store.idField := rfl
  unfold get?
  rw [sameField, collection_applyWrite]
  by_cases same : name = write.collection
  · rw [if_pos same, Collection.get?_upsert (keeps same.symm)]
    simp [same]
  · have other : ¬(write.collection = name ∧ write.id.looselyEqual id = true) :=
      fun both => same both.1.symm
    rw [if_neg same, if_neg other]

theorem latest?_cons (write : Write) (writes : Transaction) (name : String)
    (id : Json) :
    latest? (write :: writes) name id =
      (latest? writes name id).or
        (if write.collection = name ∧ write.id.looselyEqual id = true then
          some write.entity
        else none) := by
  unfold latest?
  rw [List.reverse_cons, List.find?_append, Option.map_or, List.find?_cons]
  by_cases hit : write.collection = name ∧ write.id.looselyEqual id = true
  · simp [hit]
  · rw [if_neg hit]
    have miss : (write.collection == name && write.id.looselyEqual id) =
        false := by
      rw [Bool.eq_false_iff]
      simpa using hit
    rw [miss]
    rfl

theorem get?_foldl_applyWrite {writes : Transaction} {store : MemoryStore}
    {name : String} {id : Json}
    (keep : ∀ write ∈ writes,
      write.collection = name → write.Keeps store.idField id) :
    (writes.foldl applyWrite store).get? name id =
      (latest? writes name id).or (store.get? name id) := by
  induction writes generalizing store with
  | nil => rfl
  | cons write rest induction =>
    have keepRest : ∀ later ∈ rest, later.collection = name →
        later.Keeps (store.applyWrite write).idField id :=
      fun later member => keep later (List.mem_cons_of_mem _ member)
    rw [List.foldl_cons, induction keepRest,
      get?_applyWrite (keep _ List.mem_cons_self),
      latest?_cons, Option.or_assoc]
    congr 1
    split <;> rfl

theorem get?_congr {store : MemoryStore} {name : String} {id other : Json}
    (equal : id.looselyEqual other = true) :
    store.get? name id = store.get? name other := by
  unfold get? Collection.get?
  congr 1
  funext document
  exact Collection.hasId_congr equal

theorem hasId_of_get? {store : MemoryStore} {name : String} {id entity : Json}
    (found : store.get? name id = some entity) :
    Collection.hasId store.idField id entity = true :=
  List.find?_some found

end MemoryStore

end CriteriaQuery
