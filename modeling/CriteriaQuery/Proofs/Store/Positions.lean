import CriteriaQuery.Proofs.Store.Memory
import Mathlib.Data.List.Induction

namespace CriteriaQuery

/-! Where writes go. A write whose entity has the identifier of the document it
replaces leaves every identifier in its place. So the writes of a transaction
all go where they would go in the store before the first of them, and of those
that go to one place the last one stays. -/

namespace Collection

variable {idField : String} {id entity : Json} {documents : Collection}

def position? (idField : String) (id : Json) (documents : Collection) :
    Option Nat :=
  documents.findIdx? (hasId idField id)

theorem get?_eq_bind_position? :
    get? idField id documents =
      (position? idField id documents).bind fun position =>
        documents[position]? :=
  List.find?_eq_bind_findIdx?_getElem?

/-- Positions depend on the identifiers of documents and on nothing else. -/
theorem position?_congr {others : Collection}
    (same : others.map (Json.get? idField) = documents.map (Json.get? idField)) :
    position? idField id others = position? idField id documents := by
  have byIds (documents : Collection) : position? idField id documents =
      (documents.map (Json.get? idField)).findIdx? fun candidate =>
        candidate.any fun value => value.looselyEqual id := by
    rw [List.findIdx?_map]
    rfl
  rw [byIds, byIds, same]

theorem upsert_eq_set {position : Nat}
    (found : position? idField id documents = some position) :
    upsert idField id entity documents = documents.set position entity := by
  induction documents generalizing position with
  | nil => cases found
  | cons document rest induction =>
    unfold position? at found induction
    rw [List.findIdx?_cons] at found
    rw [upsert]
    by_cases has : hasId idField id document = true
    · rw [if_pos has] at found ⊢
      cases found
      rfl
    · rw [if_neg has] at found ⊢
      rcases Option.map_eq_some_iff.mp found with ⟨before, inRest, rfl⟩
      rw [induction inRest, List.set_cons_succ]

theorem looselyEqual_of_position? {other : Json} {position : Nat}
    (found : position? idField id documents = some position)
    (foundOther : position? idField other documents = some position) :
    id.looselyEqual other = true := by
  rcases List.findIdx?_eq_some_iff_getElem.mp found with ⟨_, has, -⟩
  rcases List.findIdx?_eq_some_iff_getElem.mp foundOther with ⟨_, hasOther, -⟩
  rw [← hasId_eq_looselyEqual has, hasOther]

end Collection

namespace MemoryStore

variable {store other : MemoryStore}

/-- Another state of a store has the same collections, with documents of the
same identifiers in the same order. -/
structure SamePlaces (store other : MemoryStore) : Prop where
  settings : other = { store with collections := other.collections }
  collections (name : String) :
    (Keyed.get? name other.collections).isSome =
      (Keyed.get? name store.collections).isSome
  identifiers (name : String) :
    (other.collection name).map (Json.get? store.idField) =
      (store.collection name).map (Json.get? store.idField)

namespace SamePlaces

theorem refl (store : MemoryStore) : store.SamePlaces store :=
  ⟨rfl, fun _ => rfl, fun _ => rfl⟩

theorem idField (same : store.SamePlaces other) :
    other.idField = store.idField := by
  rw [same.settings]

theorem collectionOf (same : store.SamePlaces other) (relation : String) :
    other.collectionOf relation = store.collectionOf relation := by
  rw [same.settings]
  rfl

theorem trans {last : MemoryStore} (same : store.SamePlaces other)
    (more : other.SamePlaces last) :
    store.SamePlaces last where
  settings := by
    rw [more.settings, same.settings]
  collections name := (more.collections name).trans (same.collections name)
  identifiers name := by
    have later := more.identifiers name
    rw [same.idField] at later
    exact later.trans (same.identifiers name)

theorem position? (same : store.SamePlaces other) (name : String) (id : Json) :
    Collection.position? other.idField id (other.collection name) =
      Collection.position? store.idField id (store.collection name) := by
  rw [same.idField]
  exact Collection.position?_congr (same.identifiers name)

end SamePlaces

def Replaces (store : MemoryStore) (write : Write) : Prop :=
  ∃ position, Collection.position? store.idField write.id
      (store.collection write.collection) = some position ∧
    ((store.collection write.collection).map
      (Json.get? store.idField))[position]? =
      some (write.entity.get? store.idField)

def goesTo (store : MemoryStore) (name : String) (position : Nat)
    (write : Write) : Bool :=
  write.collection == name &&
    Collection.position? store.idField write.id
      (store.collection name) == some position

theorem goesTo_iff {name : String} {position : Nat} {write : Write} :
    store.goesTo name position write = true ↔ write.collection = name ∧
      Collection.position? store.idField write.id (store.collection name) =
        some position := by
  rw [goesTo, Bool.and_eq_true, beq_iff_eq, beq_iff_eq]

theorem SamePlaces.replaces (same : store.SamePlaces other) {write : Write}
    (replaces : store.Replaces write) : other.Replaces write := by
  rcases replaces with ⟨position, found, identifier⟩
  refine ⟨position, (same.position? _ _).trans found, ?_⟩
  rw [same.idField, same.identifiers]
  exact identifier

theorem SamePlaces.goesTo (same : store.SamePlaces other) (name : String)
    (position : Nat) :
    other.goesTo name position = store.goesTo name position := by
  funext write
  rw [MemoryStore.goesTo, MemoryStore.goesTo, same.position?]

/-! ## One write -/

theorem samePlaces_applyWrite {write : Write} (replaces : store.Replaces write) :
    store.SamePlaces (store.applyWrite write) where
  settings := rfl
  collections name := by
    rcases replaces with ⟨position, found, -⟩
    by_cases there : name = write.collection
    · subst there
      -- A collection with a document in it has been used before.
      have used : (Keyed.get? write.collection store.collections).isSome =
          true := by
        rw [← Option.ne_none_iff_isSome]
        intro unused
        rw [collection, unused] at found
        cases found
      rw [applyWrite, Keyed.get?_set_self, used]
      rfl
    · rw [applyWrite, Keyed.get?_set_of_ne there]
  identifiers name := by
    rw [collection_applyWrite]
    split
    next there =>
      subst there
      rcases replaces with ⟨position, found, identifier⟩
      rw [Collection.upsert_eq_set found, List.map_set]
      rcases List.getElem?_eq_some_iff.mp identifier with ⟨inside, same⟩
      rw [← same, List.set_getElem_self]
    next => rfl

theorem getElem?_applyWrite {write : Write} (replaces : store.Replaces write)
    (name : String) (position : Nat) :
    ((store.applyWrite write).collection name)[position]? =
      if store.goesTo name position write then some write.entity
      else (store.collection name)[position]? := by
  rw [collection_applyWrite]
  split
  next there =>
    subst there
    rcases replaces with ⟨own, found, identifier⟩
    have inside : own < (store.collection write.collection).length := by
      simpa using (List.getElem?_eq_some_iff.mp identifier).1
    rw [Collection.upsert_eq_set found, List.getElem?_set, if_pos inside]
    simp only [goesTo_iff, found, Option.some.injEq, true_and]
  next elsewhere =>
    rw [if_neg]
    intro goes
    exact elsewhere (goesTo_iff.mp goes).1.symm

/-! ## The writes of a transaction -/

def lastAt? (store : MemoryStore) (writes : Transaction) (name : String)
    (position : Nat) :
    Option Json :=
  (writes.reverse.find? (store.goesTo name position)).map Write.entity

theorem samePlaces_foldl_applyWrite {writes : Transaction}
    (replace : ∀ write ∈ writes, store.Replaces write) :
    store.SamePlaces (writes.foldl applyWrite store) := by
  -- The last write finds the places as they were before the first one.
  induction writes using List.reverseRecOn with
  | nil => exact .refl store
  | append_singleton writes write induction =>
    have same :=
      induction fun earlier member =>
        replace earlier (List.mem_append_left _ member)
    rw [List.foldl_append]
    exact same.trans
      (samePlaces_applyWrite (same.replaces (replace write (by simp))))

theorem getElem?_foldl_applyWrite {writes : Transaction}
    (replace : ∀ write ∈ writes, store.Replaces write) (name : String)
    (position : Nat) :
    ((writes.foldl applyWrite store).collection name)[position]? =
      (store.lastAt? writes name position).or
        (store.collection name)[position]? := by
  induction writes using List.reverseRecOn with
  | nil => rfl
  | append_singleton writes write induction =>
    have before : ∀ earlier ∈ writes, store.Replaces earlier :=
      fun earlier member => replace earlier (List.mem_append_left _ member)
    have same := samePlaces_foldl_applyWrite before
    rw [List.foldl_append, List.foldl_cons, List.foldl_nil,
      getElem?_applyWrite (same.replaces (replace write (by simp))), same.goesTo,
      induction before, lastAt?, lastAt?, List.reverse_append,
      List.reverse_singleton, List.singleton_append, List.find?_cons]
    cases store.goesTo name position write <;> rfl

theorem lastAt?_eq_none {writes : Transaction} {name : String} {position : Nat}
    (miss : ∀ write ∈ writes, store.goesTo name position write = false) :
    store.lastAt? writes name position = none := by
  have none : writes.reverse.find? (store.goesTo name position) = none := by
    rw [List.find?_eq_none]
    intro write made
    rw [miss write (List.mem_reverse.mp made)]
    exact Bool.false_ne_true
  rw [lastAt?, none]
  rfl

theorem lastAt?_append (first second : Transaction) (name : String)
    (position : Nat) :
    store.lastAt? (first ++ second) name position =
      (store.lastAt? second name position).or
        (store.lastAt? first name position) := by
  rw [lastAt?, List.reverse_append, List.find?_append, Option.map_or]
  rfl

/-! ## Writes to different places -/

structure SameContent (left right : MemoryStore) : Prop where
  settings : right = { left with collections := right.collections }
  collections (name : String) :
    Keyed.get? name right.collections = Keyed.get? name left.collections

theorem SamePlaces.sameContent {left right : MemoryStore}
    (sameLeft : store.SamePlaces left) (sameRight : store.SamePlaces right)
    (documents : ∀ name, right.collection name = left.collection name) :
    left.SameContent right where
  settings := by
    rw [sameRight.settings, sameLeft.settings]
  collections name := by
    have used :=
      (sameRight.collections name).trans (sameLeft.collections name).symm
    have equal := documents name
    unfold collection at equal
    cases inLeft : Keyed.get? name left.collections with
    | none =>
      rw [inLeft] at used
      exact Option.isSome_eq_false_iff.mp used |> Option.isNone_iff_eq_none.mp
    | some own =>
      rw [inLeft] at used equal
      rcases Option.isSome_iff_exists.mp used with ⟨other, inRight⟩
      rw [inRight] at equal ⊢
      exact congrArg some equal

/-- Writes that never go to one place can be applied in either order. -/
theorem foldl_applyWrite_comm {first second : Transaction}
    (replaceFirst : ∀ write ∈ first, store.Replaces write)
    (replaceSecond : ∀ write ∈ second, store.Replaces write)
    (apart : ∀ name position, ∀ write ∈ first, ∀ other ∈ second,
      store.goesTo name position write = true →
      store.goesTo name position other = false) :
    ((first ++ second).foldl applyWrite store).SameContent
      ((second ++ first).foldl applyWrite store) := by
  have replace : ∀ write ∈ first ++ second, store.Replaces write := by
    intro write made
    rcases List.mem_append.mp made with made | made
    · exact replaceFirst write made
    · exact replaceSecond write made
  have replaceSwapped : ∀ write ∈ second ++ first, store.Replaces write := by
    intro write made
    exact replace write (List.mem_append.mpr (List.mem_append.mp made).symm)
  apply (samePlaces_foldl_applyWrite replace).sameContent
    (samePlaces_foldl_applyWrite replaceSwapped)
  intro name
  apply List.ext_getElem?
  intro position
  rw [getElem?_foldl_applyWrite replace, getElem?_foldl_applyWrite replaceSwapped,
    lastAt?_append, lastAt?_append]
  -- At most one of the two transactions has a write to this position.
  by_cases taken : ∃ write ∈ first, store.goesTo name position write = true
  · rcases taken with ⟨write, made, goes⟩
    have none : store.lastAt? second name position = none :=
      lastAt?_eq_none fun other member =>
        apart name position write made other member goes
    rw [none, Option.or_none, Option.none_or]
  · have none : store.lastAt? first name position = none := by
      apply lastAt?_eq_none
      intro write made
      exact Bool.eq_false_iff.mpr fun goes => taken ⟨write, made, goes⟩
    rw [none, Option.or_none, Option.none_or]

end MemoryStore

end CriteriaQuery
