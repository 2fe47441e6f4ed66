import CriteriaQuery.Proofs.Store.Positions
import CriteriaQuery.Proofs.Update.LastWriter

namespace CriteriaQuery

/-! What a cascade over a memory store leaves alone. Every level is written over
the document that it was loaded from, and no level writes identifiers. -/

theorem Level.idField_not_mem_fields {idField : String} {payload : Json}
    {model : Model} {active : ActiveLevel}
    (member : active ∈ (separate [] (ofPayload idField model payload)).1) :
    idField ∉ active.fields.map Prod.fst := by
  intro listed
  have given := Keyed.last?_isSome_iff.mpr listed
  rw [last?_fields_of_active member, if_pos rfl] at given
  cases given

namespace MemoryStore

variable {store : MemoryStore}

def Addresses (store : MemoryStore) (level : LevelWrite) (name : String)
    (position : Nat) : Prop :=
  store.collectionOf level.relation = .ok name ∧
    Collection.position? store.idField level.id (store.collection name) =
      some position

theorem Stages.replaces {active : ActiveLevel} {write : Write}
    (stages : store.Stages active write)
    (own : store.idField ∉ active.fields.map Prod.fst) :
    store.Replaces write := by
  rcases stages.entity with ⟨entity, loaded, merging⟩
  rw [get?, Collection.get?_eq_bind_position?, ← stages.id] at loaded
  rcases Option.bind_eq_some_iff.mp loaded with ⟨position, found, stored⟩
  have unset : Keyed.last? store.idField active.fields = none := by
    rw [← Option.not_isSome_iff_eq_none, Keyed.last?_isSome_iff]
    exact own
  refine ⟨position, found, ?_⟩
  rw [List.getElem?_map, stored, ActiveLevel.get?_merge merging,
    unset, Option.none_or]
  rfl

theorem Stages.goesTo_iff {active : ActiveLevel} {write : Write}
    (stages : store.Stages active write) {name : String} {position : Nat} :
    store.goesTo name position write = true ↔
    store.Addresses active.written name position := by
  rw [MemoryStore.goesTo_iff, Addresses, stages.id]
  refine and_congr_left fun _ => ?_
  have mapped : store.collectionOf active.written.relation =
      .ok write.collection :=
    stages.collection
  rw [mapped, Except.ok.injEq]

/-- The last write that goes to a position is the document there with the fields
of a level that addresses it. -/
theorem lastAt?_of_staged {active : List ActiveLevel} {writes : Transaction}
    (staged : List.Forall₂ store.Stages active writes) {name : String}
    {position : Nat} :
    store.lastAt? writes name position = none ∨ ∃ level ∈ active,
      store.Addresses level.written name position ∧
      ∃ old new, (store.collection name)[position]? = some old ∧
        level.merge old = .ok new ∧
        store.lastAt? writes name position = some new := by
  cases found : writes.reverse.find? (store.goesTo name position) with
  | none =>
    left
    rw [lastAt?, found]
    rfl
  | some write =>
    have made := List.mem_reverse.mp (List.mem_of_find?_eq_some found)
    have goes := List.find?_some found
    rcases exists_of_mem_right staged made with ⟨level, isActive, stages⟩
    have addresses := stages.goesTo_iff.mp goes
    rcases stages.entity with ⟨entity, loaded, merging⟩
    have there := (MemoryStore.goesTo_iff.mp goes).1
    have first : Collection.position? store.idField level.id
        (store.collection name) = some position := addresses.2
    rw [there, get?, Collection.get?_eq_bind_position?, first,
      Option.bind_some] at loaded
    refine .inr ⟨level, isActive, addresses, entity, write.entity,
      loaded, merging, ?_⟩
    rw [lastAt?, found]
    rfl

/-- A store after a cascade. Documents stay where they are, those that no
written level addresses stay as they are, and the others change in fields that a
level addressing them is reported to have written. -/
structure ChangedByLevels (store : MemoryStore) (written : List LevelWrite)
    (after : MemoryStore) : Prop where
  places : store.SamePlaces after
  others (name : String) (position : Nat) :
    (∀ level ∈ written, ¬store.Addresses level name position) →
      (after.collection name)[position]? = (store.collection name)[position]?
  fields (name : String) (position : Nat) (old new : Json) :
    (store.collection name)[position]? = some old →
    (after.collection name)[position]? = some new → new ≠ old →
      ∃ before members, old = .object before ∧ new = .object members ∧
        ∀ field, Keyed.get? field members ≠ Keyed.get? field before →
          ∃ level ∈ written, store.Addresses level name position ∧
          field ∈ level.fields

end MemoryStore

namespace Cascade

open MemoryStore

/-- A cascade that succeeds changes only the documents that its levels address,
and of these only the fields it reports. -/
theorem Request.changes_only_addressed {store after : MemoryStore}
    {request : Request} {report : UpdateReport}
    (ran : inTransaction (request.work store.idField) store = .ok report after) :
    store.ChangedByLevels report.written after := by
  rcases Request.ok_memory ran with ⟨model, payload, writes, -, rfl,
    staged, written⟩
  have replace : ∀ write ∈ writes, store.Replaces write := by
    intro write made
    rcases exists_of_mem_right staged made with ⟨level, isActive, stages⟩
    exact stages.replaces (Level.idField_not_mem_fields isActive)
  constructor
  · exact samePlaces_foldl_applyWrite replace
  · intro name position unaddressed
    rw [getElem?_foldl_applyWrite replace]
    rcases lastAt?_of_staged staged with none | ⟨level, isActive, addresses, -⟩
    · rw [none, Option.none_or]
    · rw [written] at unaddressed
      exact absurd addresses (unaddressed _ (List.mem_map_of_mem isActive))
  · intro name position old new stored kept changed
    rw [getElem?_foldl_applyWrite replace, stored] at kept
    rcases lastAt?_of_staged staged with
      none | ⟨level, isActive, addresses, before, merged, loaded, merging, last⟩
    · rw [none, Option.none_or] at kept
      exact absurd (Option.some.inj kept).symm changed
    · rw [last, Option.some_or] at kept
      cases kept
      cases stored.symm.trans loaded
      have byField := ActiveLevel.get?_merge merging
      cases old with
      | object members =>
        cases merging
        refine ⟨members, _, rfl, rfl, fun field differs => ?_⟩
        refine ⟨level.written, ?_, addresses, ?_⟩
        · rw [written]
          exact List.mem_map_of_mem isActive
        · refine Keyed.last?_isSome_iff.mp ?_
          by_contra unlisted
          rw [Option.not_isSome_iff_eq_none] at unlisted
          have same := byField field
          rw [unlisted, Option.none_or] at same
          exact differs same
      | _ => cases merging

/-! ## Two documents with one identifier -/

def twin : Json := .object [("id", .string "1"), ("name", .string "twin")]

def peopleWithTwin : MemoryStore := peopleWithRoles.insert "people" twin

theorem update_peopleWithTwin :
    inTransaction
        (Request.work "id" (.typed (.ok personUpdate) (some renamedManager)))
        peopleWithTwin =
      .ok
        ⟨[⟨"", .string "1", ["username"]⟩, ⟨"roles", .string "1", ["name"]⟩], []⟩
        (peopleWithTwin.applyWrite ⟨"people", .string "1",
          .object [("id", .string "1"), ("name", .string "manager"),
            ("username", .string "old")]⟩) := by
  have worked : Request.work "id"
      (.typed (.ok personUpdate) (some renamedManager))
      (peopleWithTwin, ([] : Transaction)) =
        .ok
          ⟨[⟨"", .string "1", ["username"]⟩, ⟨"roles", .string "1", ["name"]⟩], []⟩
          (peopleWithTwin,
            [⟨"people", .string "1",
                .object [("id", .string "1"), ("name", .string "clerk"),
                  ("username", .string "new")]⟩,
              ⟨"people", .string "1",
                .object [("id", .string "1"), ("name", .string "manager"),
                  ("username", .string "old")]⟩]) := by
    show applyTo "id" personUpdate renamedManager
      (peopleWithTwin, ([] : Transaction)) = _
    rw [applyTo_eq, levels_renamedManager]
    rfl
  have begun : TransactionalStore.begin peopleWithTwin =
      .ok ([] : Transaction) peopleWithTwin := rfl
  unfold inTransaction
  rw [begun]
  dsimp only
  rw [worked]
  rfl

/-- Both levels address the first of the documents, and the second one is left
alone. -/
theorem twin_unchanged : ∃ report after,
    inTransaction
      (Request.work "id" (.typed (.ok personUpdate) (some renamedManager)))
      peopleWithTwin = .ok report after ∧
    (after.collection "people").map (Json.get? "id") =
      [some (.string "1"), some (.string "1")] ∧
    (after.collection "people")[1]? = some twin := by
  refine ⟨_, _, update_peopleWithTwin, ?_⟩
  have ran : inTransaction (Request.work peopleWithTwin.idField
      (.typed (.ok personUpdate) (some renamedManager))) peopleWithTwin =
        .ok _ _ :=
    update_peopleWithTwin
  have changed := Request.changes_only_addressed ran
  refine ⟨changed.places.identifiers "people", ?_⟩
  rw [changed.others "people" 1]
  · rfl
  · intro level member addresses
    have first : Collection.position? "id" (.string "1")
        (peopleWithTwin.collection "people") = some 0 := rfl
    have sameId : level.id = .string "1" := by
      rcases List.mem_cons.mp member with rfl | member
      · rfl
      · rw [List.mem_singleton.mp member]
    have second := addresses.2
    rw [sameId] at second
    cases first.symm.trans second

end Cascade

end CriteriaQuery
