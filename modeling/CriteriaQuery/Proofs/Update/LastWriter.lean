import CriteriaQuery.Proofs.Update.Memory

namespace CriteriaQuery

/-! Two levels of a payload may be stored as one entity. Every level is merged
into the entity as it was before the cascade, and each write replaces the whole
entity, so only the last level written to it is kept. -/

theorem ActiveLevel.get?_merge {level : ActiveLevel} {entity merged : Json}
    (merging : level.merge entity = .ok merged) (field : String) :
    merged.get? field = (Keyed.last? field level.fields).or
      (entity.get? field) := by
  cases entity with
  | object members =>
    cases merging
    exact Keyed.get?_foldl_set field level.fields members
  | _ => cases merging

namespace MemoryStore

variable {store : MemoryStore}

def SameEntity (store : MemoryStore) (level other : LevelWrite) : Prop :=
  store.collectionOf other.relation = store.collectionOf level.relation ∧
    other.id.looselyEqual level.id = true

def IsLastWriter (store : MemoryStore) (written : List LevelWrite)
    (level last : LevelWrite) : Prop :=
  ∃ before later, written = before ++ last :: later ∧
    store.SameEntity level last ∧ ∀ other ∈ later, ¬store.SameEntity level other

/-- No written level of the same collection brings an entity under the
identifier of a level, or takes one away from it, by giving a value to the field
of identifiers. -/
def KeepsIdentity (store : MemoryStore) (model : Model) (payload : Json)
    (written : List LevelWrite) (level : LevelWrite) : Prop :=
  ∀ other ∈ written, store.collectionOf other.relation =
    store.collectionOf level.relation → store.idField ∈ other.fields →
    ∀ value, Leaf.given? payload other.relation store.idField model.leaves =
      some value → value.looselyEqual level.id = other.id.looselyEqual level.id

theorem Stages.hits_iff {active : ActiveLevel} {write : Write}
    (stages : store.Stages active write) {level : LevelWrite} {name : String}
    (mapped : store.collectionOf level.relation = .ok name) :
    write.collection = name ∧ write.id.looselyEqual level.id = true ↔
      store.SameEntity level active.written := by
  have sameCollection : write.collection = name ↔
      store.collectionOf active.relation = store.collectionOf level.relation := by
    rw [stages.collection, mapped, Except.ok.injEq]
  rw [sameCollection, stages.id]
  rfl

/-- The latest write to a level's entity is the one of its last writer. -/
theorem latest?_of_staged {active : List ActiveLevel} {writes : Transaction}
    (staged : List.Forall₂ store.Stages active writes) {level : LevelWrite}
    {name : String} (mapped : store.collectionOf level.relation = .ok name) :
    (latest? writes name level.id = none ∧
      ∀ other ∈ active, ¬store.SameEntity level other.written) ∨
    ∃ last ∈ active, ∃ write, store.Stages last write ∧
      latest? writes name level.id = some write.entity ∧
      store.IsLastWriter (active.map ActiveLevel.written) level last.written := by
  induction staged with
  | nil => exact .inl ⟨rfl, by simp⟩
  | @cons first write rest writes stages related induction =>
    rw [latest?_cons]
    -- A writer among the rest stays the last one. Without any, it is the first
    -- level, if that one is stored as the entity at all.
    rcases induction with
      ⟨none, others⟩ | ⟨last, member, write', stages', found, before,
        later, split, writer⟩
    · rw [none, Option.none_or]
      by_cases same : store.SameEntity level first.written
      · rw [if_pos ((stages.hits_iff mapped).mpr same)]
        refine .inr ⟨first, List.mem_cons_self, write, stages, rfl, [],
          rest.map _, rfl, same, ?_⟩
        simpa using others
      · rw [if_neg fun hits => same ((stages.hits_iff mapped).mp hits)]
        refine .inl ⟨rfl, ?_⟩
        simpa [same] using others
    · refine .inr ⟨last, List.mem_cons_of_mem _ member, write', stages', ?_,
        first.written :: before, later, ?_, writer⟩
      · rw [found, Option.some_or]
      · rw [List.map_cons, split, List.cons_append]

/-- After the writes the entity of a level is the one before them, with the
fields of its last writer over its own. -/
theorem get?_of_staged {active : List ActiveLevel} {writes : Transaction}
    (staged : List.Forall₂ store.Stages active writes) {level : LevelWrite}
    {name : String} (mapped : store.collectionOf level.relation = .ok name)
    (keep : ∀ write ∈ writes,
      write.collection = name → write.Keeps store.idField level.id)
    {own : ActiveLevel} (member : own ∈ active)
    (same : store.SameEntity level own.written) :
    ∃ last ∈ active, store.IsLastWriter (active.map ActiveLevel.written) level
      last.written ∧ ∃ entity merged, store.get? name level.id = some entity ∧
        last.merge entity = .ok merged ∧
        (writes.foldl applyWrite store).get? name level.id = some merged := by
  rcases latest?_of_staged staged mapped with
    ⟨-, none⟩ | ⟨last, isActive, write, stages, latest, writer⟩
  · exact absurd same (none own member)
  · rcases stages.entity with ⟨entity, found, merging⟩
    rcases id writer with ⟨-, -, -, sameLast, -⟩
    rcases (stages.hits_iff mapped).mpr sameLast with ⟨collection, equal⟩
    refine ⟨last, isActive, writer, entity, write.entity, ?_, merging, ?_⟩
    · rw [← found, collection]
      rw [stages.id] at equal
      exact (get?_congr equal).symm
    · rw [get?_foldl_applyWrite keep, latest, Option.some_or]

end MemoryStore

namespace Cascade

open MemoryStore

variable {store after : MemoryStore} {idField : String}
  {request : Request} {model : Model}
variable {payload : Json} {report : UpdateReport}

theorem keeps_of_stages {active : ActiveLevel} {write : Write}
    (member : active ∈ (Level.separate []
      (Level.ofPayload idField model payload)).1)
    (stages : store.Stages active write) {level : LevelWrite}
    {written : List LevelWrite} (reported : active.written ∈ written)
    (keeps : store.KeepsIdentity model payload written level)
    (same : store.collectionOf active.relation =
      store.collectionOf level.relation) :
    write.Keeps store.idField level.id := by
  rcases stages.entity with ⟨entity, found, merging⟩
  have carried := Collection.hasId_eq_looselyEqual (hasId_of_get? found) level.id
  unfold Write.Keeps Collection.hasId
  rw [ActiveLevel.get?_merge merging, stages.id]
  -- An entity keeps the identifier it was found by, unless the level sets one.
  cases given : Keyed.last? store.idField active.fields with
  | none =>
    rw [Option.none_or]
    exact carried
  | some value =>
    have listed : store.idField ∈ active.written.fields :=
      Keyed.last?_isSome_iff.mp (by rw [given]; rfl)
    rw [Level.last?_fields_of_active member] at given
    split at given
    next => cases given
    next =>
      rw [Option.some_or, Option.any_some]
      exact keeps _ reported same listed value given

theorem keepsIdentity_of_idField_eq
    (ran : inTransaction (request.work idField) store = .ok report after)
    (same : store.idField = idField) (level : LevelWrite) :
    store.KeepsIdentity model payload report.written level := by
  intro other member _ listed
  rcases Request.ok_memory ran with ⟨model, payload, writes, -, -, -, written⟩
  rw [written] at member
  rcases List.mem_map.mp member with ⟨active, isActive, rfl⟩
  rw [same] at listed
  have unlisted := Level.last?_fields_of_active isActive idField
  rw [if_pos rfl] at unlisted
  have found := Keyed.last?_isSome_iff.mpr listed
  rw [unlisted] at found
  cases found

/-- A field that a level is reported to have written holds the payload's value
exactly when the last writer of the same entity gives it that value, or does not
list it and the entity had it before. -/
theorem committed_field_iff_last_writer
    (accepted : request.target = .ok (model, payload))
    (ran : inTransaction (request.work idField) store = .ok report after)
    {level : LevelWrite} (member : level ∈ report.written)
    (keeps : store.KeepsIdentity model payload report.written level)
    {field : String} (listed : field ∈ level.fields) :
    ∃ name value last, store.collectionOf level.relation = .ok name ∧
      Leaf.given? payload level.relation field model.leaves = some value ∧
      store.IsLastWriter report.written level last ∧
      ((after.get? name level.id).bind (Json.get? field) = some value ↔
        Leaf.given? payload last.relation field model.leaves = some value ∨
          field ∉ last.fields ∧
            (store.get? name level.id).bind (Json.get? field) = some value) := by
  rcases Request.ok_memory ran with ⟨model', payload', writes, target, rfl,
    staged, written⟩
  cases accepted.symm.trans target
  rw [written] at member
  rcases List.mem_map.mp member with ⟨active, isActive, rfl⟩
  rcases exists_of_mem_left staged isActive with ⟨own, -, ownStages⟩
  have mapped : store.collectionOf active.written.relation = .ok own.collection :=
    ownStages.collection
  rcases Option.isSome_iff_exists.mp (Keyed.last?_isSome_iff.mpr listed) with
    ⟨value, given⟩
  have notId : field ≠ idField := by
    rintro rfl
    rw [Level.last?_fields_of_active isActive, if_pos rfl] at given
    cases given
  rw [Level.last?_fields_of_active isActive, if_neg notId] at given
  have keep : ∀ write ∈ writes, write.collection = own.collection →
      write.Keeps store.idField active.written.id := by
    intro write made same
    rcases exists_of_mem_right staged made with ⟨other, isOther, stages⟩
    refine keeps_of_stages isOther stages ?_ keeps ?_
    · rw [written]
      exact List.mem_map_of_mem isOther
    · rw [stages.collection, same, mapped]
  rcases get?_of_staged staged mapped keep isActive
      ⟨rfl, Json.looselyEqual_refl _⟩ with
    ⟨last, isLast, writer, entity, merged, stored, merging, committed⟩
  rw [← written] at writer
  refine ⟨own.collection, value, last.written, mapped, given, writer, ?_⟩
  have lastGives : Keyed.last? field last.fields =
      Leaf.given? payload last.written.relation field model.leaves := by
    rw [Level.last?_fields_of_active isLast, if_neg notId]
    rfl
  have listedIff : field ∈ last.written.fields ↔
      (Leaf.given? payload last.written.relation field model.leaves).isSome =
        true := by
    rw [← lastGives]
    exact Keyed.last?_isSome_iff.symm
  rw [committed, stored, listedIff, Option.bind_some, Option.bind_some,
    ActiveLevel.get?_merge merging, lastGives]
  cases Leaf.given? payload last.written.relation field model.leaves <;> simp

/-! ## A lost update -/

def peopleWithRoles : MemoryStore :=
  ((MemoryStore.new "people" "id").insert "people"
    (.object [("id", .string "1"), ("name", .string "clerk"),
      ("username", .string "old")])).relate "roles" "people"

def personUpdate : Model :=
  ⟨"PersonUpdate", .record,
    [.leaf "id" "id" .any, .leaf "username" "username" .any,
    .leaf "roleId" "roles.id" .any, .leaf "roleName" "roles.name" .any]⟩

def renamedManager : Json :=
  .object [("id", .string "1"), ("roleId", .string "1"),
    ("roleName", .string "manager"), ("username", .string "new")]

theorem levels_renamedManager : Level.ofPayload "id" personUpdate renamedManager =
    [⟨"", some (.string "1"), [("username", .string "new")]⟩,
      ⟨"roles", some (.string "1"), [("name", .string "manager")]⟩] := by
  have collected : personUpdate.leaves.foldl (Level.addLeaf "id" renamedManager)
      [Level.new rootRelation] =
        [⟨"", some (.string "1"), [("username", .string "new")]⟩,
          ⟨"roles", some (.string "1"), [("name", .string "manager")]⟩] := rfl
  rw [Level.ofPayload, collected]
  apply List.mergeSort_of_pairwise
  decide

theorem update_renamedManager :
    inTransaction
        (Request.work "id" (.typed (.ok personUpdate) (some renamedManager)))
        peopleWithRoles =
      .ok
        ⟨[⟨"", .string "1", ["username"]⟩, ⟨"roles", .string "1", ["name"]⟩], []⟩
        (peopleWithRoles.applyWrite ⟨"people", .string "1",
          .object [("id", .string "1"), ("name", .string "manager"),
            ("username", .string "old")]⟩) := by
  have worked : Request.work "id"
      (.typed (.ok personUpdate) (some renamedManager))
      (peopleWithRoles, ([] : Transaction)) =
        .ok
          ⟨[⟨"", .string "1", ["username"]⟩, ⟨"roles", .string "1", ["name"]⟩], []⟩
          (peopleWithRoles,
            [⟨"people", .string "1",
                .object [("id", .string "1"), ("name", .string "clerk"),
                  ("username", .string "new")]⟩,
              ⟨"people", .string "1",
                .object [("id", .string "1"), ("name", .string "manager"),
                  ("username", .string "old")]⟩]) := by
    show applyTo "id" personUpdate renamedManager
      (peopleWithRoles, ([] : Transaction)) = _
    rw [applyTo_eq, levels_renamedManager]
    rfl
  have begun : TransactionalStore.begin peopleWithRoles =
      .ok ([] : Transaction) peopleWithRoles := rfl
  unfold inTransaction
  rw [begun]
  dsimp only
  rw [worked]
  rfl

/-- The new name is reported as written, no other level writes that field, and
it is lost to the write of the role. -/
theorem username_lost : ∃ report after,
    inTransaction
      (Request.work "id" (.typed (.ok personUpdate) (some renamedManager)))
      peopleWithRoles = .ok report after ∧
    ∃ level ∈ report.written, "username" ∈ level.fields ∧
      (∀ other ∈ report.written, "username" ∈ other.fields → other = level) ∧
      Leaf.given? renamedManager level.relation "username" personUpdate.leaves =
        some (.string "new") ∧
      (after.get? "people" level.id).bind (Json.get? "username") ≠
        some (.string "new") := by
  refine ⟨_, _, update_renamedManager, ⟨"", .string "1", ["username"]⟩,
    List.mem_cons_self, by decide, by simp, rfl, ?_⟩
  rcases committed_field_iff_last_writer rfl update_renamedManager
      List.mem_cons_self
      (keepsIdentity_of_idField_eq update_renamedManager rfl _)
        (List.mem_singleton.mpr rfl) with
    ⟨name, value, last, mapped, given,
      ⟨before, later, split, same, none⟩, decides⟩
  cases mapped
  cases given
  have lastIsRole : last = ⟨"roles", .string "1", ["name"]⟩ := by
    cases before with
    | nil =>
      rcases List.cons.inj split with ⟨rfl, rfl⟩
      exact absurd ⟨rfl, rfl⟩ (none _ List.mem_cons_self)
    | cons first before =>
      have split := (List.cons.inj split).2
      cases before with
      | nil => exact (List.cons.inj split).1.symm
      | cons second before => simp at split
  subst lastIsRole
  intro kept
  rcases decides.mp kept with given | ⟨-, stored⟩
  · cases given
  · have unchanged : "old" = "new" := Json.string.inj (Option.some.inj stored)
    exact absurd unchanged (by decide)

end Cascade

end CriteriaQuery
