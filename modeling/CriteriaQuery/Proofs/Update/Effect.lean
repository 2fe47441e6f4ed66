import CriteriaQuery.Proofs.Correspondence
import CriteriaQuery.Proofs.Update.Cascade
import CriteriaQuery.Proofs.Update.Separation
import CriteriaQuery.Store.Counting

namespace CriteriaQuery

/-! A cascade that finds the entities of all its levels succeeds. It writes the
levels that are active, each of them once, and leaves everything else in the
store as it was. -/

def Leaf.overwrite (idField : String) (payload : Json) (relation : String)
    (leaves : List Leaf) (members : Members) : Members :=
  (givenFields idField payload relation leaves).foldl
    (fun members (field, value) => Keyed.set field value members) members

/-- Of the values that a payload gives to a field, the last one stays; the field
of identifiers and fields that are given nothing are left as they are. -/
theorem Leaf.get?_overwrite (idField : String) (payload : Json)
    (relation : String) (leaves : List Leaf) (members : Members)
    (field : String) :
    Keyed.get? field (overwrite idField payload relation leaves members) =
      (if field = idField then none else given? payload relation field leaves).or
        (Keyed.get? field members) := by
  rw [overwrite, Keyed.get?_foldl_set, ← Level.fields_ofLeaves,
    Level.last?_fields_ofLeaves]

namespace CountingStore

theorem get?_congr {left right : CountingStore}
    (same : left.entities = right.entities) (relation : String) (id : Json) :
    left.get? relation id = right.get? relation id := by
  rw [get?, get?, find?, find?, same]

/-! ## Writes -/

theorem find?_put (relation key : String) (entity : Json)
    (entities : Keyed (Keyed Json)) (otherRelation otherKey : String) :
    (Keyed.get? otherRelation (put relation key entity entities)).bind
      (Keyed.get? otherKey) =
      if otherRelation = relation ∧ otherKey = key then some entity
      else (Keyed.get? otherRelation entities).bind (Keyed.get? otherKey) := by
  unfold put
  by_cases sameRelation : otherRelation = relation
  · subst sameRelation
    rw [Keyed.get?_set_self, Option.bind_some]
    by_cases sameKey : otherKey = key
    · rw [sameKey, Keyed.get?_set_self, if_pos ⟨rfl, rfl⟩]
    · rw [Keyed.get?_set_of_ne sameKey, if_neg fun same => sameKey same.2]
      cases Keyed.get? otherRelation entities <;> rfl
  · rw [Keyed.get?_set_of_ne sameRelation, if_neg fun same => sameRelation same.1]

theorem find?_apply {writes : Transaction}
    (distinct : (writes.map Write.relation).Nodup)
    (entities : Keyed (Keyed Json)) (relation key : String) :
    (∀ write ∈ writes, write.relation = relation → write.key = key →
      (Keyed.get? relation (apply writes entities)).bind (Keyed.get? key) =
        some write.entity) ∧
    ((∀ write ∈ writes, write.relation = relation → write.key ≠ key) →
      (Keyed.get? relation (apply writes entities)).bind (Keyed.get? key) =
        (Keyed.get? relation entities).bind (Keyed.get? key)) := by
  induction writes generalizing entities with
  | nil => exact ⟨by simp, fun _ => rfl⟩
  | cons first rest induction =>
    rw [List.map_cons, List.nodup_cons] at distinct
    have later :=
      induction distinct.2 (put first.relation first.key first.entity entities)
    rw [find?_put] at later
    have step : apply (first :: rest) entities =
        apply rest (put first.relation first.key first.entity entities) := rfl
    rw [step]
    constructor
    · intro write member sameRelation sameKey
      rcases List.mem_cons.mp member with rfl | member
      · have kept : ∀ other ∈ rest, other.relation = relation →
            other.key ≠ key := by
          rintro other inRest rfl
          exact absurd (List.mem_map.mpr ⟨other, inRest, sameRelation.symm⟩)
            distinct.1
        rw [later.2 kept, if_pos ⟨sameRelation.symm, sameKey.symm⟩]
      · exact later.1 write member sameRelation sameKey
    · intro untouched
      rw [later.2 fun other member =>
        untouched other (List.mem_cons_of_mem _ member), if_neg]
      rintro ⟨sameRelation, sameKey⟩
      exact untouched first List.mem_cons_self sameRelation.symm sameKey.symm

end CountingStore

namespace Cascade

open CountingStore

variable {store : CountingStore} {model : Model} {idField : String}
  {payload : Json}

/-! ## Runs -/

def staged (entry : ActiveLevel × Json) : Write :=
  ⟨entry.1.relation, entry.1.id.plainText, entry.2⟩

theorem load_counting (relation : String) (id : Json) :
    ∃ next : CountingStore, next.entities = store.entities ∧
      next.refusing = store.refusing ∧
      TransactionalStore.load relation id (store, ([] : Transaction)) =
        .ok (store.get? relation id) (next, []) :=
  ⟨{ store with counts.loads := store.counts.loads + 1 }, rfl, rfl, rfl⟩

theorem save_counting (willing : store.refusing = none)
    (entry : ActiveLevel × Json) (writes : Transaction) :
    ∃ next : CountingStore, next.entities = store.entities ∧
      next.refusing = none ∧
        TransactionalStore.save entry.1.relation entry.1.id entry.2
        (store, writes) = .ok () (next, writes ++ [staged entry]) := by
  have accepted : store.refusing ≠ some entry.1.relation := by simp [willing]
  exact ⟨{ store with counts.saves := store.counts.saves + 1 }, rfl, willing,
    if_neg accepted⟩

theorem loadAll_counting (model : Model) {levels : List ActiveLevel}
    (stored : ∀ level ∈ levels, ∃ members,
      store.get? level.relation level.id = some (.object members)) :
    ∃ merged loaded, loadAll model levels (store, []) = .ok merged (loaded, []) ∧
      loaded.entities = store.entities ∧ loaded.refusing = store.refusing ∧
      merged.map Prod.fst = levels ∧
      ∀ entry ∈ merged, ∃ members,
        store.get? entry.1.relation entry.1.id = some (.object members) ∧
          entry.1.merge (.object members) = .ok entry.2 := by
  induction levels generalizing store with
  | nil => exact ⟨[], store, rfl, rfl, rfl, rfl, by simp⟩
  | cons level rest induction =>
    rcases stored level List.mem_cons_self with ⟨members, found⟩
    rcases load_counting level.relation level.id with
      ⟨next, sameEntities, sameRefusing, loaded⟩
    rw [found] at loaded
    have merging : ∃ own, level.merge (.object members) = .ok own := ⟨_, rfl⟩
    rcases merging with ⟨own, merging⟩
    have sameGet := CountingStore.get?_congr sameEntities
    have storedRest : ∀ other ∈ rest, ∃ members,
        next.get? other.relation other.id = some (.object members) := by
      intro other member
      rw [sameGet]
      exact stored other (List.mem_cons_of_mem _ member)
    rcases induction storedRest with ⟨merged, last, ran, entities,
      refusing, levels, merges⟩
    refine ⟨(level, own) :: merged, last, ?_, entities.trans sameEntities,
      refusing.trans sameRefusing, by rw [List.map_cons, levels], ?_⟩
    · rw [loadAll_cons, loaded]
      simp only [merging, ran]
    · intro entry member
      rcases List.mem_cons.mp member with rfl | member
      · exact ⟨members, found, merging⟩
      · rw [← sameGet]
        exact merges entry member

theorem saveAll_counting (merged : List (ActiveLevel × Json))
    (willing : store.refusing = none) (writes : Transaction) :
    ∃ written saved, saveAll merged (store, writes) =
        .ok written (saved, writes ++ merged.map staged) ∧
      saved.entities = store.entities ∧
      written = (merged.map Prod.fst).map ActiveLevel.written := by
  induction merged generalizing store writes with
  | nil => exact ⟨[], store, by rw [List.map_nil, List.append_nil]; rfl, rfl, rfl⟩
  | cons entry rest induction =>
    rcases save_counting willing entry writes with
      ⟨next, sameEntities, stillWilling, saved⟩
    rcases induction stillWilling (writes ++ [staged entry]) with
      ⟨written, last, ran, entities, reported⟩
    refine ⟨_, last, ?_, entities.trans sameEntities, rfl⟩
    rw [saveAll_cons, saved]
    simp only [ran, reported, List.map_cons, List.append_assoc,
      List.singleton_append]
    rfl

def reportOf (idField : String) (payload : Json) (model : Model) : UpdateReport :=
  ⟨(Level.activeOf idField payload model).map ActiveLevel.written,
    Level.skippedOf idField payload model⟩

theorem applyTo_counting
    (root : (model.levelId? idField payload rootRelation).isSome = true)
    (willing : store.refusing = none)
    (stored : ∀ level ∈ Level.activeOf idField payload model, ∃ members,
      store.get? level.relation level.id = some (.object members)) :
    ∃ (merged : List (ActiveLevel × Json)) (saved : CountingStore),
      applyTo idField model payload (store, ([] : Transaction)) =
        .ok (reportOf idField payload model) (saved, merged.map staged) ∧
      saved.entities = store.entities ∧
      merged.map Prod.fst = Level.activeOf idField payload model ∧
      ∀ entry ∈ merged, ∃ members,
        store.get? entry.1.relation entry.1.id = some (.object members) ∧
          entry.1.merge (.object members) = .ok entry.2 := by
  rcases loadAll_counting model stored with
    ⟨merged, loaded, loadedRan, loadedEntities, loadedRefusing, levels, merges⟩
  rcases saveAll_counting merged (loadedRefusing.trans willing) [] with
    ⟨written, saved, savedRan, savedEntities, reported⟩
  have identified :
      ((Level.ofPayload idField model payload).head?.bind Level.id).isNone =
        false := by
    rw [Level.id_head?_ofPayload]
    rcases Option.isSome_iff_exists.mp root with ⟨id, found⟩
    rw [found]
    rfl
  refine ⟨merged, saved, ?_, savedEntities.trans loadedEntities, levels, merges⟩
  rw [applyTo_eq, identified, if_neg (by simp), ← Level.activeOf, loadedRan]
  dsimp only
  rw [savedRan, reported, levels]
  rfl

/-! ## The whole effect -/

/-- A report names every level once: the active ones with the identifier and the
fields that the payload gives them, and the others as skipped. Whatever lies
under a level comes after it. -/
structure Reports (idField : String) (payload : Json) (model : Model)
    (report : UpdateReport) :
    Prop where
  once : (report.written.map LevelWrite.relation ++ report.skipped).Nodup
  written (write : LevelWrite) : write ∈ report.written ↔
    model.IsActive idField payload write.relation ∧
      model.levelId? idField payload write.relation = some write.id ∧
      write.fields =
        (Leaf.givenFields idField payload write.relation model.leaves).map
          Prod.fst
  skipped (relation : String) : relation ∈ report.skipped ↔
    model.HasLevel relation ∧ ¬ model.IsActive idField payload relation
  writtenOrder : (report.written.map LevelWrite.relation).Pairwise
    fun earlier later => ¬ Level.Under earlier later
  skippedOrder : report.skipped.Pairwise fun earlier later =>
    ¬ Level.Under earlier later

/-- The entities of active levels have the values of a payload over their own,
and nothing else in the store has changed. -/
structure Overwrites (idField : String) (payload : Json) (model : Model)
    (start after : CountingStore) : Prop where
  active (relation : String) (id : Json) (members : Members) :
    model.IsActive idField payload relation →
    model.levelId? idField payload relation = some id →
    start.get? relation id = some (.object members) →
      after.get? relation id =
        some (.object
          (Leaf.overwrite idField payload relation model.leaves members))
  others (relation key : String) :
    (∀ id, model.IsActive idField payload relation →
      model.levelId? idField payload relation = some id → id.plainText ≠ key) →
    after.find? relation key = start.find? relation key

theorem reports_reportOf
    (root : (model.levelId? idField payload rootRelation).isSome = true) :
    Reports idField payload model (reportOf idField payload model) := by
  have relations : (reportOf idField payload model).written.map
      LevelWrite.relation =
      (Level.activeOf idField payload model).map ActiveLevel.relation := by
    rw [reportOf, List.map_map]
    rfl
  constructor
  · rw [relations]
    exact Level.nodup_activeOf_append_skippedOf
  · intro write
    rw [reportOf, List.mem_map]
    constructor
    · rintro ⟨level, member, rfl⟩
      rcases (Level.mem_activeOf_iff root).mp member with
        ⟨active, identified, fields⟩
      exact ⟨active, identified, by rw [ActiveLevel.written, fields]⟩
    · rcases write with ⟨relation, id, fields⟩
      rintro ⟨active, identified, given⟩
      dsimp only at active identified given
      refine ⟨⟨relation, id,
          Leaf.givenFields idField payload relation model.leaves⟩, ?_, ?_⟩
      · exact (Level.mem_activeOf_iff root).mpr ⟨active, identified, rfl⟩
      · rw [given]
        rfl
  · intro relation
    exact Level.mem_skippedOf_iff root
  · rw [relations]
    exact Level.pairwise_activeOf
  · exact Level.pairwise_skippedOf

theorem overwrites_of_run
    (root : (model.levelId? idField payload rootRelation).isSome = true)
    {merged : List (ActiveLevel × Json)} {after : CountingStore}
    (levels : merged.map Prod.fst = Level.activeOf idField payload model)
    (merges : ∀ entry ∈ merged, ∃ members,
      store.get? entry.1.relation entry.1.id = some (.object members) ∧
      entry.1.merge (.object members) = .ok entry.2)
    (committed : after.entities =
      CountingStore.apply (merged.map staged) store.entities) :
    Overwrites idField payload model store after := by
  have isActive : ∀ entry ∈ merged,
      entry.1 ∈ Level.activeOf idField payload model := by
    intro entry member
    rw [← levels]
    exact List.mem_map_of_mem member
  have relations : (merged.map staged).map Write.relation =
      (Level.activeOf idField payload model).map ActiveLevel.relation := by
    rw [← levels, List.map_map, List.map_map]
    rfl
  have distinct : ((merged.map staged).map Write.relation).Nodup := by
    rw [relations]
    exact (List.nodup_append.mp Level.nodup_activeOf_append_skippedOf).1
  have applied := find?_apply distinct store.entities
  constructor
  · intro relation id members active identified found
    have member : (⟨relation, id,
          Leaf.givenFields idField payload relation model.leaves⟩ :
        ActiveLevel) ∈ merged.map Prod.fst := by
      rw [levels]
      exact (Level.mem_activeOf_iff root).mpr ⟨active, identified, rfl⟩
    rcases List.mem_map.mp member with ⟨⟨level, entity⟩, inMerged, rfl⟩
    rcases merges _ inMerged with ⟨stored, sameFound, merging⟩
    rw [found] at sameFound
    cases sameFound
    have overwritten :
        Json.object
          (Leaf.overwrite idField payload relation model.leaves members) =
          entity :=
      Except.ok.inj merging
    have kept :=
      (applied relation id.plainText).1 _ (List.mem_map_of_mem inMerged) rfl rfl
    rw [← committed] at kept
    rw [overwritten]
    exact kept
  · intro relation key untouched
    have kept := (applied relation key).2 ?_
    · rw [← committed] at kept
      exact kept
    · intro write member sameRelation
      rcases List.mem_map.mp member with ⟨entry, inMerged, rfl⟩
      rcases (Level.mem_activeOf_iff root).mp (isActive entry inMerged) with
        ⟨active, identified, -⟩
      exact untouched entry.1.id (sameRelation ▸ active)
        (sameRelation ▸ identified)

/-- With the root active and every active entity there, a request succeeds, and
its effect is the whole effect of its payload. -/
theorem Request.full_effect {request : Request} {start : CountingStore}
    (accepted : request.target = .ok (model, payload))
    (willing : start.refusing = none)
    (root : model.IsActive idField payload rootRelation)
    (stored : ∀ relation id,
      model.IsActive idField payload relation →
      model.levelId? idField payload relation = some id →
      ∃ members, start.get? relation id = some (.object members)) :
    ∃ report after,
      inTransaction (request.work idField) start = .ok report after ∧
      Reports idField payload model report ∧
      Overwrites idField payload model start after := by
  have storedActive : ∀ level ∈ Level.activeOf idField payload model, ∃ members,
      start.get? level.relation level.id = some (.object members) := by
    intro level member
    rcases (Level.mem_activeOf_iff root.identified).mp member with
      ⟨active, identified, -⟩
    exact stored level.relation level.id active identified
  -- The beginning is counted, and nothing else in the store changes by it.
  have begun : ∃ begun : CountingStore, begun.entities = start.entities ∧
      begun.refusing = none ∧
      TransactionalStore.begin start = .ok ([] : Transaction) begun :=
    ⟨{ start with counts.begins := start.counts.begins + 1 }, rfl, willing, rfl⟩
  rcases begun with ⟨begun, sameEntities, stillWilling, began⟩
  have sameGet := CountingStore.get?_congr sameEntities
  simp only [← sameGet] at storedActive
  rcases applyTo_counting root.identified stillWilling storedActive with
    ⟨merged, saved, ran, entities, levels, merges⟩
  have committed : ∃ after : CountingStore,
      after.entities = CountingStore.apply (merged.map staged) saved.entities ∧
      TransactionalStore.commit (merged.map staged) saved = .ok () after :=
    ⟨_, rfl, rfl⟩
  rcases committed with ⟨after, applied, committed⟩
  refine ⟨reportOf idField payload model, after, ?_,
    reports_reportOf root.identified, ?_⟩
  · rw [inTransaction, began]
    simp only [work_eq, accepted, ran, committed]
  · rw [entities, sameEntities] at applied
    simp only [sameGet] at merges
    exact overwrites_of_run root.identified levels merges applied

/-! ## A level that is skipped with everything under it -/

def userUpdate : Model :=
  ⟨"UserUpdate", .record,
    [.leaf "area" "area.name" .any, .leaf "areaId" "area.id" .any,
      .leaf "siteId" "roles.site.id" .any, .leaf "roleId" "roles.id" .any,
      .leaf "id" "id" .any,
    .leaf "name" "name" .any]⟩

def renamedUser : Json :=
  .object [("area", .string "south"), ("areaId", .string "7"),
    ("id", .string "1"), ("name", .string "new"), ("siteId", .string "3")]

def users : CountingStore :=
  (CountingStore.empty.insert "" (.string "1")
    (.object [("id", .string "1"), ("name", .string "old")])).insert "area"
      (.string "7") (.object [("name", .string "north")])

theorem userUpdate_of_renamedUser : ∃ report after,
    inTransaction
      (Request.work "id" (.typed (.ok userUpdate) (some renamedUser))) users =
      .ok report after ∧
    (∀ relation,
      relation ∈ report.skipped ↔ relation = "roles" ∨ relation = "roles.site") ∧
    after.get? "" (.string "1") =
      some (.object [("id", .string "1"), ("name", .string "new")]) ∧
    after.get? "area" (.string "7") =
      some (.object [("name", .string "south")]) := by
  have relations : rootRelation :: userUpdate.leaves.map Leaf.relation =
      ["", "area", "area", "roles.site", "roles", "", ""] := by decide +kernel
  have levels (relation : String) (has : userUpdate.HasLevel relation) :
      relation = "" ∨ relation = "area" ∨ relation = "roles" ∨
      relation = "roles.site" := by
    rw [Model.hasLevel_iff_mem, relations] at has
    revert has
    simp only [List.mem_cons, List.not_mem_nil]
    tauto
  have root : userUpdate.IsActive "id" renamedUser "" := by decide +kernel
  have area : userUpdate.IsActive "id" renamedUser "area" := by decide +kernel
  have role : ¬ userUpdate.IsActive "id" renamedUser "roles" := by decide +kernel
  have site : ¬ userUpdate.IsActive "id" renamedUser "roles.site" := by
    decide +kernel
  have rootId : userUpdate.levelId? "id" renamedUser "" =
    some (.string "1") := rfl
  have areaId : userUpdate.levelId? "id" renamedUser "area" =
    some (.string "7") := rfl
  have accepted : Request.target (.typed (.ok userUpdate) (some renamedUser)) =
      .ok (userUpdate, renamedUser) := rfl
  have willing : users.refusing = none := rfl
  have stored : ∀ relation id, userUpdate.IsActive "id" renamedUser relation →
      userUpdate.levelId? "id" renamedUser relation = some id →
        ∃ members, users.get? relation id = some (.object members) := by
    intro relation id active identified
    rcases levels relation active.hasLevel with rfl | rfl | rfl | rfl
    · rw [rootId] at identified
      cases identified
      exact ⟨_, rfl⟩
    · rw [areaId] at identified
      cases identified
      exact ⟨_, rfl⟩
    · exact absurd active role
    · exact absurd active site
  rcases Request.full_effect accepted willing root stored with
    ⟨report, after, ran, reports, overwrites⟩
  refine ⟨report, after, ran, fun relation => ?_, ?_, ?_⟩
  · rw [reports.skipped]
    constructor
    · rintro ⟨has, skipped⟩
      rcases levels relation has with rfl | rfl | skippedLevel
      · exact absurd root skipped
      · exact absurd area skipped
      · exact skippedLevel
    · rintro (rfl | rfl)
      · exact ⟨by decide +kernel, role⟩
      · exact ⟨by decide +kernel, site⟩
  · exact overwrites.active "" (.string "1") _ root rootId rfl
  · exact overwrites.active "area" (.string "7") _ area areaId rfl

end Cascade

end CriteriaQuery
