import CriteriaQuery.Proofs.Update.Frame
import CriteriaQuery.Proofs.Update.Separation

namespace CriteriaQuery

/-! Requests that have no entity in common. A request reads and writes nothing
but the entities of its levels, so neither of two such requests can tell whether
the other one came first. -/

namespace MemoryStore

variable {store other : MemoryStore}

def SharesEntity (store : MemoryStore) (level other : ActiveLevel) : Prop :=
  ∃ name, store.collectionOf level.relation = .ok name ∧
    store.collectionOf other.relation = .ok name ∧
    level.id.looselyEqual other.id = true

/-- Two stores that a cascade over these levels cannot tell apart. -/
structure Agrees (store other : MemoryStore) (levels : List ActiveLevel) :
    Prop where
  collectionOf (relation : String) : other.collectionOf relation =
    store.collectionOf relation
  entities : ∀ level ∈ levels, ∀ name, store.collectionOf level.relation =
    .ok name → other.get? name level.id = store.get? name level.id

theorem Agrees.refl (store : MemoryStore) (levels : List ActiveLevel) :
    store.Agrees store levels :=
  ⟨fun _ => rfl, fun _ _ _ _ => rfl⟩

def moved {α ε : Type} (store : MemoryStore) :
    EStateM.Result ε (MemoryStore × Transaction) α →
      EStateM.Result ε (MemoryStore × Transaction) α
  | .ok value (_, writes) => .ok value (store, writes)
  | .error error (_, writes) => .error error (store, writes)

end MemoryStore

namespace Cascade

open MemoryStore

variable {store other : MemoryStore} {idField : String}

/-! ## Runs on stores that agree -/

theorem loadAll_agrees (model : Model) {levels : List ActiveLevel}
    (agrees : store.Agrees other levels) (writes : Transaction) :
    loadAll model levels (other, writes) =
      other.moved (loadAll model levels (store, writes)) := by
  induction levels with
  | nil => rfl
  | cons level rest induction =>
    have agreesRest : store.Agrees other rest :=
      ⟨agrees.collectionOf, fun next member =>
        agrees.entities next (List.mem_cons_of_mem _ member)⟩
    rw [loadAll_cons, loadAll_cons]
    cases mapped : store.collectionOf level.relation with
    | error error =>
      simp only [TransactionalStore.load, agrees.collectionOf, mapped]
      rfl
    | ok name =>
      simp only [TransactionalStore.load, agrees.collectionOf, mapped,
        agrees.entities level List.mem_cons_self name mapped]
      cases (latest? writes name level.id).or (store.get? name level.id) with
      | none => rfl
      | some entity =>
        cases merging : level.merge entity with
        | error error =>
          simp only [merging]
          rfl
        | ok merged =>
          simp only [merging, induction agreesRest]
          rcases loadAll model rest (store, writes) with
            ⟨found, after, made⟩ | ⟨error, after, made⟩ <;> rfl

theorem saveAll_agrees
    (mapping : ∀ relation,
      other.collectionOf relation = store.collectionOf relation)
    (merged : List (ActiveLevel × Json)) (writes : Transaction) :
    saveAll merged (other, writes) =
      other.moved (saveAll merged (store, writes)) := by
  induction merged generalizing writes with
  | nil => rfl
  | cons entry rest induction =>
    rw [saveAll_cons, saveAll_cons]
    cases mapped : store.collectionOf entry.1.relation with
    | error error =>
      simp only [TransactionalStore.save, mapping, mapped]
      rfl
    | ok name =>
      simp only [TransactionalStore.save, mapping, mapped, induction]
      generalize saveAll rest (store, _) = result
      rcases result with ⟨written, after, made⟩ | ⟨error, after, made⟩ <;> rfl

namespace Request

def levels (idField : String) (request : Request) : List ActiveLevel :=
  match request.target with
  | .error _ => []
  | .ok (model, payload) =>
    match model.levelId? idField payload rootRelation with
    | none => []
    | some _ => Level.activeOf idField payload model

theorem work_agrees {request : Request}
    (agrees : store.Agrees other (request.levels idField)) :
    request.work idField (other, ([] : Transaction)) =
      other.moved (request.work idField (store, ([] : Transaction))) := by
  rw [work_eq]
  unfold levels at agrees
  cases asked : request.target with
  | error error => rfl
  | ok target =>
    rw [asked] at agrees
    dsimp only at agrees ⊢
    rw [applyTo_eq, applyTo_eq, Level.id_head?_ofPayload, ← Level.activeOf]
    cases identified : target.1.levelId? idField target.2 rootRelation with
    | none => rfl
    | some id =>
      rw [identified] at agrees
      dsimp only at agrees
      rw [loadAll_agrees target.1 agrees]
      -- Loads leave the store as it is, so the saves are made on the other
      -- store too.
      have unmoved := loadAll_agrees target.1
        (.refl store (Level.activeOf idField target.2 target.1)) []
      rcases ran : loadAll target.1 (Level.activeOf idField target.2 target.1)
          (store, []) with
        ⟨merged, after, made⟩ | ⟨error, after, made⟩
      · rw [ran] at unmoved
        cases unmoved
        simp only [moved, saveAll_agrees agrees.collectionOf]
        rcases saveAll merged (store, made) with
          ⟨written, after, made⟩ | ⟨error, after, made⟩ <;> rfl
      · rfl

def perform (idField : String) (request : Request) (store : MemoryStore) :
    Except UpdateError UpdateReport × MemoryStore :=
  match inTransaction (request.work idField) store with
  | .ok report after => (.ok report, after)
  | .error error after => (.error error, after)

def outcome (idField : String) (request : Request) (store : MemoryStore) :
    Except UpdateError (UpdateReport × Transaction) :=
  match request.work idField (store, ([] : Transaction)) with
  | .ok report (_, writes) => .ok (report, writes)
  | .error error _ => .error error

def writes (idField : String) (request : Request) (store : MemoryStore) :
    Transaction :=
  match request.outcome idField store with
  | .ok (_, writes) => writes
  | .error _ => []

theorem outcome_agrees {request : Request}
    (agrees : store.Agrees other (request.levels idField)) :
    request.outcome idField other = request.outcome idField store := by
  rw [outcome, outcome, work_agrees agrees]
  rcases request.work idField (store, ([] : Transaction)) with
    ⟨report, after, made⟩ | ⟨error, after, made⟩ <;> rfl

theorem writes_agrees {request : Request}
    (agrees : store.Agrees other (request.levels idField)) :
    request.writes idField other = request.writes idField store := by
  rw [writes, writes, outcome_agrees agrees]

theorem perform_eq (idField : String) (request : Request) (store : MemoryStore) :
    request.perform idField store = ((request.outcome idField store).map Prod.fst,
      (request.writes idField store).foldl applyWrite store) := by
  have begun : TransactionalStore.begin store =
    .ok ([] : Transaction) store := rfl
  have unmoved := work_agrees (.refl store (request.levels idField))
  rw [perform, inTransaction, begun, writes, outcome]
  dsimp only
  rcases ran : request.work idField (store, ([] : Transaction)) with
    ⟨report, after, made⟩ | ⟨error, after, made⟩
  all_goals
    rw [ran] at unmoved
    cases unmoved
    rfl

theorem exists_stages_of_mem_writes {request : Request} {write : Write}
    (made : write ∈ request.writes idField store) :
    ∃ level ∈ request.levels idField, store.Stages level write := by
  unfold writes outcome at made
  rw [work_eq] at made
  unfold levels
  cases asked : request.target with
  | error error =>
    rw [asked] at made
    cases made
  | ok target =>
    rw [asked] at made
    dsimp only at made ⊢
    cases ran : applyTo idField target.1 target.2 (store, ([] : Transaction)) with
    | error error after =>
      rw [ran] at made
      cases made
    | ok report after =>
      rw [ran] at made
      rcases applyTo_memory ran with ⟨writes, rfl, staged, -⟩
      rw [applyTo_eq, Level.id_head?_ofPayload] at ran
      cases identified : target.1.levelId? idField target.2 rootRelation with
      | none =>
        rw [identified] at ran
        cases ran
      | some id => exact exists_of_mem_right staged made

theorem idField_not_mem_of_levels {request : Request} {level : ActiveLevel}
    (member : level ∈ request.levels idField) :
    idField ∉ level.fields.map Prod.fst := by
  unfold levels at member
  split at member
  next => cases member
  next =>
    split at member
    next => cases member
    next => exact Level.idField_not_mem_fields member

theorem replaces_of_mem_writes {request : Request} {write : Write}
    (made : write ∈ request.writes store.idField store) :
    store.Replaces write := by
  rcases exists_stages_of_mem_writes made with ⟨level, member, stages⟩
  exact stages.replaces (idField_not_mem_of_levels member)

/-! ## Independent requests -/

def Independent (store : MemoryStore) (first second : Request) : Prop :=
  ∀ level ∈ first.levels store.idField, ∀ other ∈ second.levels store.idField,
    ¬store.SharesEntity level other

variable {first second : Request}

theorem Independent.symm (independent : Independent store first second) :
    Independent store second first := by
  rintro level isSecond other isFirst ⟨name, mapped, mappedOther, equal⟩
  refine independent other isFirst level isSecond ⟨name, mappedOther, mapped, ?_⟩
  rw [Json.looselyEqual_comm]
  exact equal

theorem Independent.goesTo_eq_false
    (independent : Independent store first second) {write : Write}
    (made : write ∈ first.writes store.idField store) {level : ActiveLevel}
    (isLevel : level ∈ second.levels store.idField) {name : String}
    (mapped : store.collectionOf level.relation = .ok name) {position : Nat}
    (found : Collection.position? store.idField level.id
      (store.collection name) = some position) :
    store.goesTo name position write = false := by
  rw [Bool.eq_false_iff]
  intro goes
  rcases goesTo_iff.mp goes with ⟨rfl, foundWrite⟩
  rcases exists_stages_of_mem_writes made with ⟨own, isOwn, stages⟩
  refine independent own isOwn level isLevel ⟨write.collection,
    stages.collection, mapped, ?_⟩
  rw [← stages.id]
  exact Collection.looselyEqual_of_position? foundWrite found

theorem Independent.agrees (independent : Independent store first second) :
    store.Agrees ((first.writes store.idField store).foldl applyWrite store)
      (second.levels store.idField) := by
  have replace : ∀ write ∈ first.writes store.idField store,
      store.Replaces write :=
    fun write made => replaces_of_mem_writes made
  have same := samePlaces_foldl_applyWrite replace
  constructor
  · exact same.collectionOf
  · intro level isLevel name mapped
    rw [get?, get?, Collection.get?_eq_bind_position?,
      Collection.get?_eq_bind_position?, same.position?]
    cases found : Collection.position? store.idField level.id
        (store.collection name) with
    | none => rfl
    | some position =>
      have missed := lastAt?_eq_none fun write made =>
        independent.goesTo_eq_false made isLevel mapped found
      rw [Option.bind_some, Option.bind_some, getElem?_foldl_applyWrite replace,
        missed, Option.none_or]

theorem Independent.perform_after (independent : Independent store first second) :
    second.perform store.idField (first.perform store.idField store).2 =
      ((second.perform store.idField store).1,
        (first.writes store.idField store ++ second.writes store.idField
          store).foldl applyWrite
          store) := by
  simp only [perform_eq, outcome_agrees independent.agrees,
    writes_agrees independent.agrees, List.foldl_append]

/-- Independent requests may be made in either order: each of them succeeds or
fails as it would alone, and the store holds the same afterwards. -/
theorem independent_requests_commute
    (independent : Independent store first second) :
    (second.perform store.idField (first.perform store.idField store).2).1 =
      (second.perform store.idField store).1 ∧
    (first.perform store.idField (second.perform store.idField store).2).1 =
      (first.perform store.idField store).1 ∧
    (second.perform store.idField
      (first.perform store.idField store).2).2.SameContent
      (first.perform store.idField (second.perform store.idField store).2).2 := by
  rw [independent.perform_after, independent.symm.perform_after]
  -- What is left is that no write of the one request goes where the other writes.
  refine ⟨rfl, rfl,
    foldl_applyWrite_comm (fun write made => replaces_of_mem_writes made)
    (fun write made => replaces_of_mem_writes made) ?_⟩
  intro name position write made other madeOther goes
  rcases exists_stages_of_mem_writes madeOther with ⟨level, isLevel, stages⟩
  rw [Bool.eq_false_iff]
  intro goesOther
  rcases goesTo_iff.mp goesOther with ⟨there, found⟩
  rw [independent.goesTo_eq_false made isLevel (there ▸ stages.collection)
    (stages.id ▸ found)] at goes
  cases goes

/-! ## Two people in one collection -/

def peopleWithColleague : MemoryStore :=
  peopleWithRoles.insert "people"
    (.object [("id", .string "2"), ("username", .string "two")])

def renamedColleague : Json :=
  .object [("id", .string "2"), ("roleId", .null), ("roleName", .null),
    ("username", .string "second")]

theorem levels_renamedColleague :
    levels "id" (.typed (.ok personUpdate) (some renamedColleague)) =
      [⟨"", .string "2", [("username", .string "second")]⟩] := by
  have collected : personUpdate.leaves.foldl (Level.addLeaf "id" renamedColleague)
      [Level.new rootRelation] =
        [⟨"", some (.string "2"), [("username", .string "second")]⟩,
          ⟨"roles", none, []⟩] := rfl
  have sorted : Level.ofPayload "id" personUpdate renamedColleague =
      [⟨"", some (.string "2"), [("username", .string "second")]⟩,
        ⟨"roles", none, []⟩] := by
    rw [Level.ofPayload, collected]
    apply List.mergeSort_of_pairwise
    decide
  show Level.activeOf "id" renamedColleague personUpdate = _
  rw [Level.activeOf, sorted]
  rfl

theorem colleagues_commute :
    let manager : Request := .typed (.ok personUpdate) (some renamedManager)
    let colleague : Request := .typed (.ok personUpdate) (some renamedColleague)
    Independent peopleWithColleague manager colleague ∧
    (colleague.perform "id"
      (manager.perform "id" peopleWithColleague).2).2.SameContent
      (manager.perform "id"
        (colleague.perform "id" peopleWithColleague).2).2 := by
  intro manager colleague
  have managerLevels : manager.levels "id" =
      [⟨"", .string "1", [("username", .string "new")]⟩,
        ⟨"roles", .string "1", [("name", .string "manager")]⟩] := by
    show Level.activeOf "id" renamedManager personUpdate = _
    rw [Level.activeOf, levels_renamedManager]
    rfl
  have independent : Independent peopleWithColleague manager colleague := by
    intro level isManager other isColleague
    have idField : peopleWithColleague.idField = "id" := rfl
    rw [idField, managerLevels] at isManager
    rw [idField, levels_renamedColleague, List.mem_singleton] at isColleague
    subst isColleague
    have different : level.id.looselyEqual (.string "2") = false := by
      rcases List.mem_cons.mp isManager with rfl | isManager
      · decide
      · rw [List.mem_singleton.mp isManager]
        decide
    rintro ⟨name, -, -, equal⟩
    exact Bool.false_ne_true (different.symm.trans equal)
  exact ⟨independent, (independent_requests_commute independent).2.2⟩

end Request

end Cascade

end CriteriaQuery
