import CriteriaQuery.Proofs.Store.Memory

namespace CriteriaQuery

/-! Calls inside one transaction of a memory store. A load finds the latest save
under its identifier, also one made through another relation, and what can be
loaded last is what a commit makes visible. -/

inductive EntityCall where
  | load (relation : String) (id : Json)
  | save (relation : String) (id entity : Json)

namespace EntityCall

variable {store transaction : Type} [TransactionalStore store transaction]

def run : EntityCall → EStateM StorageError (store × transaction) (Option Json)
  | .load relation id => TransactionalStore.load relation id
  | .save relation id entity => do
    TransactionalStore.save relation id entity
    return none

/-- Makes calls one after the other and gives the answer to each of them. A call
that fails does not keep the next one from being made. -/
def runAll : List EntityCall → store × transaction →
    List (Except StorageError (Option Json)) × (store × transaction)
  | [], state => ([], state)
  | call :: rest, state =>
    match call.run state with
    | .ok answer next =>
      let (answers, last) := runAll rest next
      (.ok answer :: answers, last)
    | .error error next =>
      let (answers, last) := runAll rest next
      (.error error :: answers, last)

theorem runAll_append (calls more : List EntityCall)
    (state : store × transaction) :
    runAll (calls ++ more) state =
      ((runAll calls state).1 ++ (runAll more (runAll calls state).2).1,
        (runAll more (runAll calls state).2).2) := by
  induction calls generalizing state with
  | nil => rfl
  | cons call rest induction =>
    rw [List.cons_append, runAll, runAll]
    cases call.run state with
    | ok answer next => simp only [induction next, List.cons_append]
    | error error next => simp only [induction next, List.cons_append]

theorem length_answers (calls : List EntityCall) (state : store × transaction) :
    (runAll calls state).1.length = calls.length := by
  induction calls generalizing state with
  | nil => rfl
  | cons call rest induction =>
    rw [runAll]
    cases call.run state with
    | ok answer next => simp only [List.length_cons, induction next]
    | error error next => simp only [List.length_cons, induction next]

end EntityCall

namespace MemoryStore

variable {store : MemoryStore}

def saved? (store : MemoryStore) (name : String) (id : Json) :
    EntityCall → Option Json
  | .load _ _ => none
  | .save relation own entity =>
    match store.collectionOf relation with
    | .error _ => none
    | .ok found =>
      if found = name ∧ own.looselyEqual id = true then some entity else none

/-- The entity of a collection with an identifier after calls: the one that was
saved last, or else the committed one. -/
def entityAfter? (store : MemoryStore) (calls : List EntityCall) (name : String)
    (id : Json) : Option Json :=
  (calls.reverse.findSome? (store.saved? name id)).or (store.get? name id)

def SavesUnderOwnIds (store : MemoryStore) (calls : List EntityCall) : Prop :=
  ∀ relation id entity name, .save relation id entity ∈ calls →
    store.collectionOf relation = .ok name →
    Collection.hasId store.idField id entity = true

/-! ## The writes of calls -/

def write? (store : MemoryStore) : EntityCall → Option Write
  | .load _ _ => none
  | .save relation id entity =>
    match store.collectionOf relation with
    | .error _ => none
    | .ok name => some ⟨name, id, entity⟩

/-- A call is answered by the writes that are there already. It adds its own,
and leaves the store alone. -/
theorem run_call (store : MemoryStore) (writes : Transaction)
    (call : EntityCall) :
    ∃ answer, EntityCall.runAll [call] (store, writes) =
      ([answer], (store, writes ++ (store.write? call).toList)) ∧
      ∀ relation id, call = .load relation id →
        answer = (store.collectionOf relation).map fun name =>
          (latest? writes name id).or (store.get? name id) := by
  cases call with
  | load relation id =>
    cases mapped : store.collectionOf relation with
    | error error =>
      refine ⟨.error error, ?_, ?_⟩
      · simp [EntityCall.runAll, EntityCall.run,
          TransactionalStore.load, mapped, write?]
      · rintro _ _ ⟨⟩
        rw [mapped]
        rfl
    | ok name =>
      refine ⟨.ok ((latest? writes name id).or (store.get? name id)), ?_, ?_⟩
      · simp [EntityCall.runAll, EntityCall.run,
          TransactionalStore.load, mapped, write?]
      · rintro _ _ ⟨⟩
        rw [mapped]
        rfl
  | save relation id entity =>
    cases mapped : store.collectionOf relation with
    | error error =>
      refine ⟨.error error, ?_, by rintro _ _ ⟨⟩⟩
      simp [EntityCall.runAll, EntityCall.run, TransactionalStore.save, bind,
        EStateM.bind, mapped, write?]
    | ok name =>
      refine ⟨.ok none, ?_, by rintro _ _ ⟨⟩⟩
      simp [EntityCall.runAll, EntityCall.run, TransactionalStore.save, bind,
        EStateM.bind, pure, EStateM.pure, mapped, write?]

theorem run_calls (store : MemoryStore) (writes : Transaction)
    (calls : List EntityCall) :
    (EntityCall.runAll calls (store, writes)).2 =
      (store, writes ++ calls.filterMap store.write?) := by
  induction calls generalizing writes with
  | nil => simp [EntityCall.runAll]
  | cons call rest induction =>
    rcases store.run_call writes call with ⟨answer, ran, -⟩
    rw [← List.singleton_append, EntityCall.runAll_append, ran,
      List.filterMap_append]
    dsimp only
    rw [induction, List.append_assoc]
    cases own : store.write? call <;> simp [own]

theorem latest?_writes (calls : List EntityCall) (name : String) (id : Json) :
    latest? (calls.filterMap store.write?) name id =
      calls.reverse.findSome? (store.saved? name id) := by
  induction calls with
  | nil => rfl
  | cons call rest induction =>
    rw [List.reverse_cons, List.findSome?_append, ← induction,
      List.findSome?_singleton]
    cases call with
    | load relation other =>
      have none : store.write? (.load relation other) = none := rfl
      rw [List.filterMap_cons_none none]
      exact (Option.or_none).symm
    | save relation other entity =>
      cases mapped : store.collectionOf relation with
      | error error =>
        have none : store.write? (.save relation other entity) = none := by
          simp only [write?, mapped]
        rw [List.filterMap_cons_none none]
        simp only [saved?, mapped, Option.or_none]
      | ok found =>
        have own : store.write? (.save relation other entity) =
            some ⟨found, other, entity⟩ := by
          simp only [write?, mapped]
        rw [List.filterMap_cons_some own, latest?_cons]
        simp only [saved?, mapped]

theorem keeps_of_savesUnderOwnIds {calls : List EntityCall}
    (own : store.SavesUnderOwnIds calls) (id : Json) :
    ∀ write ∈ calls.filterMap store.write?, write.Keeps store.idField id := by
  intro write member
  rcases List.mem_filterMap.mp member with ⟨call, made, found⟩
  cases call with
  | load relation other => cases found
  | save relation other entity =>
    cases mapped : store.collectionOf relation with
    | error error =>
      simp only [write?, mapped] at found
      cases found
    | ok name =>
      simp only [write?, mapped] at found
      cases found
      exact Collection.hasId_eq_looselyEqual
        (own relation other entity name made mapped) id

/-! ## Whole transactions -/

/-- In a transaction each load finds the entity that was saved last under its
identifier, or else the committed one. A commit leaves in every collection just
the entities that a load would find before it, and giving the transaction up
leaves the store as it was. -/
theorem loads_and_commit_agree (store : MemoryStore) (calls : List EntityCall)
    (own : store.SavesUnderOwnIds calls) :
    ∃ opened answers writes after,
      TransactionalStore.begin store = .ok opened store ∧
      EntityCall.runAll calls (store, opened) = (answers, (store, writes)) ∧
      (∀ before relation id later, calls = before ++ .load relation id :: later →
        answers[before.length]? =
          some ((store.collectionOf relation).map fun name =>
            store.entityAfter? before name id)) ∧
      TransactionalStore.commit writes store = .ok () after ∧
      (∀ name id, after.get? name id = store.entityAfter? calls name id) ∧
      (∀ relation name id, store.collectionOf relation = .ok name →
        TransactionalStore.load relation id (store, writes) =
          .ok (after.get? name id) (store, writes)) ∧
      TransactionalStore.rollback writes store = .ok () store := by
  have committed (name : String) (id : Json) :
      ((calls.filterMap store.write?).foldl applyWrite store).get? name id =
        store.entityAfter? calls name id := by
    rw [get?_foldl_applyWrite fun write member _ =>
      keeps_of_savesUnderOwnIds own id write member, latest?_writes]
    rfl
  have ran : (EntityCall.runAll calls (store, ([] : Transaction))).2 =
      (store, calls.filterMap store.write?) := store.run_calls [] calls
  refine ⟨[], (EntityCall.runAll calls (store, ([] : Transaction))).1,
    calls.filterMap store.write?, (calls.filterMap store.write?).foldl applyWrite
      store, rfl, ?_, ?_, rfl, committed, ?_, rfl⟩
  · rw [← ran]
  · rintro before relation id later rfl
    rw [EntityCall.runAll_append, run_calls, List.nil_append,
      ← List.singleton_append, EntityCall.runAll_append]
    rcases store.run_call (before.filterMap store.write?) (.load relation id) with
      ⟨answer, answered, loaded⟩
    have position := EntityCall.length_answers before (store, ([] : Transaction))
    -- The answer to this load stands behind those to the calls before it.
    rw [List.getElem?_append_right (by omega), answered, position]
    simp only [Nat.sub_self, List.singleton_append, List.getElem?_cons_zero]
    rw [loaded relation id rfl]
    simp only [latest?_writes]
    rfl
  · intro relation name id mapped
    rw [committed]
    simp only [TransactionalStore.load, mapped, latest?_writes]
    rfl

/-! ## One person under two relations -/

def one : Json := .ofNat 1

def oneAsFloat : Json := .number (.float ⟨false, 0x3FF0000000000000, by decide⟩)

def personNamed (name : String) : Json :=
  .object [("id", one), ("name", .string name)]

def peopleWithLeads : MemoryStore :=
  ((MemoryStore.new "people" "id").insert "people" (personNamed "Ann")).relate
    "lead" "people"

def leadCalls : List EntityCall :=
  [.save "" one (personNamed "Bea"), .load "lead" oneAsFloat,
    .save "lead" oneAsFloat (personNamed "Cleo"), .load "team" one, .load "" one]

theorem leads_read_back : peopleWithLeads.SavesUnderOwnIds leadCalls ∧
    ∃ answers writes after,
      EntityCall.runAll leadCalls (peopleWithLeads, ([] : Transaction)) =
        (answers, (peopleWithLeads, writes)) ∧
      answers[1]? = some (.ok (some (personNamed "Bea"))) ∧
      answers[3]? = some (.error (.unknownRelation "team")) ∧
      answers[4]? = some (.ok (some (personNamed "Cleo"))) ∧
      TransactionalStore.commit writes peopleWithLeads = .ok () after ∧
      after.get? "people" one = some (personNamed "Cleo") := by
  have asFloat : one.looselyEqual oneAsFloat = true := by decide +kernel
  have fromFloat : oneAsFloat.looselyEqual one = true := by decide +kernel
  have own : peopleWithLeads.SavesUnderOwnIds leadCalls := by
    intro relation id entity name member mapped
    simp only [leadCalls, List.mem_cons, EntityCall.save.injEq, reduceCtorEq,
      false_or, List.not_mem_nil, or_false] at member
    rcases member with ⟨rfl, rfl, rfl⟩ | ⟨rfl, rfl, rfl⟩
    · exact Json.looselyEqual_refl one
    · exact asFloat
  rcases loads_and_commit_agree peopleWithLeads leadCalls own with
    ⟨opened, answers, writes, after, began, ran, loads, committed, gets, -, -⟩
  cases began
  have root : peopleWithLeads.collectionOf "" = .ok "people" := rfl
  have lead : peopleWithLeads.collectionOf "lead" = .ok "people" := rfl
  refine ⟨own, answers, writes, after, ran, ?_, ?_, ?_, committed, ?_⟩
  · refine (loads [_] "lead" oneAsFloat _ rfl).trans ?_
    rw [lead]
    simp [Except.map, entityAfter?, saved?, root, asFloat]
  · exact loads [_, _, _] "team" one _ rfl
  · refine (loads [_, _, _, _] "" one _ rfl).trans ?_
    rw [root]
    simp [Except.map, entityAfter?, List.findSome?_cons, saved?, lead, fromFloat]
  · rw [gets]
    simp [leadCalls, entityAfter?, List.findSome?_cons, saved?, lead, fromFloat]

end MemoryStore

end CriteriaQuery
