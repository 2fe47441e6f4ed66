import CriteriaQuery.Proofs.Update.Recorded
import CriteriaQuery.Store.Counting
import CriteriaQuery.Store.Memory

namespace CriteriaQuery

/-! An update is one transaction: committed as a whole, or without a trace. -/

def UpdateError.PrecedesSaves : UpdateError → Prop
  | .storage (.unknownRelation _) | .storage (.serialization _) => True
  | .storage _ => False
  | _ => True

/-! ## Isolation -/

/-- Calls inside a transaction leave `frame` alone, and so does giving the
transaction up. The relations that a frame serves are the ones from which
entities can be loaded; a save there fails for reasons of the backend only. -/
structure TransactionalStore.Isolates {store transaction φ : Type}
    [TransactionalStore store transaction] (frame : store → φ)
    (serves : φ → String → Prop) : Prop where
  begins (start : store) : ∃ opened state,
    TransactionalStore.begin start = .ok opened state ∧ frame state = frame start
  loads (relation : String) (id : Json) (state : store × transaction) :
    (∃ found after, TransactionalStore.load relation id state = .ok found after ∧
      frame after.1 = frame state.1 ∧ serves (frame state.1) relation) ∨
    ∃ error after, TransactionalStore.load relation id state =
      .error error after ∧ frame after.1 = frame state.1
  saves (relation : String) (id entity : Json) (state : store × transaction) :
    (∃ after, TransactionalStore.save relation id entity state = .ok () after ∧
      frame after.1 = frame state.1) ∨
    ∃ error after, TransactionalStore.save relation id entity state =
      .error error after ∧ frame after.1 = frame state.1 ∧
      (serves (frame state.1) relation → ∃ message, error = .backend message)
  commits (opened : transaction) (state : store) :
    ∃ after, TransactionalStore.commit opened state = .ok () after
  rollbacks (opened : transaction) (state : store) : ∃ after,
    TransactionalStore.rollback opened state = .ok () after ∧
    frame after = frame state

theorem CountingStore.isolates :
    TransactionalStore.Isolates CountingStore.entities fun _ _ => True where
  begins start := ⟨_, _, rfl, rfl⟩
  loads relation id state := .inl ⟨_, _, rfl, rfl, trivial⟩
  saves relation id entity state := by
    rcases state with ⟨store, writes⟩
    by_cases refused : store.refusing = some relation
    · refine .inr ⟨_, _, if_pos refused, rfl, fun _ => ⟨_, rfl⟩⟩
    · exact .inl ⟨_, if_neg refused, rfl⟩
  commits opened state := ⟨_, rfl⟩
  rollbacks opened state := ⟨_, rfl, rfl⟩

theorem MemoryStore.isolates :
    TransactionalStore.Isolates (id : MemoryStore → MemoryStore)
      fun store relation =>
      ∃ name, store.collectionOf relation = .ok name where
  begins start := ⟨_, _, rfl, rfl⟩
  loads relation id state := by
    rcases state with ⟨store, writes⟩
    cases mapped : store.collectionOf relation with
    | error error =>
      refine .inr ⟨error, (store, writes), ?_, rfl⟩
      simp only [TransactionalStore.load, mapped]
    | ok name =>
      refine .inl ⟨(latest? writes name id).or (store.get? name id),
        (store, writes), ?_, rfl, name, mapped⟩
      simp only [TransactionalStore.load, mapped]
  saves relation id entity state := by
    rcases state with ⟨store, writes⟩
    cases mapped : store.collectionOf relation with
    | error error =>
      refine .inr ⟨error, (store, writes), ?_, rfl, ?_⟩
      · simp only [TransactionalStore.save, mapped]
      · rintro ⟨name, served⟩
        cases mapped.symm.trans served
    | ok name =>
      refine .inl ⟨(store, writes ++ [⟨name, id, entity⟩]), ?_, rfl⟩
      simp only [TransactionalStore.save, mapped]
  commits opened state := ⟨_, rfl⟩
  rollbacks opened state := ⟨_, rfl, rfl⟩

namespace Cascade

variable {store transaction φ : Type} [TransactionalStore store transaction]
variable {frame : store → φ} {serves : φ → String → Prop}

/-! ## What a cascade leaves alone -/

theorem loadAll_isolated (isolates : TransactionalStore.Isolates frame serves)
    (model : Model) (levels : List ActiveLevel) (state : store × transaction) :
    (∃ merged after, loadAll model levels state = .ok merged after ∧
      frame after.1 = frame state.1 ∧
      ∀ entry ∈ merged, serves (frame state.1) entry.1.relation) ∨
    ∃ error after, loadAll model levels state = .error error after ∧
      frame after.1 = frame state.1 := by
  induction levels generalizing state with
  | nil => exact .inl ⟨[], state, rfl, rfl, by simp⟩
  | cons level rest induction =>
    rw [loadAll_cons]
    rcases isolates.loads level.relation level.id state with
      ⟨found, next, loaded, same, served⟩ | ⟨error, next, failed, same⟩
    · rw [loaded]
      cases found with
      | none => exact .inr ⟨_, next, rfl, same⟩
      | some entity =>
        cases merging : level.merge entity with
        | error error =>
          refine .inr ⟨.storage error, next, ?_, same⟩
          simp only [merging]
        | ok merged =>
          simp only [merging]
          rcases induction next with
            ⟨others, after, ran, kept, servedOthers⟩ | ⟨error, after, ran, kept⟩
          · refine .inl ⟨(level, merged) :: others, after, by rw [ran],
              kept.trans same, ?_⟩
            intro entry member
            rcases List.mem_cons.mp member with rfl | member
            · exact served
            · rw [← same]
              exact servedOthers entry member
          · exact .inr ⟨error, after, by rw [ran], kept.trans same⟩
    · rw [failed]
      exact .inr ⟨_, next, rfl, same⟩

theorem saveAll_isolated (isolates : TransactionalStore.Isolates frame serves)
    (merged : List (ActiveLevel × Json)) (state : store × transaction)
    (served : ∀ entry ∈ merged, serves (frame state.1) entry.1.relation) :
    (∃ written after, saveAll merged state = .ok written after ∧
      frame after.1 = frame state.1) ∨
    ∃ message after, saveAll merged state =
      .error (.storage (.backend message)) after ∧
      frame after.1 = frame state.1 := by
  induction merged generalizing state with
  | nil => exact .inl ⟨[], state, rfl, rfl⟩
  | cons entry rest induction =>
    rcases entry with ⟨level, entity⟩
    rw [saveAll_cons]
    rcases isolates.saves level.relation level.id entity state with
      ⟨next, saved, same⟩ | ⟨error, next, failed, same, reason⟩
    · rw [saved]
      dsimp only
      have servedRest : ∀ entry ∈ rest,
          serves (frame next.1) entry.1.relation := by
        intro entry member
        rw [same]
        exact served entry (List.mem_cons_of_mem _ member)
      rcases induction next servedRest with
        ⟨written, after, ran, kept⟩ | ⟨message, after, ran, kept⟩
      · exact .inl ⟨_, after, by rw [ran], kept.trans same⟩
      · exact .inr ⟨message, after, by rw [ran], kept.trans same⟩
    · rw [failed]
      -- Its relation has been loaded from, which leaves the backend as the cause.
      rcases reason (served _ List.mem_cons_self) with ⟨message, rfl⟩
      exact .inr ⟨message, next, rfl, same⟩

/-- A cascade makes loads and then saves. It gives what it gives on the store
behind, and when it fails, it leaves that store's frame alone. -/
theorem applyTo_recorded (isolates : TransactionalStore.Isolates frame serves)
    (idField : String) (model : Model) (payload : Json) (inner : store)
    (opened : transaction) (calls : List StoreCall) :
    ∃ loads saves : Nat,
      applyTo idField model payload ((⟨inner, calls⟩ : RecordedStore store),
        opened) =
        RecordedStore.afterOpen
          (calls ++ (List.replicate loads .load ++ List.replicate saves .save))
          (applyTo idField model payload (inner, opened)) ∧
      ∀ error after, applyTo idField model payload (inner, opened) =
        .error error after →
        frame after.1 = frame inner ∧ (error.PrecedesSaves → saves = 0) := by
  rw [applyTo_eq, applyTo_eq]
  by_cases missing :
    ((Level.ofPayload idField model payload).head?.bind Level.id).isNone
  · rw [if_pos missing, if_pos missing]
    refine ⟨0, 0, by simp [RecordedStore.afterOpen], ?_⟩
    rintro error after ⟨⟩
    exact ⟨rfl, fun _ => rfl⟩
  · rw [if_neg missing, if_neg missing]
    generalize Level.separate [] (Level.ofPayload idField model payload) = levels
    rcases loadAll_recorded model levels.1 inner opened calls with
      ⟨loads, recordedLoads⟩
    rw [recordedLoads]
    rcases loadAll_isolated isolates model levels.1 (inner, opened) with
      ⟨merged, ⟨next, opened'⟩, loaded, same, served⟩ | ⟨error,
        ⟨next, opened'⟩, failed, same⟩
    · rw [loaded]
      dsimp only [RecordedStore.afterOpen]
      rcases saveAll_recorded merged next opened'
          (calls ++ List.replicate loads .load) with
        ⟨saves, recordedSaves⟩
      rw [recordedSaves, List.append_assoc]
      refine ⟨loads, saves, ?_, ?_⟩
      · rcases saveAll merged (next, opened') with
          ⟨written, last, opened⟩ | ⟨error, last, opened⟩ <;> rfl
      · rcases saveAll_isolated isolates merged (next, opened')
            (same ▸ served) with
          ⟨written, last, saved, kept⟩ | ⟨message, last, failed, kept⟩
        · rw [saved]
          rintro error after ⟨⟩
        · rw [failed]
          rintro error after ⟨⟩
          exact ⟨kept.trans same, fun early => False.elim early⟩
    · rw [failed]
      refine ⟨loads, 0, by simp [RecordedStore.afterOpen], ?_⟩
      rintro error after ⟨⟩
      exact ⟨same, fun _ => rfl⟩

theorem Request.work_recorded
    (isolates : TransactionalStore.Isolates frame serves) (idField : String)
    (request : Request) (inner : store) (opened : transaction)
    (calls : List StoreCall) :
    ∃ loads saves : Nat,
      request.work idField ((⟨inner, calls⟩ : RecordedStore store), opened) =
        RecordedStore.afterOpen
          (calls ++ (List.replicate loads .load ++ List.replicate saves .save))
          (request.work idField (inner, opened)) ∧
      ∀ error after, request.work idField (inner, opened) = .error error after →
        frame after.1 = frame inner ∧ (error.PrecedesSaves → saves = 0) := by
  rw [work_eq, work_eq]
  cases request.target with
  | error error =>
    refine ⟨0, 0, ?_, ?_⟩
    · simp only [List.replicate_zero, List.append_nil]
      rfl
    · rintro _ after ⟨⟩
      exact ⟨rfl, fun _ => rfl⟩
  | ok target =>
    exact applyTo_recorded isolates idField target.1 target.2 inner opened calls

/-! ## The whole transaction -/

/-- The calls of a request's transaction, the outcome and what is left: it is
begun once, does its loads before its saves, and ends with the one call that
fits its outcome. A failed request leaves `content` as it was, and it has saved
nothing when the failure is found before the first save. -/
def Request.Atomic {κ : Type} (content : store → κ) (idField : String)
    (request : Request) (start : store) : Prop :=
  ∃ loads saves : Nat,
    match inTransaction (request.work idField) (RecordedStore.new start) with
    | .ok report ended =>
      ended.calls =
        [.begin] ++ List.replicate loads .load ++
        List.replicate saves .save ++ [.commit] ∧
      inTransaction (request.work idField) start = .ok report ended.inner
    | .error error ended =>
      ended.calls =
        [.begin] ++ List.replicate loads .load ++
        List.replicate saves .save ++ [.rollback] ∧
      inTransaction (request.work idField) start = .error error ended.inner ∧
      content ended.inner = content start ∧ (error.PrecedesSaves → saves = 0)

theorem Request.atomic_of_isolates
    (isolates : TransactionalStore.Isolates frame serves) (idField : String)
    (request : Request) (start : store) :
    request.Atomic frame idField start := by
  rcases isolates.begins start with ⟨opened, begun, began, same⟩
  rcases request.work_recorded isolates idField begun opened [.begin] with
    ⟨loads, saves, recorded, failing⟩
  refine ⟨loads, saves, ?_⟩
  have beganRecorded : TransactionalStore.begin (RecordedStore.new start) =
      RecordedStore.after [.begin] (TransactionalStore.begin start) := rfl
  simp only [inTransaction, beganRecorded, began, RecordedStore.after, recorded]
  cases ran : request.work idField (begun, opened) with
  | ok report state =>
    rcases state with ⟨worked, ready⟩
    rcases isolates.commits ready worked with ⟨ended, committed⟩
    have committedRecorded (calls : List StoreCall) :
        TransactionalStore.commit ready (⟨worked, calls⟩ : RecordedStore store) =
          .ok () ⟨ended, calls ++ [.commit]⟩ := by
      show RecordedStore.after _ (TransactionalStore.commit ready worked) = _
      rw [committed]
      rfl
    simp [RecordedStore.afterOpen, committed, committedRecorded]
  | error error state =>
    rcases state with ⟨worked, broken⟩
    rcases failing error (worked, broken) ran with ⟨kept, early⟩
    rcases isolates.rollbacks broken worked with ⟨ended, undone, restored⟩
    have undoneRecorded (calls : List StoreCall) :
        TransactionalStore.rollback broken
          (⟨worked, calls⟩ : RecordedStore store) =
          .ok () ⟨ended, calls ++ [.rollback]⟩ := by
      show RecordedStore.after _ (TransactionalStore.rollback broken worked) = _
      rw [undone]
      rfl
    have unchanged : frame ended = frame start := restored.trans (kept.trans same)
    simpa [RecordedStore.afterOpen, undone, undoneRecorded, unchanged] using early

/-- A request is atomic on every store that counts its calls, also when saves to
a relation are refused, and on every memory store. -/
theorem Request.atomic (idField : String) (request : Request) :
    (∀ start : CountingStore,
      request.Atomic CountingStore.entities idField start) ∧
    ∀ start : MemoryStore, request.Atomic (id : MemoryStore → MemoryStore)
      idField start :=
  ⟨request.atomic_of_isolates CountingStore.isolates idField,
    request.atomic_of_isolates MemoryStore.isolates idField⟩

end Cascade

end CriteriaQuery
