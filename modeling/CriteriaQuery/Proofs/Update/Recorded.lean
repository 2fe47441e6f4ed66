import CriteriaQuery.Proofs.Update.Cascade
import CriteriaQuery.Store.Faulty

namespace CriteriaQuery

/-! A store that writes down the calls made to it, also the ones that fail. It
answers as the store behind it does, and so a cascade runs on it as it runs on
that store. -/

structure RecordedStore (store : Type) where
  inner : store
  calls : List StoreCall

namespace RecordedStore

variable {store transaction α ε : Type}

def new (inner : store) : RecordedStore store := ⟨inner, []⟩

def after (calls : List StoreCall) :
    EStateM.Result ε store α → EStateM.Result ε (RecordedStore store) α
  | .ok value inner => .ok value ⟨inner, calls⟩
  | .error error inner => .error error ⟨inner, calls⟩

def afterOpen (calls : List StoreCall) :
    EStateM.Result ε (store × transaction) α →
      EStateM.Result ε (RecordedStore store × transaction) α
  | .ok value (inner, opened) => .ok value (⟨inner, calls⟩, opened)
  | .error error (inner, opened) => .error error (⟨inner, calls⟩, opened)

instance [TransactionalStore store transaction] :
    TransactionalStore (RecordedStore store) transaction where
  begin := fun recorded =>
    after (recorded.calls ++ [.begin]) (TransactionalStore.begin recorded.inner)
  load relation id := fun (recorded, opened) =>
    afterOpen (recorded.calls ++ [.load])
      (TransactionalStore.load relation id (recorded.inner, opened))
  save relation id entity := fun (recorded, opened) =>
    afterOpen (recorded.calls ++ [.save])
      (TransactionalStore.save relation id entity (recorded.inner, opened))
  commit opened := fun recorded =>
    after (recorded.calls ++ [.commit])
      (TransactionalStore.commit opened recorded.inner)
  rollback opened := fun recorded =>
    after (recorded.calls ++ [.rollback])
      (TransactionalStore.rollback opened recorded.inner)

end RecordedStore

namespace Cascade

open RecordedStore

variable {store transaction : Type} [TransactionalStore store transaction]

theorem loadAll_recorded (model : Model) (levels : List ActiveLevel)
    (inner : store) (opened : transaction) (calls : List StoreCall) :
    ∃ loads, loadAll model levels (⟨inner, calls⟩, opened) =
      afterOpen (calls ++ List.replicate loads .load)
        (loadAll model levels (inner, opened)) := by
  induction levels generalizing inner opened calls with
  | nil =>
    refine ⟨0, ?_⟩
    rw [List.replicate_zero, List.append_nil]
    rfl
  | cons level rest induction =>
    rw [loadAll_cons, loadAll_cons]
    have recorded : TransactionalStore.load level.relation level.id
          ((⟨inner, calls⟩ : RecordedStore store), opened) =
        afterOpen (calls ++ [.load])
          (TransactionalStore.load level.relation level.id (inner, opened)) := rfl
    rw [recorded]
    rcases TransactionalStore.load level.relation level.id (inner, opened) with
      ⟨found, next, opened⟩ | ⟨error, next, opened⟩
    · cases found with
      | none => exact ⟨1, rfl⟩
      | some entity =>
        cases merging : level.merge entity with
        | error error =>
          refine ⟨1, ?_⟩
          simp only [afterOpen, merging]
          rfl
        | ok merged =>
          rcases induction next opened (calls ++ [.load]) with ⟨loads, ran⟩
          refine ⟨loads + 1, ?_⟩
          simp only [afterOpen, merging]
          rw [ran, List.replicate_succ, List.append_assoc, List.singleton_append]
          rcases loadAll model rest (next, opened) with
            ⟨others, last, opened⟩ | ⟨error, last, opened⟩ <;> rfl
    · exact ⟨1, rfl⟩

theorem saveAll_recorded (merged : List (ActiveLevel × Json)) (inner : store)
    (opened : transaction) (calls : List StoreCall) :
    ∃ saves, saveAll merged (⟨inner, calls⟩, opened) =
      afterOpen (calls ++ List.replicate saves .save)
        (saveAll merged (inner, opened)) := by
  induction merged generalizing inner opened calls with
  | nil =>
    refine ⟨0, ?_⟩
    rw [List.replicate_zero, List.append_nil]
    rfl
  | cons entry rest induction =>
    rcases entry with ⟨level, entity⟩
    rw [saveAll_cons, saveAll_cons]
    have recorded : TransactionalStore.save level.relation level.id entity
          ((⟨inner, calls⟩ : RecordedStore store), opened) =
        afterOpen (calls ++ [.save])
          (TransactionalStore.save level.relation level.id entity
            (inner, opened)) := rfl
    rw [recorded]
    rcases TransactionalStore.save level.relation level.id entity
        (inner, opened) with
      ⟨_, next, opened⟩ | ⟨error, next, opened⟩
    · rcases induction next opened (calls ++ [.save]) with ⟨saves, ran⟩
      refine ⟨saves + 1, ?_⟩
      simp only [afterOpen]
      rw [ran, List.replicate_succ, List.append_assoc, List.singleton_append]
      rcases saveAll rest (next, opened) with
        ⟨others, last, opened⟩ | ⟨error, last, opened⟩ <;> rfl
    · exact ⟨1, rfl⟩

end Cascade

end CriteriaQuery
