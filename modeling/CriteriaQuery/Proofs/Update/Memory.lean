import CriteriaQuery.Proofs.Correspondence
import CriteriaQuery.Proofs.Store.Memory
import CriteriaQuery.Proofs.Update.Cascade
import CriteriaQuery.Proofs.Update.Levels

namespace CriteriaQuery

/-! A cascade over a memory store. Every level is loaded from the committed
entities, because nothing is saved before the last level is loaded. -/

namespace MemoryStore

/-- The write that a level becomes: the committed entity of the level with the
level's fields over its own. -/
structure Stages (store : MemoryStore) (level : ActiveLevel) (write : Write) :
    Prop where
  collection : store.collectionOf level.relation = .ok write.collection
  id : write.id = level.id
  entity : ∃ entity, store.get? write.collection level.id = some entity ∧
    level.merge entity = .ok write.entity

end MemoryStore

namespace Cascade

open MemoryStore

variable {store : MemoryStore}

/-- Before the first save the transaction sees what is committed. -/
theorem load_begun {relation : String} {id : Json} {found : Option Json}
    {after : MemoryStore × Transaction}
    (loaded : TransactionalStore.load relation id (store, ([] : Transaction)) =
      .ok found after) :
    after = (store, []) ∧
      ∃ name, store.collectionOf relation = .ok name ∧
      store.get? name id = found := by
  cases mapped : store.collectionOf relation with
  | error error =>
    simp only [TransactionalStore.load, mapped] at loaded
    cases loaded
  | ok name =>
    simp only [TransactionalStore.load, mapped] at loaded
    cases loaded
    exact ⟨rfl, name, rfl, rfl⟩

theorem save_memory {relation : String} {id entity : Json} {writes : Transaction}
    {after : MemoryStore × Transaction}
    (saved : TransactionalStore.save relation id entity (store, writes) =
      .ok () after) :
    ∃ name, store.collectionOf relation = .ok name ∧
      after = (store, writes ++ [⟨name, id, entity⟩]) := by
  cases mapped : store.collectionOf relation with
  | error error =>
    simp only [TransactionalStore.save, mapped] at saved
    cases saved
  | ok name =>
    simp only [TransactionalStore.save, mapped] at saved
    cases saved
    exact ⟨name, rfl, rfl⟩

theorem loadAll_memory {model : Model} {levels : List ActiveLevel}
    {merged : List (ActiveLevel × Json)} {after : MemoryStore × Transaction}
    (ran : loadAll model levels (store, []) = .ok merged after) :
    after = (store, []) ∧ levels = merged.map Prod.fst ∧
      ∀ entry ∈ merged, ∃ name entity, store.collectionOf entry.1.relation =
        .ok name ∧ store.get? name entry.1.id = some entity ∧
        entry.1.merge entity = .ok entry.2 := by
  induction levels generalizing merged with
  | nil =>
    cases ran
    exact ⟨rfl, rfl, by simp⟩
  | cons level rest induction =>
    rcases loadAll_cons_eq_ok ran with
      ⟨entity, own, next, others, loaded, merging, rested, rfl⟩
    rcases load_begun loaded with ⟨rfl, name, mapped, found⟩
    rcases induction rested with ⟨same, levels, stored⟩
    refine ⟨same, by rw [levels]; rfl, ?_⟩
    intro entry member
    rcases List.mem_cons.mp member with rfl | member
    · exact ⟨name, entity, mapped, found, merging⟩
    · exact stored entry member

theorem saveAll_memory {merged : List (ActiveLevel × Json)} {writes : Transaction}
    {written : List LevelWrite} {after : MemoryStore × Transaction}
    (ran : saveAll merged (store, writes) = .ok written after) :
    written = merged.map (fun entry => entry.1.written) ∧
      ∃ made, after = (store, writes ++ made) ∧
        List.Forall₂ (fun entry write =>
          store.collectionOf entry.1.relation = .ok write.collection ∧
            write.id = entry.1.id ∧ write.entity = entry.2) merged made := by
  induction merged generalizing writes written with
  | nil =>
    cases ran
    exact ⟨rfl, [], by simp, .nil⟩
  | cons entry rest induction =>
    rcases saveAll_cons_eq_ok ran with ⟨next, others, saved, rested, rfl⟩
    rcases save_memory saved with ⟨name, mapped, rfl⟩
    rcases induction rested with ⟨reported, made, ended, related⟩
    refine ⟨by rw [reported]; rfl, ⟨name, entry.1.id, entry.2⟩ :: made, ?_, ?_⟩
    · rw [ended, List.append_assoc, List.singleton_append]
    · exact .cons ⟨mapped, rfl, rfl⟩ related

theorem applyTo_memory {idField : String} {model : Model} {payload : Json}
    {report : UpdateReport} {after : MemoryStore × Transaction}
    (ran : applyTo idField model payload (store, []) = .ok report after) :
    ∃ writes, after = (store, writes) ∧
      List.Forall₂ store.Stages
        (Level.separate [] (Level.ofPayload idField model payload)).1 writes ∧
      report.written =
        (Level.separate [] (Level.ofPayload idField model payload)).1.map
        ActiveLevel.written := by
  rcases applyTo_eq_ok ran with ⟨merged, next, loaded, saved, -⟩
  rcases loadAll_memory loaded with ⟨rfl, active, stored⟩
  rcases saveAll_memory saved with ⟨reported, writes, ended, related⟩
  refine ⟨writes, ended, ?_, by rw [reported, active, List.map_map]; rfl⟩
  rw [active, List.forall₂_map_left_iff]
  refine ((List.forall₂_and_left _ _).mpr ⟨stored, related⟩).imp ?_
  rintro entry write ⟨⟨name, entity, mapped, found, merging⟩,
    collection, id, saved⟩
  have sameName : name = write.collection :=
    Except.ok.inj (mapped.symm.trans collection)
  subst sameName
  exact ⟨mapped, id, entity, found, by rw [saved, merging]⟩

/-- A successful request on a memory store applies one write for each level that
it reports as written. -/
theorem Request.ok_memory {idField : String} {request : Request}
    {report : UpdateReport} {after : MemoryStore}
    (ran : inTransaction (request.work idField) store = .ok report after) :
    ∃ model payload writes, request.target = .ok (model, payload) ∧
      after = writes.foldl applyWrite store ∧
      List.Forall₂ store.Stages
        (Level.separate [] (Level.ofPayload idField model payload)).1 writes ∧
      report.written =
        (Level.separate [] (Level.ofPayload idField model payload)).1.map
        ActiveLevel.written := by
  rcases inTransaction_eq_ok ran with ⟨opened, begun, worked, ready, began,
    done, committed⟩
  cases began
  rw [work_eq] at done
  cases asked : request.target with
  | error error =>
    rw [asked] at done
    cases done
  | ok target =>
    rw [asked] at done
    rcases applyTo_memory done with ⟨writes, ended, staged, written⟩
    cases ended
    cases committed
    exact ⟨target.1, target.2, ready, rfl, rfl, staged, written⟩

end Cascade

end CriteriaQuery
