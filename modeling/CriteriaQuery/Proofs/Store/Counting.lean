import CriteriaQuery.Store.Counting
import Mathlib.Data.List.Nodup

namespace CriteriaQuery

/-! The calls to a store that counts them, and writes that can be made in any
order. -/

/-- Steps at different keys can be made in any order. -/
theorem foldl_perm_of_nodup {α β κ : Type} {step : β → α → β} {key : α → κ}
    (comm : ∀ left right state,
      key left ≠ key right →
      step (step state left) right = step (step state right) left)
    {steps others : List α} (same : steps.Perm others)
    (once : (steps.map key).Nodup) (state : β) :
    steps.foldl step state = others.foldl step state := by
  apply same.foldl_eq'
  intro left inLeft right inRight state
  by_cases sameKey : key left = key right
  · rw [List.inj_on_of_nodup_map once inLeft inRight sameKey]
  · exact comm left right state sameKey

theorem Keyed.foldl_set_perm {α : Type} {entries others : List (String × α)}
    (same : entries.Perm others) (once : (entries.map Prod.fst).Nodup)
    (members : Keyed α) :
    entries.foldl (fun members (name, value) => set name value members) members =
      others.foldl (fun members (name, value) => set name value members)
        members :=
  foldl_perm_of_nodup (fun left right members different =>
    set_comm (Ne.symm different) right.2 left.2 members) same once members

namespace CountingStore

/-! ## Writes to different relations -/

theorem put_comm {relation other : String} (different : relation ≠ other)
    (key otherKey : String) (entity otherEntity : Json)
    (entities : Keyed (Keyed Json)) :
    put relation key entity (put other otherKey otherEntity entities) =
      put other otherKey otherEntity (put relation key entity entities) := by
  unfold put
  rw [Keyed.get?_set_of_ne different, Keyed.get?_set_of_ne (Ne.symm different),
    Keyed.set_comm different]

theorem apply_perm {writes others : Transaction} (same : writes.Perm others)
    (once : (writes.map Write.relation).Nodup) (entities : Keyed (Keyed Json)) :
    apply writes entities = apply others entities :=
  foldl_perm_of_nodup (fun left right entities different =>
    put_comm (Ne.symm different) right.key left.key right.entity
      left.entity entities)
    same once entities

/-! ## Counted calls -/

def afterBegin (store : CountingStore) : CountingStore :=
  { store with counts.begins := store.counts.begins + 1 }

def afterLoads (loads : Nat) (store : CountingStore) : CountingStore :=
  { store with counts.loads := store.counts.loads + loads }

def afterSaves (saves : Nat) (store : CountingStore) : CountingStore :=
  { store with counts.saves := store.counts.saves + saves }

def afterCommit (writes : Transaction) (store : CountingStore) : CountingStore :=
  { store with
    entities := apply writes store.entities
    counts.commits := store.counts.commits + 1 }

theorem afterLoads_afterLoads (loads more : Nat) (store : CountingStore) :
    (store.afterLoads loads).afterLoads more =
      store.afterLoads (loads + more) := by
  unfold afterLoads
  rw [Nat.add_assoc]

theorem afterSaves_afterSaves (saves more : Nat) (store : CountingStore) :
    (store.afterSaves saves).afterSaves more =
      store.afterSaves (saves + more) := by
  unfold afterSaves
  rw [Nat.add_assoc]

theorem afterCommit_congr {writes others : Transaction} {store : CountingStore}
    (same : apply writes store.entities = apply others store.entities) :
    store.afterCommit writes = store.afterCommit others := by
  unfold afterCommit
  rw [same]

theorem begin_eq (store : CountingStore) :
    TransactionalStore.begin store = .ok ([] : Transaction) store.afterBegin :=
  rfl

theorem load_eq (relation : String) (id : Json) (store : CountingStore) :
    TransactionalStore.load relation id (store, ([] : Transaction)) =
      .ok (store.get? relation id) (store.afterLoads 1, []) :=
  rfl

theorem save_eq {relation : String} {store : CountingStore}
    (accepted : store.refusing ≠ some relation) (id entity : Json)
    (writes : Transaction) :
    TransactionalStore.save relation id entity (store, writes) =
      .ok () (store.afterSaves 1, writes ++ [⟨relation, id.plainText, entity⟩]) :=
  if_neg accepted

theorem save_refused {relation : String} {store : CountingStore}
    (refused : store.refusing = some relation) (id entity : Json)
    (writes : Transaction) :
    TransactionalStore.save relation id entity (store, writes) =
      .error (.backend ("injected save failure for '" ++ relation ++ "'"))
        (store, writes) :=
  if_pos refused

theorem commit_eq (writes : Transaction) (store : CountingStore) :
    TransactionalStore.commit writes store = .ok () (store.afterCommit writes) :=
  rfl

end CountingStore

end CriteriaQuery
