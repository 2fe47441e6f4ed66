import CriteriaQuery.Store.Basic

namespace CriteriaQuery

/-! A store that can be told to fail. A call that fails does not reach the store
behind it. -/

inductive StoreCall where
  | begin
  | load
  | save
  | commit
  | rollback
  deriving DecidableEq, Repr

structure FaultyStore (store : Type) where
  inner : store
  faults : StoreCall → Option StorageError

namespace FaultyStore

variable {store transaction : Type}

def new (inner : store) : FaultyStore store := ⟨inner, fun _ => none⟩

def setFault (faulty : FaultyStore store) (call : StoreCall)
    (fault : Option StorageError) : FaultyStore store :=
  { faulty with
    faults := fun other => if other = call then fault else faulty.faults other }

def run {α : Type} (call : StoreCall) (work : EStateM StorageError store α) :
    EStateM StorageError (FaultyStore store) α := fun faulty =>
  match faulty.faults call with
  | some fault => .error fault faulty
  | none =>
    match work faulty.inner with
    | .ok value inner => .ok value { faulty with inner }
    | .error error inner => .error error { faulty with inner }

def runOpen {α : Type} (call : StoreCall)
    (work : EStateM StorageError (store × transaction) α) :
    EStateM StorageError (FaultyStore store × transaction) α := fun
    (faulty, opened) =>
  match faulty.faults call with
  | some fault => .error fault (faulty, opened)
  | none =>
    match work (faulty.inner, opened) with
    | .ok value (inner, opened) => .ok value ({ faulty with inner }, opened)
    | .error error (inner, opened) => .error error ({ faulty with inner }, opened)

instance [TransactionalStore store transaction] :
    TransactionalStore (FaultyStore store) transaction where
  begin := run .begin TransactionalStore.begin
  load relation id := runOpen .load (TransactionalStore.load relation id)
  save relation id entity :=
    runOpen .save (TransactionalStore.save relation id entity)
  commit opened := run .commit (TransactionalStore.commit opened)
  rollback opened := run .rollback (TransactionalStore.rollback opened)

end FaultyStore

end CriteriaQuery
