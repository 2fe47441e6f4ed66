import CriteriaQuery.Store.Basic

namespace CriteriaQuery

/-! A store together with the transactions that are open on it, by name. -/

structure Session (store transaction : Type) where
  inner : store
  opened : Keyed transaction

namespace Session

variable {store transaction : Type}

def new (inner : store) : Session store transaction := ⟨inner, []⟩

def without (session : Session store transaction) (name : String) :
    Session store transaction :=
  { session with opened := session.opened.filter fun (other, _) => other != name }

/-- Opens a transaction under a name. An older one of that name is given up. -/
def begin [TransactionalStore store transaction] (name : String) :
    EStateM StorageError (Session store transaction) Unit := fun session =>
  match TransactionalStore.begin session.inner with
  | .ok opened inner => .ok () ⟨inner, Keyed.set name opened session.opened⟩
  | .error error inner => .error error { session with inner }

def within {ε α : Type} (name : String) (work : EStateM ε (store × transaction) α)
    (session : Session store transaction) :
    Option (Except ε α × Session store transaction) :=
  (Keyed.get? name session.opened).map fun opened =>
    match work (session.inner, opened) with
    | .ok value (inner, opened) =>
      (.ok value, ⟨inner, Keyed.set name opened session.opened⟩)
    | .error error (inner, opened) =>
      (.error error, ⟨inner, Keyed.set name opened session.opened⟩)

/-- Ends an open transaction, also when the call that ends it fails. There is no
result without one of that name. -/
def finish {ε : Type} (name : String) (work : transaction → EStateM ε store Unit)
    (session : Session store transaction) :
    Option (Except ε Unit × Session store transaction) :=
  (Keyed.get? name session.opened).map fun opened =>
    match work opened session.inner with
    | .ok () inner => (.ok (), { session.without name with inner })
    | .error error inner => (.error error, { session.without name with inner })

end Session

end CriteriaQuery
