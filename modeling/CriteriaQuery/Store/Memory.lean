import CriteriaQuery.Store.Collection

namespace CriteriaQuery

/-! A store of named collections. Queries go to a collection by its name, and
updates by a mapping of relations to collections. -/

structure MemoryStore where
  collections : Keyed Collection
  /-- The collection of each relation. -/
  relations : Keyed String
  root : String
  idField : String

namespace MemoryStore

def new (root idField : String) : MemoryStore := ⟨[], [], root, idField⟩

def collection (store : MemoryStore) (name : String) : Collection :=
  (Keyed.get? name store.collections).getD []

def insert (store : MemoryStore) (name : String) (document : Json) :
    MemoryStore :=
  let documents := store.collection name ++ [document]
  { store with collections := Keyed.set name documents store.collections }

def relate (store : MemoryStore) (relation name : String) : MemoryStore :=
  { store with relations := Keyed.set relation name store.relations }

def get? (store : MemoryStore) (name : String) (id : Json) : Option Json :=
  (store.collection name).get? store.idField id

def collectionOf (store : MemoryStore) (relation : String) :
    Except StorageError String :=
  if relation = rootRelation then .ok store.root
  else
    match Keyed.get? relation store.relations with
    | some name => .ok name
    | none => .error (.unknownRelation relation)

def execute (store : MemoryStore) (query : DocumentQuery) : RawPage :=
  (store.collection query.collection).find query

structure Write where
  collection : String
  id : Json
  entity : Json
  deriving Repr

abbrev Transaction := List Write

def applyWrite (store : MemoryStore) (write : Write) : MemoryStore :=
  let documents :=
    (store.collection write.collection).upsert store.idField write.id write.entity
  { store with
    collections := Keyed.set write.collection documents store.collections }

def latest? (writes : Transaction) (name : String) (id : Json) : Option Json :=
  (writes.reverse.find? fun write =>
    write.collection == name && write.id.looselyEqual id).map Write.entity

instance : TransactionalStore MemoryStore Transaction where
  begin store := .ok [] store
  load relation id := fun (store, writes) =>
    match store.collectionOf relation with
    | .error error => .error error (store, writes)
    | .ok name =>
      .ok ((latest? writes name id).or (store.get? name id)) (store, writes)
  save relation id entity := fun (store, writes) =>
    match store.collectionOf relation with
    | .error error => .error error (store, writes)
    | .ok name => .ok () (store, writes ++ [⟨name, id, entity⟩])
  commit writes store := .ok () (writes.foldl applyWrite store)
  rollback _ store := .ok () store

end MemoryStore

end CriteriaQuery
