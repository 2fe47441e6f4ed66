import CriteriaQuery.Store.Basic

namespace CriteriaQuery

/-! A store that keeps entities by relation and identifier, counts the calls
made to it, and can be told to refuse saves to a relation. -/

structure CallCounts where
  begins : Nat
  loads : Nat
  saves : Nat
  commits : Nat
  rollbacks : Nat
  deriving DecidableEq, Repr

def CallCounts.toJson (counts : CallCounts) : Json :=
  .object [("begins", .ofNat counts.begins), ("commits", .ofNat counts.commits),
    ("loads", .ofNat counts.loads), ("rollbacks", .ofNat counts.rollbacks),
    ("saves", .ofNat counts.saves)]

structure CountingStore where
  /-- Committed entities by relation and by the text of their identifier. -/
  entities : Keyed (Keyed Json)
  counts : CallCounts
  refusing : Option String

namespace CountingStore

def empty : CountingStore := ⟨[], ⟨0, 0, 0, 0, 0⟩, none⟩

def put (relation key : String) (entity : Json) (entities : Keyed (Keyed Json)) :
    Keyed (Keyed Json) :=
  Keyed.set relation
    (Keyed.set key entity ((Keyed.get? relation entities).getD [])) entities

def insert (store : CountingStore) (relation : String) (id entity : Json) :
    CountingStore :=
  { store with entities := put relation id.plainText entity store.entities }

def find? (store : CountingStore) (relation key : String) : Option Json :=
  (Keyed.get? relation store.entities).bind (Keyed.get? key)

def get? (store : CountingStore) (relation : String) (id : Json) : Option Json :=
  store.find? relation id.plainText

def refuse (store : CountingStore) (relation : String) : CountingStore :=
  { store with refusing := some relation }

structure Write where
  relation : String
  key : String
  entity : Json
  deriving Repr

abbrev Transaction := List Write

def apply (writes : Transaction) (entities : Keyed (Keyed Json)) :
    Keyed (Keyed Json) :=
  writes.foldl
    (fun entities write => put write.relation write.key write.entity entities)
    entities

def latest? (writes : Transaction) (relation key : String) : Option Json :=
  (writes.reverse.find? fun write =>
    write.relation == relation && write.key == key).map Write.entity

instance : TransactionalStore CountingStore Transaction where
  begin store :=
    .ok [] { store with counts.begins := store.counts.begins + 1 }
  load relation id := fun (store, writes) =>
    .ok ((latest? writes relation id.plainText).or (store.get? relation id))
      ({ store with counts.loads := store.counts.loads + 1 }, writes)
  save relation id entity := fun (store, writes) =>
    if store.refusing = some relation then
      .error (.backend ("injected save failure for '" ++ relation ++ "'"))
        (store, writes)
    else
      .ok () ({ store with counts.saves := store.counts.saves + 1 },
        writes ++ [⟨relation, id.plainText, entity⟩])
  commit writes store :=
    .ok () { store with
      entities := apply writes store.entities
      counts.commits := store.counts.commits + 1 }
  rollback _ store :=
    .ok () { store with counts.rollbacks := store.counts.rollbacks + 1 }

end CountingStore

end CriteriaQuery
