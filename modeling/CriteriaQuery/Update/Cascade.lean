import CriteriaQuery.Model.Basic
import CriteriaQuery.Update.Level

namespace CriteriaQuery

/-! The update cascade applies a payload to the entities of all its levels. All
entities are loaded and merged before the first one is saved, so that a missing
entity fails the update without a write. -/

inductive UpdateError where
  | nullPayload
  | notAnUpdateModel (name : String)
  | missingMainId (model : String)
  | entityNotFound (relation id : String)
  | model (error : ModelError)
  | storage (error : StorageError)
  deriving DecidableEq, Repr

namespace UpdateError

def message : UpdateError → String
  | .nullPayload => "Update payload cannot be null"
  | .notAnUpdateModel name =>
    "Update payload type " ++ name ++ " must be annotated as an update model"
  | .missingMainId name => "Main entity ID is required for update model " ++ name
  | .entityNotFound relation id =>
    "No entity found with ID " ++ id ++ " for " ++ relation
  | .model error => error.message
  | .storage error => error.message

def kind : UpdateError → String
  | .nullPayload => "NullPayload"
  | .notAnUpdateModel _ => "NotAnUpdateModel"
  | .missingMainId _ => "MissingMainId"
  | .entityNotFound _ _ => "EntityNotFound"
  | .model error => "Model." ++ error.kind
  | .storage error => "Storage." ++ error.kind

def isValidation : UpdateError → Bool
  | .storage _ => false
  | _ => true

end UpdateError

structure LevelWrite where
  relation : String
  id : Json
  fields : List String
  deriving Repr

structure UpdateReport where
  written : List LevelWrite
  /-- Relations that were skipped for lack of an identifier. -/
  skipped : List String
  deriving Repr

namespace UpdateReport

def wrote (report : UpdateReport) (relation : String) : Bool :=
  report.written.any fun write => write.relation == relation

def wasSkipped (report : UpdateReport) (relation : String) : Bool :=
  report.skipped.contains relation

def toJson (report : UpdateReport) : Json :=
  let write (write : LevelWrite) : Json :=
    .object [("fields", .array (write.fields.map .string)), ("id", write.id),
      ("relation", .string write.relation)]
  .object [("skipped", .array (report.skipped.map .string)),
    ("written", .array (report.written.map write))]

end UpdateReport

def ActiveLevel.merge (level : ActiveLevel) (entity : Json) :
    Except StorageError Json :=
  match entity with
  | .object members =>
    .ok (.object (level.fields.foldl (fun members (field, value) =>
      Keyed.set field value members) members))
  | _ => .error (.serialization
      ("entity at '" ++ level.relation ++ "' is not an object"))

namespace Cascade

variable {store transaction : Type} [TransactionalStore store transaction]

abbrev Work (store transaction : Type) :=
  EStateM UpdateError (store × transaction)

def call {α : Type} (work : EStateM StorageError (store × transaction) α) :
    Work store transaction α :=
  EStateM.adaptExcept .storage work

def relationName (model : Model) (relation : String) : String :=
  if relation = rootRelation then model.name else relation

def loadAll (model : Model) :
    List ActiveLevel → Work store transaction (List (ActiveLevel × Json))
  | [] => return []
  | level :: rest => do
    match ← call (TransactionalStore.load level.relation level.id) with
    | none =>
      throw
        (.entityNotFound (relationName model level.relation) level.id.plainText)
    | some entity =>
      match level.merge entity with
      | .error error => throw (.storage error)
      | .ok merged => return (level, merged) :: (← loadAll model rest)

def saveAll : List (ActiveLevel × Json) → Work store transaction (List LevelWrite)
  | [] => return []
  | (level, merged) :: rest => do
    call (TransactionalStore.save level.relation level.id merged)
    return ⟨level.relation, level.id, level.fields.map Prod.fst⟩ ::
      (← saveAll rest)

def applyTo (idField : String) (model : Model) (payload : Json) :
    Work store transaction UpdateReport := do
  let levels := Level.ofPayload idField model payload
  if (levels.head?.bind Level.id).isNone then throw (.missingMainId model.name)
  let (active, skipped) := Level.separate [] levels
  let merged ← loadAll model active
  let written ← saveAll merged
  return ⟨written, skipped⟩

def apply (idField : String) (model : Except ModelError Model)
    (payload : Option Json) : Work store transaction UpdateReport :=
  match payload, model with
  | none, _ => throw .nullPayload
  | some _, .error error => throw (.model error)
  | some payload, .ok model => applyTo idField model payload

def applyNamed (idField : String) (registry : ModelRegistry) (name : String)
    (payload : Option Json) : Work store transaction UpdateReport :=
  match payload.filter (!·.isNull), registry.get name with
  | none, _ => throw .nullPayload
  | some _, .error _ => throw (.notAnUpdateModel name)
  | some payload, .ok model => applyTo idField model payload

/-- Runs work in a transaction of its own: committed when the work succeeds,
rolled back when it fails. A failure to roll back is not reported. -/
def inTransaction {α : Type} (work : Work store transaction α) :
    EStateM UpdateError store α := fun start =>
  match TransactionalStore.begin start with
  | .error error state => .error (.storage error) state
  | .ok opened state =>
    match work (state, opened) with
    | .ok value (state, opened) =>
      match TransactionalStore.commit opened state with
      | .ok () state => .ok value state
      | .error error state => .error (.storage error) state
    | .error error (state, opened) =>
      match TransactionalStore.rollback opened state with
      | .ok () state => .error error state
      | .error _ state => .error error state

end Cascade

end CriteriaQuery
