import CriteriaQuery.Plan.Basic
import CriteriaQuery.Store.Memory
import CriteriaQuery.Text.Quoted
import CriteriaQuery.Update.Cascade

namespace CriteriaQuery

/-! A repository binds a backend to one table, index or collection. Reads are
compiled, executed and materialized; updates run as a cascade in one
transaction. -/

inductive DataAccessError where
  | invalidDataAccess (reason : String)
  | invalidSelect (model : String) (missing : List String)
  | compile (error : CompileError)
  | model (error : ModelError)
  | storage (error : StorageError)
  deriving DecidableEq, Repr

namespace DataAccessError

def message : DataAccessError → String
  | .invalidDataAccess reason => "Invalid data access: " ++ reason
  | .invalidSelect name missing =>
    "Invalid select for " ++ name ++ ": missing " ++ Text.shownList missing
  | .compile error => error.message
  | .model error => error.message
  | .storage error => error.message

def kind : DataAccessError → String
  | .invalidDataAccess _ => "InvalidDataAccess"
  | .invalidSelect _ _ => "InvalidSelect"
  | .compile error => "Compile." ++ error.kind
  | .model error => "Model." ++ error.kind
  | .storage error => "Storage." ++ error.kind

/-- Failures of the store stay what they are; what else fails an update makes
the request invalid. -/
def ofUpdate : UpdateError → DataAccessError
  | .storage error => .storage error
  | error => .invalidDataAccess error.message

def ofCriteria (error : CriteriaError) : DataAccessError :=
  .invalidDataAccess error.message

end DataAccessError

structure Executor (m : Type → Type) (Native : Type) where
  execute : Native → ExceptT StorageError m RawPage
  count : Native → ExceptT StorageError m Nat

def Executor.ofExecute {m : Type → Type} [Monad m] {Native : Type}
    (execute : Native → ExceptT StorageError m RawPage) : Executor m Native where
  execute
  count native := do return (← execute native).total

structure Repository (m : Type → Type) (Native : Type) where
  compiler : Compiler Native
  executor : Executor m Native
  target : String

namespace Repository

variable {m : Type → Type} [Monad m] {Native : Type}

abbrev Request (m : Type → Type) := ExceptT DataAccessError m

def failing {ε α : Type} (cause : ε → DataAccessError) (work : ExceptT ε m α) :
    Request m α :=
  ExceptT.adapt cause work

def fetch (repository : Repository m Native) (query : Query) :
    Request m (RawPage × PageRequest) := do
  let (native, plan) ←
    failing .compile
      (ExceptT.mk (pure (repository.compiler.compile query repository.target)))
  let raw ← failing .storage (repository.executor.execute native)
  return (raw, plan.page)

def findPage (repository : Repository m Native) (query : Query) :
    Request m (Page Json) := do
  let (raw, page) ← repository.fetch query
  return ⟨Model.materializeAll some none raw.rows query.select query.distinct,
    raw.total, page⟩

def findAll (repository : Repository m Native) (query : Query) :
    Request m (List Json) := do
  return (← repository.findPage query).content

/-- The projection of a typed read: the one that covers the model unless the
query has one, which must then cover every leaf. -/
def typedSelect (model : Model) (query : Query) :
    Except DataAccessError (List SelectPath) :=
  if query.hasSelect then
    match model.missingTargets query.select with
    | [] => .ok query.select
    | missing => .error (.invalidSelect model.name missing)
  else .ok model.select

def findPageAs {α : Type} (repository : Repository m Native)
    (model : Except ModelError Model) (read : Json → Option α) (query : Query) :
    Request m (Page α) := do
  let model ← failing .model (ExceptT.mk (pure model))
  let select ← ExceptT.mk (pure (typedSelect model query))
  let (raw, page) ← repository.fetch { query with select }
  return ⟨Model.materializeAll read (some model) raw.rows select query.distinct,
    raw.total, page⟩

def findAllAs {α : Type} (repository : Repository m Native)
    (model : Except ModelError Model) (read : Json → Option α) (query : Query) :
    Request m (List α) := do
  return (← repository.findPageAs model read query).content

def count (repository : Repository m Native) (query : Query) : Request m Nat := do
  let (native, _) ←
    failing .compile
      (ExceptT.mk (pure (repository.compiler.compile query repository.target)))
  failing .storage (repository.executor.count native)

end Repository

/-! ## Repositories over a memory store -/

def MemoryStore.executor (store : MemoryStore) : Executor Id DocumentQuery :=
  .ofExecute fun query => pure (store.execute query)

def MemoryStore.update {α : Type} (store : MemoryStore)
    (work : Cascade.Work MemoryStore MemoryStore.Transaction α) :
    Except DataAccessError α × MemoryStore :=
  match Cascade.inTransaction work store with
  | .ok report store => (.ok report, store)
  | .error error store => (.error (.ofUpdate error), store)

end CriteriaQuery
