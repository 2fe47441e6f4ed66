import CriteriaQuery.Json.Text

namespace CriteriaQuery

/-! What the library asks of a store of entities. Entities are addressed by
their relation, a path from the root entity, and by an identifier. -/

inductive StorageError where
  | backend (message : String)
  | serialization (message : String)
  | unknownRelation (relation : String)
  | transaction (message : String)
  | timeout (millis : Nat)
  deriving DecidableEq, Repr

namespace StorageError

def message : StorageError → String
  | .backend message => "Storage backend error: " ++ message
  | .serialization message => "Serialization error: " ++ message
  | .unknownRelation relation => "Unknown relation: " ++ relation
  | .transaction message => "Transaction error: " ++ message
  | .timeout millis =>
    "Timeout error: operation timed out after " ++ Text.numeral millis ++ "ms"

def kind : StorageError → String
  | .backend _ => "Backend"
  | .serialization _ => "Serialization"
  | .unknownRelation _ => "UnknownRelation"
  | .transaction _ => "Transaction"
  | .timeout _ => "Timeout"

def isRetryable : StorageError → Bool
  | .timeout _ | .transaction _ => true
  | _ => false

end StorageError

def rootRelation : String := ""

/-- A store whose writes take effect when their transaction is committed. -/
class TransactionalStore (store : Type) (transaction : outParam Type) where
  begin : EStateM StorageError store transaction
  /-- The entity of a relation with an identifier, as the transaction sees
  it. -/
  load (relation : String) (id : Json) :
    EStateM StorageError (store × transaction) (Option Json)
  save (relation : String) (id entity : Json) :
    EStateM StorageError (store × transaction) Unit
  commit (opened : transaction) : EStateM StorageError store Unit
  rollback (opened : transaction) : EStateM StorageError store Unit

structure RawPage where
  rows : List Json
  total : Nat
  deriving Repr

def RawPage.toJson (page : RawPage) : Json :=
  .object [("rows", .array page.rows), ("total", .ofNat page.total)]

end CriteriaQuery
