import CriteriaQuery.Config.Json
import CriteriaQuery.Config.Toml
import CriteriaQuery.Document.Json
import CriteriaQuery.Json.Reader
import CriteriaQuery.Model.Json
import CriteriaQuery.Model.Typed
import CriteriaQuery.Parameters.Reading
import CriteriaQuery.Path.Cache
import CriteriaQuery.Plan.Json
import CriteriaQuery.Proofs.Criterion.Dropped
import CriteriaQuery.Proofs.Criterion.Embedding
import CriteriaQuery.Proofs.Criterion.OperatorTable
import CriteriaQuery.Proofs.Criterion.Splitting
import CriteriaQuery.Proofs.Criterion.Verbatim
import CriteriaQuery.Proofs.Model.Batch
import CriteriaQuery.Proofs.Model.Coercion
import CriteriaQuery.Proofs.Model.Placement
import CriteriaQuery.Proofs.Model.Targets
import CriteriaQuery.Proofs.Parameters.Numbering
import CriteriaQuery.Proofs.Parameters.Order
import CriteriaQuery.Proofs.Parameters.Scalar
import CriteriaQuery.Proofs.Path.Ancestors
import CriteriaQuery.Proofs.Plan.Failures
import CriteriaQuery.Proofs.Plan.Junctions
import CriteriaQuery.Proofs.Plan.Parentheses
import CriteriaQuery.Proofs.Query.Json
import CriteriaQuery.Proofs.Repository.Paging
import CriteriaQuery.Proofs.Search.Meaning
import CriteriaQuery.Proofs.Sql.Placeholders
import CriteriaQuery.Proofs.Sql.Scopes
import CriteriaQuery.Proofs.Store.Integers
import CriteriaQuery.Proofs.Store.Transaction
import CriteriaQuery.Proofs.Text.Pattern
import CriteriaQuery.Proofs.Time.Instant
import CriteriaQuery.Proofs.Update.Atomicity
import CriteriaQuery.Proofs.Update.Effect
import CriteriaQuery.Proofs.Update.Frame
import CriteriaQuery.Proofs.Update.Independence
import CriteriaQuery.Proofs.Update.LastWriter
import CriteriaQuery.Proofs.Update.Shape
import CriteriaQuery.Repository
import CriteriaQuery.Search.Request
import CriteriaQuery.Sql.Statement
import CriteriaQuery.Store.Counting
import CriteriaQuery.Store.Faulty
import CriteriaQuery.Store.Session
