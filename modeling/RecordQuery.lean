import RecordQuery.Description
import RecordQuery.Gateway
import RecordQuery.Store
import RecordQuery.Proofs.Agreement
import RecordQuery.Proofs.Composition
import RecordQuery.Proofs.Inquiry
import RecordQuery.Proofs.JoinSearch
import RecordQuery.Proofs.SharedRoot
import RecordQuery.Proofs.Sql.Scope
import RecordQuery.Proofs.Alignment
import RecordQuery.Proofs.Scoping
import RecordQuery.Proofs.Answers
import RecordQuery.Proofs.Text.LikePattern
import RecordQuery.Proofs.NormalForm
import RecordQuery.Proofs.BooleanLaws
import RecordQuery.Proofs.Retrieval
import RecordQuery.Proofs.History
import RecordQuery.Proofs.Sorting.Answers
import RecordQuery.Proofs.EmptyChoice
import RecordQuery.Proofs.Scalar.Order
import RecordQuery.Proofs.Scalar.Written
import RecordQuery.Proofs.Scalar.Integer
import RecordQuery.Proofs.Duality
import RecordQuery.Proofs.MissingValue
import RecordQuery.Proofs.Membership
import RecordQuery.Proofs.Scalar.Nesting
import RecordQuery.Proofs.Text.Verbatim
import RecordQuery.Proofs.Paging
import RecordQuery.Proofs.Sql.Delimiting
import RecordQuery.Proofs.Junction
import RecordQuery.Proofs.Settings
import RecordQuery.Proofs.Gateway
import RecordQuery.Proofs.Logic.Numbering
