import SearchQuery.Main
import SearchQuery.Proofs.Query.Decoded
import SearchQuery.Proofs.Query.Stored
import SearchQuery.Proofs.Session.Deletion
import SearchQuery.Settings
import SearchQuery.Proofs.Dsl.Failure
import SearchQuery.Proofs.Session.Memo
import SearchQuery.Proofs.Session.Paging
import SearchQuery.Proofs.Http.Address
import SearchQuery.Proofs.Dsl.Prepared
import SearchQuery.Proofs.Dsl.Bulk
import SearchQuery.Proofs.Dsl.Content
import SearchQuery.Proofs.Response.Written
import SearchQuery.Proofs.Session.Scope
import SearchQuery.Proofs.Session.Unchanged
import SearchQuery.Proofs.Session.Release
import SearchQuery.Proofs.Session.Projection
import SearchQuery.Proofs.Command.Import
import SearchQuery.Proofs.Settings
import SearchQuery.Proofs.Dsl.ClosedForm
import SearchQuery.Proofs.Session.Counting
import SearchQuery.Proofs.Dsl.Agreement
import SearchQuery.Proofs.Dsl.Placement
import SearchQuery.Proofs.Query.Instants
import SearchQuery.Proofs.Dsl.Reference
import SearchQuery.Proofs.Query.Blocks
import SearchQuery.Proofs.Session.Limit
import SearchQuery.Proofs.Dsl.Negation
import SearchQuery.Proofs.Request.Lines
import SearchQuery.Proofs.Dsl.Searched
import SearchQuery.Proofs.Response.Identity
import SearchQuery.Proofs.Session.Refusal
import SearchQuery.Proofs.Dsl.SubQuery
import SearchQuery.Proofs.Dsl.Union
