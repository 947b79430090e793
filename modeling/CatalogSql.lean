import CatalogSql.Number.Shortest
import CatalogSql.Text.Blank
import CatalogSql.Text.Cluster
import CatalogSql.Text.Combining
import CatalogSql.Text.Escaped
import CatalogSql.Text.LetterCase
import CatalogSql.Keyed.Entries
import CatalogSql.Keyed.Ordered
import CatalogSql.Keyed.Sorted
import CatalogSql.Json.Printer
import CatalogSql.Json.Fault
import CatalogSql.Json.Token
import CatalogSql.Json.Node
import CatalogSql.Json.Decoder
import CatalogSql.Catalog.Basic
import CatalogSql.Catalog.Coding
import CatalogSql.Sql.Plan
import CatalogSql.Calendar.Date
import CatalogSql.Calendar.DateTime
import CatalogSql.Calendar.Layout
import CatalogSql.Calendar.Stored
import CatalogSql.Planning.Key
import CatalogSql.Planning.Predicate
import CatalogSql.Planning.Preparation
import CatalogSql.Planning.Projection
import CatalogSql.Planning.Scope
import CatalogSql.Planning.Statements
import CatalogSql.Access.Accessor
import CatalogSql.Access.Call
import CatalogSql.Configuration.Basic
import CatalogSql.Planning.FreshId
import CatalogSql.Configuration.Directory
import CatalogSql.Generated.Identifier
import CatalogSql.Generated.Names
import CatalogSql.Generated.Source
import CatalogSql.Url.Host
import CatalogSql.Url.Basic
import CatalogSql.Url.Parser
import CatalogSql.Introspection.Classify
import CatalogSql.Introspection.Compiler
import CatalogSql.Introspection.Configure
import CatalogSql.Access.Row
import CatalogSql.Access.Connection
import CatalogSql.Sql.Layout
import CatalogSql.Sql.Listing
import CatalogSql.Command.Arguments
import CatalogSql.Command.Outcome
import CatalogSql.Command.Run
import CatalogSql.Main
import CatalogSql.Introspection.Declared
import CatalogSql.Proofs.Sql.Scan
import CatalogSql.Proofs.Sql.Numbered
import CatalogSql.Proofs.Sql.Structure
import CatalogSql.Proofs.Sql.Separation
import CatalogSql.Proofs.Sql.Numbering
import CatalogSql.Proofs.Sql.Follow
import CatalogSql.Proofs.Sql.Opening
import CatalogSql.Proofs.Sql.References
import CatalogSql.Proofs.Sql.WellFormed
import CatalogSql.Proofs.Sql.Expressions
import CatalogSql.Proofs.Sql.Clauses
import CatalogSql.Proofs.Sql.Unambiguity
import CatalogSql.Proofs.Sql.Evaluation
import CatalogSql.Proofs.Keyed.Sorted
import CatalogSql.Proofs.Planning.Key
import CatalogSql.Proofs.Planning.Filtering
import CatalogSql.Proofs.Planning.Meaning
import CatalogSql.Proofs.Failing
import CatalogSql.Proofs.Sql.Wrapping
import CatalogSql.Proofs.Sql.Restriction
import CatalogSql.Proofs.Planning.Statements
import CatalogSql.Proofs.Planning.Restriction
import CatalogSql.Proofs.Keyed.Ordered
import CatalogSql.Proofs.Keyed.Related
import CatalogSql.Proofs.Sql.Outline
import CatalogSql.Proofs.Planning.Preparation
import CatalogSql.Proofs.Planning.Alike
import CatalogSql.Proofs.Access.Steps
import CatalogSql.Proofs.Access.SameText
import CatalogSql.Proofs.Access.Runs
import CatalogSql.Proofs.Access.Independence
import CatalogSql.Proofs.Access.Scoping
import CatalogSql.Proofs.Access.WellFormed
import CatalogSql.Proofs.Calendar.Projected
import CatalogSql.Proofs.Calendar.ReadBack
import CatalogSql.Proofs.Introspection.Calls
import CatalogSql.Proofs.Introspection.Keeping
import CatalogSql.Proofs.Introspection.Accounting
import CatalogSql.Proofs.Access.TypedRows
import CatalogSql.Proofs.Access.OwnNames
import CatalogSql.Proofs.Json.Cutting
import CatalogSql.Proofs.Generated.Identifiers
import CatalogSql.Proofs.Generated.Lexemes
import CatalogSql.Proofs.Generated.Reader
import CatalogSql.Proofs.Generated.Naming
import CatalogSql.Proofs.Generated.Reads
import CatalogSql.Proofs.Generated.Readable
import CatalogSql.Proofs.Generated.Declared
import CatalogSql.Proofs.Json.Shown
import CatalogSql.Proofs.Json.Decoded
import CatalogSql.Proofs.Configuration.Coding
import CatalogSql.Proofs.Configuration.Loading
import CatalogSql.Proofs.Configuration.RoundTrip
import CatalogSql.Proofs.Command.Intact
import CatalogSql.Proofs.Planning.NewRow
import CatalogSql.Proofs.Planning.StoredColumns
import CatalogSql.Proofs.Access.TakenColumns
import CatalogSql.Proofs.Access.Conversation
import CatalogSql.Proofs.Access.WholeRows
import CatalogSql.Proofs.Planning.Written
import CatalogSql.Proofs.Planning.Update
import CatalogSql.Proofs.Planning.Insertion
import CatalogSql.Proofs.Planning.OwnValues
import CatalogSql.Proofs.Calendar.Spelling
import CatalogSql.Proofs.Calendar.Instant
import CatalogSql.Proofs.Calendar.WallClock
import CatalogSql.Proofs.Calendar.ProjectedBack
import CatalogSql.Proofs.Planning.KeySpelling
import CatalogSql.Proofs.Planning.GivenValues
import CatalogSql.Proofs.Number.Nearest
import CatalogSql.Proofs.Json.Proper
import CatalogSql.Proofs.Access.DecodedRows
import CatalogSql.Proofs.Access.WrittenBack
import CatalogSql.Proofs.Sql.Sent
import CatalogSql.Proofs.Access.Paging
import CatalogSql.Proofs.Json.Objects
import CatalogSql.Proofs.Request.Inputs
