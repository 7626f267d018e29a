import FluentSql.Value.Tagged
import FluentSql.Error.Kind
import FluentSql.Query.Finder
import FluentSql.Session.Script
import FluentSql.Schema.Plan
import FluentSql.Settings.Load
import FluentSql.Migration.Runner
import FluentSql.Connection.Scripted
import FluentSql.PostgreSql.Scripted
import FluentSql.Sqlite.Connection
import FluentSql.Proofs.Model.SoftDelete
import FluentSql.Proofs.Query.Run
import FluentSql.Proofs.Join.WriteThrough
import FluentSql.Proofs.Query.Additions
import FluentSql.Proofs.Query.Meaning
import FluentSql.Proofs.Migration.Table
import FluentSql.Proofs.Migration.Migrate
import FluentSql.Proofs.Migration.Rollback
import FluentSql.Proofs.Migration.Abort
import FluentSql.Proofs.Migration.Outcome
import FluentSql.Proofs.Model.Assignment
import FluentSql.Proofs.Model.Deletion
import FluentSql.Proofs.Dialect.Interpolation
import FluentSql.Proofs.Schema.Sending
import FluentSql.Proofs.Query.Reading
import FluentSql.Proofs.Query.Checks
import FluentSql.Proofs.Migration.Race
import FluentSql.Proofs.Migration.Rebuild
import FluentSql.Proofs.Query.CallOrder
import FluentSql.Proofs.Query.Views
import FluentSql.Proofs.Connection.Lifecycle
import FluentSql.Proofs.Settings.Excerpt
import FluentSql.Proofs.PostgreSql.Integers
import FluentSql.Proofs.PostgreSql.Returning
import FluentSql.Proofs.Value.Tagged
import FluentSql.Proofs.Query.Cells
import FluentSql.Proofs.Dialect.Lowering
import FluentSql.Proofs.Dialect.Literal
import FluentSql.Proofs.Schema.Defaults
import FluentSql.Proofs.Schema.Derived
import FluentSql.Proofs.Model.Hydration
import FluentSql.Proofs.Sqlite.Stored
import FluentSql.Proofs.Document.Merge
import FluentSql.Proofs.Settings.Overrides
import FluentSql.Proofs.Join.Target
