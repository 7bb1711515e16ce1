import PortableSql.Text.Blank
import PortableSql.Text.Digit
import PortableSql.Text.Word
import PortableSql.Text.Printable
import PortableSql.Text.Case.Upper
import PortableSql.Text.Case.Lower
import PortableSql.Text.Quoted
import PortableSql.Number.Decimal
import PortableSql.Value.Text
import PortableSql.Failure
import PortableSql.Reporting
import PortableSql.Payload.Command
import PortableSql.Payload.Written
import PortableSql.Sql.Scan
import PortableSql.Sql.Statement
import PortableSql.Text.Template
import PortableSql.Dialect.Name
import PortableSql.Dialect.Quotation
import PortableSql.Compile.Select
import PortableSql.Compile.Environment
import PortableSql.Compile.Column
import PortableSql.Compile.Key
import PortableSql.Compile.Command
import PortableSql.Sql.Reshape
import PortableSql.Server.Connection
import PortableSql.Server.Script
import PortableSql.Session.Cursor
import PortableSql.Settings
import PortableSql.Session.Execution
import PortableSql.Session.Closing
import PortableSql.Dialect.Table
import PortableSql.Log.Context
import PortableSql.Log.Draft
import PortableSql.Value.Scalar
import PortableSql.Proofs.Alignment
import PortableSql.Proofs.Interference
import PortableSql.Proofs.Marking
import PortableSql.Proofs.Success
import PortableSql.Proofs.Acting
import PortableSql.Proofs.Reading
import PortableSql.Proofs.Collapse
import PortableSql.Proofs.Restriction
import PortableSql.Proofs.Traffic
import PortableSql.Proofs.Depth
import PortableSql.Proofs.Opening
import PortableSql.Proofs.Operation
import PortableSql.Proofs.Journal
import PortableSql.Proofs.Routing
import PortableSql.Proofs.Wording
import PortableSql.Proofs.Mirroring
import PortableSql.Proofs.Refusal
import PortableSql.Proofs.Sealing
import PortableSql.Proofs.Limit
import PortableSql.Proofs.Leaving
import PortableSql.Proofs.Lagging
import PortableSql.Proofs.Nesting
import PortableSql.Proofs.RoundTrip
import PortableSql.Proofs.Neutral
import PortableSql.Proofs.Concord
import PortableSql.Proofs.Releasing
import PortableSql.Proofs.Remembering
import PortableSql.Proofs.Exporting
import PortableSql.Proofs.Batching
import PortableSql.Proofs.Accounting
import PortableSql.Proofs.Wholeness
import PortableSql.Proofs.Consuming
import PortableSql.Proofs.Legible
import PortableSql.Proofs.Draining
import PortableSql.Proofs.Freeing
import PortableSql.Proofs.Warning
import PortableSql.Proofs.PrimaryKey
import PortableSql.Proofs.Unquoting
import PortableSql.Proofs.Literal
import PortableSql.Proofs.Expansion
import PortableSql.Proofs.Calling
import PortableSql.Proofs.Width
import PortableSql.Proofs.Capacity
import PortableSql.Proofs.Rebuilding
import PortableSql.Proofs.Temporary
import PortableSql.Proofs.Default
import PortableSql.Proofs.IndexName
import PortableSql.Proofs.Tokenizing
