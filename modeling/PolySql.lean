import PolySql.Calendar.Date
import PolySql.Calendar.Printer
import PolySql.Calendar.Reader
import PolySql.Calendar.Timestamp
import PolySql.Catalog
import PolySql.Column.Basic
import PolySql.Column.Cast
import PolySql.Column.Native
import PolySql.Column.Pattern
import PolySql.Column.Type
import PolySql.Column.TypeMap
import PolySql.Compiler.Compile
import PolySql.Compiler.Emission
import PolySql.Compiler.OrderText
import PolySql.Compiler.Render
import PolySql.Compiler.Settle.Select
import PolySql.Compiler.Settle.Statement
import PolySql.Database.Driver
import PolySql.Database.RowSet
import PolySql.Database.Scope
import PolySql.Database.Scripted
import PolySql.Database.Table
import PolySql.Dialect.Basic
import PolySql.Dialect.Capabilities
import PolySql.Dialect.Db2
import PolySql.Dialect.Generic
import PolySql.Dialect.Literal
import PolySql.Dialect.Postgres
import PolySql.Dialect.Sqlite
import PolySql.Dialect.StoredDefault
import PolySql.Document.Json
import PolySql.Document.Reader
import PolySql.Failure.Basic
import PolySql.Failure.Classifier
import PolySql.Failure.Message
import PolySql.Number.Decimal
import PolySql.Number.Double.Basic
import PolySql.Number.Double.Reader
import PolySql.Number.Double.Shortest
import PolySql.Number.Integer
import PolySql.SqlServer.Adapter
import PolySql.SqlServer.Classifier
import PolySql.SqlServer.ClauseBinds
import PolySql.SqlServer.Comparison
import PolySql.SqlServer.Dialect
import PolySql.SqlServer.InsertText
import PolySql.SqlServer.Name
import PolySql.SqlServer.NameCache
import PolySql.SqlServer.Plan
import PolySql.SqlServer.Settings
import PolySql.SqlServer.SettingsDocument
import PolySql.SqlServer.StoredDefault
import PolySql.SqlServer.Types
import PolySql.SqlServer.Version
import PolySql.Text.Blank
import PolySql.Text.Cut
import PolySql.Text.Digit
import PolySql.Text.Hex
import PolySql.Text.Parenthesis
import PolySql.Text.Phrase
import PolySql.Text.Placeholder
import PolySql.Text.Quoted
import PolySql.Text.Word
import PolySql.Tree.Basic
import PolySql.Tree.Builder
import PolySql.Tree.Equality
import PolySql.Tree.Operator
import PolySql.Tree.Transform
import PolySql.Value.Basic
import PolySql.Value.Display
import PolySql.Proofs.Tree.Node
import PolySql.Proofs.Arithmetic.Column
import PolySql.Proofs.Arithmetic.Differing
import PolySql.Proofs.Arithmetic.Value
import PolySql.Proofs.Calendar.RoundTrip
import PolySql.Proofs.Comment.Statement
import PolySql.Proofs.Compile.Again
import PolySql.Proofs.Compile.Alike
import PolySql.Proofs.Compile.ClauseBinds
import PolySql.Proofs.Compile.Inline
import PolySql.Proofs.Compile.Lookup
import PolySql.Proofs.Compile.Normal
import PolySql.Proofs.Compile.Probe
import PolySql.Proofs.Compile.Source
import PolySql.Proofs.Compile.Valid
import PolySql.Proofs.Database.Table
import PolySql.Proofs.Dialect.Quoting
import PolySql.Proofs.Default.Literal
import PolySql.Proofs.Inline.Identifier
import PolySql.Proofs.Inline.Interpolate
import PolySql.Proofs.InsertText.Identity
import PolySql.Proofs.Paging.Page
import PolySql.Proofs.Paging.Select
import PolySql.Proofs.Condition.Clause
import PolySql.Proofs.Rows.Restrict
import PolySql.Proofs.Settle.Label
import PolySql.Proofs.Settle.OrderText
import PolySql.Proofs.SqlServer.Closing
import PolySql.Proofs.SqlServer.Collation
import PolySql.Proofs.SqlServer.Identifier
import PolySql.Proofs.SqlServer.NameCache
import PolySql.Proofs.SqlServer.Protocol
import PolySql.Proofs.SqlServer.Report
import PolySql.Proofs.Column.TypeMap
import PolySql.Proofs.SqlServer.Aliases
import PolySql.Proofs.SqlServer.Settings
import PolySql.Proofs.SqlServer.Types
import PolySql.Proofs.SqlServer.Qualified
import PolySql.Proofs.Number.Bare
import PolySql.Proofs.Text.Segments
import PolySql.Proofs.Text.Unwrap
