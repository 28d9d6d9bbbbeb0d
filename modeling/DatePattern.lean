import DatePattern.Bindings
import DatePattern.Text.Basic
import DatePattern.Text.Utf8
import DatePattern.Text.Encoding
import DatePattern.Text.CharClass
import DatePattern.Text.Printable
import DatePattern.Text.Case
import DatePattern.Text.Width
import DatePattern.Text.Quoted
import DatePattern.Number.Decimal
import DatePattern.Number.Binary
import DatePattern.Number.Shortest
import DatePattern.Calendar.Date
import DatePattern.Calendar.Moment
import DatePattern.Dialect.Engine
import DatePattern.Dialect.Grammar
import DatePattern.Dialect.Registry
import DatePattern.Pattern.Basic
import DatePattern.Sql.Expr
import DatePattern.Recipe
import DatePattern.Capability
import DatePattern.Plan.Fragment
import DatePattern.Plan.NativeFormat
import DatePattern.Plan.Compile
import DatePattern.Reference.Render
import DatePattern.Connection.Basic
import DatePattern.Log
import DatePattern.Connection.Settings
import DatePattern.Connection.Address
import DatePattern.Verify.Matches
import DatePattern.Verify.Report
import DatePattern.Verify.Run
import DatePattern.Yaml.Cursor
import DatePattern.Yaml.Scalar
import DatePattern.Yaml.Token
import DatePattern.Yaml.Node
import DatePattern.Yaml.Value
import DatePattern.Yaml.Spelling
import DatePattern.Yaml.Reading
import DatePattern.Batch.Formats
import DatePattern.Config.Environment
import DatePattern.Config.Basic
import DatePattern.Config.Decode
import DatePattern.Config.Load
import DatePattern.Output.Json
import DatePattern.Output.Basic
import DatePattern.Output.Table
import DatePattern.Verify.Render
import DatePattern.Cli.Flag
import DatePattern.Batch.Compile
import DatePattern.Output.Explained
import DatePattern.Output.Matrix
import DatePattern.Session.Basic
import DatePattern.Session.Completion
import DatePattern.Cli.Catalog
import DatePattern.Verify.Targets
import DatePattern.Cli.Failure
import DatePattern.Cli.Route
import DatePattern.Cli.Run
import DatePattern.Directory
import DatePattern.Docs.Block
import DatePattern.Docs.Page
import DatePattern.Docs.Site
import DatePattern.Main
import DatePattern.Proofs.Plan.Stages
import DatePattern.Proofs.Pattern.Acceptance
import DatePattern.Proofs.Plan.Meaning
import DatePattern.Proofs.Dialect.Quoting
import DatePattern.Proofs.Sql.Scan
import DatePattern.Proofs.Sql.Words
import DatePattern.Proofs.Number.Decimal
import DatePattern.Proofs.Recipe.Pieces
import DatePattern.Proofs.Sql.Sealed
import DatePattern.Proofs.Plan.Sealed
import DatePattern.Proofs.Calendar.Date
import DatePattern.Proofs.Sqlite.Evaluate
import DatePattern.Proofs.Sqlite.Clock
import DatePattern.Proofs.Sqlite.Recipes
import DatePattern.Proofs.Sqlite.Compile
import DatePattern.Proofs.NativeFormat.Parts
import DatePattern.Proofs.NativeFormat.Percent
import DatePattern.Proofs.NativeFormat.Sqlserver
import DatePattern.Proofs.NativeFormat.Postgres
import DatePattern.Proofs.Plan.Context
import DatePattern.Proofs.Dialect.ReadBack
import DatePattern.Proofs.Connection.Keywords
import DatePattern.Proofs.Verify.Interleaving
import DatePattern.Proofs.Verify.Completeness
import DatePattern.Proofs.Text.Case
import DatePattern.Proofs.Dialect.Names
import DatePattern.Proofs.Config.Usable
import DatePattern.Proofs.Session.Safety
import DatePattern.Proofs.Plan.Each
import DatePattern.Proofs.Plan.Bytes
import DatePattern.Proofs.Output.Json
import DatePattern.Proofs.Output.Table
import DatePattern.Proofs.Batch.Written
import DatePattern.Proofs.Batch.AllOrNothing
import DatePattern.Proofs.Cli.Agreement
import DatePattern.Proofs.Text.Order
import DatePattern.Proofs.Text.Split
import DatePattern.Proofs.Dialect.Registration
import DatePattern.Proofs.Connection.Lifecycle
import DatePattern.Proofs.Plan.Partition
import DatePattern.Proofs.Number.Signed
import DatePattern.Proofs.Verify.Matching
import DatePattern.Proofs.Pattern.Tokens
import DatePattern.Proofs.Pattern.Composition
import DatePattern.Proofs.Pattern.Hints
import DatePattern.Proofs.NativeFormat.Literal
import DatePattern.Proofs.Pattern.Encoding
import DatePattern.Proofs.Calendar.Moment
import DatePattern.Proofs.Number.Width
import DatePattern.Proofs.Recipe.Placeholders
import DatePattern.Proofs.Reference.MonthLength
import DatePattern.Proofs.Calendar.Week
import DatePattern.Proofs.Reference.Chronology
import DatePattern.Proofs.Reference.Timestamp
import DatePattern.Proofs.Reference.WeekDate
import DatePattern.Proofs.Sql.Condition
import DatePattern.Proofs.Sql.Trim
import DatePattern.Proofs.Connection.Url
import DatePattern.Proofs.Config.Expansion
import DatePattern.Proofs.Output.Explained
import DatePattern.Proofs.Output.CodeSpan
import DatePattern.Proofs.Text.Replace
import DatePattern.Proofs.Text.Indent
import DatePattern.Proofs.Text.Prose
import DatePattern.Proofs.Docs.Table
