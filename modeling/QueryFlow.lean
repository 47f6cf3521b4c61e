import QueryFlow.Text.Blank
import QueryFlow.Text.Case
import QueryFlow.Text.CaseContext
import QueryFlow.Decimal.Binary
import QueryFlow.Decimal.Shortest
import QueryFlow.Decimal.Fixed
import QueryFlow.Decimal.Read
import QueryFlow.Keyed
import QueryFlow.Json.Basic
import QueryFlow.Json.Write
import QueryFlow.Json.Read
import QueryFlow.Json.Form
import QueryFlow.Logging
import QueryFlow.Settings
import QueryFlow.Sql.DatePart
import QueryFlow.Sql.Dialect
import QueryFlow.Sql.Fault
import QueryFlow.Sql.Token
import QueryFlow.Sql.ValueKind
import QueryFlow.Sql.Restated.Operation
import QueryFlow.Sql.Restated
import QueryFlow.Sql.Lexer.Literal
import QueryFlow.Sql.Lexer
import QueryFlow.Sql.Name
import QueryFlow.Sql.Literal
import QueryFlow.Sql.DataType
import QueryFlow.Sql.DataType.Spelling
import QueryFlow.Sql.Phrase
import QueryFlow.Sql.TimeFormat
import QueryFlow.Sql.JsonPath
import QueryFlow.Sql.Expr
import QueryFlow.Sql.Record
import QueryFlow.Sql.Function.Alias
import QueryFlow.Sql.Function
import QueryFlow.Sql.Function.Naming
import QueryFlow.Sql.Function.Wording
import QueryFlow.Sql.Function.Parts
import QueryFlow.Sql.Function.Meaning.Common
import QueryFlow.Sql.Function.Meaning.Dates
import QueryFlow.Sql.Function.Meaning.Duckdb
import QueryFlow.Sql.Function.Meaning.Postgres
import QueryFlow.Sql.Function.Meaning.Mysql
import QueryFlow.Sql.Function.Meaning.Hive
import QueryFlow.Sql.Function.Meaning.Presto
import QueryFlow.Sql.Function.Meaning.Snowflake
import QueryFlow.Sql.Function.Meaning.Tsql
import QueryFlow.Sql.Function.Meaning.Bigquery
import QueryFlow.Sql.Function.Meaning.Clickhouse
import QueryFlow.Sql.Function.Meaning
import QueryFlow.Sql.Render.Operator
import QueryFlow.Sql.Render.Clause
import QueryFlow.Sql.Render.Call
import QueryFlow.Sql.Render
import QueryFlow.Sql.Parser.Cursor
import QueryFlow.Sql.Parser.Names
import QueryFlow.Sql.Parser.Grammar
import QueryFlow.Sql.Parser.Types
import QueryFlow.Sql.Parser.Window
import QueryFlow.Sql.Parser.Documents
import QueryFlow.Sql.Parser.Calls
import QueryFlow.Sql.Parser.Primary
import QueryFlow.Sql.Parser.Interval
import QueryFlow.Sql.Parser.Operators
import QueryFlow.Sql.Parser.Items
import QueryFlow.Sql.Parser.Query
import QueryFlow.Sql.Statement
import QueryFlow.Sql.Parser.Rules
import QueryFlow.Sql.Parser.Storage
import QueryFlow.Sql.Parser.Declaration
import QueryFlow.Sql.Parser.Change
import QueryFlow.Sql.Parser.Command
import QueryFlow.Sql.Parser.Statement
import QueryFlow.Query.References
import QueryFlow.Query.Selection
import QueryFlow.Schema.Basic
import QueryFlow.Schema.Declared
import QueryFlow.Graph.Basic
import QueryFlow.Graph.Integrity
import QueryFlow.Graph.Builder
import QueryFlow.Lineage.Basic
import QueryFlow.Schema.Exchange
import QueryFlow.Graph.Exchange
import QueryFlow.Query.Flow
import QueryFlow.Files
import QueryFlow.Schema.Load
import QueryFlow.Journal
import QueryFlow.Dot.Quote
import QueryFlow.Dot.Document
import QueryFlow.Layout.Options
import QueryFlow.Layout.Size
import QueryFlow.Layout.Document
import QueryFlow.Layout.Box
import QueryFlow.Layout.Answer
import QueryFlow.Layout.Solver
import QueryFlow.Palette
import QueryFlow.Drawing
import QueryFlow.Text.Parts
import QueryFlow.Text.Ranges
import QueryFlow.Text.Visible
import QueryFlow.Text.Letter
import QueryFlow.Text.Quoted
import QueryFlow.CommandLine.Arguments
import QueryFlow.CommandLine.Help
import QueryFlow.CommandLine.Invocation
import QueryFlow.CommandLine.Report
import QueryFlow.CommandLine.Run
import QueryFlow.Http
import QueryFlow.Main
import QueryFlow.Proofs.Keyed
import QueryFlow.Proofs.Logging
import QueryFlow.Proofs.Graph.Integrity
import QueryFlow.Proofs.Graph.Violations
import QueryFlow.Proofs.Graph.Order
import QueryFlow.Proofs.Graph.Views
import QueryFlow.Proofs.Builder.Ids
import QueryFlow.Proofs.Builder.Run
import QueryFlow.Proofs.Builder.Sound
import QueryFlow.Proofs.Builder.Parts
import QueryFlow.Proofs.Builder.Growth
import QueryFlow.Proofs.Builder.Sources
import QueryFlow.Proofs.Builder.Chronicle
import QueryFlow.Proofs.Builder.Resolution
import QueryFlow.Proofs.Builder.Degrees
import QueryFlow.Proofs.Builder.Enclosure
import QueryFlow.Proofs.Builder.Moves
import QueryFlow.Proofs.Builder.EdgeIds
import QueryFlow.Proofs.Builder.Appending
import QueryFlow.Proofs.Builder.Reach
import QueryFlow.Proofs.Builder.Schema
import QueryFlow.Proofs.Builder.Usage
import QueryFlow.Proofs.Lineage.Search
import QueryFlow.Proofs.Lineage.Inflow
import QueryFlow.Proofs.Builder.Offers
import QueryFlow.Proofs.Builder.Count
import QueryFlow.Proofs.Builder.LeftDeep
import QueryFlow.Proofs.Query.Joining
import QueryFlow.Proofs.Builder.SharedColumns
import QueryFlow.Proofs.Lineage.Scope
import QueryFlow.Proofs.Lineage.Resolve
import QueryFlow.Proofs.Lineage.Naming
import QueryFlow.Proofs.Lineage.Composition
import QueryFlow.Proofs.Lineage.Answers
import QueryFlow.Proofs.Lineage.Reachable
import QueryFlow.Proofs.Lineage.FromOrder
import QueryFlow.Proofs.Builder.Listing
import QueryFlow.Proofs.Lineage.Depth
import QueryFlow.Proofs.Lineage.Acyclic
import QueryFlow.Proofs.Colors.Draws
import QueryFlow.Proofs.Colors.Agreement
import QueryFlow.Proofs.Json.Records
import QueryFlow.Proofs.Graph.RoundTrip
import QueryFlow.Proofs.Schema.RoundTrip
import QueryFlow.Proofs.Schema.Loading
import QueryFlow.Proofs.Schema.Declared
import QueryFlow.Proofs.Schema.Composite
import QueryFlow.Proofs.Schema.Forms
import QueryFlow.Proofs.Layout.Legible
import QueryFlow.Proofs.Layout.Endings
import QueryFlow.Proofs.Layout.Depiction
import QueryFlow.Proofs.Layout.Reading
import QueryFlow.Proofs.Layout.Boxes
import QueryFlow.Proofs.Dot.Values
import QueryFlow.Proofs.Layout.Labels
import QueryFlow.Proofs.Drawing
import QueryFlow.Proofs.Http.Sending
import QueryFlow.Proofs.Http.Endpoints
import QueryFlow.Proofs.CommandLine.Steps
import QueryFlow.Proofs.CommandLine.Surfaces
import QueryFlow.Proofs.CommandLine.Reports
import QueryFlow.Proofs.CommandLine.Endings
