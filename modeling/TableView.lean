import TableView.Aggregate.Buckets
import TableView.Aggregate.Compile
import TableView.Aggregate.Spec
import TableView.Association.Resolution
import TableView.Calendar.Date
import TableView.Calendar.Instant
import TableView.Calendar.Text
import TableView.Column.Basic
import TableView.Column.Codec
import TableView.Column.Kind
import TableView.Decimal.Bounded
import TableView.Decimal.Layout
import TableView.Decimal.Shortest
import TableView.Digest.Sha256
import TableView.Error
import TableView.Fields
import TableView.Index.Aggregation
import TableView.Index.Body
import TableView.Index.Clause
import TableView.IndexQuery
import TableView.Json.Basic
import TableView.Json.Decode
import TableView.Json.Parser
import TableView.Json.Printer
import TableView.Query.Basic
import TableView.Query.Meaning
import TableView.Query.Stage
import TableView.Registry
import TableView.RelationalQuery
import TableView.Request
import TableView.Settings
import TableView.SortDirection
import TableView.Sql.Dialect
import TableView.Sql.Fragment
import TableView.Sql.Ordering
import TableView.Sql.Param
import TableView.Sql.Predicate
import TableView.Sql.Relation
import TableView.Sqlite.Cell
import TableView.Sqlite.Declared
import TableView.Sqlite.Options
import TableView.Sqlite.Sizing
import TableView.Store.Basic
import TableView.Store.Codec
import TableView.Store.Scripted
import TableView.Store.Session
import TableView.Term.Basic
import TableView.Term.Number
import TableView.Term.Pattern
import TableView.Term.Period
import TableView.Term.Text
import TableView.Text.Base64
import TableView.Text.Blank
import TableView.Text.CaseRanges
import TableView.Text.Digit
import TableView.Text.Hex
import TableView.Text.Integer
import TableView.Text.Lower
import TableView.Text.Quoted
import TableView.Text.Ranges
import TableView.Text.Unseen
import TableView.Text.Utf8
import TableView.Proofs.Pattern.Wildcards
import TableView.Proofs.Text.Parts
import TableView.Proofs.Sql.Condition
import TableView.Proofs.Index.Documents
import TableView.Proofs.Term.Agreement
import TableView.Proofs.Association.Resolution
import TableView.Proofs.Query.Alignment
import TableView.Proofs.Query.Noninterference
import TableView.Proofs.Query.Writing
import TableView.Proofs.Sql.Bare
import TableView.Proofs.Sql.Markers
import TableView.Proofs.Sql.Statements
import TableView.Proofs.Store.Session
import TableView.Proofs.Text.LowerCase
import TableView.Proofs.Decimal.Bounded
import TableView.Proofs.Term.Overflow
import TableView.Proofs.Query.Totality
import TableView.Proofs.Order.NullPlacement
import TableView.Proofs.Json.Text
import TableView.Proofs.Aggregate.Identity
import TableView.Proofs.Fields
import TableView.Proofs.Aggregate.Slots
import TableView.Proofs.Index.Reading
import TableView.Proofs.Aggregate.Evaluation
import TableView.Proofs.Aggregate.GroupBy
import TableView.Proofs.Sql.Reading
import TableView.Proofs.Query.FailClosed
import TableView.Proofs.Store.Lockstep
import TableView.Proofs.Query.Placement
import TableView.Proofs.Query.Narrowing
import TableView.Proofs.Query.OrderPrecedence
import TableView.Proofs.Query.SameTerms
import TableView.Proofs.Query.Effects
import TableView.Proofs.Query.CallOrder
import TableView.Proofs.Query.Execution
import TableView.Proofs.Query.Totals
import TableView.Proofs.Query.Reads
import TableView.Proofs.Query.Paging
import TableView.Proofs.Query.Counting
import TableView.Proofs.Pattern.Matching
import TableView.Proofs.Pattern.Quoted
import TableView.Proofs.Text.Runs
import TableView.Proofs.Term.Fuzzy
import TableView.Proofs.Calendar.Order
import TableView.Proofs.Calendar.Succession
import TableView.Proofs.Calendar.Timeline
import TableView.Proofs.Calendar.Periods
import TableView.Proofs.Term.Fraction
import TableView.Proofs.Term.Period
import TableView.Proofs.Calendar.Days
import TableView.Proofs.Sql.Ranges
import TableView.Proofs.Term.Nesting
import TableView.Proofs.Text.Digits
import TableView.Proofs.Text.ByteOrder
import TableView.Proofs.Calendar.Written
import TableView.Proofs.Calendar.TextOrder
import TableView.Proofs.Term.Dates
import TableView.Proofs.Term.Operators
import TableView.Proofs.Index.Ranges
import TableView.Proofs.Sqlite.Binding
import TableView.Proofs.Sql.Clauses
import TableView.Proofs.Sql.Nesting
import TableView.Proofs.Sql.Grouping
import TableView.Proofs.Association.OwnerQuery
import TableView.Proofs.Query.Conditions
import TableView.Proofs.Sql.Pruning
import TableView.Proofs.Sql.Conjunction
import TableView.Proofs.Json.Spelling
import TableView.Proofs.Aggregate.Distinct
import TableView.Proofs.Association.Ids
import TableView.Proofs.Sql.Numbering
import TableView.Proofs.Sql.Comparisons
import TableView.Proofs.Association.Selection
import TableView.Proofs.Decimal.Reading
import TableView.Proofs.Decimal.Hundredths
import TableView.Proofs.Term.Numeral
import TableView.Proofs.Term.Cents
import TableView.Proofs.Aggregate.Conservation
import TableView.Proofs.Index.Addressed
import TableView.Proofs.Query.Assembly
import TableView.Proofs.Registry.Places
import TableView.Proofs.Registry.Construction
import TableView.Proofs.Json.Reading
import TableView.Proofs.Column.Codec
import TableView.Proofs.Column.Decoding
import TableView.Proofs.Text.Signed
import TableView.Proofs.Association.IdList
import TableView.Proofs.Term.Polymorphic
