import SqlDialects.Cursor
import SqlDialects.DataType
import SqlDialects.Dialect.Ansi
import SqlDialects.Dialect.Basic
import SqlDialects.Dialect.Bigquery
import SqlDialects.Dialect.Call
import SqlDialects.Dialect.Change
import SqlDialects.Dialect.Clickhouse
import SqlDialects.Dialect.Name
import SqlDialects.Document.Read
import SqlDialects.Expr.Equality
import SqlDialects.Expr.Node
import SqlDialects.Expr.Operator
import SqlDialects.Expr.Tree
import SqlDialects.Fault
import SqlDialects.Grammar.Call
import SqlDialects.Grammar.Expression
import SqlDialects.Grammar.Name
import SqlDialects.Grammar.Query
import SqlDialects.Lexer
import SqlDialects.Lexical.Enclosed
import SqlDialects.Lexical.Numeral
import SqlDialects.Lexical.Rule
import SqlDialects.Note
import SqlDialects.Numeral.Double
import SqlDialects.Numeral.Layout
import SqlDialects.Numeral.Read
import SqlDialects.Numeral.Shortest
import SqlDialects.ParseError
import SqlDialects.Proofs.Dialect.Assembled
import SqlDialects.Proofs.Dialect.Consistent
import SqlDialects.Proofs.Dialect.Reached
import SqlDialects.Proofs.Dialect.Rejected
import SqlDialects.Proofs.Expr.Layer
import SqlDialects.Proofs.Expr.Part
import SqlDialects.Proofs.Lexing.Behind
import SqlDialects.Proofs.Lexing.Casing
import SqlDialects.Proofs.Lexing.Cut
import SqlDialects.Proofs.Lexing.Decimal
import SqlDialects.Proofs.Lexing.Delimited
import SqlDialects.Proofs.Lexing.Enclosed
import SqlDialects.Proofs.Lexing.Intact
import SqlDialects.Proofs.Lexing.Lines
import SqlDialects.Proofs.Lexing.Longest
import SqlDialects.Proofs.Lexing.Nested
import SqlDialects.Proofs.Lexing.Numeral
import SqlDialects.Proofs.Lexing.Offsets
import SqlDialects.Proofs.Lexing.Opening
import SqlDialects.Proofs.Lexing.Partition
import SqlDialects.Proofs.Lexing.Quoted
import SqlDialects.Proofs.Lexing.Spaced
import SqlDialects.Proofs.Lexing.Spelling
import SqlDialects.Proofs.Lexing.Taken
import SqlDialects.Proofs.Lexing.Token
import SqlDialects.Proofs.Lexing.Word
import SqlDialects.Proofs.Numeral.Value
import SqlDialects.Proofs.Parser.GrammarInStep
import SqlDialects.Proofs.Parser.GrammarProceeds
import SqlDialects.Proofs.Parser.InStep
import SqlDialects.Proofs.Parser.Operations
import SqlDialects.Proofs.Parser.Proceeds
import SqlDialects.Proofs.Parser.Run
import SqlDialects.Proofs.Parser.StatementsInStep
import SqlDialects.Proofs.Parser.Within
import SqlDialects.Proofs.Precedence.Climbing
import SqlDialects.Proofs.Precedence.Stratified
import SqlDialects.Proofs.Reading.Gives
import SqlDialects.Proofs.Reading.Lists
import SqlDialects.Proofs.Reading.Reads
import SqlDialects.Proofs.Rendering.Alike
import SqlDialects.Proofs.Rendering.Parts
import SqlDialects.Proofs.Rendering.Unwritable
import SqlDialects.Proofs.RoundTrip.Accepted
import SqlDialects.Proofs.RoundTrip.Across
import SqlDialects.Proofs.RoundTrip.Adapted
import SqlDialects.Proofs.RoundTrip.Brackets
import SqlDialects.Proofs.RoundTrip.Calls
import SqlDialects.Proofs.RoundTrip.Canonical
import SqlDialects.Proofs.RoundTrip.Clauses
import SqlDialects.Proofs.RoundTrip.Leaf
import SqlDialects.Proofs.RoundTrip.Operators
import SqlDialects.Proofs.RoundTrip.Parsed
import SqlDialects.Proofs.RoundTrip.ParsedStatement
import SqlDialects.Proofs.RoundTrip.Queries
import SqlDialects.Proofs.RoundTrip.Readable
import SqlDialects.Proofs.RoundTrip.SameDialect
import SqlDialects.Proofs.RoundTrip.Stable
import SqlDialects.Proofs.RoundTrip.Statement
import SqlDialects.Proofs.RoundTrip.Terms
import SqlDialects.Proofs.RoundTrip.TypePivot
import SqlDialects.Proofs.RoundTrip.Types
import SqlDialects.Proofs.RoundTrip.Written
import SqlDialects.Proofs.Statements.Faultless
import SqlDialects.Proofs.Statements.Joined
import SqlDialects.Proofs.Statements.KeywordCase
import SqlDialects.Proofs.Statements.Located
import SqlDialects.Proofs.Statements.Lookahead
import SqlDialects.Proofs.Statements.Outcome
import SqlDialects.Proofs.Statements.Single
import SqlDialects.Proofs.Statements.Spaced
import SqlDialects.Proofs.Statements.WellFormed
import SqlDialects.Quoting
import SqlDialects.Regex.Basic
import SqlDialects.Regex.CharClass
import SqlDialects.Regex.Read
import SqlDialects.Regex.ReadClass
import SqlDialects.Regex.Search
import SqlDialects.Registry
import SqlDialects.Render.Leaf
import SqlDialects.Render.Node
import SqlDialects.Setting.Basic
import SqlDialects.Setting.Document
import SqlDialects.Span
import SqlDialects.Style
import SqlDialects.Table
import SqlDialects.Text.Character
import SqlDialects.Text.CodeRanges
import SqlDialects.Text.Escaped
import SqlDialects.Text.Slice
import SqlDialects.Text.Word
import SqlDialects.Text.WordPart
import SqlDialects.Token
import SqlDialects.Traced
import SqlDialects.Translate
