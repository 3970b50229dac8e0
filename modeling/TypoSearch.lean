import TypoSearch.Cli.Arguments
import TypoSearch.Cli.Command
import TypoSearch.Cli.Run
import TypoSearch.Config.Field
import TypoSearch.Config.Layers
import TypoSearch.Config.Merge
import TypoSearch.Config.Settings
import TypoSearch.Cutoff
import TypoSearch.Fault
import TypoSearch.Json.Reader
import TypoSearch.Json.Text
import TypoSearch.Json.Writer
import TypoSearch.Log
import TypoSearch.Logic
import TypoSearch.Main
import TypoSearch.Matching
import TypoSearch.Number.Binary64
import TypoSearch.Number.Digits
import TypoSearch.Number.Numeral
import TypoSearch.Number.Reading
import TypoSearch.Number.Shortest
import TypoSearch.Plan
import TypoSearch.Proofs.Number.Plain
import TypoSearch.Proofs.Number.Rounding
import TypoSearch.Proofs.Outcome
import TypoSearch.Proofs.Plan.Cutoff
import TypoSearch.Proofs.Plan.Terms
import TypoSearch.Proofs.Sql.Lexeme
import TypoSearch.Query
import TypoSearch.Report
import TypoSearch.Similarity.Measure
import TypoSearch.Similarity.Share
import TypoSearch.Similarity.Subsequence
import TypoSearch.Similarity.TokenSet
import TypoSearch.Similarity.Window
import TypoSearch.Sql.Clause
import TypoSearch.Sql.Dialect
import TypoSearch.Sql.Keyword
import TypoSearch.Sql.Predicate
import TypoSearch.Sql.Quoting
import TypoSearch.Store.Cell
import TypoSearch.Store.Database
import TypoSearch.Store.Search
import TypoSearch.Text.Base64
import TypoSearch.Text.Blank
import TypoSearch.Text.Case
import TypoSearch.Text.CaseTable
import TypoSearch.Text.Containment
import TypoSearch.Text.LineEnd
import TypoSearch.Text.Path
import TypoSearch.Text.Printable
import TypoSearch.Text.PrintableTable
import TypoSearch.Value
import TypoSearch.Value.Display
import TypoSearch.Value.Numeric
import TypoSearch.Yaml.Cursor
import TypoSearch.Yaml.Digit
import TypoSearch.Yaml.Lexer
import TypoSearch.Yaml.Moment
import TypoSearch.Yaml.Node
import TypoSearch.Yaml.Number
import TypoSearch.Yaml.Scalar
import TypoSearch.Yaml.Schema
import TypoSearch.Yaml.Tag
import TypoSearch.Yaml.Token
import TypoSearch.Proofs.Sql.Layout
import TypoSearch.Proofs.Sql.Clause
import TypoSearch.Proofs.Matching
import TypoSearch.Proofs.Sql.Expression
import TypoSearch.Proofs.Sql.Evaluation
import TypoSearch.Proofs.Sql.Agreement
import TypoSearch.Proofs.Store.Selection
import TypoSearch.Proofs.Similarity.Subsequence
import TypoSearch.Proofs.Similarity.Window
import TypoSearch.Proofs.Similarity.Edit
import TypoSearch.Proofs.Text.Containment
import TypoSearch.Proofs.Similarity.Tolerance
import TypoSearch.Proofs.Matching.ShortCircuit
import TypoSearch.Proofs.Matching.Budget
import TypoSearch.Proofs.Plan.Refusal
import TypoSearch.Proofs.Sql.Refusal
import TypoSearch.Proofs.Config.Field
import TypoSearch.Proofs.Config.Settings
import TypoSearch.Proofs.Cli.Run
import TypoSearch.Proofs.Sql.Like
import TypoSearch.Proofs.Sql.Identifier
import TypoSearch.Proofs.Text.Sigma
import TypoSearch.Proofs.Matching.Containment
import TypoSearch.Proofs.Matching.Bound
import TypoSearch.Proofs.Text.Lowered
import TypoSearch.Proofs.Matching.Lowered
import TypoSearch.Proofs.Similarity.Share
import TypoSearch.Proofs.Similarity.Alignment
import TypoSearch.Proofs.Similarity.TokenSet
import TypoSearch.Proofs.Similarity.Measure
import TypoSearch.Proofs.Matching.Whole
import TypoSearch.Proofs.Sql.Quoted
import TypoSearch.Proofs.Query
import TypoSearch.Proofs.Number.Denotation
import TypoSearch.Proofs.Number.Range
import TypoSearch.Proofs.Plan.Range
import TypoSearch.Proofs.Sql.FunctionName
import TypoSearch.Proofs.Cli.Single
import TypoSearch.Proofs.Value
import TypoSearch.Proofs.Config.Merge
import TypoSearch.Proofs.Json.Grammar
import TypoSearch.Proofs.Json.Written
import TypoSearch.Proofs.Report
import TypoSearch.Proofs.Number.Order
import TypoSearch.Proofs.Number.Whole
import TypoSearch.Proofs.Plan.Surviving
import TypoSearch.Proofs.Plan.Shape
import TypoSearch.Proofs.Store.Session
