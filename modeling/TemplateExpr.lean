import TemplateExpr.Binary64.Basic
import TemplateExpr.Binary64.Rounding
import TemplateExpr.Decimal
import TemplateExpr.Binary64.Approximation
import TemplateExpr.Binary64.Shortest
import TemplateExpr.Binary64.Written
import TemplateExpr.Text.Ranges
import TemplateExpr.Text.Blank
import TemplateExpr.Text.Alphabetic
import TemplateExpr.Text.Numeric
import TemplateExpr.Text.ExtendingMark
import TemplateExpr.Text.Printable
import TemplateExpr.Text.Quoted
import TemplateExpr.Fields
import TemplateExpr.Value.Basic
import TemplateExpr.Value.Order
import TemplateExpr.Value.Equality
import TemplateExpr.Value.Conversion
import TemplateExpr.Value.Dump
import TemplateExpr.Json.Basic
import TemplateExpr.Json.Value
import TemplateExpr.Expr.Operator
import TemplateExpr.Token.Position
import TemplateExpr.Token.Basic
import TemplateExpr.Token.Reading
import TemplateExpr.Token.Stream
import TemplateExpr.Token.Scanner
import TemplateExpr.Expr.Basic
import TemplateExpr.Expr.Cursor
import TemplateExpr.Expr.Chain
import TemplateExpr.Expr.Parse
import TemplateExpr.Expr.Nesting
import TemplateExpr.Expr.SyntaxError
import TemplateExpr.Expr.Descent
import TemplateExpr.Expr.Counting
import TemplateExpr.Expr.Session
import TemplateExpr.Context.Filter
import TemplateExpr.Context.Config
import TemplateExpr.Context.Basic
import TemplateExpr.Eval.Error
import TemplateExpr.Eval.Access
import TemplateExpr.Text.Substring
import TemplateExpr.Eval.Operators
import TemplateExpr.Eval.Traced
import TemplateExpr.Eval.Basic
import TemplateExpr.Eval.Source
import TemplateExpr.Proofs.Grammar.Derivation
import TemplateExpr.Proofs.Grammar.Cost
import TemplateExpr.Proofs.Grammar.Height
import TemplateExpr.Proofs.Grammar.Operators
import TemplateExpr.Proofs.Parsing.Runs
import TemplateExpr.Proofs.Parsing.Reads
import TemplateExpr.Proofs.Parsing.Soundness
import TemplateExpr.Proofs.Parsing.Completeness
import TemplateExpr.Proofs.Parsing.Locality
import TemplateExpr.Proofs.Parsing.Viability
import TemplateExpr.Proofs.Source.Stream
import TemplateExpr.Proofs.Source.Spelling
import TemplateExpr.Proofs.Parsing.Source
import TemplateExpr.Proofs.Parsing.Verdict
import TemplateExpr.Proofs.Parsing.Tower
import TemplateExpr.Proofs.Source.Lexeme
import TemplateExpr.Proofs.Source.Recognition
import TemplateExpr.Proofs.Source.Splitting
import TemplateExpr.Proofs.Evaluation.Congruence
import TemplateExpr.Proofs.Evaluation.Parts
import TemplateExpr.Proofs.Evaluation.Substitution
import TemplateExpr.Proofs.Source.Printing
import TemplateExpr.Proofs.Evaluation.Policies
import TemplateExpr.Proofs.Evaluation.CallOrder
import TemplateExpr.Proofs.Evaluation.Causes
import TemplateExpr.Proofs.Evaluation.Dependence
import TemplateExpr.Proofs.Evaluation.Folding
import TemplateExpr.Proofs.Numbers.Exact
import TemplateExpr.Proofs.Numbers.Scaled
import TemplateExpr.Proofs.Numbers.Approximation
import TemplateExpr.Proofs.Numbers.Comparison
import TemplateExpr.Proofs.Numbers.Nearest
import TemplateExpr.Proofs.Json.RoundTrip
import TemplateExpr.Proofs.Values.Order
import TemplateExpr.Proofs.Values.Places
import TemplateExpr.Proofs.Values.Equality
import TemplateExpr.Proofs.Evaluation.Indexing
import TemplateExpr.Proofs.Evaluation.Paths
import TemplateExpr.Proofs.Evaluation.Pipelines
import TemplateExpr.Proofs.Parsing.Limits
import TemplateExpr.Proofs.Parsing.Composition
import TemplateExpr.Proofs.Parsing.Movement
import TemplateExpr.Proofs.Source.Faults
import TemplateExpr.Proofs.Parsing.Sessions
import TemplateExpr.Proofs.Parsing.Levels
import TemplateExpr.Proofs.Parsing.Expenses
import TemplateExpr.Proofs.Parsing.Recovery
import TemplateExpr.Proofs.Parsing.Relocation
import TemplateExpr.Proofs.Source.Respacing
import TemplateExpr.Proofs.Source.Inquiries
import TemplateExpr.Proofs.Contexts.Families
import TemplateExpr.Proofs.Text.CodePoints
import TemplateExpr.Proofs.Contexts.Registrations
import TemplateExpr.Proofs.Grammar.Chains
import TemplateExpr.Proofs.Parsing.Threshold
import TemplateExpr.Proofs.Source.Joining
import TemplateExpr.Proofs.Parsing.Sequences
import TemplateExpr.Proofs.Evaluation.Connectives
import TemplateExpr.Proofs.Evaluation.Containment
import TemplateExpr.Proofs.Source.Positions
import TemplateExpr.Proofs.Source.Numerals
import TemplateExpr.Proofs.Parsing.ErrorPositions
import TemplateExpr.Proofs.Evaluation.Groups
import TemplateExpr.Proofs.Parsing.Parentheses
import TemplateExpr.Proofs.Evaluation.Comparisons
import TemplateExpr.Proofs.Source.Concatenation
import TemplateExpr.Proofs.Text.Encoding
import TemplateExpr.Proofs.Values.Strings
