import TypedExpr.Binary64.Arith
import TypedExpr.Binary64.Bits
import TypedExpr.Binary64.Nearest
import TypedExpr.Binary64.Shortest
import TypedExpr.Binary64.Text
import TypedExpr.Cache.Basic
import TypedExpr.Decimal.Arith
import TypedExpr.Decimal.Basic
import TypedExpr.Decimal.Read
import TypedExpr.Eval.Engine
import TypedExpr.Eval.Fault
import TypedExpr.Eval.Interp
import TypedExpr.Eval.Methods
import TypedExpr.Eval.Operator
import TypedExpr.Json.Basic
import TypedExpr.Json.Read
import TypedExpr.Main
import TypedExpr.Regex.Basic
import TypedExpr.Regex.CharSet
import TypedExpr.Regex.Error
import TypedExpr.Regex.Node
import TypedExpr.Regex.Parse
import TypedExpr.Regex.Program
import TypedExpr.Regex.Property
import TypedExpr.Regex.Search
import TypedExpr.Syntax.Expr
import TypedExpr.Syntax.Lexer
import TypedExpr.Syntax.ParseError
import TypedExpr.Syntax.Parser
import TypedExpr.Syntax.Token
import TypedExpr.Text.Age
import TypedExpr.Text.Alnum
import TypedExpr.Text.Blank
import TypedExpr.Text.Case
import TypedExpr.Text.Category
import TypedExpr.Text.Ident
import TypedExpr.Text.Packed
import TypedExpr.Text.Property
import TypedExpr.Text.Ranges
import TypedExpr.Text.Script
import TypedExpr.Text.Search
import TypedExpr.Text.Segment
import TypedExpr.Value.Basic
import TypedExpr.Value.Calendar
import TypedExpr.Value.Shape
import TypedExpr.Value.Text
import TypedExpr.Value.Ty
import TypedExpr.Proofs.Decimal.Render
import TypedExpr.Proofs.Syntax.Print
import TypedExpr.Proofs.Syntax.Scan
import TypedExpr.Proofs.Syntax.Reading
import TypedExpr.Proofs.Syntax.RoundTrip
import TypedExpr.Proofs.Text.Ident
import TypedExpr.Proofs.Syntax.Reparse
import TypedExpr.Proofs.Syntax.Height
import TypedExpr.Proofs.Cache.Entries
import TypedExpr.Proofs.Cache.Lru
import TypedExpr.Proofs.Cache.Refinement
import TypedExpr.Proofs.Cache.Memo
import TypedExpr.Proofs.Cache.Counters
import TypedExpr.Proofs.Eval.Transparent
import TypedExpr.Proofs.Eval.Session
import TypedExpr.Proofs.Eval.Checked
import TypedExpr.Proofs.Value.Extract
import TypedExpr.Proofs.Value.Inferred
import TypedExpr.Proofs.Eval.Equality
import TypedExpr.Proofs.Eval.Ordering
import TypedExpr.Proofs.Value.Descriptor
import TypedExpr.Proofs.Eval.CharIndex
import TypedExpr.Proofs.Eval.DepthLimit
import TypedExpr.Proofs.Syntax.Spans
import TypedExpr.Proofs.Text.Search
import TypedExpr.Proofs.Eval.Occurrence
import TypedExpr.Proofs.Value.JsonView
import TypedExpr.Proofs.Eval.Distinct
import TypedExpr.Proofs.Syntax.ScanErrors
import TypedExpr.Proofs.Syntax.ErrorPositions
import TypedExpr.Proofs.Syntax.Termination
