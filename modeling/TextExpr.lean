import TextExpr.Double
import TextExpr.Double.Decimal
import TextExpr.Double.Reading
import TextExpr.Error
import TextExpr.Eval
import TextExpr.Expr
import TextExpr.Expr.Mapping
import TextExpr.Expr.Substitution
import TextExpr.Function
import TextExpr.Json
import TextExpr.Json.Printer
import TextExpr.Json.Reader
import TextExpr.Log
import TextExpr.Numeral
import TextExpr.Operator
import TextExpr.Pattern.Cursor
import TextExpr.Pattern.Matcher
import TextExpr.Pattern.Node
import TextExpr.Pattern.PointTest
import TextExpr.Pattern.Reader
import TextExpr.Pattern.Refusal
import TextExpr.Pattern.Search
import TextExpr.Pattern.Syntax
import TextExpr.Pattern.Width
import TextExpr.Proofs.Coincidence
import TextExpr.Proofs.Digits
import TextExpr.Proofs.Erasure
import TextExpr.Proofs.Conversion
import TextExpr.Proofs.Failure
import TextExpr.Proofs.Fault
import TextExpr.Proofs.Location
import TextExpr.Proofs.Matching
import TextExpr.Proofs.Origin
import TextExpr.Proofs.Outcome
import TextExpr.Proofs.Place
import TextExpr.Proofs.Replacement
import TextExpr.Proofs.Report
import TextExpr.Proofs.Respect
import TextExpr.Proofs.Rounding
import TextExpr.Proofs.Run
import TextExpr.Proofs.Simulation
import TextExpr.Proofs.Spelling
import TextExpr.Proofs.Substitution
import TextExpr.Proofs.Trace
import TextExpr.Proofs.Tree
import TextExpr.Proofs.Unresolved
import TextExpr.Proofs.Visit
import TextExpr.Registry
import TextExpr.Settings
import TextExpr.Span
import TextExpr.Text
import TextExpr.Text.Quoted
import TextExpr.Text.Shown
import TextExpr.Unicode.Casing
import TextExpr.Unicode.Decimal
import TextExpr.Unicode.Identifier
import TextExpr.Unicode.Letter
import TextExpr.Unicode.Lowercase
import TextExpr.Unicode.Name
import TextExpr.Unicode.Printable
import TextExpr.Unicode.Ranges
import TextExpr.Unicode.Space
import TextExpr.Unicode.Word
import TextExpr.Value
import TextExpr.Value.Conversion
import TextExpr.Value.Host
import TextExpr.Version
import TextExpr.Proofs.Typing
import TextExpr.Proofs.Figures
import TextExpr.Proofs.Quotation
import TextExpr.Proofs.Document
import TextExpr.Proofs.Decoded
import TextExpr.Proofs.Lookup
import TextExpr.Proofs.Forbidden
import TextExpr.Proofs.Registration
import TextExpr.Proofs.RegistrationOrder
import TextExpr.Proofs.Hexadecimal
import TextExpr.Proofs.AsciiQuotation
import TextExpr.Proofs.Canonical
import TextExpr.Proofs.Legibility
import TextExpr.Proofs.Rendering
import TextExpr.Proofs.Nearest
import TextExpr.Proofs.Exact
import TextExpr.Proofs.Positional
import TextExpr.Proofs.Arithmetic
import TextExpr.Proofs.Whole
import TextExpr.Proofs.FixedPlaces
import TextExpr.Proofs.StableRounding
import TextExpr.Proofs.Advance
import TextExpr.Proofs.Segments
import TextExpr.Proofs.Variables
import TextExpr.Proofs.Renaming
import TextExpr.Proofs.Operands
import TextExpr.Proofs.Indexing
import TextExpr.Proofs.NumberText
import TextExpr.Proofs.NearestNumber
import TextExpr.Proofs.Readings
import TextExpr.Proofs.Walk
import TextExpr.Proofs.Division
import TextExpr.Proofs.Equality
import TextExpr.Proofs.TraceLine
