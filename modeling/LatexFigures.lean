import LatexFigures.Document.Canvas
import LatexFigures.Document.Reading
import LatexFigures.Document.Registry
import LatexFigures.Drawing.Build
import LatexFigures.Drawing.Command
import LatexFigures.Drawing.Context
import LatexFigures.Drawing.Figure
import LatexFigures.Drawing.Frame
import LatexFigures.Drawing.Geometry
import LatexFigures.Drawing.Plan
import LatexFigures.Drawing.Recognition
import LatexFigures.Drawing.Sampling
import LatexFigures.Environment.Delimiter
import LatexFigures.Environment.Kind
import LatexFigures.Environment.Scanner
import LatexFigures.Expr.Basic
import LatexFigures.Expr.Function
import LatexFigures.Expr.Term
import LatexFigures.Expr.Token
import LatexFigures.Number.Decimal
import LatexFigures.Number.Dyadic
import LatexFigures.Number.Literal
import LatexFigures.Number.Scalar
import LatexFigures.Number.UnitScale
import LatexFigures.Ordered
import LatexFigures.Pattern.Basic
import LatexFigures.Pattern.CharClass
import LatexFigures.Pattern.Machine
import LatexFigures.Pattern.Piece
import LatexFigures.Pattern.Program
import LatexFigures.Pattern.Reader
import LatexFigures.Pattern.Reader.Basic
import LatexFigures.Pattern.Reader.Bracket
import LatexFigures.Pattern.Reader.Element
import LatexFigures.Proofs.Document.Conservation
import LatexFigures.Proofs.Document.Progress
import LatexFigures.Proofs.Drawing.DeclarationOrder
import LatexFigures.Proofs.Drawing.Idempotence
import LatexFigures.Proofs.Drawing.Recompute
import LatexFigures.Proofs.Drawing.UserVariables
import LatexFigures.Proofs.Environment.Delimiter
import LatexFigures.Proofs.Environment.Partition
import LatexFigures.Proofs.Environment.Scanner
import LatexFigures.Proofs.Expr.Decimal
import LatexFigures.Proofs.Expr.Grammar
import LatexFigures.Proofs.Expr.Lookup
import LatexFigures.Proofs.Expr.Parser.Completeness
import LatexFigures.Proofs.Expr.Parser.Soundness
import LatexFigures.Proofs.Expr.Parser.Steps
import LatexFigures.Proofs.Expr.Rendering
import LatexFigures.Proofs.Expr.Variables
import LatexFigures.Proofs.Expr.Words
import LatexFigures.Proofs.Text.Cutting
import LatexFigures.Rules.Basic
import LatexFigures.Rules.Form
import LatexFigures.Rules.Replacement
import LatexFigures.Rules.Standard
import LatexFigures.Settings.Basic
import LatexFigures.Settings.Length
import LatexFigures.Style.Basic
import LatexFigures.Style.Options
import LatexFigures.Style.Resolve
import LatexFigures.Text.Alphanumeric
import LatexFigures.Text.Basic
import LatexFigures.Text.Invisible
import LatexFigures.Text.Lines
import LatexFigures.Text.Match
import LatexFigures.Text.Quoted
import LatexFigures.Text.Ranges
import LatexFigures.Proofs.Drawing.Freshness
import LatexFigures.Proofs.Drawing.Lasting
import LatexFigures.Proofs.Drawing.PathIndependence
import LatexFigures.Proofs.Text.Lines
import LatexFigures.Proofs.Environment.Region
import LatexFigures.Proofs.Document.LiteralRegion
import LatexFigures.Proofs.Drawing.Written
import LatexFigures.Proofs.Drawing.Recognition
import LatexFigures.Proofs.Drawing.Interpretation
import LatexFigures.Proofs.Drawing.Untouched
import LatexFigures.Proofs.Document.Stretches
import LatexFigures.Proofs.Document.Segments
import LatexFigures.Proofs.Document.Places
import LatexFigures.Proofs.Document.Expansion
import LatexFigures.Proofs.Document.Malformed
import LatexFigures.Proofs.Drawing.Declarations
import LatexFigures.Proofs.Document.DeclaredSettings
import LatexFigures.Proofs.Environment.TableOrder
import LatexFigures.Proofs.Document.Registration
import LatexFigures.Proofs.Document.RuleIndependence
import LatexFigures.Proofs.Number.Finite
import LatexFigures.Proofs.Number.UnitScale
import LatexFigures.Proofs.Drawing.FinitePoints
import LatexFigures.Proofs.Drawing.Divisors
import LatexFigures.Proofs.Document.Divisors
import LatexFigures.Proofs.Document.Appending
import LatexFigures.Proofs.Document.LineEdits
import LatexFigures.Proofs.Drawing.SharedLines
import LatexFigures.Proofs.Expr.Marks
import LatexFigures.Proofs.Drawing.ExpressionPairs
import LatexFigures.Proofs.Drawing.Rebuilding
import LatexFigures.Proofs.Drawing.Erasure
import LatexFigures.Proofs.Expr.Literal
import LatexFigures.Proofs.Drawing.PlotSamples
import LatexFigures.Proofs.Expr.Substitution
import LatexFigures.Proofs.Expr.FirstError
import LatexFigures.Proofs.Expr.Outcome
import LatexFigures.Proofs.Drawing.Summary
import LatexFigures.Proofs.Expr.Pairs.Basic
import LatexFigures.Proofs.Expr.Pairs.Derivation
import LatexFigures.Proofs.Expr.Pairs.Building
import LatexFigures.Proofs.Expr.Pairs.Faults
import LatexFigures.Proofs.Settings.LastWriter
import LatexFigures.Proofs.Style.OptionBlocks
import LatexFigures.Proofs.Document.Corners
import LatexFigures.Proofs.Rules.Replacing
import LatexFigures.Proofs.Rules.Macros
import LatexFigures.Proofs.Rules.Adjacency
import LatexFigures.Proofs.Number.Hundredths
import LatexFigures.Proofs.Drawing.InverseMap
import LatexFigures.Proofs.Document.LineEndings
import LatexFigures.Proofs.Document.RegistryRequests
import LatexFigures.Proofs.Number.Packing
import LatexFigures.Proofs.Number.Rounding
import LatexFigures.Proofs.Number.Comparison
import LatexFigures.Proofs.Number.Nonnegative
import LatexFigures.Proofs.Number.ZeroSigns
import LatexFigures.Proofs.Number.WholeNumbers
import LatexFigures.Proofs.Drawing.PlotBounds
import LatexFigures.Proofs.Drawing.SampleGrid
import LatexFigures.Proofs.Rules.Runs
import LatexFigures.Proofs.Rules.Escaping
import LatexFigures.Registration
import LatexFigures.Proofs.Pattern.Marks
import LatexFigures.Proofs.Environment.Names
