import Stencil.Code
import Stencil.Component.Context
import Stencil.Component.Styling
import Stencil.Decimal.Double
import Stencil.Decimal.Layout
import Stencil.Decimal.Read
import Stencil.Decimal.Shortest
import Stencil.Diagnostic
import Stencil.Dict
import Stencil.Environment
import Stencil.Failure
import Stencil.Frame
import Stencil.Location
import Stencil.Node
import Stencil.Node.Parser
import Stencil.Procedure
import Stencil.Procedure.Compile
import Stencil.Procedure.Printer
import Stencil.Procedure.Run
import Stencil.Proofs.Interpretation
import Stencil.Proofs.Outcome
import Stencil.Proofs.TermMeaning
import Stencil.Render
import Stencil.Session
import Stencil.Similarity
import Stencil.Snippet
import Stencil.Source
import Stencil.Template
import Stencil.Text.Characters
import Stencil.Text.Lowercase
import Stencil.Text.Quoted
import Stencil.Token
import Stencil.Token.Lexer
import Stencil.Token.Piece
import Stencil.Value
import Stencil.Proofs.ComponentMeaning
import Stencil.Proofs.ProcedureMeaning
import Stencil.Proofs.RenderMeaning
import Stencil.Proofs.WrittenTrees
import Stencil.Proofs.ComponentNames
import Stencil.Proofs.Grammar
import Stencil.Proofs.DerivedRead
import Stencil.Proofs.ReadDerived
import Stencil.Proofs.ReadingSteps
import Stencil.Proofs.Foresight
import Stencil.Proofs.GrammarReading
import Stencil.Proofs.Numerals
import Stencil.Proofs.PrintedSource
import Stencil.Proofs.PrintedTokens
import Stencil.Proofs.RoundTrip
import Stencil.Proofs.Invocation
import Stencil.Proofs.Levels
import Stencil.Proofs.Activation
import Stencil.Proofs.Variables
import Stencil.Proofs.FailureOrigin
import Stencil.Proofs.SourceLines
import Stencil.Proofs.ErrorPlace
import Stencil.Proofs.Unrolling
import Stencil.Proofs.DepthGuard
import Stencil.Proofs.Isolation
import Stencil.Proofs.ComponentScope
import Stencil.Proofs.ForeseenGrammar
import Stencil.Proofs.OffendingToken
import Stencil.Proofs.PieceGrammar
import Stencil.Proofs.TokenPlaces
import Stencil.Proofs.TokenShape
import Stencil.Proofs.Lookahead
import Stencil.Proofs.SourceSeam
import Stencil.Proofs.MovedTrees
import Stencil.Proofs.SourceParts
import Stencil.Proofs.CompiledSources
import Stencil.Proofs.Blur
import Stencil.Proofs.Concatenation
import Stencil.Proofs.Simulation
import Stencil.Proofs.Leniency
import Stencil.Proofs.DataRefusal
import Stencil.Proofs.CutOffTags
import Stencil.Proofs.MissingTemplates
import Stencil.Proofs.CountedLines
import Stencil.Proofs.ShownLines
import Stencil.Proofs.CaretRows
import Stencil.Proofs.FirstReads
import Stencil.Proofs.UndefinedVariables
import Stencil.Proofs.BraceCloser
import Stencil.Proofs.ExpressionTags
import Stencil.Proofs.MovedReading
import Stencil.Proofs.SeveredPieces
import Stencil.Proofs.StringLiterals
import Stencil.Proofs.ClassNames
import Stencil.Proofs.TagBlanks
import Stencil.Proofs.Relocation
import Stencil.Proofs.TagTwins
import Stencil.Proofs.ErrorWindow
import Stencil.Proofs.ReportedPlaces
import Stencil.Proofs.MemberAnswers
import Stencil.Proofs.MemberChains
import Stencil.Proofs.Comparison
import Stencil.Proofs.Extraction
import Stencil.Proofs.FailureClasses
import Stencil.Proofs.Layers
import Stencil.Proofs.Parts
import Stencil.Proofs.WrittenNodes
import Stencil.Proofs.HostFaults
