import LineMetrics.Command.Arguments
import LineMetrics.Command.Emoji
import LineMetrics.Command.EmojiNames
import LineMetrics.Command.Handler
import LineMetrics.Command.JsonText
import LineMetrics.Command.Markup
import LineMetrics.Command.Report
import LineMetrics.Command.Run
import LineMetrics.Command.Style
import LineMetrics.Comment
import LineMetrics.Encoding.Codec
import LineMetrics.Encoding.Utf8
import LineMetrics.Encoding.Wide
import LineMetrics.Event
import LineMetrics.Failure
import LineMetrics.Grammar.Catalog
import LineMetrics.Grammar.MacroBody
import LineMetrics.Grammar.Normal
import LineMetrics.Grammar.RawNode
import LineMetrics.Language
import LineMetrics.Ledger
import LineMetrics.Lexeme.Basic
import LineMetrics.LineSet
import LineMetrics.Listing
import LineMetrics.Literal.CharacterName
import LineMetrics.Literal.Escape
import LineMetrics.Literal.Format
import LineMetrics.Literal.Grammar
import LineMetrics.Literal.Layout
import LineMetrics.Literal.Meaning
import LineMetrics.Literal.NamePrints
import LineMetrics.Literal.Number
import LineMetrics.Literal.Reading
import LineMetrics.Literal.Syntax
import LineMetrics.Literal.Token
import LineMetrics.Literal.Tree
import LineMetrics.Main
import LineMetrics.Measure.Sheet
import LineMetrics.Measure.Visitor
import LineMetrics.Metric
import LineMetrics.Number.Binary64
import LineMetrics.Number.Numeral
import LineMetrics.Number.Shortest
import LineMetrics.Parser
import LineMetrics.Scanner
import LineMetrics.Settings.Basic
import LineMetrics.Settings.Environment
import LineMetrics.Settings.Layers
import LineMetrics.Storage.FileStore
import LineMetrics.Storage.Path
import LineMetrics.Syntax.Flat
import LineMetrics.Syntax.Node
import LineMetrics.Syntax.Tree
import LineMetrics.Text.Alphanumeric
import LineMetrics.Text.Blank
import LineMetrics.Text.Case
import LineMetrics.Text.Cased
import LineMetrics.Text.Cells
import LineMetrics.Text.Digit
import LineMetrics.Text.Display
import LineMetrics.Text.Identifier
import LineMetrics.Text.LineBreak
import LineMetrics.Text.Printable
import LineMetrics.Text.Quoted
import LineMetrics.Text.Ranges
import LineMetrics.Text.Search
import LineMetrics.Text.Wrap
import LineMetrics.Toml.Document
import LineMetrics.Toml.Scalar
import LineMetrics.Value
import LineMetrics.Proofs.Command.Report
import LineMetrics.Proofs.Encoding.Decoding
import LineMetrics.Proofs.Grammar.Availability
import LineMetrics.Proofs.Grammar.MacroBody
import LineMetrics.Proofs.Grammar.Rows
import LineMetrics.Proofs.Ledger.Conservation
import LineMetrics.Proofs.Ledger.History
import LineMetrics.Proofs.Ledger.Outcome
import LineMetrics.Proofs.Ledger.Presence
import LineMetrics.Proofs.Lexeme.Automaton
import LineMetrics.Proofs.Lexeme.Boundary
import LineMetrics.Proofs.Lexeme.Concat
import LineMetrics.Proofs.Lexeme.Crlf
import LineMetrics.Proofs.Lexeme.Message
import LineMetrics.Proofs.Lexeme.Shape
import LineMetrics.Proofs.LineSet
import LineMetrics.Proofs.Listing
import LineMetrics.Proofs.Measure.Bounds
import LineMetrics.Proofs.Measure.CodeLines
import LineMetrics.Proofs.Measure.CommentLines
import LineMetrics.Proofs.Measure.CommentText
import LineMetrics.Proofs.Measure.Comments
import LineMetrics.Proofs.Measure.Concat
import LineMetrics.Proofs.Measure.Crlf
import LineMetrics.Proofs.Measure.Erasure
import LineMetrics.Proofs.Measure.Flattening
import LineMetrics.Proofs.Measure.Independence
import LineMetrics.Proofs.Measure.LeafLines
import LineMetrics.Proofs.Measure.Tally
import LineMetrics.Proofs.Number.Rounding
import LineMetrics.Proofs.Scan.Batch
import LineMetrics.Proofs.Scan.Bounds
import LineMetrics.Proofs.Scan.Completion
import LineMetrics.Proofs.Scan.Ended
import LineMetrics.Proofs.Scan.FileOutcome
import LineMetrics.Proofs.Scan.Invariant
import LineMetrics.Proofs.Scan.Pool
import LineMetrics.Proofs.Scan.Reading
import LineMetrics.Proofs.Scan.Run
import LineMetrics.Proofs.Scan.Session
import LineMetrics.Proofs.Scan.Settled
import LineMetrics.Proofs.Scan.Single
import LineMetrics.Proofs.Scan.Unchanged
import LineMetrics.Proofs.Settings.Outcome
import LineMetrics.Proofs.Settings.Precedence
import LineMetrics.Proofs.Settings.SizeLimit
import LineMetrics.Proofs.Settings.Types
import LineMetrics.Proofs.Storage.PathText
import LineMetrics.Proofs.Storage.Spelling
import LineMetrics.Proofs.Syntax.CommentModes
import LineMetrics.Proofs.Syntax.Concat
import LineMetrics.Proofs.Syntax.Crlf
import LineMetrics.Proofs.Syntax.Message
import LineMetrics.Proofs.Syntax.Placement
import LineMetrics.Proofs.Syntax.Reprint
import LineMetrics.Proofs.Syntax.Tiling
import LineMetrics.Proofs.Syntax.Walk
import LineMetrics.Proofs.Text.Crlf
import LineMetrics.Proofs.Text.LineStart
import LineMetrics.Proofs.Text.Pieces
import LineMetrics.Proofs.Text.SameBreaks
import LineMetrics.Proofs.Lexeme.Prefix
import LineMetrics.Proofs.Grammar.Split
import LineMetrics.Proofs.Grammar.Delimited
import LineMetrics.Proofs.Measure.CommentFamilies
import LineMetrics.Proofs.Measure.Header
import LineMetrics.Proofs.Measure.HeaderExclusion
import LineMetrics.Proofs.Measure.Suppression
import LineMetrics.Proofs.Grammar.FirstFault
import LineMetrics.Proofs.Measure.Accumulation
import LineMetrics.Proofs.Measure.Annotations
import LineMetrics.Proofs.Measure.HeaderSuppression
