import Stencil.Text.Blank
import Stencil.Text.Letter
import Stencil.Text.Printable
import Stencil.Text.Case
import Stencil.Text.Line
import Stencil.Text.Quoted
import Stencil.Decimal.Whole
import Stencil.Script.Lexeme
import Stencil.Script.Expr
import Stencil.Script.Parse
import Stencil.Program
import Stencil.Calendar.Format
import Stencil.Calendar.Phrase
import Stencil.Calendar.Date
import Stencil.Template
import Stencil.Serial.Entity
import Stencil.Markup.Html
import Stencil.Markup.Reference
import Stencil.Markup.Document
import Stencil.Graph.Document
import Stencil.Environment
import Stencil.Helper.Standard
import Stencil.Eval.Program
import Stencil.Render.Basic
import Stencil.Store.Graph
import Stencil.Invocation
import Stencil.Query.Step
import Stencil.Files.Tree
import Stencil.Configuration
import Stencil.CommandLine.Run
import Stencil.Main
import Stencil.Proofs.Render.Settling
import Stencil.Proofs.Render.Forest
import Stencil.Proofs.Invocation.Interleaving
import Stencil.Proofs.Tag.Partition
import Stencil.Proofs.Program.Image
import Stencil.Proofs.Decimal.Numeral
import Stencil.Proofs.Script.Print
import Stencil.Proofs.Script.Lexing
import Stencil.Proofs.Script.Spelling
import Stencil.Proofs.Script.Cursor
import Stencil.Proofs.Script.RoundTrip
import Stencil.Proofs.Decimal.Nearest
import Stencil.Proofs.Text.Trim
import Stencil.Proofs.Text.Search
import Stencil.Proofs.Eval.Effects
import Stencil.Proofs.Eval.Scopes
import Stencil.Proofs.Eval.Writes
import Stencil.Proofs.Render.Cursor
import Stencil.Proofs.Render.Finished
import Stencil.Proofs.Render.Scopes
import Stencil.Proofs.Tag.Standard
import Stencil.Proofs.Render.Static
import Stencil.Proofs.Render.Empty
import Stencil.Proofs.Script.Passage
import Stencil.Proofs.Script.Shift
import Stencil.Proofs.Script.Relocation
import Stencil.Proofs.Tag.Agreement
import Stencil.Proofs.Program.StatementTag
import Stencil.Proofs.Query.Reader
import Stencil.Proofs.Query.Built
import Stencil.Proofs.Query.Symbols
import Stencil.Proofs.Query.WellFormed
import Stencil.Proofs.Query.Selection
import Stencil.Proofs.Query.ReadBack
import Stencil.Proofs.Query.Variables
import Stencil.Proofs.Graph.Landmarks
import Stencil.Proofs.Graph.Links
import Stencil.Proofs.Eval.Reserved
import Stencil.Proofs.Script.Window
import Stencil.Proofs.Script.Spans
import Stencil.Proofs.Eval.Failures
import Stencil.Proofs.Tag.Expansion
import Stencil.Proofs.Program.LinkTag
import Stencil.Proofs.Program.Spans
import Stencil.Proofs.Program.Errors
import Stencil.Proofs.Calendar.Iso
import Stencil.Proofs.Calendar.JournalDay
import Stencil.Proofs.Script.Extent
import Stencil.Proofs.Script.Scan
import Stencil.Proofs.Script.Braced
import Stencil.Proofs.Script.Balance
import Stencil.Proofs.Script.Depth
import Stencil.Proofs.Script.Interpolation
import Stencil.Proofs.Script.Opening
import Stencil.Proofs.Tag.Classification
import Stencil.Proofs.Tag.Interpolation
import Stencil.Proofs.Arguments
import Stencil.Proofs.Dictionary
import Stencil.Proofs.Serial.Reader
import Stencil.Proofs.Serial.RoundTrip
import Stencil.Proofs.Loop
import Stencil.Proofs.Tag.Turns
import Stencil.Proofs.Tag.Progress
import Stencil.Proofs.Tag.Longest
import Stencil.Proofs.Tag.Restart
import Stencil.Proofs.Tag.Emission
import Stencil.Proofs.Script.Wrapping
import Stencil.Proofs.Calendar.Number
import Stencil.Proofs.Calendar.Phrase
import Stencil.Proofs.Text.Case
import Stencil.Proofs.Calendar.Weekday
import Stencil.Proofs.Arguments.Lookup
import Stencil.Proofs.Entity.Snapshot
import Stencil.Proofs.Entity.References
import Stencil.Proofs.Text.Lowered
import Stencil.Proofs.Query.Spelling
import Stencil.Proofs.Query.References
import Stencil.Proofs.Pattern.Matching
import Stencil.Proofs.Pattern.Escaped
import Stencil.Proofs.Query.Sample
import Stencil.Proofs.Text.Line
import Stencil.Proofs.Graph.Items
import Stencil.Proofs.Graph.Bullet
import Stencil.Proofs.Graph.Blocks
import Stencil.Proofs.Suite.Selection
import Stencil.Proofs.Eval.Calls
import Stencil.Proofs.Eval.Depth
import Stencil.Proofs.Template.Reference
import Stencil.Proofs.Program.Unfiltered
import Stencil.Proofs.Eval.Links
import Stencil.Proofs.Tag.Quotation
import Stencil.Proofs.Entity.Namespace
import Stencil.Proofs.Text.Position
