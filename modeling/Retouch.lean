import Retouch.Analysis.ClassName
import Retouch.Analysis.Placement
import Retouch.Analysis.TextContent
import Retouch.ComponentId
import Retouch.Console.Argument
import Retouch.Console.Emoji
import Retouch.Console.EmojiTable
import Retouch.Console.Lines
import Retouch.Console.Markup
import Retouch.Console.Table
import Retouch.Console.TextStyle
import Retouch.Defect
import Retouch.Edit.Basic
import Retouch.Edit.Change
import Retouch.Edit.Literal
import Retouch.Editor
import Retouch.Element
import Retouch.Failure
import Retouch.Main
import Retouch.Markup.Attribute
import Retouch.Markup.Layout
import Retouch.Markup.Literal
import Retouch.Markup.Reference
import Retouch.Markup.ReferenceTable
import Retouch.Markup.Tag
import Retouch.Model.Binary
import Retouch.Model.Check
import Retouch.Model.Issue
import Retouch.Model.Json
import Retouch.Model.Report
import Retouch.Model.Schema
import Retouch.Model.Value
import Retouch.Path
import Retouch.Proofs.Change
import Retouch.Proofs.Deletion
import Retouch.Proofs.Inert
import Retouch.Proofs.Layout
import Retouch.Proofs.Literal
import Retouch.Proofs.Locate
import Retouch.Proofs.Logic
import Retouch.Proofs.Memory
import Retouch.Proofs.Outcome
import Retouch.Proofs.Prediction
import Retouch.Proofs.ReadBack
import Retouch.Proofs.Reference
import Retouch.Proofs.Session
import Retouch.Proofs.Span
import Retouch.Proofs.Splice
import Retouch.Proofs.Step
import Retouch.Proofs.Tree
import Retouch.Proofs.Update
import Retouch.Proofs.Utf8
import Retouch.Service.Address
import Retouch.Service.Command
import Retouch.Service.Http
import Retouch.Service.Tools
import Retouch.Session
import Retouch.Settings
import Retouch.Source.Basic
import Retouch.Source.Document
import Retouch.Source.Language
import Retouch.Source.TreeFile
import Retouch.Source.TreeTable
import Retouch.Store.Basic
import Retouch.Store.Disk
import Retouch.Store.Error
import Retouch.Store.Memory
import Retouch.Text.Basic
import Retouch.Text.Blank
import Retouch.Text.Case
import Retouch.Text.CaseTable
import Retouch.Text.Digit
import Retouch.Text.Encoding
import Retouch.Text.Numeral
import Retouch.Text.Printable
import Retouch.Text.Quote
import Retouch.Text.Utf8
import Retouch.Text.Width
import Retouch.Text.WidthTable
import Retouch.Text.Word
import Retouch.Tree.Kind
import Retouch.Tree.Node
import Retouch.Tree.Place
import Retouch.Tree.Rows
import Retouch.Proofs.Render
import Retouch.Proofs.ClassName
import Retouch.Proofs.Confinement
import Retouch.Proofs.Defect
import Retouch.Proofs.Placement
import Retouch.Proofs.Removal
import Retouch.Proofs.LineComment
import Retouch.Proofs.Collapse
import Retouch.Proofs.Parentheses
import Retouch.Proofs.Stretch
import Retouch.Proofs.ComponentId
import Retouch.Proofs.Scan
import Retouch.Proofs.Script
import Retouch.Proofs.Position
import Retouch.Proofs.Search
import Retouch.Proofs.OwnPosition
import Retouch.Proofs.Locality
import Retouch.Proofs.ValidText
import Retouch.Proofs.Fault
import Retouch.Proofs.RoundTrip
import Retouch.Proofs.Walk
import Retouch.Proofs.Write
