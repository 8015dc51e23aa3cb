import MarkupTree.Error
import MarkupTree.Text.Escape
import MarkupTree.Text.Printable
import MarkupTree.Text.Identifier
import MarkupTree.Text.Lowercase
import MarkupTree.Text.Blank
import MarkupTree.Text.Kebab
import MarkupTree.Text.Quoted
import MarkupTree.Number.Layout
import MarkupTree.Element
import MarkupTree.Log
import MarkupTree.Factory
import MarkupTree.Chunks
import MarkupTree.Render
import MarkupTree.Writer
import MarkupTree.Sink
import MarkupTree.Debug.Tree
import MarkupTree.Json.Tree
import MarkupTree.Json.Options
import MarkupTree.Template.Token
import MarkupTree.Template.Node
import MarkupTree.Template.Expansion
import MarkupTree.Blueprint
import MarkupTree.Proofs.Cursor
import MarkupTree.Proofs.Calls
import MarkupTree.Proofs.Escaping
import MarkupTree.Proofs.Expansion
import MarkupTree.Proofs.NormalForm
import MarkupTree.Proofs.Unambiguous
import MarkupTree.Proofs.Rendering
import MarkupTree.Proofs.Flattening
import MarkupTree.Proofs.Serialization
import MarkupTree.Proofs.Shape
import MarkupTree.Proofs.Insertion
import MarkupTree.Proofs.Renaming
import MarkupTree.Proofs.WellFormed
import MarkupTree.Proofs.Building
import MarkupTree.Proofs.CallForms
import MarkupTree.Proofs.Spans
import MarkupTree.Proofs.Numerals
import MarkupTree.Proofs.Rounding
import MarkupTree.Proofs.JsonText
import MarkupTree.Proofs.JsonTree
import MarkupTree.Proofs.Lexing
import MarkupTree.Proofs.Reading
import MarkupTree.Proofs.Literals
import MarkupTree.Proofs.Gathering
import MarkupTree.Proofs.Blocks
import MarkupTree.Proofs.Ambiguity
import MarkupTree.Proofs.Overwriting
import MarkupTree.Proofs.Laziness
import MarkupTree.Proofs.Merging
import MarkupTree.Proofs.LowerCase
import MarkupTree.Proofs.Kebab
import MarkupTree.Proofs.Stability
import MarkupTree.Proofs.Room
import MarkupTree.Proofs.Flushing
import MarkupTree.Proofs.Equality
import MarkupTree.Proofs.Accounts
import MarkupTree.Proofs.Reports
import MarkupTree.Proofs.OpenElements
import MarkupTree.Proofs.StageOrder
