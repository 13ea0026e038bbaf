import Vitae.Text.Blank
import Vitae.Text.Points
import Vitae.Text.Quoted
import Vitae.Text.Utf8
import Vitae.Decimal.Fixed
import Vitae.Json.Reader
import Vitae.Json.Writer
import Vitae.Color.Palette
import Vitae.Style.Sheet
import Vitae.Document.Mode
import Vitae.Document.Amendment
import Vitae.Document.Compilation
import Vitae.Inspection
import Vitae.Settings
import Vitae.Preview.Workbench
import Vitae.Source.Load
import Vitae.Source.Tree
import Vitae.Watermark
import Vitae.Command.Execute
import Vitae.Main
import Vitae.Document.Template
import Vitae.Proofs.Fault
import Vitae.Proofs.Content
import Vitae.Proofs.Text.Points
import Vitae.Proofs.Text.Split
import Vitae.Proofs.Decimal.Digits
import Vitae.Proofs.Markup.Escape
import Vitae.Proofs.Markup.Tag
import Vitae.Proofs.Markup.Tree
import Vitae.Proofs.Markup.Nesting
import Vitae.Proofs.Inspection
import Vitae.Proofs.Decoration
import Vitae.Proofs.Style.Sheet
import Vitae.Proofs.Style.Order
import Vitae.Proofs.Element.Markup
import Vitae.Proofs.Element.Found
import Vitae.Proofs.Element.Path
import Vitae.Proofs.Element.Label
import Vitae.Proofs.Document.Page
import Vitae.Proofs.Document.View
import Vitae.Proofs.Document.Script
import Vitae.Proofs.Document.Assembly
import Vitae.Proofs.Document.Path
import Vitae.Proofs.Document.Amendment
import Vitae.Proofs.Document.Compilation
import Vitae.Proofs.Document.Mode
import Vitae.Proofs.Document.Catalogue
import Vitae.Proofs.Document.Outcome
import Vitae.Proofs.Preview.Call
import Vitae.Proofs.Preview.Failure
import Vitae.Proofs.Preview.Versions
import Vitae.Proofs.Preview.Workbench
import Vitae.Proofs.Preview.Staging
import Vitae.Proofs.Color
import Vitae.Proofs.Time.Instant
import Vitae.Proofs.Keyed
import Vitae.Proofs.Override.Storage
import Vitae.Proofs.Override.History
import Vitae.Proofs.Preview.Restoration
import Vitae.Preview.Exchange
import Vitae.Proofs.Preview.Delivery
import Vitae.Proofs.Document.Shape
import Vitae.Proofs.Document.Restyling
import Vitae.Proofs.Json
import Vitae.Proofs.Style.Outcome
import Vitae.Proofs.Document.Heads
import Vitae.Proofs.Document.Addressing
import Vitae.Proofs.Document.Omission
import Vitae.Proofs.Override.Relevance
import Vitae.Proofs.Style.Cleaning
import Vitae.Proofs.Vocabulary
import Vitae.Proofs.Style.Reading
import Vitae.Proofs.Style.Zones
import Vitae.Proofs.Document.Containment
import Vitae.Proofs.Color.Repair
import Vitae.Proofs.Style.Explicit
import Vitae.Proofs.Preview.Selection
import Vitae.Proofs.Document.Text
import Vitae.Proofs.Source.Loading
import Vitae.Proofs.Command.Delivery
import Vitae.Proofs.Preview.Message
import Vitae.Proofs.Override.Shapes
import Vitae.Proofs.Color.Targets
import Vitae.Proofs.Source.Decoding
import Vitae.Proofs.Override.Report
import Vitae.Proofs.Preview.Debounce
import Vitae.Proofs.Text.Case
import Vitae.Proofs.Markup.Ending
import Vitae.Proofs.Markup.Found
import Vitae.Proofs.Markup.Parse
import Vitae.Proofs.Inspection.Canonical
import Vitae.Proofs.Inspection.Arrangement
import Vitae.Proofs.Inspection.Signature
import Vitae.Proofs.Document.SectionOrder
import Vitae.Proofs.Document.Watermark
import Vitae.Proofs.Decoration.Scatter
import Vitae.Proofs.Document.Labels
import Vitae.Proofs.Color.Shade
