import SymbolAssist.Catalogue.Basic
import SymbolAssist.Catalogue.Category
import SymbolAssist.Catalogue.OrderedMap
import SymbolAssist.Catalogue.Record
import SymbolAssist.Completion.Basic
import SymbolAssist.Completion.Handoff
import SymbolAssist.Decimal.Layout
import SymbolAssist.Decimal.Shortest
import SymbolAssist.Document.Cursor
import SymbolAssist.Document.LineTable
import SymbolAssist.Document.Position
import SymbolAssist.Host
import SymbolAssist.Json.Basic
import SymbolAssist.Json.Numeral
import SymbolAssist.Json.Printer
import SymbolAssist.Json.Quoted
import SymbolAssist.Json.Reader
import SymbolAssist.Loading.Bundle
import SymbolAssist.Loading.File
import SymbolAssist.Loading.Settings
import SymbolAssist.Lookup.Hover
import SymbolAssist.Lookup.Inference
import SymbolAssist.Lookup.Methods
import SymbolAssist.Lookup.Source
import SymbolAssist.Matching
import SymbolAssist.Proofs.Catalogue.Merged
import SymbolAssist.Proofs.Catalogue.OrderedMap
import SymbolAssist.Proofs.Completion.Candidates
import SymbolAssist.Proofs.Completion.Handoff
import SymbolAssist.Proofs.Completion.Outage
import SymbolAssist.Proofs.Document.LineTable
import SymbolAssist.Proofs.Host.Handoff
import SymbolAssist.Proofs.Host.Run
import SymbolAssist.Proofs.Host.Sessions
import SymbolAssist.Proofs.Host.StaleHandles
import SymbolAssist.Proofs.Host.Step
import SymbolAssist.Proofs.Host.WellFormed
import SymbolAssist.Proofs.Lookup.Outage
import SymbolAssist.Proofs.Text.Bytes
import SymbolAssist.Settings
import SymbolAssist.Text.AsciiCase
import SymbolAssist.Text.Blank
import SymbolAssist.Text.Bytes
import SymbolAssist.Text.CaseTable
import SymbolAssist.Text.CodeRange
import SymbolAssist.Text.Dotted
import SymbolAssist.Text.Identifier
import SymbolAssist.Text.LowerCase
import SymbolAssist.Text.Runs
import SymbolAssist.Text.Within
import SymbolAssist.Text.WordTable
import SymbolAssist.TypeTag.Basic
import SymbolAssist.TypeTag.Compatible
import SymbolAssist.TypeTag.Parser
import SymbolAssist.TypeTag.Spelling
import SymbolAssist.Proofs.Text.Runs
import SymbolAssist.Proofs.Text.Trim
import SymbolAssist.Proofs.TypeTag.Entries
import SymbolAssist.Proofs.TypeTag.Forms
import SymbolAssist.Proofs.TypeTag.Reading
import SymbolAssist.Proofs.TypeTag.Reduced
import SymbolAssist.Proofs.TypeTag.Commas
import SymbolAssist.Proofs.TypeTag.ReadBack
import SymbolAssist.Proofs.TypeTag.NormalText
import SymbolAssist.Proofs.Catalogue.Edits
import SymbolAssist.Proofs.Lookup.Precedence
import SymbolAssist.Proofs.TypeTag.Grammar
import SymbolAssist.Proofs.Catalogue.History
import SymbolAssist.Proofs.Lookup.WholeLists
import SymbolAssist.Proofs.Text.Identifier
import SymbolAssist.Proofs.Lookup.AliasOrder
import SymbolAssist.Proofs.Lookup.Methods
import SymbolAssist.Proofs.Lookup.Receivers
import SymbolAssist.Proofs.Matching
import SymbolAssist.Proofs.Document.Cursor
import SymbolAssist.Proofs.Document.Typing
import SymbolAssist.Proofs.Completion.Forms
import SymbolAssist.Proofs.Completion.StoredNames
import SymbolAssist.Proofs.Completion.Typing
import SymbolAssist.Proofs.Lookup.Offers
import SymbolAssist.Proofs.Completion.Narrowing
import SymbolAssist.Proofs.Lookup.Footprint
import SymbolAssist.Proofs.Document.Packed
import SymbolAssist.Proofs.Document.Reading
import SymbolAssist.Proofs.Document.Argument
import SymbolAssist.Proofs.Document.NameAt
import SymbolAssist.Proofs.Document.WordAt
import SymbolAssist.Proofs.TypeTag.Parts
import SymbolAssist.Proofs.Json.Following
import SymbolAssist.Proofs.Json.Nesting
import SymbolAssist.Proofs.Loading.MemberOrder
import SymbolAssist.Proofs.Loading.Coherent
import SymbolAssist.Proofs.TypeTag.OuterCut
import SymbolAssist.Proofs.Document.Paths
