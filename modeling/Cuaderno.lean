import Cuaderno.Calendar.Clock
import Cuaderno.Calendar.Date
import Cuaderno.Calendar.Epoch
import Cuaderno.Calendar.Iso
import Cuaderno.Calendar.Moment
import Cuaderno.Calendar.Relative
import Cuaderno.Calendar.Span
import Cuaderno.Calendar.Written
import Cuaderno.Choice
import Cuaderno.CommandLine.Arguments
import Cuaderno.CommandLine.Command
import Cuaderno.CommandLine.Filter
import Cuaderno.CommandLine.Folder
import Cuaderno.CommandLine.Layout
import Cuaderno.CommandLine.Output
import Cuaderno.CommandLine.Report
import Cuaderno.CommandLine.Run
import Cuaderno.Dashboard.Builtin
import Cuaderno.Dashboard.Chart
import Cuaderno.Dashboard.Condition
import Cuaderno.Dashboard.Order
import Cuaderno.Dashboard.Period
import Cuaderno.Dashboard.Preset
import Cuaderno.Dashboard.Selection
import Cuaderno.Dashboard.Stored
import Cuaderno.Document.Basic
import Cuaderno.Document.JsonReader
import Cuaderno.Document.JsonWriter
import Cuaderno.Document.Text
import Cuaderno.Fault
import Cuaderno.Fields
import Cuaderno.Item
import Cuaderno.Main
import Cuaderno.Number.Basic
import Cuaderno.Number.Reader
import Cuaderno.Number.Text
import Cuaderno.Panel
import Cuaderno.QuickEntry.Conversion
import Cuaderno.QuickEntry.Grammar
import Cuaderno.QuickEntry.Intent
import Cuaderno.QuickEntry.Naming
import Cuaderno.QuickEntry.Scan
import Cuaderno.QuickEntry.Suggestion
import Cuaderno.QuickEntry.Target
import Cuaderno.QuickEntry.Token
import Cuaderno.QuickEntry.TypedList
import Cuaderno.QuickEntry.TypedNumber
import Cuaderno.Schema
import Cuaderno.Search.Groups
import Cuaderno.Search.Match
import Cuaderno.Search.Place
import Cuaderno.Search.Ranking
import Cuaderno.Search.Request
import Cuaderno.Search.Tags
import Cuaderno.Snapshot.Basic
import Cuaderno.Snapshot.Reader
import Cuaderno.Snapshot.Writer
import Cuaderno.Sorting.Boundary
import Cuaderno.Sorting.ByRuns
import Cuaderno.Sorting.Merge
import Cuaderno.Sorting.Run
import Cuaderno.Text.Blank
import Cuaderno.Text.CaseFold
import Cuaderno.Text.CombiningMark
import Cuaderno.Text.Decomposition
import Cuaderno.Text.Digit
import Cuaderno.Text.Fold
import Cuaderno.Text.Markup
import Cuaderno.Text.Piece
import Cuaderno.Text.Printable
import Cuaderno.Text.Quoted
import Cuaderno.Text.Shorten
import Cuaderno.Text.Table
import Cuaderno.Value
import Cuaderno.Proofs.QuickEntry.Phases
import Cuaderno.Proofs.QuickEntry.Reading
import Cuaderno.Proofs.Number.Exact
import Cuaderno.Proofs.Search.Score
import Cuaderno.Proofs.Sorting.Stable
import Cuaderno.Proofs.Search.Ranked
import Cuaderno.Proofs.Calendar.IsoText
import Cuaderno.Proofs.Calendar.StampText
import Cuaderno.Proofs.Outcome
import Cuaderno.Proofs.Samples
import Cuaderno.Proofs.Snapshot.WrittenFields
import Cuaderno.Proofs.Snapshot.RoundTrip
import Cuaderno.Proofs.Snapshot.Accepted
import Cuaderno.Proofs.Dashboard.Order
import Cuaderno.Proofs.Dashboard.Selection
import Cuaderno.Proofs.Dashboard.WallClock
import Cuaderno.Proofs.Search.Highlight
import Cuaderno.Proofs.QuickEntry.Converted
import Cuaderno.Proofs.QuickEntry.Acceptance
import Cuaderno.Proofs.Calendar.Ordinal
import Cuaderno.Proofs.Calendar.Beyond
import Cuaderno.Proofs.Calendar.Epoch
import Cuaderno.Proofs.Number.Unreadable
import Cuaderno.Proofs.Snapshot.Entries
import Cuaderno.Proofs.QuickEntry.Total
import Cuaderno.Proofs.Dashboard.Total
import Cuaderno.Proofs.Dashboard.Comparison
import Cuaderno.Proofs.Dashboard.Bounds
import Cuaderno.Proofs.Dashboard.StoredQuery
import Cuaderno.Proofs.Dashboard.StoredPeriod
import Cuaderno.Proofs.Snapshot.Shaped
import Cuaderno.Proofs.Snapshot.SharedIds
import Cuaderno.Proofs.Calendar.RelativeDays
import Cuaderno.Proofs.Snapshot.Writable
import Cuaderno.Proofs.Dashboard.Timeline
import Cuaderno.Proofs.Search.Filters
import Cuaderno.Proofs.QuickEntry.Beginning
import Cuaderno.Proofs.QuickEntry.Matching
import Cuaderno.Proofs.Dashboard.SortedItems
import Cuaderno.Proofs.Search.FirstPlace
import Cuaderno.Proofs.Text.Respelling
import Cuaderno.Proofs.Dashboard.Buckets
import Cuaderno.Proofs.Calendar.TextOrder
import Cuaderno.Proofs.Dashboard.Chronology
import Cuaderno.Proofs.Search.Grouped
import Cuaderno.Proofs.Search.TagInventory
import Cuaderno.Proofs.Search.Tokens
import Cuaderno.Proofs.Search.Line
import Cuaderno.Proofs.Calendar.DateForms
import Cuaderno.Proofs.QuickEntry.Tokenization
import Cuaderno.Proofs.Calendar.DayFirst
import Cuaderno.Proofs.Calendar.WrittenSpan
import Cuaderno.Proofs.QuickEntry.LocaleNumber
import Cuaderno.Proofs.QuickEntry.OwnIds
import Cuaderno.Proofs.QuickEntry.Titled
import Cuaderno.Proofs.Text.Words
import Cuaderno.Proofs.Text.PlainText
import Cuaderno.Proofs.Search.FreeText
import Cuaderno.Proofs.QuickEntry.ListText
import Cuaderno.Proofs.Dashboard.Sharing
import Cuaderno.Proofs.Search.TitleStart
