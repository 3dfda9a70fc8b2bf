import TrackerFilter.Catalog.Basic
import TrackerFilter.Catalog.Status
import TrackerFilter.Command.Basic
import TrackerFilter.Command.Host
import TrackerFilter.Command.Line
import TrackerFilter.Command.Run
import TrackerFilter.Conflict
import TrackerFilter.Crash
import TrackerFilter.Distinct
import TrackerFilter.Draft
import TrackerFilter.Event
import TrackerFilter.Field.Basic
import TrackerFilter.Field.Inclusion
import TrackerFilter.Field.Kind
import TrackerFilter.Gate
import TrackerFilter.Json.Basic
import TrackerFilter.Json.Reader
import TrackerFilter.Json.Token
import TrackerFilter.Main
import TrackerFilter.Metadata.Basic
import TrackerFilter.Metadata.Grouping
import TrackerFilter.Metadata.Occurrence
import TrackerFilter.Model.Answer
import TrackerFilter.Model.Catalog
import TrackerFilter.Model.Metadata
import TrackerFilter.Model.Subscription
import TrackerFilter.Number.Binary64
import TrackerFilter.Number.Decimal
import TrackerFilter.Number.Shortest
import TrackerFilter.Proofs.Catalog.Keys
import TrackerFilter.Proofs.Catalog.Offer
import TrackerFilter.Proofs.Catalog.Status
import TrackerFilter.Proofs.Conflict
import TrackerFilter.Proofs.Draft.Carried
import TrackerFilter.Proofs.Draft.Drift
import TrackerFilter.Proofs.Draft.Idempotence
import TrackerFilter.Proofs.Draft.Narrowing
import TrackerFilter.Proofs.Draft.NormalForm
import TrackerFilter.Proofs.Draft.Preview
import TrackerFilter.Proofs.Draft.Save
import TrackerFilter.Proofs.Draft.Security
import TrackerFilter.Proofs.Draft.Selection
import TrackerFilter.Proofs.Gate.Verdict
import TrackerFilter.Proofs.Metadata.Entries
import TrackerFilter.Proofs.Metadata.Grouping
import TrackerFilter.Proofs.Query.Conditions
import TrackerFilter.Proofs.Query.Length
import TrackerFilter.Proofs.Query.Reading
import TrackerFilter.Query
import TrackerFilter.Session
import TrackerFilter.Settings
import TrackerFilter.Settings.File
import TrackerFilter.Subscription
import TrackerFilter.Text.Blank
import TrackerFilter.Text.Emoji.Basic
import TrackerFilter.Text.Emoji.Names
import TrackerFilter.Text.Frame
import TrackerFilter.Text.Highlight
import TrackerFilter.Text.Markup
import TrackerFilter.Text.Order
import TrackerFilter.Text.Pattern
import TrackerFilter.Text.Quoted
import TrackerFilter.Text.Ranges
import TrackerFilter.Text.Style
import TrackerFilter.Text.Width.Basic
import TrackerFilter.Text.Width.Ranges
import TrackerFilter.Text.Word
import TrackerFilter.Text.Wrap
import TrackerFilter.Wire.Decoder
import TrackerFilter.Wire.Fault
import TrackerFilter.Wire.Library
import TrackerFilter.Wire.Standard
import TrackerFilter.Proofs.Catalog.Selection
import TrackerFilter.Proofs.Draft.Notices
import TrackerFilter.Proofs.Draft.OwnProject
import TrackerFilter.Proofs.Draft.Policy
import TrackerFilter.Proofs.Draft.Reordering
import TrackerFilter.Proofs.Catalog.Unlisted
import TrackerFilter.Proofs.Event
import TrackerFilter.Proofs.Draft.Events
import TrackerFilter.Proofs.Wire.Documented
import TrackerFilter.Proofs.Wire.Reading
import TrackerFilter.Proofs.Model.Written
import TrackerFilter.Proofs.Model.RoundTrip
import TrackerFilter.Proofs.Wire.Unknown
import TrackerFilter.Proofs.Model.Unknown
import TrackerFilter.Proofs.Metadata.Traversal
import TrackerFilter.Proofs.Catalog.Arrangement
import TrackerFilter.Proofs.Conflict.Addition
import TrackerFilter.Proofs.Conflict.Message
import TrackerFilter.Proofs.Draft.Repeats
import TrackerFilter.Proofs.Metadata.Lookup
import TrackerFilter.Proofs.Metadata.Extension
import TrackerFilter.Proofs.Catalog.WellFormed
import TrackerFilter.Proofs.Catalog.StatusOptions
import TrackerFilter.Proofs.Catalog.ValidIssueTypes
import TrackerFilter.Proofs.Query.Clause
import TrackerFilter.Proofs.Query.Operand
import TrackerFilter.Proofs.Event.Custom
import TrackerFilter.Proofs.Text.Printed
import TrackerFilter.Proofs.Json.Integer
import TrackerFilter.Proofs.Command.Loading
import TrackerFilter.Proofs.Command.Screen
import TrackerFilter.Proofs.Command.Check
import TrackerFilter.Proofs.Text.Markup
import TrackerFilter.Proofs.Command.Catalog
