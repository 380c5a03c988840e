import TableExport.Text.Blank
import TableExport.Text.Digit
import TableExport.Text.Numeral
import TableExport.Text.Printable
import TableExport.Text.Quoted
import TableExport.Text.Case
import TableExport.Text.Utf8
import TableExport.Text.Lines
import TableExport.Text.Percent
import TableExport.Text.Compatibility
import TableExport.Number.Rounding
import TableExport.Number.Binary64
import TableExport.Number.FixedPoint
import TableExport.Number.Scientific
import TableExport.Number.Decimal
import TableExport.Number.Decimal.Arithmetic
import TableExport.Number.Quantity
import TableExport.Calendar.Fault
import TableExport.Calendar.Date
import TableExport.Calendar.Instant
import TableExport.Calendar.Period
import TableExport.Literal.Fault
import TableExport.Literal.Instant
import TableExport.Literal.Period
import TableExport.Cell
import TableExport.Cell.Arithmetic
import TableExport.KeyRange
import TableExport.Given
import TableExport.Query.Source
import TableExport.Query.Request
import TableExport.Files.Fault
import TableExport.Files.Path
import TableExport.Files.Home
import TableExport.Files.Tree
import TableExport.Files.Uri
import TableExport.Files.Destination
import TableExport.Log.Redaction
import TableExport.Log.Measure
import TableExport.Log.Level
import TableExport.Log.Journal
import TableExport.Log.Template
import TableExport.Log.Logger
import TableExport.Log.Signature
import TableExport.Log.Call
import TableExport.Connection.Host
import TableExport.Connection.Address
import TableExport.Connection.Config
import TableExport.Failure
import TableExport.Query.Statement
import TableExport.Options.Basic
import TableExport.Options.Flag
import TableExport.Options.Environment
import TableExport.Options.CommandLine
import TableExport.Database.Behaviour
import TableExport.Database.Dialogue
import TableExport.Database.Opening
import TableExport.Frame.Kind
import TableExport.Frame.Fault
import TableExport.Frame
import TableExport.Plan
import TableExport.Admission
import TableExport.Session
import TableExport.Export
import TableExport.Run
import TableExport.Calendar.Display
import TableExport.Main
import TableExport.Proofs.Sequence
import TableExport.Proofs.Sequence.Effects
import TableExport.Proofs.Session.Steps
import TableExport.Proofs.Number.Magnitude
import TableExport.Proofs.Number.Rate
import TableExport.Proofs.Log.Soundness
import TableExport.Proofs.KeyRange.Division
import TableExport.Proofs.Plan.Division
import TableExport.Proofs.Plan.Probe
import TableExport.Proofs.Plan.Statements
import TableExport.Proofs.Cell.Value
import TableExport.Proofs.Plan.Coverage
import TableExport.Proofs.Calendar.Universal
import TableExport.Proofs.Options.Changes
import TableExport.Proofs.Options.Counts
import TableExport.Proofs.Admission.Conditions
import TableExport.Proofs.Admission.Checks
import TableExport.Proofs.Admission.Acceptance
import TableExport.Proofs.Run.FailFast
import TableExport.Proofs.Export.Steps
import TableExport.Proofs.Log.Legibility
import TableExport.Proofs.Plan.Calls
import TableExport.Proofs.Database.Opening
import TableExport.Proofs.Export.Keeping
import TableExport.Proofs.Export.Openings
import TableExport.Proofs.Run.Openings
import TableExport.Proofs.Log.Tracking
import TableExport.Proofs.Export.Order
import TableExport.Proofs.Export.Places
import TableExport.Proofs.Export.Settling
import TableExport.Proofs.Frame.Widening
import TableExport.Proofs.Database.Fetching
import TableExport.Proofs.Export.Rows
import TableExport.Proofs.Run.Rows
import TableExport.Proofs.Sequence.Agreement
import TableExport.Proofs.Plan.Agreement
import TableExport.Proofs.Session.Agreement
import TableExport.Proofs.Run.Handover
import TableExport.Proofs.Run.DryRun
import TableExport.Proofs.Run.Agreement
import TableExport.Proofs.Export.Agreement
import TableExport.Proofs.Database.Password
import TableExport.Proofs.Run.Password
import TableExport.Proofs.Log.Scanning
import TableExport.Proofs.Log.Headings
import TableExport.Proofs.Log.Levels
import TableExport.Proofs.Export.Levels
import TableExport.Proofs.Run.Levels
import TableExport.Proofs.Log.OpenSecrets
import TableExport.Proofs.Log.AddressPassword
import TableExport.Proofs.Log.PlainPassword
import TableExport.Proofs.Log.PasswordTrace
import TableExport.Proofs.Calendar.DayNumber
import TableExport.Proofs.Calendar.Shift
import TableExport.Proofs.Calendar.Display
import TableExport.Proofs.Literal.Period
import TableExport.Proofs.Query.Window
import TableExport.Proofs.Admission.Windows
import TableExport.Proofs.Admission.Staleness
import TableExport.Proofs.Calendar.Doubling
import TableExport.Proofs.Number.Doubling
import TableExport.Proofs.Admission.Minimum
import TableExport.Proofs.Literal.InstantText
import TableExport.Proofs.Calendar.Moments
import TableExport.Proofs.Literal.Instant
import TableExport.Proofs.Text.Margins
import TableExport.Proofs.Literal.OffsetSuffix
import TableExport.Proofs.Literal.Display
import TableExport.Proofs.Literal.ShortRuns
import TableExport.Proofs.Admission.Strays
import TableExport.Proofs.Admission.Refusals
import TableExport.Proofs.Cell.Bounded
import TableExport.Proofs.Plan.Outcomes
import TableExport.Proofs.KeyRange.Balance
import TableExport.Proofs.Plan.Balance
import TableExport.Proofs.Plan.Bounds
import TableExport.Proofs.Log.Patterns
import TableExport.Proofs.Log.Masking
import TableExport.Proofs.Log.Repetition
import TableExport.Proofs.Frame.Batching
import TableExport.Proofs.Frame.Faults
import TableExport.Proofs.Database.Batching
import TableExport.Proofs.Text.Percent
import TableExport.Proofs.Connection.Address
import TableExport.Proofs.Connection.Locator
import TableExport.Proofs.Log.Directives
import TableExport.Proofs.Log.Filling
import TableExport.Proofs.Log.Messages
import TableExport.Proofs.Options.Agreement
import TableExport.Proofs.Options.Precedence
import TableExport.Proofs.Connection.Authority
import TableExport.Proofs.Connection.Outcome
import TableExport.Proofs.Files.Opening
import TableExport.Proofs.Log.Construction
import TableExport.Proofs.Log.Standing
import TableExport.Proofs.Log.Calls
import TableExport.Proofs.Export.Listing
import TableExport.Proofs.Admission.TableName
