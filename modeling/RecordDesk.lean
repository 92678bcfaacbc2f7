import RecordDesk.Main
import RecordDesk.Proofs.StoreCalls
import RecordDesk.Proofs.Tab.Consistency
import RecordDesk.Proofs.Tab.Convergence
import RecordDesk.Proofs.Tab.InFlight
import RecordDesk.Proofs.Tab.Steps
import RecordDesk.Sample.Records
import RecordDesk.Store
import RecordDesk.Terminal
import RecordDesk.Proofs.Number.Nearest
import RecordDesk.Proofs.Number.Numerals
import RecordDesk.Proofs.Number.Shortest
import RecordDesk.Proofs.Text.Cutting
import RecordDesk.Proofs.Number.Layout
import RecordDesk.Proofs.Metadata.Reals
import RecordDesk.Proofs.Metadata.Scalars
import RecordDesk.Proofs.Metadata.Lists
import RecordDesk.Proofs.Metadata.Outline
import RecordDesk.Proofs.Metadata.RoundTrip
import RecordDesk.Proofs.Metadata.Places
import RecordDesk.Proofs.Tab.Quiescence
import RecordDesk.Proofs.Tab.Superseded
import RecordDesk.Proofs.Form.Untouched
import RecordDesk.Proofs.Form.Payloads
import RecordDesk.Proofs.Tab.Transitions
import RecordDesk.Proofs.Tab.Permissions
import RecordDesk.Proofs.Tab.OpenForm
import RecordDesk.Proofs.Desk.Independence
import RecordDesk.Proofs.Tab.Confirmation
import RecordDesk.Proofs.Tab.WorkQueue
import RecordDesk.Proofs.Metadata.Wire
import RecordDesk.Proofs.Web.Documents
import RecordDesk.Proofs.ListWindow
import RecordDesk.Proofs.Tab.Bench
import RecordDesk.Proofs.Tab.LocalFilter
import RecordDesk.Proofs.Tab.UntouchedForm
import RecordDesk.Proofs.Tab.BulkMarks
import RecordDesk.Proofs.Tab.Candidates
import RecordDesk.Proofs.ListWindow.Scrolling
import RecordDesk.Proofs.ListWindow.WordSize
import RecordDesk.Proofs.Metadata.Faults
import RecordDesk.Proofs.View.Highlight
import RecordDesk.Proofs.Tab.Failures
import RecordDesk.Proofs.Tab.Marking
import RecordDesk.Proofs.Tab.OpenEditor
import RecordDesk.Proofs.Desk.Keyboard
import RecordDesk.Proofs.Form.PlainFields
import RecordDesk.Proofs.Tab.LiveStatus
import RecordDesk.Proofs.Tab.Escape
import RecordDesk.Proofs.Tab.DetailRefresh
import RecordDesk.Proofs.Tab.TabKey
import RecordDesk.Proofs.Label.Spelling
import RecordDesk.Proofs.Form.Focus
import RecordDesk.Proofs.Search.Completion
import RecordDesk.Proofs.Tab.BulkUpdate
import RecordDesk.Proofs.Metadata.Conversion
import RecordDesk.Proofs.Web.Addresses
import RecordDesk.Proofs.Settings.TimeLimit
import RecordDesk.Proofs.Settings.Serving
import RecordDesk.Proofs.View.Fitting
import RecordDesk.Proofs.Web.Collections
import RecordDesk.Proofs.Desk.StatusTimer
import RecordDesk.Proofs.Form.InStep
import RecordDesk.Proofs.StoreConsistency
import RecordDesk.Proofs.Sample.Records
import RecordDesk.Proofs.View.Width
import RecordDesk.Proofs.CommandLine.Items
