import DeviceBrowser.Text.Search
import DeviceBrowser.Text.Blank
import DeviceBrowser.Text.Decimal
import DeviceBrowser.Text.Utf8
import DeviceBrowser.Text.Visible
import DeviceBrowser.Text.Shown
import DeviceBrowser.Text.Letter
import DeviceBrowser.Calendar.Span
import DeviceBrowser.Calendar.Date
import DeviceBrowser.Calendar.Zone
import DeviceBrowser.Calendar.PosixZone
import DeviceBrowser.Calendar.Timestamp
import DeviceBrowser.Calendar.ListedTime
import DeviceBrowser.Failure.Category
import DeviceBrowser.Failure.Phase
import DeviceBrowser.Failure.Basic
import DeviceBrowser.Terminal.PlainText
import DeviceBrowser.Shell.Quoting
import DeviceBrowser.Shell.Command
import DeviceBrowser.Listing.Entry
import DeviceBrowser.Listing.Row
import DeviceBrowser.Listing.LinkRecord
import DeviceBrowser.Listing.Response
import DeviceBrowser.Listing.Table
import DeviceBrowser.Host.Basic
import DeviceBrowser.Host.Relay
import DeviceBrowser.Host.Scripted
import DeviceBrowser.Host.Confined
import DeviceBrowser.Session.Marker
import DeviceBrowser.Session.Framing
import DeviceBrowser.Session.Basic
import DeviceBrowser.Adb.Call
import DeviceBrowser.Adb.Finder
import DeviceBrowser.Adb.Attached
import DeviceBrowser.Explorer.Basic
import DeviceBrowser.Explorer.Operations
import DeviceBrowser.Arguments.Basic
import DeviceBrowser.Arguments.Parsing
import DeviceBrowser.Settings.Document
import DeviceBrowser.Settings.Basic
import DeviceBrowser.Logging.Filter
import DeviceBrowser.Json.Pretty
import DeviceBrowser.Program.Help
import DeviceBrowser.Program.Report
import DeviceBrowser.Program.Run
import DeviceBrowser.Main
import DeviceBrowser.Proofs.Text.Search
import DeviceBrowser.Proofs.Text.Utf8
import DeviceBrowser.Proofs.Text.Lines
import DeviceBrowser.Proofs.Text.Blank
import DeviceBrowser.Proofs.Text.Decimal
import DeviceBrowser.Proofs.Calendar.Date
import DeviceBrowser.Proofs.Calendar.ListedTime
import DeviceBrowser.Proofs.Calendar.ShortDate
import DeviceBrowser.Proofs.Calendar.FullDate
import DeviceBrowser.Proofs.Listing.Row
import DeviceBrowser.Proofs.Listing.PrintedRow
import DeviceBrowser.Proofs.Listing.LinkRecord
import DeviceBrowser.Proofs.Listing.Page
import DeviceBrowser.Proofs.Listing.Entry
import DeviceBrowser.Proofs.Listing.RowLayout
import DeviceBrowser.Proofs.Listing.Lookup
import DeviceBrowser.Proofs.Listing.Refinement
import DeviceBrowser.Proofs.Listing.Sections
import DeviceBrowser.Proofs.Terminal.ControlSequence
import DeviceBrowser.Proofs.Host.Act
import DeviceBrowser.Proofs.Host.Observed
import DeviceBrowser.Proofs.Host.Relay
import DeviceBrowser.Proofs.Host.Channel
import DeviceBrowser.Proofs.Host.Progress
import DeviceBrowser.Proofs.Session.Lifecycle
import DeviceBrowser.Proofs.Explorer.Connection
import DeviceBrowser.Proofs.Explorer.Operation
import DeviceBrowser.Proofs.Explorer.Course
import DeviceBrowser.Proofs.Explorer.Path
import DeviceBrowser.Proofs.Explorer.Listing
import DeviceBrowser.Proofs.Shell.Quoting
import DeviceBrowser.Proofs.Session.Framing
import DeviceBrowser.Proofs.Session.Delivery
import DeviceBrowser.Proofs.Session.Marker
import DeviceBrowser.Proofs.Session.Conversation
import DeviceBrowser.Proofs.Session.History
import DeviceBrowser.Proofs.Session.Account
import DeviceBrowser.Proofs.Session.Conservation
import DeviceBrowser.Proofs.Session.Issuing
import DeviceBrowser.Proofs.Terminal.DirectDecoding
import DeviceBrowser.Proofs.Terminal.SettledText
import DeviceBrowser.Proofs.Explorer.Transfer
import DeviceBrowser.Proofs.Settings.Layers
import DeviceBrowser.Proofs.Settings.Loading
import DeviceBrowser.Proofs.Adb.DeviceList
import DeviceBrowser.Proofs.Adb.Naming
import DeviceBrowser.Proofs.Arguments.Spelling
import DeviceBrowser.Proofs.Arguments.CommandLine
import DeviceBrowser.Proofs.Listing.Table
import DeviceBrowser.Proofs.Settings.Numeral
import DeviceBrowser.Proofs.Session.Make
import DeviceBrowser.Proofs.Session.Deadline
import DeviceBrowser.Proofs.Settings.Timeout
import DeviceBrowser.Proofs.Adb.Probing
import DeviceBrowser.Proofs.Explorer.Consulting
import DeviceBrowser.Proofs.Explorer.Group
