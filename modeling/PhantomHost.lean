import PhantomHost.Assistant.Basic
import PhantomHost.Assistant.Link
import PhantomHost.Assistant.Prompt
import PhantomHost.ByteSize
import PhantomHost.Chat
import PhantomHost.CommandLine.Basic
import PhantomHost.CommandLine.Grammar
import PhantomHost.CommandLine.Help
import PhantomHost.CommandLine.Reader
import PhantomHost.Console
import PhantomHost.Decimal.Double
import PhantomHost.Decimal.Power
import PhantomHost.Decimal.Reader
import PhantomHost.Decimal.Rounding
import PhantomHost.Decimal.Shortest
import PhantomHost.Decimal.Writer
import PhantomHost.Disk
import PhantomHost.Fence
import PhantomHost.Json.Basic
import PhantomHost.Json.Depth
import PhantomHost.Json.Reader
import PhantomHost.Json.Writer
import PhantomHost.Log.Basic
import PhantomHost.Log.Field
import PhantomHost.Log.Format
import PhantomHost.Log.Listener
import PhantomHost.Log.Notice
import PhantomHost.Log.Threshold
import PhantomHost.Main
import PhantomHost.Metrics.Basic
import PhantomHost.Metrics.Exposition
import PhantomHost.ModelServer
import PhantomHost.Moment
import PhantomHost.Node.Basic
import PhantomHost.Node.Seed
import PhantomHost.Node.Upload
import PhantomHost.Page.Basic
import PhantomHost.Page.Browser
import PhantomHost.Page.Connect
import PhantomHost.Page.Element
import PhantomHost.Page.Pass
import PhantomHost.Page.Record
import PhantomHost.Page.Talk
import PhantomHost.Page.Terminal
import PhantomHost.Path
import PhantomHost.Profile.Basic
import PhantomHost.Profile.Store
import PhantomHost.Profile.Table
import PhantomHost.Program.Basic
import PhantomHost.Program.Command
import PhantomHost.Program.PageServer
import PhantomHost.Program.Profiles
import PhantomHost.Program.Run
import PhantomHost.Program.Session
import PhantomHost.Session.Basic
import PhantomHost.Session.Listing
import PhantomHost.Settings.Basic
import PhantomHost.Settings.FilePath
import PhantomHost.Settings.Record
import PhantomHost.Shell.Basic
import PhantomHost.Shell.Execution
import PhantomHost.Text.Ansi
import PhantomHost.Text.Basic
import PhantomHost.Text.Blank
import PhantomHost.Text.CaseTable
import PhantomHost.Text.CodeSet
import PhantomHost.Text.Columns
import PhantomHost.Text.Digit
import PhantomHost.Text.Lowercase
import PhantomHost.Text.Markup
import PhantomHost.Text.NameTable
import PhantomHost.Text.Pieces
import PhantomHost.Text.PrintableTable
import PhantomHost.Text.Quoted
import PhantomHost.Text.SystemName
import PhantomHost.Text.Units
import PhantomHost.Text.Utf8
import PhantomHost.Transcript.Line
import PhantomHost.Transcript.Match
import PhantomHost.Transcript.Search
import PhantomHost.World.Basic
import PhantomHost.Proofs.Chat.Confirmation
import PhantomHost.Proofs.Text.Answer
import PhantomHost.Proofs.Chat.Transcript
import PhantomHost.Proofs.Console.Turn
import PhantomHost.Proofs.Console.Commands
import PhantomHost.Proofs.Decimal.Digits
import PhantomHost.Proofs.Decimal.Nearest
import PhantomHost.Proofs.Decimal.Shortest
import PhantomHost.Proofs.Decimal.Bits
import PhantomHost.Proofs.Decimal.Written
import PhantomHost.Proofs.Json.Number
import PhantomHost.Proofs.Json.Text
import PhantomHost.Proofs.Json.RoundTrip
import PhantomHost.Proofs.Decimal.Integer
import PhantomHost.Proofs.Json.Kept
import PhantomHost.Proofs.Profile.RoundTrip
import PhantomHost.Proofs.Disk
import PhantomHost.Proofs.Profile.File
import PhantomHost.Proofs.Profile.Saving
import PhantomHost.Proofs.Profile.Shelf
import PhantomHost.Proofs.Fence.Reply
import PhantomHost.Proofs.Chat.Panel
import PhantomHost.Proofs.Path
import PhantomHost.Proofs.Shell.Cursor
import PhantomHost.Proofs.Node.Insert
import PhantomHost.Proofs.Shell.Store
import PhantomHost.Proofs.Node.Distinct
import PhantomHost.Proofs.Shell.Command
import PhantomHost.Proofs.Shell.Naming
import PhantomHost.Proofs.Shell.Ground
import PhantomHost.Proofs.Transcript.Written
import PhantomHost.Proofs.Session.History
import PhantomHost.Proofs.Session.Coherence
import PhantomHost.Proofs.Session.Browser
import PhantomHost.Proofs.Profile.Loading
import PhantomHost.Proofs.Assistant.Answers
import PhantomHost.Proofs.Assistant.Reachability
import PhantomHost.Proofs.Console.Closing
import PhantomHost.Proofs.Console.Search
import PhantomHost.Proofs.Page.Terminal
import PhantomHost.Proofs.Chat.Course
import PhantomHost.Proofs.Profile.Stray
import PhantomHost.Proofs.Metrics.Counts
import PhantomHost.Proofs.World.Counts
import PhantomHost.Proofs.Assistant.Question
import PhantomHost.Proofs.Session.Frame
import PhantomHost.Proofs.Site.Basic
import PhantomHost.Proofs.Site.Accounts
import PhantomHost.Proofs.Site.Sessions
import PhantomHost.Proofs.Console.Browsing
import PhantomHost.Proofs.Profile.Tended
import PhantomHost.Proofs.World.Onward
import PhantomHost.Proofs.Session.Naming
import PhantomHost.Proofs.Page.Keys
import PhantomHost.Proofs.Page.Sound
import PhantomHost.Proofs.Page.Form
import PhantomHost.Proofs.Page.Panes
import PhantomHost.Proofs.Page.Journey
import PhantomHost.Proofs.Transcript.Leftmost
import PhantomHost.Proofs.Transcript.Lowercase
import PhantomHost.Proofs.Transcript.Markup
import PhantomHost.Proofs.Node.Order
import PhantomHost.Proofs.Shell.Order
import PhantomHost.Proofs.Shell.Walk
import PhantomHost.Proofs.Session.Upload
import PhantomHost.Proofs.Session.ReadBack
import PhantomHost.Proofs.Shell.Ascent
import PhantomHost.Proofs.Shell.Lookup
import PhantomHost.Proofs.Session.Home
import PhantomHost.Proofs.Shell.Directories
import PhantomHost.Proofs.Session.Folders
import PhantomHost.Proofs.Page.Folders
import PhantomHost.Proofs.Transcript.Navigation
import PhantomHost.Proofs.Node.Record
import PhantomHost.Proofs.ByteSize
