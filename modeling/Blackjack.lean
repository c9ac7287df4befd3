import Blackjack.Backoff
import Blackjack.Binary64
import Blackjack.Client.Action
import Blackjack.Client.Basic
import Blackjack.Client.Nickname
import Blackjack.CommandLine
import Blackjack.Console.Basic
import Blackjack.Console.Command
import Blackjack.Link
import Blackjack.Main
import Blackjack.Program.Basic
import Blackjack.Program.Startup
import Blackjack.Ron.Name
import Blackjack.Ron.Number
import Blackjack.Ron.Quoted
import Blackjack.Ron.Record
import Blackjack.Ron.Space
import Blackjack.Ron.Value
import Blackjack.Session.Basic
import Blackjack.Session.Protocol
import Blackjack.Session.Step
import Blackjack.Settings.Basic
import Blackjack.Settings.Document
import Blackjack.Settings.Folder
import Blackjack.Settings.LogFilter
import Blackjack.Settings.Runtime
import Blackjack.Settings.Store
import Blackjack.Text.Blank
import Blackjack.Text.Decimal
import Blackjack.Text.Identifier
import Blackjack.Text.Printable
import Blackjack.Text.Ranges
import Blackjack.Text.Utf8
import Blackjack.Time
import Blackjack.Transport.Config
import Blackjack.Transport.Engine
import Blackjack.Transport.Outbound
import Blackjack.Transport.Protocol
import Blackjack.Transport.StopCause
import Blackjack.Transport.Worker
import Blackjack.Wire.Frame
import Blackjack.Wire.LineBuffer
import Blackjack.Wire.Request
import Blackjack.Proofs.Session.Transition
import Blackjack.Proofs.Session.History
import Blackjack.Proofs.Session.State
import Blackjack.Proofs.Session.Retry
import Blackjack.Proofs.Session.Exchange
import Blackjack.Proofs.Session.Connection
import Blackjack.Proofs.Transport.Iteration
import Blackjack.Proofs.Transport.Path
import Blackjack.Proofs.Transport.Block
import Blackjack.Proofs.Client.Operations
import Blackjack.Proofs.Client.Exhaustion
import Blackjack.Proofs.Client.Telling
import Blackjack.Proofs.Console.Turn
import Blackjack.Proofs.Program.Attendance
import Blackjack.Proofs.Client.Losses
import Blackjack.Proofs.Program.Path
import Blackjack.Proofs.Program.Budget
import Blackjack.Proofs.Transport.Custody
import Blackjack.Proofs.Text.Utf8
import Blackjack.Proofs.Wire.Reassembly
import Blackjack.Proofs.Transport.Motion
import Blackjack.Proofs.Transport.Life
import Blackjack.Proofs.Transport.Outflow
import Blackjack.Proofs.Client.Outflow
import Blackjack.Proofs.Transport.Intake
import Blackjack.Proofs.Transport.Cutting
import Blackjack.Proofs.Text.Trim
import Blackjack.Proofs.Session.Fate
import Blackjack.Proofs.Wire.Frame
import Blackjack.Proofs.Wire.Request
import Blackjack.Proofs.Client.Renewal
import Blackjack.Proofs.Ron.Writing
import Blackjack.Proofs.Ron.Spacing
import Blackjack.Proofs.Ron.Word
import Blackjack.Proofs.Settings.Folder
import Blackjack.Proofs.Settings.RoundTrip
import Blackjack.Proofs.Session.Recount
import Blackjack.Proofs.Session.Omission
import Blackjack.Proofs.Session.Passing
import Blackjack.Proofs.Session.Noise
import Blackjack.Proofs.Session.Expiry
import Blackjack.Proofs.Client.View
import Blackjack.Proofs.Session.Inbound
import Blackjack.Proofs.Console.Grammar
import Blackjack.Proofs.Client.Action
import Blackjack.Proofs.Program.Typed
import Blackjack.Proofs.Ron.Grammar
import Blackjack.Proofs.Ron.Numeral
import Blackjack.Proofs.Ron.Fraction
import Blackjack.Proofs.Ron.Quotation
import Blackjack.Proofs.Ron.Range
import Blackjack.Proofs.Ron.Skipping
import Blackjack.Proofs.Ron.Filling
import Blackjack.Proofs.Settings.Overlay
import Blackjack.Proofs.Wire.Filtering
import Blackjack.Proofs.Settings.Loading
import Blackjack.Proofs.Program.Startup
import Blackjack.Proofs.Backoff.Rounding
import Blackjack.Proofs.Backoff.Seconds
import Blackjack.Proofs.Backoff.Delay
import Blackjack.Proofs.Session.Ticking
import Blackjack.Proofs.Transport.Ticking
import Blackjack.Proofs.Client.Ticking
