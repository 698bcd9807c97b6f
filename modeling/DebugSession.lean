import DebugSession.Text.Utf8.Decoder
import DebugSession.Text.Identifier
import DebugSession.Text.Quoted
import DebugSession.Json.Writer
import DebugSession.Json.Decode
import DebugSession.Json.Reader
import DebugSession.Event
import DebugSession.Engine
import DebugSession.Log.Switch
import DebugSession.Breakpoint.Store
import DebugSession.Breakpoint.Book
import DebugSession.Framing.Line
import DebugSession.Framing.Message
import DebugSession.Config
import DebugSession.Redirect.Server
import DebugSession.Redirect.Traffic
import DebugSession.Mi.FrontEnd
import DebugSession.Cli.FrontEnd
import DebugSession.Dap.FrontEnd
import DebugSession.CommandLoop
import DebugSession.Session
import DebugSession.Supervisor.Schedule
import DebugSession.Supervisor.Occurrence
import DebugSession.CommandLine
import DebugSession.Program
import DebugSession.Host.Schedule
import DebugSession.Main
import DebugSession.Proofs.Text.Decoder
import DebugSession.Proofs.Framing.Exact
import DebugSession.Proofs.Framing.Line
import DebugSession.Proofs.Framing.Packet
import DebugSession.Proofs.Breakpoint.Book
import DebugSession.Proofs.Breakpoint.Changes
import DebugSession.Proofs.Breakpoint.Numbers
import DebugSession.Proofs.Mi.Spelling
import DebugSession.Proofs.Scene
import DebugSession.Proofs.FrontEnd.Conversation
import DebugSession.Proofs.Mi.Token
import DebugSession.Proofs.Mi.Desk
import DebugSession.Proofs.Mi.Conversation
import DebugSession.Proofs.Mi.Output
import DebugSession.Proofs.Dap.Desk
import DebugSession.Proofs.Dap.Conversation
import DebugSession.Proofs.Supervisor.Calls
import DebugSession.Proofs.Supervisor.Steps
import DebugSession.Proofs.Supervisor.Moves
import DebugSession.Proofs.Supervisor.Rest
import DebugSession.Proofs.Supervisor.Delivery
import DebugSession.Proofs.Supervisor.Direct
import DebugSession.Proofs.Supervisor.Attached
import DebugSession.Proofs.Cli.Form
import DebugSession.Proofs.Cli.Location
import DebugSession.Proofs.Dap.Cut
import DebugSession.Proofs.Cli.Conversation
import DebugSession.Proofs.FrontEnd.Course
import DebugSession.Proofs.Intents
import DebugSession.Proofs.FrontEnd.Service
import DebugSession.Proofs.CommandLoop
import DebugSession.Proofs.Session.Passage
import DebugSession.Proofs.FrontEnd.Loss
import DebugSession.Proofs.Session.Loss
import DebugSession.Proofs.Redirect.Traffic
import DebugSession.Proofs.Redirect.Forwarding
import DebugSession.Proofs.Cli.Spelling
import DebugSession.Proofs.Cli.Plain
import DebugSession.Proofs.Log.Routing
import DebugSession.Proofs.Supervisor.Charge
import DebugSession.Proofs.Supervisor.Custody
import DebugSession.Proofs.Breakpoint.Insertion
import DebugSession.Proofs.Supervisor.Failure
import DebugSession.Proofs.Framing.Resume
import DebugSession.Proofs.Framing.Segments
import DebugSession.Proofs.Framing.Progress
import DebugSession.Proofs.Framing.Rounds
import DebugSession.Proofs.Text.Number
import DebugSession.Proofs.Mi.Layout
import DebugSession.Proofs.Dap.Breakpoints
import DebugSession.Proofs.Breakpoint.Reached
import DebugSession.Proofs.Mi.Deletion
import DebugSession.Proofs.FrontEnd.Talk
import DebugSession.Proofs.FrontEnd.Answer
import DebugSession.Proofs.FrontEnd.Launch
import DebugSession.Proofs.FrontEnd.Termination
import DebugSession.Proofs.Launch
