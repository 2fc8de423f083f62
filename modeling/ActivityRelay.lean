import ActivityRelay.Bindings
import ActivityRelay.ClientId
import ActivityRelay.Command
import ActivityRelay.Control.Controller
import ActivityRelay.Control.Fault
import ActivityRelay.Control.Notice
import ActivityRelay.Control.Sink
import ActivityRelay.Control.Worker
import ActivityRelay.DeliveryError
import ActivityRelay.EnvFile
import ActivityRelay.EnvFile.Line
import ActivityRelay.EnvFile.Value
import ActivityRelay.Event
import ActivityRelay.Event.Reader
import ActivityRelay.Http.Compression
import ActivityRelay.Http.Message
import ActivityRelay.Http.Range
import ActivityRelay.Http.Router
import ActivityRelay.Http.Site
import ActivityRelay.Http.Status
import ActivityRelay.Http.Target
import ActivityRelay.Http.Upgrade
import ActivityRelay.Json.Literal
import ActivityRelay.Json.Number
import ActivityRelay.Json.Quote
import ActivityRelay.Json.ReadError
import ActivityRelay.Json.Value
import ActivityRelay.Main
import ActivityRelay.Network.Address
import ActivityRelay.Network.Endpoint
import ActivityRelay.Network.Fault
import ActivityRelay.Network.Host
import ActivityRelay.Network.HostName
import ActivityRelay.Network.Transport
import ActivityRelay.Proofs.Control.Framing
import ActivityRelay.Proofs.Event.Codec
import ActivityRelay.Proofs.Json.Literal
import ActivityRelay.Proofs.Registry
import ActivityRelay.Proofs.Relay.Alike
import ActivityRelay.Proofs.Relay.Delivery
import ActivityRelay.Proofs.Relay.Isolation
import ActivityRelay.Proofs.Relay.Operations
import ActivityRelay.Proofs.Relay.Outbox
import ActivityRelay.Proofs.Relay.View
import ActivityRelay.Proofs.Task.Alone
import ActivityRelay.Proofs.Task.Atomic
import ActivityRelay.Proofs.Task.Forwarding
import ActivityRelay.Proofs.Task.History
import ActivityRelay.Proofs.Task.Lock
import ActivityRelay.Proofs.Task.Serial
import ActivityRelay.Proofs.Task.Status
import ActivityRelay.Proofs.Task.Step
import ActivityRelay.Proofs.Text.Utf8
import ActivityRelay.Proofs.Viewer.Heard
import ActivityRelay.Proofs.Viewer.Knowledge
import ActivityRelay.Proofs.Viewer.Stream
import ActivityRelay.Proofs.Viewer.Watched
import ActivityRelay.Queue
import ActivityRelay.Record
import ActivityRelay.Registry
import ActivityRelay.Relay
import ActivityRelay.Relay.Operations
import ActivityRelay.Settings
import ActivityRelay.Settings.ControlTarget
import ActivityRelay.Settings.Variable
import ActivityRelay.Startup
import ActivityRelay.Task
import ActivityRelay.Task.Hold
import ActivityRelay.Task.System
import ActivityRelay.Text.Alphanumeric
import ActivityRelay.Text.CodePoints
import ActivityRelay.Text.Decimal
import ActivityRelay.Text.GraphemeExtend
import ActivityRelay.Text.Hex
import ActivityRelay.Text.Lines
import ActivityRelay.Text.Pieces
import ActivityRelay.Text.Quoted
import ActivityRelay.Text.Unprintable
import ActivityRelay.Text.Utf8
import ActivityRelay.Text.White
import ActivityRelay.Viewer.Frame
import ActivityRelay.Viewer.Life
import ActivityRelay.Viewer.Message
import ActivityRelay.Viewer.Server
import ActivityRelay.Viewer.Session
import ActivityRelay.Viewer.Socket
import ActivityRelay.Proofs.Viewer.Hosted
import ActivityRelay.Proofs.Viewer.Life
import ActivityRelay.Proofs.Viewer.Leaving
import ActivityRelay.Proofs.Viewer.Transcript
import ActivityRelay.Proofs.Viewer.Senders
import ActivityRelay.Proofs.Viewer.Uninterrupted
import ActivityRelay.Proofs.Viewer.Refinement
import ActivityRelay.Proofs.Command.Grammar
import ActivityRelay.Proofs.Control.History
import ActivityRelay.Proofs.Control.Accounting
import ActivityRelay.Proofs.Control.Connections
import ActivityRelay.Viewer.Audience
import ActivityRelay.Proofs.Viewer.Queues
import ActivityRelay.Proofs.Viewer.Audience
import ActivityRelay.Proofs.Viewer.Removal
import ActivityRelay.Proofs.Relay.FanOut
import ActivityRelay.Proofs.Task.Cleanup
import ActivityRelay.Task.Gate
import ActivityRelay.Proofs.Task.Gate
import ActivityRelay.Proofs.Task.Progress
import ActivityRelay.Proofs.Http.Report
import ActivityRelay.Proofs.Relay.Activity
import ActivityRelay.Proofs.Task.Activity
import ActivityRelay.Proofs.Relay.Admission
import ActivityRelay.Proofs.Text.Padding
import ActivityRelay.Proofs.Settings.Reading
import ActivityRelay.Proofs.Settings.ControlTarget
import ActivityRelay.Proofs.Settings.RoundTrip
import ActivityRelay.Proofs.Settings.Capacity
import ActivityRelay.Proofs.Event.Truncation
import ActivityRelay.Proofs.Json.Grammar
import ActivityRelay.Proofs.Settings.Separate
import ActivityRelay.Proofs.Event.Presentation
import ActivityRelay.Proofs.Relay.Log
import ActivityRelay.Proofs.Task.Log
import ActivityRelay.Proofs.Text.Decimal
import ActivityRelay.Proofs.Settings.Listening
import ActivityRelay.Proofs.Json.Document
import ActivityRelay.Proofs.Registry.Age
import ActivityRelay.Proofs.Http.Diagnostics
import ActivityRelay.Proofs.Relay.SessionEnd
import ActivityRelay.Proofs.Task.SessionEnd
import ActivityRelay.Proofs.Viewer.SessionEnd
