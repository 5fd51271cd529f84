import WebServer.App
import WebServer.Bytes
import WebServer.Connection
import WebServer.Connection.Channel
import WebServer.Connection.Protocol
import WebServer.Connection.Signal
import WebServer.Connection.Wire
import WebServer.Decimal.Shortest
import WebServer.Digest.Fnv
import WebServer.Digest.Sha1
import WebServer.Http.Failure
import WebServer.Http.Head
import WebServer.Http.Headers
import WebServer.Http.Method
import WebServer.Http.Multipart
import WebServer.Http.Query
import WebServer.Http.Request
import WebServer.Http.Response
import WebServer.Http.Status
import WebServer.Json.Cursor
import WebServer.Json.Printer
import WebServer.Json.Reader
import WebServer.Json.Skip
import WebServer.Json.Typed
import WebServer.Json.Value
import WebServer.Regex.Cost
import WebServer.Regex.Expr
import WebServer.Regex.Meaning
import WebServer.Regex.Pattern
import WebServer.Regex.Program
import WebServer.Regex.Reader
import WebServer.Regex.Search
import WebServer.Regex.Syntax
import WebServer.Routing.Dispatcher
import WebServer.Routing.Route
import WebServer.Routing.Signature
import WebServer.Scenario.Actor
import WebServer.Scenario.ConnectionTrial
import WebServer.Scenario.ConversationTrial
import WebServer.Scenario.Event
import WebServer.Scenario.Lines
import WebServer.Scenario.Registry
import WebServer.Scenario.Report
import WebServer.Scenario.ServerTrial
import WebServer.Scenario.Site
import WebServer.Scenario.SocketStep
import WebServer.Scenario.WindowTrial
import WebServer.Server
import WebServer.Server.Answer
import WebServer.Server.Checking
import WebServer.Server.Config
import WebServer.Server.Framing
import WebServer.Server.Serving
import WebServer.Text.Ascii
import WebServer.Text.Base64
import WebServer.Text.Blank
import WebServer.Text.Escape
import WebServer.Text.Quoted
import WebServer.Text.Utf8
import WebServer.Unicode.Category
import WebServer.Unicode.CharSet
import WebServer.Unicode.Folding
import WebServer.Unicode.Lookup
import WebServer.Unicode.Property
import WebServer.Unicode.Script
import WebServer.WebSocket.CloseCode
import WebServer.WebSocket.Conversation
import WebServer.WebSocket.Frame
import WebServer.WebSocket.Handshake
import WebServer.WebSocket.Keepalive
import WebServer.WebSocket.Offsets
import WebServer.WebSocket.Script
import WebServer.WebSocket.Socket
import WebServer.Proofs.Channel.Effects
import WebServer.Proofs.Channel.Ledger
import WebServer.Proofs.Channel.Completions
import WebServer.Proofs.Stream.Flowing
import WebServer.Proofs.Stream.Prefixes
import WebServer.Proofs.Stream.Alike
import WebServer.Proofs.Stream.Calm
import WebServer.Proofs.Stream.Windows
import WebServer.Proofs.Stream.Course
import WebServer.Proofs.Stream.Delivery
import WebServer.Proofs.Requests.Answers
import WebServer.Proofs.Requests.Served
import WebServer.Proofs.Channel.Seen
import WebServer.Proofs.WebSocket.Moves
import WebServer.Proofs.WebSocket.Life
import WebServer.Proofs.WebSocket.Heeding
import WebServer.Proofs.Connection.HandlerLife
import WebServer.Proofs.Connection.Regime
import WebServer.Proofs.Channel.Silent
import WebServer.Proofs.WebSocket.Sending
import WebServer.Proofs.Connection.CloseFrame
import WebServer.Proofs.WebSocket.Codec
import WebServer.Proofs.WebSocket.Listening
import WebServer.Proofs.WebSocket.Messages
import WebServer.Proofs.WebSocket.MissedPongs
import WebServer.Proofs.WebSocket.PingTimes
import WebServer.Proofs.WebSocket.Onward
import WebServer.Proofs.Requests.Sections
import WebServer.Proofs.Requests.Codings
import WebServer.Proofs.Requests.HeadAnswers
import WebServer.Proofs.Requests.Closing
import WebServer.Proofs.WebSocket.Decoding
import WebServer.Proofs.WebSocket.Violations
import WebServer.Proofs.WebSocket.Verdicts
import WebServer.Proofs.WebSocket.Outgoing
import WebServer.Proofs.Connection.Inbound
import WebServer.Proofs.Stream.Congruence
import WebServer.Proofs.Connection.Forgetting
import WebServer.Proofs.Connection.Recording
import WebServer.Proofs.Channel.Waiting
import WebServer.Proofs.Connection.Lagging
import WebServer.Proofs.Connection.Departing
import WebServer.Proofs.Connection.Backpressure
import WebServer.Proofs.Connection.Handling
import WebServer.Proofs.Connection.LifeCycle
import WebServer.Proofs.WebSocket.Idle
import WebServer.Proofs.Connection.Attended
import WebServer.Proofs.WebSocket.Sizes
import WebServer.Proofs.Connection.Bounds
import WebServer.Proofs.Requests.Upgrades
import WebServer.Proofs.Routing.Choice
import WebServer.Proofs.Connection.ReservedCodes
import WebServer.Proofs.Text.Utf8
import WebServer.Proofs.Stream.Lines
import WebServer.Proofs.Responses.Delimited
import WebServer.Proofs.Text.Raw
import WebServer.Proofs.Requests.Written
import WebServer.Proofs.Requests.Rendering
import WebServer.Proofs.Requests.Bodies
import WebServer.Proofs.Requests.Lengths
import WebServer.Proofs.Requests.Queries
import WebServer.Proofs.WebSocket.Refusals
import WebServer.Proofs.Stream.Rounds
import WebServer.Proofs.Regex.Enclosed
import WebServer.Proofs.Regex.Ends
import WebServer.Proofs.WebSocket.Offsets
import WebServer.Proofs.Routing.WholePaths
