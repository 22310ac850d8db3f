import Sessionbus.Protocol
import Sessionbus.Maps
import Sessionbus.Text
import Sessionbus.Traces
import Sessionbus.Wire
import Sessionbus.Session.State
import Sessionbus.Session.Spec
import Sessionbus.Session.Quiet
import Sessionbus.Session.Moves
import Sessionbus.Session.Issue
import Sessionbus.Session.Queue
import Sessionbus.Session.Capacity
import Sessionbus.Session.Promise
import Sessionbus.Worker.Spec
import Sessionbus.Pair.Spec
import Sessionbus.Pair.View
import Sessionbus.Pair.Agree
import Sessionbus.Pair.Daemon
import Sessionbus.Pair.Kit
import Sessionbus.Pair.Work
import Sessionbus.Names
import Sessionbus.Pair.Runs
import Sessionbus.Frame
import Sessionbus.Session.Ledger
import Sessionbus.Session.Answered
import Sessionbus.Session.Requests
import Sessionbus.Peer
import Sessionbus.Directory.Represents
import Sessionbus.Directory.Transaction
import Sessionbus.Directory.State
import Sessionbus.Directory.Runs
import Sessionbus.Json.Node
import Sessionbus.Schema.Definitions
import Sessionbus.Schema.Accepts
import Sessionbus.Schema.Script
import Sessionbus.Json.Text
import Sessionbus.Protocol.DecodeFrame
import Sessionbus.Protocol.Typed
import Sessionbus.Json.Rounding
import Sessionbus.Json.LastWins
import Sessionbus.Protocol.Decoding
import Sessionbus.Directory.Rows
import Sessionbus.Directory.Visible
import Sessionbus.Message.Send
import Sessionbus.Message.Legal
import Sessionbus.InOrder
import Sessionbus.Message.Federated
import Sessionbus.Schema.Shapes
import Sessionbus.Message.Merge
import Sessionbus.Directory.Private
import Sessionbus.Tiling
import Sessionbus.CommsLog.Spec
import Sessionbus.CommsLog.Accounting
import Sessionbus.Session.Deadline
import Sessionbus.Worker.Cursor
import Sessionbus.Js.Alike
import Sessionbus.Rpc.Calls
import Sessionbus.Directory.Listed
import Sessionbus.PeerKit.Converge
import Sessionbus.Federation.Forward
import Sessionbus.CommsLog.Attribution
import Sessionbus.Directory.Ends
import Sessionbus.Directory.Claims
import Sessionbus.Json.Spell
import Sessionbus.Protocol.Written
import Sessionbus.Directory.Table
import Sessionbus.Directory.Policy
import Sessionbus.Session.Blocking
import Sessionbus.Session.FollowUp
import Sessionbus.Directory.Retiring
import Sessionbus.Directory.Owners
import Sessionbus.Federation.Trace
import Sessionbus.Directory.Tracing
import Sessionbus.Directory.Eligible
import Sessionbus.Directory.Notices
import Sessionbus.Directory.Orphans
import Sessionbus.Segments
import Sessionbus.CommsLog.File
import Sessionbus.CommsLog.Rotation
import Sessionbus.Federation.Calls
