import Fauna.Lib.Transition
import Fauna.Lib.Lines
import Fauna.Lib.Base64
import Fauna.Lib.JsonText
import Fauna.Lib.DolevYao
import Fauna.Core.Primitives
import Fauna.Core.Identity
import Fauna.Core.Export
import Fauna.Wire.Messages
import Fauna.Symbolic.Model
import Fauna.Symbolic.Invariant
import Fauna.Symbolic.Authentication
import Fauna.Symbolic.Agreement
import Fauna.Wire.Frames
import Fauna.Wire.Receive
import Fauna.Wire.PeerBytes
import Fauna.Net.Machine
import Fauna.Net.Steps
import Fauna.Net.Link
import Fauna.Net.Flow
import Fauna.Net.Progress
import Fauna.Net.Handshake
import Fauna.Net.Closing
import Fauna.Desktop.App
import Fauna.Desktop.World
import Fauna.Desktop.Shown
import Fauna.Desktop.Ending
import Fauna.Desktop.Chat
import Fauna.Dial.Calls
import Fauna.Lib.Cut
import Fauna.Lib.Socks5
import Fauna.Tor.Socks
import Fauna.Dial.Address
import Fauna.Dial.Connect
import Fauna.Dial.Join
import Fauna.Symbolic.Names
import Fauna.Lib.Hex
import Fauna.Tor.Control
import Fauna.Lib.ControlPort
import Fauna.Tor.Login
import Fauna.Dial.Host
import Fauna.Dial.Onion
import Fauna.Dial.Advertise
import Fauna.Desktop.Thread
import Fauna.Desktop.Events
import Fauna.Tor.Managed
import Fauna.Desktop.Runtime
import Fauna.Tor.Hex
import Fauna.Wire.Hellos
import Fauna.Lib.IpLiteral
import Fauna.Dial.Loopback
import Fauna.Lib.ControlReply
import Fauna.Tor.Replies
import Fauna.Lib.Handler
import Fauna.Lib.Polling
import Fauna.Dial.Retry
import Fauna.Tor.Waiting
import Fauna.Desktop.Replaced
import Fauna.Net.Delivery
import Fauna.Desktop.Delivered
import Fauna.Lib.Leaks
import Fauna.Symbolic.Leaks
import Fauna.Dial.TorNetwork
import Fauna.Dial.Rendezvous
import Fauna.Desktop.Frame
import Fauna.Desktop.Display
import Fauna.Cli.Terminal
import Fauna.Cli.Output
import Fauna.Symbolic.Posing
