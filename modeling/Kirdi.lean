import Kirdi.Lib.WrapSearch
import Kirdi.Lib.EventMachine
import Kirdi.Lib.Resumption
import Kirdi.Common.Crypto
import Kirdi.Server.Session
import Kirdi.Server.Login
import Kirdi.Common.Inet
import Kirdi.Lib.Directory
import Kirdi.Server.Server
import Kirdi.Server.Registry
import Kirdi.Server.Gate
import Kirdi.Lib.Fifo
import Kirdi.Transport.Transport
import Kirdi.Transport.WriteQueue
import Kirdi.Client.Client
import Kirdi.Client.Handlers
import Kirdi.Client.Loop
import Kirdi.Client.Reconnect
import Kirdi.Client.Superseded
import Kirdi.Client.Dns
import Kirdi.Tunnel.Fidelity
import Kirdi.Transport.Closing
import Kirdi.Tunnel.Refusal
import Kirdi.Client.Routes
import Kirdi.Client.RoutingLoop
import Kirdi.Server.Accepting
import Kirdi.Common.Codec
import Kirdi.Server.Routing
import Kirdi.Transport.Discipline
import Kirdi.Tunnel.Replies
import Kirdi.Server.Tenure
import Kirdi.Tunnel.Agreement
import Kirdi.Client.Readers
import Kirdi.Common.Hex
import Kirdi.Common.Tokens
import Kirdi.Client.Backoff
import Kirdi.Common.Config
import Kirdi.Tunnel.Exceptions
import Kirdi.Lib.CommandLine
import Kirdi.Client.Ifconfig
import Kirdi.Lib.Subnet
import Kirdi.Server.Allocation
import Kirdi.Tunnel.Drain
import Kirdi.Tunnel.Order
import Kirdi.Tunnel.Settings
import Kirdi.Vpn.Delivery
import Kirdi.Lib.RuleChain
import Kirdi.Netfilter.Commands
import Kirdi.Netfilter.Coverage
import Kirdi.Tun.Descriptors
import Kirdi.Tun.Framing
import Kirdi.Tun.Usage
import Kirdi.Lib.Options
import Kirdi.Startup.ClientMain
import Kirdi.Startup.ServerMain
import Kirdi.Client.Scutil
import Kirdi.Startup.Deployment
