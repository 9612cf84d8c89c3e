import Kirdi.Client.Host
import Kirdi.Common.Crypto
import Kirdi.Lib.EventMachine
import Kirdi.Lib.Resumption

/-!
# `Client.Client` — the client and its transports

The client as a machine driven by what its `io_context` reports: the outcome of each phase of a connection
attempt, frames, read and write errors, timers. The `io_context` runs on one thread, so handlers follow one
another; but `stop` is called from a signal handler, which may run between any two steps of a handler. A
handler is therefore a `Proc`, whose steps are the assignments and the shell commands.

A transport that `schedule_reconnect` has replaced lives on as long as an operation of it is outstanding,
and its callbacks lead into the same client.
-/

set_option linter.dupNamespace false

namespace Kirdi
namespace Client

open Protocol Crypto Proc

structure ClientConfig where
  platform  : Platform
  authUser  : Bytes
  authToken : Bytes
  mtu       : UInt32
  autoRoute : Bool
  dnsServer : Bytes

/-- How far a connection has come; `over` after a failed attempt. -/
inductive Stage where
  | resolve
  | tcpConnect
  | sslHandshake
  | wsHandshake
  | opened
  | over
  deriving DecidableEq, Repr

/-- A `WsClientTransport`, as the client sees it. -/
structure Conn where
  stage     : Stage
  connected : Bool
  closing   : Bool
  reading   : Bool           -- an `async_read` is outstanding
  unsent    : List Bytes     -- frames passed to `send` and not written yet
  broken    : Bool           -- a write has failed
  deriving DecidableEq, Repr

structure TunConfig where
  address     : Bytes
  peerAddress : Bytes
  netmask     : Bytes
  mtu         : UInt32
  deriving DecidableEq, Repr

structure Tun where
  id            : Nat
  config        : TunConfig
  isOpen        : Bool
  interfaceName : Bytes
  deriving DecidableEq, Repr

structure Client where
  config           : ClientConfig
  running          : Bool
  connected        : Bool
  reconnectAttempt : UInt32
  virtualIp        : Bytes
  serverIp         : Bytes
  originalGateway  : Bytes
  tun              : Option Tun
  tunsCreated      : Nat
  tunLoops         : Nat              -- `tun_read_loop` threads started
  delivered        : List Bytes       -- packets passed to `tun_->write_packet`
  ws               : Nat              -- the current transport
  transports       : List Conn        -- all of them, oldest first
  timers           : List UInt32      -- the delays of the armed reconnect timers
  iocStopped       : Bool             -- `ioc_` was stopped, or an exception has escaped `ioc_.run()`
  host             : Host

/-- What the environment decides during one handler. -/
structure Env where
  tunOpens        : Bool
  interfaceName   : Bytes
  hostRoute       : Bool
  hostRouteMetric : Bool
  lowHalf         : Bool
  highHalf        : Bool
  scripted        : Scripted          -- when `dns_server` is more than a text
  deriving DecidableEq, Repr

/-- A transport that starts to connect. -/
def Conn.fresh : Conn := ⟨.resolve, false, false, false, [], false⟩

/-- After `run` has called `connect`, just before `ioc_.run()`. -/
def Client.start (config : ClientConfig) (serverIp originalGateway : Bytes) (host : Host) : Client where
  config := config
  running := true
  connected := false
  reconnectAttempt := 0
  virtualIp := []
  serverIp := serverIp
  originalGateway := originalGateway
  tun := none
  tunsCreated := 0
  tunLoops := 0
  delivered := []
  ws := 0
  transports := [Conn.fresh]
  timers := []
  iocStopped := false
  host := host

/-- Change one transport. -/
def Client.setConn (c : Client) (i : Nat) (f : Conn → Conn) : Client :=
  { c with transports := c.transports.modify i f }

/-- `WsClientTransport::send`. -/
def Conn.send (t : Conn) (data : Bytes) : Conn :=
  if t.closing then t else { t with unsent := t.unsent ++ [data] }

/-- `WsClientTransport::do_read`. -/
def Conn.doRead (t : Conn) : Conn := if t.closing then t else { t with reading := true }

/-! ## Routes and DNS -/

/-- `std::system` of a command whose exit status is looked at. -/
def system (cmd : Client → Host × Bool) (next : Bool → Proc Client) : Proc Client :=
  .act (fun c => { c with host := (cmd c).1 }) fun c => next (cmd c).2

/-- `std::system` of a command whose exit status is not. -/
def perform (cmd : Client → Host) : Proc Client := atom fun c => { c with host := cmd c }

def Client.interfaceName (c : Client) : Bytes := (c.tun.map Tun.interfaceName).getD []

/-- The two catch-all routes. -/
def addHalves (env : Env) : Proc Client :=
  (perform fun c => (c.host.routeAdd .lowHalf (.dev c.interfaceName) env.lowHalf).1).andThen
    (perform fun c => (c.host.routeAdd .highHalf (.dev c.interfaceName) env.highHalf).1)

/-- `Client::setup_routes`. -/
def setupRoutes (env : Env) : Proc Client :=
  branch (fun c => c.serverIp.isEmpty || c.originalGateway.isEmpty) done <|
    branch (fun c => c.config.platform = .linux)
      (system (fun c => c.host.routeAdd (.host c.serverIp) (.via c.originalGateway) env.hostRoute)
        fun ok =>
          if ok then addHalves env
          else
            -- once more with a metric; its outcome is not looked at
            (perform fun c =>
              (c.host.routeAdd (.host c.serverIp) (.via c.originalGateway) env.hostRouteMetric).1).andThen
              (addHalves env))
      (system (fun c => c.host.routeAdd (.host c.serverIp) (.via c.originalGateway) env.hostRoute)
        fun ok => if ok then addHalves env else done)

/-- `Client::teardown_routes`. -/
def teardownRoutes : Proc Client :=
  branch (fun c => c.config.autoRoute)
    ((perform fun c => c.host.routeDel .lowHalf).andThen <|
      (perform fun c => c.host.routeDel .highHalf).andThen <|
        branch (fun c => c.serverIp.isEmpty) done (perform fun c => c.host.routeDel (.host c.serverIp)))
    done

/-- `Client::setup_dns`. -/
def setupDns (env : Env) : Proc Client :=
  branch (fun c => c.config.dnsServer.isEmpty) done <|
    branch (fun c => c.config.platform = .macos)
      (perform fun c => c.host.scutilSet c.config.dnsServer env.scripted)
      ((perform fun c => c.host.cpBackup).andThen
        (perform fun c => c.host.echoNameserver c.config.dnsServer env.scripted))

/-- `Client::teardown_dns`. -/
def teardownDns : Proc Client :=
  branch (fun c => c.config.dnsServer.isEmpty) done <|
    branch (fun c => c.config.platform = .macos)
      (perform fun c => c.host.scutilRemove)
      (perform fun c => c.host.mvBackup)

/-! ## Stopping and reconnecting -/

/-- `tun_->close()`. -/
def Client.closeTun (c : Client) : Client := { c with tun := c.tun.map fun d => { d with isOpen := false } }

/-- `WsClientTransport::close` of the current transport. -/
def Client.closeWs (c : Client) : Client := c.setConn c.ws fun t => { t with closing := true, connected := false }

/-- `Client::stop`. -/
def stop : Proc Client :=
  .act (fun c => { c with running := false }) fun c =>
    if !c.running then done
    else
      (atom Client.closeWs).andThen <|
        (atom fun c => { c with iocStopped := true }).andThen <|
          teardownDns.andThen <| teardownRoutes.andThen <| atom Client.closeTun

/-- `MAX_RECONNECT_DELAY_SEC`. -/
def maxReconnectDelaySec : UInt32 := 60

/-- The delay that `schedule_reconnect` computes from the incremented counter. -/
def reconnectDelay (attempt : UInt32) : UInt32 := min ((1 : UInt32) <<< min (attempt - 1) 5) maxReconnectDelaySec

/-- `Client::schedule_reconnect`. -/
def scheduleReconnect : Proc Client :=
  (atom fun c => { c with reconnectAttempt := c.reconnectAttempt + 1 }).andThen
    (atom fun c => { c with timers := c.timers ++ [reconnectDelay c.reconnectAttempt] })

/-- `Client::on_error`. -/
def onError : Proc Client :=
  .act (fun c => { c with connected := false }) fun c =>
    if !c.connected then done  -- already handling error
    else
      teardownDns.andThen <| teardownRoutes.andThen <|
        (atom Client.closeTun).andThen <| (atom fun c => { c with tun := none }).andThen <|
          branch (fun c => c.running) scheduleReconnect done

/-- `WsClientTransport::fail`. -/
def fail (i : Nat) : Proc Client :=
  branch (fun c => (c.transports[i]?.map Conn.closing).getD true) done <|
    (atom fun c => c.setConn i fun t => { t with connected := false }).andThen onError

/-! ## Logging in -/

/-- The frame that `Client::send_auth` builds at client time `now`; `error` is an exception of `dump` or
    `build_packet`. -/
def authRequest (deps : Deps) (config : ClientConfig) (now : Int64) : Except String Bytes :=
  let token := buildAuthToken deps config.authUser config.authToken now.toUInt64
  let authJson : Json := .object [(ascii "user", .string config.authUser),
    (ascii "token", .string token), (ascii "timestamp", .numberInteger now)]
  match deps.dump authJson with
  | none => .error "[json.exception.type_error.316] invalid UTF-8 byte"
  | some authStr => buildPacket MsgType.authRequest.toByte authStr

/-- `ws_->send`. -/
def Client.sendWs (c : Client) (data : Bytes) : Client := c.setConn c.ws fun t => t.send data

/-- An exception escapes `ioc_.run()`: the rest of the handler does not run, and no other handler does. -/
def escape : Proc Client := atom fun c => { c with iocStopped := true }

/-- `on_connect_` of transport `i`, then `do_read`. -/
def onConnected (deps : Deps) (now : Int64) (i : Nat) : Proc Client :=
  (atom fun c => { c with connected := true }).andThen <|
    (atom fun c => { c with reconnectAttempt := 0 }).andThen <|
      .act id fun c =>
        match authRequest deps c.config now with
        | .error _ => escape
        | .ok pkt => (atom fun c => c.sendWs pkt).andThen (atom fun c => c.setConn i Conn.doRead)

/-- What the `AuthResponse` case reads from a payload. -/
inductive AuthVerdict where
  | malformed                                      -- an exception before anything is assigned
  | rejected
  | partlyRead (virtualIp : Bytes)                 -- an exception after `virtual_ip_` is assigned
  | accepted (virtualIp : Bytes) (tunCfg : TunConfig)
  deriving DecidableEq, Repr

def readAuthResponse (deps : Deps) (mtu : UInt32) (payload : Bytes) : AuthVerdict :=
  match deps.parse payload with
  | none => .malformed
  | some j =>
      match j.value Json.getBool (ascii "ok") false with
      | .error _ => .malformed
      | .ok false => .rejected
      | .ok true =>
          match j.value Json.getString (ascii "tun_ip") (ascii "10.8.0.2") with
          | .error _ => .malformed
          | .ok virtualIp =>
              let rest : Except JsonError TunConfig := do
                let serverTunIp ← j.value Json.getString (ascii "tun_server_ip") (ascii "10.8.0.1")
                let tunMask ← j.value Json.getString (ascii "tun_mask") (ascii "255.255.255.0")
                let tunMtu ← j.value Json.getUInt32 (ascii "mtu") mtu
                return ⟨virtualIp, serverTunIp, tunMask, tunMtu⟩
              match rest with
              | .error _ => .partlyRead virtualIp
              | .ok tunCfg => .accepted virtualIp tunCfg

/-- `tun_ = create_tun_device()`. -/
def Client.createTun (c : Client) (tunCfg : TunConfig) : Client :=
  { c with tun := some ⟨c.tunsCreated, tunCfg, false, []⟩, tunsCreated := c.tunsCreated + 1 }

/-- `tun_->open(tun_cfg)` that succeeds. -/
def Client.openTun (c : Client) (interfaceName : Bytes) : Client :=
  { c with tun := c.tun.map fun d => { d with isOpen := true, interfaceName := interfaceName } }

/-- An accepted login. -/
def onAccepted (env : Env) (virtualIp : Bytes) (tunCfg : TunConfig) : Proc Client :=
  (atom fun c => { c with virtualIp := virtualIp }).andThen <|
    (atom fun c => c.createTun tunCfg).andThen <|
      if !env.tunOpens then stop
      else
        (atom fun c => c.openTun env.interfaceName).andThen <|
          (branch (fun c => c.config.autoRoute) ((setupRoutes env).andThen (setupDns env)) done).andThen <|
            atom fun c => { c with tunLoops := c.tunLoops + 1 }

/-- The `AuthResponse` case of `Client::on_packet`. -/
def onAuthResponse (deps : Deps) (env : Env) (payload : Bytes) : Proc Client :=
  .act id fun c =>
    match readAuthResponse deps c.config.mtu payload with
    | .malformed => done
    | .rejected => stop
    | .partlyRead virtualIp => atom fun c => { c with virtualIp := virtualIp }
    | .accepted virtualIp tunCfg => onAccepted env virtualIp tunCfg

/-- `tun_ && tun_->is_open()`. -/
def Client.tunOpen (c : Client) : Bool := (c.tun.map Tun.isOpen).getD false

/-- `ws_ && ws_->is_connected()`. -/
def Client.wsConnected (c : Client) : Bool := (c.transports[c.ws]?.map Conn.connected).getD false

/-- `Client::on_packet`. -/
def onPacket (deps : Deps) (env : Env) (hdr : PacketHeader) (payload : Bytes) : Proc Client :=
  match MsgType.ofByte hdr.type with
  | some .authResponse => onAuthResponse deps env payload
  | some .ipPacket =>
      branch Client.tunOpen (atom fun c => { c with delivered := c.delivered ++ [payload] }) done
  | some .keepalive =>
      branch Client.wsConnected
        (match buildKeepalive with
          | .ok pkt => atom fun c => c.sendWs pkt
          | .error _ => done)
        done
  | _ => done

/-! ## The handlers of the `io_context` -/

inductive Event where
  | resolved (i : Nat) (ok : Bool)
  | tcpConnected (i : Nat) (ok : Bool)  -- not `ok` also when the SNI name cannot be set
  | noDelayThrows (i : Nat)             -- connected, but `set_option(no_delay)` throws
  | sslHandshaken (i : Nat) (ok : Bool)
  | wsHandshaken (i : Nat) (ok : Bool) (now : Int64)
  | read (i : Nat) (message : Bytes) (env : Env)
  | readError (i : Nat)
  | writeDone (i : Nat) (ok : Bool)
  | timer (j : Nat)
  deriving DecidableEq, Repr

/-- The transport that an event comes from. -/
def Event.transport : Event → Option Nat
  | .resolved i _ | .tcpConnected i _ | .noDelayThrows i | .sslHandshaken i _ | .wsHandshaken i _ _
  | .read i _ _ | .readError i | .writeDone i _ => some i
  | .timer _ => none

def setStage (i : Nat) (stage : Stage) : Proc Client :=
  atom fun c => c.setConn i fun t => { t with stage := stage }

/-- A phase of connecting transport `i`: on to the next one, or the attempt is over. -/
def onPhase (i : Nat) (ok : Bool) (next : Stage) : Proc Client :=
  if ok then setStage i next else (setStage i .over).andThen (fail i)

/-- `WsClientTransport::on_ws_handshake`. -/
def onWsHandshake (deps : Deps) (i : Nat) (ok : Bool) (now : Int64) : Proc Client :=
  if ok then
    (atom fun c => c.setConn i fun t => { t with stage := .opened, connected := true }).andThen
      (onConnected deps now i)
  else (setStage i .over).andThen (fail i)

/-- `WsClientTransport::on_read` of a message. -/
def onRead (deps : Deps) (i : Nat) (message : Bytes) (env : Env) : Proc Client :=
  (atom fun c => c.setConn i fun t => { t with reading := false }).andThen <|
    ((dispatchPacket message (some (onPacket deps env))).getD done).andThen <|
      atom fun c => c.setConn i Conn.doRead

/-- `WsClientTransport::on_read` of an error. -/
def onReadError (i : Nat) : Proc Client :=
  (atom fun c => c.setConn i fun t => { t with reading := false, connected := false }).andThen (fail i)

/-- `WsClientTransport::on_write`. -/
def onWrite (i : Nat) (ok : Bool) : Proc Client :=
  if ok then atom fun c => c.setConn i fun t => { t with unsent := t.unsent.tail }
  else (atom fun c => c.setConn i fun t => { t with broken := true }).andThen (fail i)

/-- The handler of a reconnect timer. -/
def onTimer (j : Nat) : Proc Client :=
  (atom fun c => { c with timers := c.timers.eraseIdx j }).andThen <|
    branch (fun c => c.running)
      (atom fun c => { c with transports := c.transports ++ [Conn.fresh], ws := c.transports.length })
      done

def handler (deps : Deps) : Event → Proc Client
  | .resolved i ok => onPhase i ok .tcpConnect
  | .tcpConnected i ok => onPhase i ok .sslHandshake
  | .noDelayThrows i => (setStage i .over).andThen escape
  | .sslHandshaken i ok => onPhase i ok .wsHandshake
  | .wsHandshaken i ok now => onWsHandshake deps i ok now
  | .read i message env => onRead deps i message env
  | .readError i => onReadError i
  | .writeDone i ok => onWrite i ok
  | .timer j => onTimer j

/-- The operation that the event completes is outstanding. -/
def Client.awaits (c : Client) : Event → Bool
  | .resolved i _ => c.transports[i]?.any fun t => t.stage = .resolve
  | .tcpConnected i _ => c.transports[i]?.any fun t => t.stage = .tcpConnect
  | .noDelayThrows i => c.transports[i]?.any fun t => t.stage = .tcpConnect
  | .sslHandshaken i _ => c.transports[i]?.any fun t => t.stage = .sslHandshake
  | .wsHandshaken i _ _ => c.transports[i]?.any fun t => t.stage = .wsHandshake
  | .read i _ _ => c.transports[i]?.any fun t => t.reading
  | .readError i => c.transports[i]?.any fun t => t.reading
  | .writeDone i _ => c.transports[i]?.any fun t => !t.unsent.isEmpty && !t.broken
  | .timer j => j < c.timers.length

inductive Input where
  | handle (e : Event)
  | signalled (e : Event) (k : Nat)     -- `stop` from a signal handler, after `k` steps of the handler
  | stop
  | tunPacket (data : Bytes)            -- `tun_read_loop` has read an IP packet
  deriving DecidableEq, Repr

/-- What `tun_read_loop` does with a packet. -/
def Client.onTunPacket (c : Client) (data : Bytes) : Client :=
  match buildIpPacket data with
  | .error _ => c
  | .ok pkt => if c.wsConnected then c.sendWs pkt else c

def step (deps : Deps) (c : Client) : Input → Option Client
  | .handle e =>
      if c.iocStopped = false ∧ c.awaits e = true then some ((handler deps e).run c) else none
  | .signalled e k =>
      if c.iocStopped = false ∧ c.awaits e = true then
        some ((handler deps e).runInterrupted stop.run k c)
      else none
  | .stop => some (stop.run c)
  | .tunPacket data =>
      if 0 < c.tunLoops ∧ c.running = true ∧ c.tunOpen = true ∧ data ≠ [] ∧ data.length ≤ maxPayload then
        some (c.onTunPacket data)
      else none

/-! ## A client to run -/

def sampleConfig : ClientConfig where
  platform := .linux
  authUser := ascii "kirdi"
  authToken := ascii "secret"
  mtu := 1400
  autoRoute := true
  dnsServer := ascii "10.8.0.1"

def sampleHost : Host where
  resolvConf := ascii "nameserver 192.0.2.53\n"
  backup := none
  scutilDns := none
  routes _ := none

/-- A client on Linux that has started to connect. -/
def sampleClient : Client :=
  Client.start sampleConfig (ascii "203.0.113.1") (ascii "192.168.1.1") sampleHost

/-- Every command succeeds. -/
def sampleEnv : Env := ⟨true, ascii "kirdi0", true, true, true, true, ⟨[], none, none⟩⟩

def sampleResponse : Json := .object [(ascii "ok", .boolean true), (ascii "tun_ip", .string (ascii "10.8.0.2"))]

def sampleResponseText : Bytes := (dumpFlat sampleResponse).getD []

def responseDeps : Deps := Deps.table [(sampleResponseText, sampleResponse)]

/-- The frame of an accepting `AuthResponse`. -/
def sampleAuthResponse : Bytes := frame MsgType.authResponse.toByte sampleResponseText

/-- Transport `i` connects and is logged in. -/
def loginEvents (i : Nat) : List Input :=
  [.handle (.resolved i true), .handle (.tcpConnected i true), .handle (.sslHandshaken i true),
    .handle (.wsHandshaken i true 1000), .handle (.read i sampleAuthResponse sampleEnv)]

end Client
end Kirdi
