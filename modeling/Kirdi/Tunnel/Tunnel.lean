import Kirdi.Client.Handlers
import Kirdi.Server.Session
import Kirdi.Tunnel.Lane

/-!
# `Tunnel.Tunnel` — a client and its session on the server

One connection from the moment it is made: the client with its `WsClientTransport`, the session with its
transport (of either kind), and the network between them. The read of one end completes with the oldest
message that the other one has written; its callback is `on_packet` of the client, `handle_packet` of the
session. A handler of the session that throws or never ends reads nothing more.

`tun_read_loop` of the client and that of the server are one thread each, so one packet at a time is inside `send`
in each direction. Frames of other types may be sent by any other thread of the client.
-/

set_option linter.dupNamespace false

namespace Kirdi
namespace Tunnel

open Protocol Crypto EventMachine
open Transport (Kind Op Handler)
open Client (Client Env)
open Server (ClientSession Outcome Call handlePacket)

structure Tunnel where
  client  : Client
  session : ClientSession
  up      : Lane
  down    : Lane

/-- Just connected: `on_connected` is about to send `hello`, the `AuthRequest`. -/
def Tunnel.start (client : Client) (session : ClientSession) (hello : Bytes) : Tunnel where
  client := client
  session := session
  up := ⟨Transport.Transport.start [.send hello], [], [], [], []⟩
  down := ⟨Transport.Transport.start [], [], [], [], []⟩

/-! ## The callback of the client -/

/-- The client at the start of a callback: its view of the transport, with nothing sent yet. -/
def attach (c : Client) (ws : Transport.Transport) : Client :=
  c.setConn c.ws fun t => { t with connected := ws.connected, closing := ws.closing, unsent := [] }

/-- What the callback has asked of the transport. -/
def asked (c : Client) (ws : Transport.Transport) : List Op :=
  match c.transports[c.ws]? with
  | none => []
  | some t => t.unsent.map Op.send ++ if t.closing && !ws.closing then [Op.close] else []

/-- The client after the callback for a message. -/
def Tunnel.dispatched (deps : Deps) (env : Env) (t : Tunnel) (message : Bytes) : Client :=
  ((dispatchPacket message (some (Client.onPacket deps env))).getD Proc.done).run (attach t.client t.up.ws)

/-- `fail` of the client's transport. -/
def Tunnel.failed (t : Tunnel) : Client :=
  if t.up.ws.closing then t.client else Client.onError.run t.client

/-! ## The callback of the session -/

def callOp : Call → Option Op
  | .send data => some (.send data)
  | .close => some .close
  | .onIpPacket _ _ => none

def callPacket : Call → Option Bytes
  | .onIpPacket _ packet => some packet
  | _ => none

/-- `handle_packet`, or nothing when the message is no packet. -/
def Tunnel.outcome (deps : Deps) (now : UInt64) (t : Tunnel) (message : Bytes) : Outcome :=
  (dispatchPacket message (some (handlePacket deps now t.session))).getD ⟨t.session, [], .returned⟩

/-- The session after the handler, its calls made. -/
def Tunnel.handled (k : Kind) (t : Tunnel) (o : Outcome) : Option Tunnel :=
  (t.down.drive k (.read (o.calls.filterMap callOp))).map fun down =>
    { t with session := o.session, down := down, up := t.up.take (o.calls.filterMap callPacket) }

/-! ## Steps -/

inductive Event where
  | tunPacket (packet : Bytes)                        -- read by `tun_read_loop` of the client
  | clientSend (type : MsgType) (payload : Bytes)     -- by another thread of the client
  | client (e : Transport.Event)
  | clientRead (env : Env)
  | clientReadError
  | clientWriteError
  | routed (packet : Bytes)                           -- by `route_to_client`, to this session
  | server (e : Transport.Event)
  | serverRead (now : UInt64)
  deriving DecidableEq, Repr

/-- The steps of the client's transport that carry no data of the client. -/
def clientStep : Transport.Event → Bool
  | .sendPush _ | .doWrite | .lock | .startWrite | .writeDone true | .advance => true
  | _ => false

/-- Those of the session's transport; `close` is the server's `stop`. -/
def serverStep : Transport.Event → Bool
  | .send _ | .read _ => false
  | _ => true

/-- The client's `io_context` runs, or is still in a handler. -/
def Tunnel.served (t : Tunnel) : Bool := !t.client.iocStopped || t.up.ws.handler.isSome

def step (deps : Deps) (k : Kind) (t : Tunnel) : Event → Option Tunnel
  | .tunPacket packet =>
      if 0 < t.client.tunLoops ∧ t.client.running = true ∧ t.client.tunOpen = true ∧ packet ≠ [] ∧
          t.up.entering = [] then
        match buildIpPacket packet with
        | .error _ => none
        | .ok data =>
            if t.up.ws.connected then some { t with up := t.up.give .wsClientTransport packet data } else some t
      else none
  | .clientSend type payload =>
      if type = .ipPacket then none
      else
        match buildPacket type.toByte payload with
        | .error _ => none
        | .ok data => (t.up.drive .wsClientTransport (.send data)).map fun up => { t with up := up }
  | .client e =>
      if clientStep e = true ∧ t.served = true then
        (t.up.drive .wsClientTransport e).map fun up => { t with up := up }
      else none
  | .clientRead env =>
      match t.down.net with
      | [] => none
      | message :: _ =>
          if t.served then
            let client := t.dispatched deps env message
            (t.up.drive .wsClientTransport (.read (asked client t.up.ws))).map fun up =>
              { t with
                client := client
                up := up
                down := t.down.take (client.delivered.drop t.client.delivered.length) }
          else none
  | .clientReadError =>
      if t.served then
        (t.up.drive .wsClientTransport .readError).map fun up => { t with client := t.failed, up := up }
      else none
  | .clientWriteError =>
      if t.served then
        (t.up.drive .wsClientTransport (.writeDone false)).map fun up => { t with client := t.failed, up := up }
      else none
  | .routed packet =>
      if t.session.authenticated = true ∧ 20 ≤ packet.length ∧ t.down.entering = [] then
        match Server.sendIpPacket packet with
        | .error _ => none
        | .ok data => some { t with down := t.down.give k packet data }
      else none
  | .server e =>
      if serverStep e then (t.down.drive k e).map fun down => { t with down := down } else none
  | .serverRead now =>
      match t.up.net with
      | [] => none
      | message :: _ =>
          let o := t.outcome deps now message
          if o.exit = .returned then t.handled k o else none

variable {deps : Deps} {k : Kind} {t t' : Tunnel} {e : Event} {message : Bytes} {rest : List Bytes}

/-! ## What a step does -/

/-- What each event does to the tunnel. -/
inductive Moves (deps : Deps) (k : Kind) (t : Tunnel) : Event → Tunnel → Prop where
  | packetSent {packet data : Bytes} (hfree : t.up.entering = []) (hbuilt : buildIpPacket packet = .ok data) :
      Moves deps k t (.tunPacket packet) { t with up := t.up.give .wsClientTransport packet data }
  | packetDropped (packet : Bytes) : Moves deps k t (.tunPacket packet) t
  | clientSend {type : MsgType} {payload data : Bytes} {up : Lane} (hty : type ≠ .ipPacket)
      (hbuilt : buildPacket type.toByte payload = .ok data)
      (hdrive : t.up.drive .wsClientTransport (.send data) = some up) :
      Moves deps k t (.clientSend type payload) { t with up := up }
  | client {ev : Transport.Event} {up : Lane} (hev : clientStep ev = true)
      (hdrive : t.up.drive .wsClientTransport ev = some up) : Moves deps k t (.client ev) { t with up := up }
  | clientRead {env : Env} {message : Bytes} {rest : List Bytes} {up : Lane} (hnet : t.down.net = message :: rest)
      (hdrive : t.up.drive .wsClientTransport (.read (asked (t.dispatched deps env message) t.up.ws)) = some up) :
      Moves deps k t (.clientRead env)
        { t with
          client := t.dispatched deps env message
          up := up
          down := t.down.take ((t.dispatched deps env message).delivered.drop t.client.delivered.length) }
  | clientReadError {up : Lane} (hdrive : t.up.drive .wsClientTransport .readError = some up) :
      Moves deps k t .clientReadError { t with client := t.failed, up := up }
  | clientWriteError {up : Lane} (hdrive : t.up.drive .wsClientTransport (.writeDone false) = some up) :
      Moves deps k t .clientWriteError { t with client := t.failed, up := up }
  | routed {packet data : Bytes} (hfree : t.down.entering = []) (hbuilt : Server.sendIpPacket packet = .ok data) :
      Moves deps k t (.routed packet) { t with down := t.down.give k packet data }
  | server {ev : Transport.Event} {down : Lane} (hev : serverStep ev = true) (hdrive : t.down.drive k ev = some down) :
      Moves deps k t (.server ev) { t with down := down }
  | serverRead {now : UInt64} {message : Bytes} {rest : List Bytes} {down : Lane}
      (hnet : t.up.net = message :: rest) (hexit : (t.outcome deps now message).exit = .returned)
      (hdrive : t.down.drive k (.read ((t.outcome deps now message).calls.filterMap callOp)) = some down) :
      Moves deps k t (.serverRead now)
        { t with
          session := (t.outcome deps now message).session
          down := down
          up := t.up.take ((t.outcome deps now message).calls.filterMap callPacket) }

/-- The session reads the message that has arrived first. -/
theorem serverRead_eq (now : UInt64) (hnet : t.up.net = message :: rest) :
    step deps k t (.serverRead now) =
      if (t.outcome deps now message).exit = .returned then t.handled k (t.outcome deps now message) else none := by
  unfold step
  simp only [hnet]

theorem step_moves (h : step deps k t e = some t') : Moves deps k t e t' := by
  cases e with
  | tunPacket packet =>
      obtain ⟨⟨-, -, -, -, hfree⟩, hsent⟩ := Option.ite_none_right_eq_some.mp h
      cases hbuilt : buildIpPacket packet with
      | error err =>
          rw [hbuilt] at hsent
          exact absurd hsent (by simp)
      | ok data =>
          simp only [hbuilt] at hsent
          split at hsent
          · cases hsent
            exact .packetSent hfree hbuilt
          · cases hsent
            exact .packetDropped packet
  | clientSend type payload =>
      obtain ⟨hty, hsent⟩ := Option.ite_none_left_eq_some.mp h
      cases hbuilt : buildPacket type.toByte payload with
      | error err =>
          rw [hbuilt] at hsent
          exact absurd hsent (by simp)
      | ok data =>
          rw [hbuilt] at hsent
          obtain ⟨up, hdrive, rfl⟩ := Option.map_eq_some_iff.mp hsent
          exact .clientSend hty hbuilt hdrive
  | client ev =>
      obtain ⟨⟨hev, -⟩, hsent⟩ := Option.ite_none_right_eq_some.mp h
      obtain ⟨up, hdrive, rfl⟩ := Option.map_eq_some_iff.mp hsent
      exact .client hev hdrive
  | clientRead env =>
      unfold step at h
      simp only at h
      split at h
      · exact absurd h (by simp)
      · rename_i message rest hnet
        obtain ⟨-, hread⟩ := Option.ite_none_right_eq_some.mp h
        obtain ⟨up, hdrive, rfl⟩ := Option.map_eq_some_iff.mp hread
        exact .clientRead hnet hdrive
  | clientReadError =>
      obtain ⟨-, hfailed⟩ := Option.ite_none_right_eq_some.mp h
      obtain ⟨up, hdrive, rfl⟩ := Option.map_eq_some_iff.mp hfailed
      exact .clientReadError hdrive
  | clientWriteError =>
      obtain ⟨-, hfailed⟩ := Option.ite_none_right_eq_some.mp h
      obtain ⟨up, hdrive, rfl⟩ := Option.map_eq_some_iff.mp hfailed
      exact .clientWriteError hdrive
  | routed packet =>
      obtain ⟨⟨-, -, hfree⟩, hsent⟩ := Option.ite_none_right_eq_some.mp h
      cases hbuilt : Server.sendIpPacket packet with
      | error err =>
          rw [hbuilt] at hsent
          exact absurd hsent (by simp)
      | ok data =>
          rw [hbuilt] at hsent
          cases hsent
          exact .routed hfree hbuilt
  | server ev =>
      obtain ⟨hev, hsent⟩ := Option.ite_none_right_eq_some.mp h
      obtain ⟨down, hdrive, rfl⟩ := Option.map_eq_some_iff.mp hsent
      exact .server hev hdrive
  | serverRead now =>
      cases hnet : t.up.net with
      | nil =>
          unfold step at h
          simp only [hnet] at h
          exact absurd h (by simp)
      | cons message rest =>
          rw [serverRead_eq now hnet] at h
          obtain ⟨hexit, hhandled⟩ := Option.ite_none_right_eq_some.mp h
          obtain ⟨down, hdrive, rfl⟩ := Option.map_eq_some_iff.mp hhandled
          exact .serverRead hnet hexit hdrive

end Tunnel
end Kirdi
