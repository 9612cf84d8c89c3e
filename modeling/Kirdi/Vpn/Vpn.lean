import Kirdi.Server.Tenure
import Kirdi.Tunnel.Order

/-!
# `Vpn.Vpn` — the server and its clients

The whole network: one server, the clients that have connected to it, and whatever else connects. A session
whose peer is a client of this program is one end of a `Tunnel`; the frames of any other peer are arbitrary. The
two TUN devices at the ends of a tunnel are where packets enter and leave: `tun_read_loop` of the server is one
thread for all the sessions, and all the sessions write to the one device of the server.
-/

set_option linter.dupNamespace false

namespace Kirdi
namespace Vpn

open Protocol EventMachine
open Transport (Kind)
open Client (Client)
open Server (ServerConfig Call)
open Tunnel (Tunnel)

structure Vpn where
  server  : Server.Server
  tunnels : UInt32 → Option Tunnel     -- the connections of clients, by session id
  routing : Option UInt32              -- the session whose `send` the server's `tun_read_loop` called last
  fromTun : List Bytes                 -- packets read by the server's `tun_read_loop`
  written : List (UInt32 × Bytes)      -- packets that sessions have passed to the server's `write_packet`

def Vpn.init (config : ServerConfig) : Vpn := ⟨Server.Server.init config, fun _ => none, none, [], []⟩

/-- `on_ip_packet_`, as `register_session` sets it. -/
def callWrite : Call → Option (UInt32 × Bytes)
  | .onIpPacket id packet => some (id, packet)
  | _ => none

inductive Event where
  | peer (e : Server.Event)            -- accepting, handshakes, frames of peers that are no clients, `stop`
  | connect (i : Nat) (uninit : UInt32) (client : Client) (now : Int64)   -- a client's handshake is complete
  | link (sid : UInt32) (e : Tunnel.Event)
  | tunPacket (data : Bytes)           -- read by the server's `tun_read_loop`

/-! ## Peers -/

/-- The frames of a client come through its tunnel. -/
def Vpn.admits (v : Vpn) : Server.Event → Bool
  | .frame sid _ _ _ => (v.tunnels sid).isNone
  | .tunPacket _ => false
  | _ => true

/-- The session that a completed handshake registers. -/
def Vpn.registers (v : Vpn) : Server.Event → Option UInt32
  | .wsAccept i true _ => v.server.handshakes[i]?.map Server.Handshake.sid
  | _ => none

/-- A peer that is no client takes the place of the session before it with the same id. -/
def Vpn.forget (v : Vpn) (e : Server.Event) : UInt32 → Option Tunnel :=
  match v.registers e with
  | none => v.tunnels
  | some sid => Function.update v.tunnels sid none

def Vpn.peer (deps : Deps) (v : Vpn) (e : Server.Event) : Option Vpn :=
  (Server.step deps v.server e).map fun s =>
    { v with
      server := s
      tunnels := v.forget e
      written := v.written ++ (v.server.calls deps e).filterMap callWrite }

/-! ## Clients -/

/-- The handshakes of both ends are complete; `on_connected` sends the login. -/
def Vpn.connect (deps : Deps) (v : Vpn) (i : Nat) (uninit : UInt32) (client : Client) (hello : Bytes) : Option Vpn :=
  (v.server.handshakes[i]?).bind fun c =>
    (Server.step deps v.server (.wsAccept i true uninit)).bind fun s =>
      (s.sessions c.sid).map fun session =>
        { v with
          server := s
          tunnels := Function.update v.tunnels c.sid (some (Tunnel.Tunnel.start client session hello)) }

/-- A step of one tunnel that does not concern the server. -/
def Vpn.proceed (deps : Deps) (k : Kind) (v : Vpn) (sid : UInt32) (t : Tunnel) (e : Tunnel.Event) : Option Vpn :=
  (Tunnel.step deps k t e).map fun t => { v with tunnels := Function.update v.tunnels sid (some t) }

/-- `on_read` of the session can run. -/
def readable (t : Tunnel) : Prop := t.down.ws.handler = none ∧ t.down.ws.reading = true

instance : DecidablePred readable := fun t =>
  inferInstanceAs (Decidable (t.down.ws.handler = none ∧ t.down.ws.reading = true))

/-- The session reads a packet. If the handler does not return, the tunnel stays as it is. -/
def Vpn.read (deps : Deps) (k : Kind) (v : Vpn) (sid : UInt32) (t : Tunnel) (now : UInt64) (hdr : PacketHeader)
    (payload : Bytes) : Option Vpn :=
  (Server.step deps v.server (.frame sid now hdr payload)).map fun s =>
    { v with
      server := s
      tunnels := Function.update v.tunnels sid (some ((Tunnel.step deps k t (.serverRead now)).getD t))
      written := v.written ++ (v.server.calls deps (.frame sid now hdr payload)).filterMap callWrite }

/-- The steps of a session's transport that run on its strand. -/
def onStrand : Transport.Event → Bool
  | .sendPush _ | .close | .closeReturn => false
  | _ => true

def Vpn.link (deps : Deps) (k : Kind) (v : Vpn) (sid : UInt32) (t : Tunnel) : Tunnel.Event → Option Vpn
  | .routed _ => none
  | .serverRead now =>
      if readable t ∧ v.server.ended = false ∧ sid ∉ v.server.stuck then
        match t.up.net with
        | [] => none
        | message :: _ =>
            match dispatchPacket message (some Prod.mk) with
            | none => v.proceed deps k sid t (.serverRead now)
            | some (hdr, payload) => v.read deps k sid t now hdr payload
      else none
  | .server e => if onStrand e = true ∧ sid ∈ v.server.stuck then none else v.proceed deps k sid t (.server e)
  | e => v.proceed deps k sid t e

/-! ## The server's TUN device -/

/-- `tun_read_loop` is still in the `send` of the packet before. -/
def Vpn.sending (v : Vpn) : Bool := (v.routing.bind v.tunnels).any fun t => !t.down.entering.isEmpty

/-- `route_to_client` of a packet that has been read. -/
def Vpn.onTunPacket (deps : Deps) (k : Kind) (v : Vpn) (data : Bytes) : Option Vpn :=
  (Server.step deps v.server (.tunPacket data)).bind fun s =>
    let v' := { v with server := s, fromTun := v.fromTun ++ [data] }
    match v.server.routeToClient data with
    | none => some v'
    | some sid =>
        match v.tunnels sid, Server.sendIpPacket data with
        | some t, .ok _ =>
            (Tunnel.step deps k t (.routed data)).map fun t =>
              { v' with routing := some sid, tunnels := Function.update v.tunnels sid (some t) }
        | _, _ => some v'

/-- A step of the network; `k` is the kind of the sessions' transports, by `tls_enabled`. -/
def step (deps : Deps) (k : Kind) (v : Vpn) : Event → Option Vpn
  | .peer e => if v.admits e then v.peer deps e else none
  | .connect i uninit client now =>
      match Client.authRequest deps client.config now with
      | .error _ => none
      | .ok hello => v.connect deps i uninit client hello
  | .link sid e =>
      match v.tunnels sid with
      | none => none
      | some t => v.link deps k sid t e
  | .tunPacket data => if v.sending then none else v.onTunPacket deps k data

/-- The packets that a session has written. -/
def Vpn.writtenBy (v : Vpn) (sid : UInt32) : List Bytes :=
  v.written.filterMap fun w => if w.1 = sid then some w.2 else none

variable {deps : Deps} {k : Kind} {v v' : Vpn} {e : Event} {sid : UInt32}

/-! ## What a step does -/

/-- What each event does to the network. -/
inductive Moves (deps : Deps) (k : Kind) (v : Vpn) : Event → Vpn → Prop where
  | peer {e : Server.Event} {s : Server.Server} (hadmits : v.admits e = true)
      (hserver : Server.step deps v.server e = some s) :
      Moves deps k v (.peer e)
        { v with
          server := s
          tunnels := v.forget e
          written := v.written ++ (v.server.calls deps e).filterMap callWrite }
  | connect {i : Nat} {uninit : UInt32} {client : Client} {now : Int64} {hello : Bytes} {c : Server.Handshake}
      {s : Server.Server} {session : Server.ClientSession}
      (hhello : Client.authRequest deps client.config now = .ok hello) (hi : v.server.handshakes[i]? = some c)
      (hserver : Server.step deps v.server (.wsAccept i true uninit) = some s)
      (hsession : s.sessions c.sid = some session) :
      Moves deps k v (.connect i uninit client now)
        { v with
          server := s
          tunnels := Function.update v.tunnels c.sid (some (Tunnel.Tunnel.start client session hello)) }
  | proceed {sid : UInt32} {t t' : Tunnel} {e : Tunnel.Event} (ht : v.tunnels sid = some t)
      (hrouted : ∀ packet, e ≠ .routed packet)
      (hread : ∀ now, e = .serverRead now →
        ∃ message rest, t.up.net = message :: rest ∧ dispatchPacket message (some Prod.mk) = none)
      (hstep : Tunnel.step deps k t e = some t') :
      Moves deps k v (.link sid e) { v with tunnels := Function.update v.tunnels sid (some t') }
  | read {sid : UInt32} {t : Tunnel} {now : UInt64} {message : Bytes} {rest : List Bytes} {hdr : PacketHeader}
      {payload : Bytes} {s : Server.Server} (ht : v.tunnels sid = some t) (hended : v.server.ended = false)
      (hready : readable t) (hnet : t.up.net = message :: rest)
      (hdispatch : dispatchPacket message (some Prod.mk) = some (hdr, payload))
      (hserver : Server.step deps v.server (.frame sid now hdr payload) = some s) :
      Moves deps k v (.link sid (.serverRead now))
        { v with
          server := s
          tunnels := Function.update v.tunnels sid (some ((Tunnel.step deps k t (.serverRead now)).getD t))
          written := v.written ++ (v.server.calls deps (.frame sid now hdr payload)).filterMap callWrite }
  | unrouted {data : Bytes} {s : Server.Server} (hserver : Server.step deps v.server (.tunPacket data) = some s) :
      Moves deps k v (.tunPacket data) { v with server := s, fromTun := v.fromTun ++ [data] }
  | routed {data : Bytes} {s : Server.Server} {sid : UInt32} {t t' : Tunnel}
      (hserver : Server.step deps v.server (.tunPacket data) = some s)
      (hroute : v.server.routeToClient data = some sid) (ht : v.tunnels sid = some t)
      (hstep : Tunnel.step deps k t (.routed data) = some t') :
      Moves deps k v (.tunPacket data)
        { v with
          server := s
          fromTun := v.fromTun ++ [data]
          routing := some sid
          tunnels := Function.update v.tunnels sid (some t') }

theorem proceed_moves {t : Tunnel} {e : Tunnel.Event} (ht : v.tunnels sid = some t)
    (hrouted : ∀ packet, e ≠ .routed packet)
    (hread : ∀ now, e = .serverRead now →
      ∃ message rest, t.up.net = message :: rest ∧ dispatchPacket message (some Prod.mk) = none)
    (h : v.proceed deps k sid t e = some v') : Moves deps k v (.link sid e) v' := by
  obtain ⟨t', hstep, rfl⟩ := Option.map_eq_some_iff.mp h
  exact .proceed ht hrouted hread hstep

theorem link_moves {t : Tunnel} {e : Tunnel.Event} (ht : v.tunnels sid = some t)
    (h : v.link deps k sid t e = some v') : Moves deps k v (.link sid e) v' := by
  cases e with
  | routed packet => exact absurd h (by simp [Vpn.link])
  | serverRead now =>
      obtain ⟨⟨hready, hended, -⟩, h⟩ := Option.ite_none_right_eq_some.mp h
      cases hnet : t.up.net with
      | nil =>
          simp only [hnet] at h
          exact absurd h (by simp)
      | cons message rest =>
          simp only [hnet] at h
          cases hdispatch : dispatchPacket message (some Prod.mk) with
          | none =>
              simp only [hdispatch] at h
              exact proceed_moves ht (by simp) (fun _ _ => ⟨message, rest, hnet, hdispatch⟩) h
          | some p =>
              obtain ⟨hdr, payload⟩ := p
              simp only [hdispatch] at h
              obtain ⟨s, hserver, rfl⟩ := Option.map_eq_some_iff.mp h
              exact .read ht hended hready hnet hdispatch hserver
  | server ev =>
      obtain ⟨-, h⟩ := Option.ite_none_left_eq_some.mp h
      exact proceed_moves ht (by simp) (by simp) h
  | tunPacket | clientSend | client | clientRead | clientReadError | clientWriteError =>
      exact proceed_moves ht (by simp) (by simp) h

theorem onTunPacket_moves {data : Bytes} (h : v.onTunPacket deps k data = some v') :
    Moves deps k v (.tunPacket data) v' := by
  obtain ⟨s, hserver, h⟩ := Option.bind_eq_some_iff.mp h
  simp only at h
  split at h
  · cases h
    exact .unrouted hserver
  · rename_i sid hroute
    split at h
    · rename_i t frame ht hsend
      obtain ⟨t', hstep, rfl⟩ := Option.map_eq_some_iff.mp h
      exact .routed hserver hroute ht hstep
    · cases h
      exact .unrouted hserver

theorem step_moves (h : step deps k v e = some v') : Moves deps k v e v' := by
  cases e with
  | peer e =>
      obtain ⟨hadmits, h⟩ := Option.ite_none_right_eq_some.mp h
      obtain ⟨s, hserver, rfl⟩ := Option.map_eq_some_iff.mp h
      exact .peer hadmits hserver
  | connect i uninit client now =>
      cases hhello : Client.authRequest deps client.config now with
      | error err =>
          unfold step at h
          simp only [hhello] at h
          exact absurd h (by simp)
      | ok hello =>
          unfold step at h
          simp only [hhello] at h
          obtain ⟨c, hi, h⟩ := Option.bind_eq_some_iff.mp h
          obtain ⟨s, hserver, h⟩ := Option.bind_eq_some_iff.mp h
          obtain ⟨session, hsession, rfl⟩ := Option.map_eq_some_iff.mp h
          exact .connect hhello hi hserver hsession
  | link sid e =>
      unfold step at h
      simp only at h
      split at h
      · exact absurd h (by simp)
      · rename_i t ht
        exact link_moves ht h
  | tunPacket data =>
      obtain ⟨-, h⟩ := Option.ite_none_left_eq_some.mp h
      exact onTunPacket_moves h

end Vpn
end Kirdi
