import Kirdi.Common.Inet
import Kirdi.Lib.EventMachine
import Kirdi.Server.Session

/-!
# `Server.Server` — accepting, registering and routing

The server as a machine driven by events: what `async_accept` reports, the completions of the handshakes of
the connections being set up (in any order), frames read from the sessions, packets read from the TUN
device, and `stop`. The two maps are partial functions; `sessions_mutex_` makes a registration one step.

An exception that escapes a handler escapes `io_context::run`, which nothing catches, so it ends the
server (`ended`). So does a stream that is used after it has been moved away, as the handler of a completed TLS
handshake does. A handler that never ends leaves its session `stuck`: its strand runs nothing more, the
other threads go on.
-/

set_option linter.dupNamespace false

namespace Kirdi
namespace Server

open Protocol Inet

structure ServerConfig where
  tunSubnet   : Bytes
  tunServerIp : Bytes
  tunMask     : Bytes
  mtu         : UInt32
  authSecret  : Bytes
  tlsEnabled  : Bool
  deriving DecidableEq, Repr

/-- The handshake a connection is in: TLS, or behind nginx WebSocket. The second one of a TLS connection is never
    begun. -/
inductive Stage where
  | ssl
  | ws
  deriving DecidableEq, Repr

/-- A connection that is not registered yet, with what its completion handler has captured. -/
structure Handshake where
  sid      : UInt32
  clientIp : Bytes
  stage    : Stage
  deriving DecidableEq, Repr

structure Server where
  config             : ServerConfig
  nextSessionId      : UInt32
  nextClientIpOffset : UInt32
  accepting          : Nat                -- outstanding `async_accept`s
  handshakes         : List Handshake
  sessions           : UInt32 → Option ClientSession
  ipToSession        : UInt32 → Option UInt32
  stuck              : List UInt32
  ended              : Bool

/-- The state in which `Server::run` has called `do_accept` for the first time. -/
def Server.init (config : ServerConfig) : Server :=
  ⟨config, 1, 2, 1, [], fun _ => none, fun _ => none, [], false⟩

/-- The socket handed to `on_accept`: whether `set_option` or `remote_endpoint` throws on it. -/
inductive Peer where
  | alive
  | setOptionThrows
  | remoteEndpointThrows
  deriving DecidableEq, Repr

inductive Event where
  | acceptError
  | accept (peer : Peer)
  | sslHandshake (i : Nat) (ok : Bool)
  | wsAccept (i : Nat) (ok : Bool) (uninit : UInt32)
  | frame (sid : UInt32) (now : UInt64) (hdr : PacketHeader) (payload : Bytes)
  | tunPacket (data : Bytes)
  | stop
  deriving DecidableEq, Repr

/-! ## The handlers -/

/-- The base address of `allocate_client_ip`, zero when `inet_pton` fails. -/
def ServerConfig.base (config : ServerConfig) : UInt32 := (inetPton (cStr config.tunSubnet)).getD 0

/-- `Server::allocate_client_ip`. -/
def Server.allocateClientIp (s : Server) : Server × Bytes :=
  let offset := s.nextClientIpOffset
  let ipHost := ntohl s.config.base + offset
  ({ s with nextClientIpOffset := offset + 1 }, inetNtop (htonl ipHost))

/-- `Server::do_accept`. -/
def Server.doAccept (s : Server) : Server := { s with accepting := s.accepting + 1 }

/-- `Server::on_accept` on an accepted socket. -/
def Server.onAccept (s : Server) : Peer → Server
  | .setOptionThrows => { s with ended := true }
  | peer =>
      let sid := s.nextSessionId
      let (s, clientIp) := { s with nextSessionId := sid + 1 }.allocateClientIp
      -- the log line reads the remote endpoint after both counters have advanced
      if peer = .remoteEndpointThrows then { s with ended := true }
      else
        let stage := if s.config.tlsEnabled then Stage.ssl else Stage.ws
        Server.doAccept { s with handshakes := s.handshakes ++ [⟨sid, clientIp, stage⟩] }

/-- `ClientSession::ClientSession`; `virtual_ip_n_` keeps the indeterminate `uninit` when `inet_pton`
    fails. -/
def ClientSession.new (id : UInt32) (virtualIp : Bytes) (uninit : UInt32) : ClientSession where
  id := id
  virtualIp := virtualIp
  virtualIpN := (inetPton (cStr virtualIp)).getD uninit
  authenticated := false
  tunInfo := ⟨[], [], 1400⟩
  authSecret := []
  onIpPacketSet := false

/-- `Server::register_session`. -/
def Server.registerSession (s : Server) (sid : UInt32) (clientIp : Bytes) (uninit : UInt32) : Server :=
  let session := { ClientSession.new sid clientIp uninit with
    tunInfo := ⟨s.config.tunServerIp, s.config.tunMask, s.config.mtu⟩
    authSecret := s.config.authSecret
    onIpPacketSet := true }
  let addr := (inetPton (cStr clientIp)).getD 0
  { s with
    sessions := Function.update s.sessions sid (some session)
    ipToSession := Function.update s.ipToSession addr (some sid)
    stuck := s.stuck.filter (· ≠ sid) }

/-- The completion of the TLS handshake of the `i`-th connection being set up. `ws.async_accept` is called after its
    argument has moved `ws` away, so the stream has no implementation any more, and the process dies. -/
def Server.onSslHandshake (s : Server) (i : Nat) (ok : Bool) : Option Server :=
  match s.handshakes[i]? with
  | some ⟨_, _, .ssl⟩ =>
      if ok then some { s with ended := true }
      else some { s with handshakes := s.handshakes.eraseIdx i }
  | _ => none

/-- The completion of its WebSocket handshake. -/
def Server.onWsAccept (s : Server) (i : Nat) (ok : Bool) (uninit : UInt32) : Option Server :=
  match s.handshakes[i]? with
  | some ⟨sid, clientIp, .ws⟩ =>
      let s := { s with handshakes := s.handshakes.eraseIdx i }
      if ok then some (s.registerSession sid clientIp uninit) else some s
  | _ => none

/-- `handle_packet` of a registered session has run. -/
def Server.onFrame (deps : Deps) (s : Server) (sid : UInt32) (now : UInt64) (hdr : PacketHeader)
    (payload : Bytes) : Option Server :=
  if sid ∈ s.stuck then none
  else
    (s.sessions sid).map fun session =>
      let o := handlePacket deps now session hdr payload
      { s with
        sessions := Function.update s.sessions sid (some o.session)
        stuck := if o.exit = .diverged then sid :: s.stuck else s.stuck
        ended := o.exit = .threw }

/-- `Server::route_to_client`: the session whose `send_ip_packet` is called with `data`. -/
def Server.routeToClient (s : Server) (data : Bytes) : Option UInt32 :=
  if data.length < 20 then none
  else
    match s.ipToSession (ip4Dst data) with
    | none => none
    | some sid =>
        match s.sessions sid with
        | none => none
        | some session => if session.authenticated then some sid else none

/-- One iteration of `Server::tun_read_loop` that has read `data`. -/
def Server.onTunPacket (s : Server) (data : Bytes) : Server :=
  match s.routeToClient data with
  | none => s
  | some _ =>
      match sendIpPacket data with
      | .ok _ => s
      | .error _ => { s with ended := true }

/-- An outstanding `async_accept` completes. -/
def Server.completeAccept (s : Server) : Option Server :=
  if s.accepting = 0 then none else some { s with accepting := s.accepting - 1 }

def Server.handle (deps : Deps) (s : Server) : Event → Option Server
  | .acceptError => s.completeAccept.map Server.doAccept
  | .accept peer => s.completeAccept.map fun s => s.onAccept peer
  | .sslHandshake i ok => s.onSslHandshake i ok
  | .wsAccept i ok uninit => s.onWsAccept i ok uninit
  | .frame sid now hdr payload => s.onFrame deps sid now hdr payload
  | .tunPacket data => some (s.onTunPacket data)
  | .stop => some { s with ended := true }

def step (deps : Deps) (s : Server) (e : Event) : Option Server :=
  if s.ended then none else s.handle deps e

/-- What a frame makes its session call. -/
def Server.calls (deps : Deps) (s : Server) : Event → List Call
  | .frame sid now hdr payload =>
      match s.sessions sid with
      | none => []
      | some session => (handlePacket deps now session hdr payload).calls
  | _ => []

/-- The accepted connections among the events of a run. -/
def accepts (es : List Event) : Nat := es.countP fun | .accept _ => true | _ => false

/-- A server behind nginx, on 10.8.0.0. -/
def plainConfig : ServerConfig :=
  ⟨ascii "10.8.0.0", ascii "10.8.0.1", ascii "255.255.255.0", 1400, ascii "secret", false⟩

variable {deps : Deps} {s s' : Server} {e : Event} {i : Nat} {sid : UInt32}

/-! ## What a step does to the tables -/

theorem step_handle (h : step deps s e = some s') : s.handle deps e = some s' := by
  unfold step at h
  split at h
  · exact absurd h (by simp)
  · exact h

theorem completeAccept_eq {m : Server} (h : s.completeAccept = some m) :
    m = { s with accepting := s.accepting - 1 } := by
  unfold Server.completeAccept at h
  split at h
  · exact absurd h (by simp)
  · exact (Option.some.inj h).symm

theorem onSslHandshake_cases {ok : Bool} (h : s.onSslHandshake i ok = some s') :
    ∃ sid clientIp, s.handshakes[i]? = some ⟨sid, clientIp, .ssl⟩ ∧
      s' = if ok then { s with ended := true } else { s with handshakes := s.handshakes.eraseIdx i } := by
  unfold Server.onSslHandshake at h
  split at h
  · rename_i sid clientIp hi
    refine ⟨sid, clientIp, hi, ?_⟩
    cases ok <;> exact (Option.some.inj h).symm
  · exact absurd h (by simp)

theorem onWsAccept_cases {ok : Bool} {uninit : UInt32} (h : s.onWsAccept i ok uninit = some s') :
    ∃ sid clientIp, s.handshakes[i]? = some ⟨sid, clientIp, .ws⟩ ∧
      s' = if ok then { s with handshakes := s.handshakes.eraseIdx i }.registerSession sid clientIp uninit
        else { s with handshakes := s.handshakes.eraseIdx i } := by
  unfold Server.onWsAccept at h
  split at h
  · rename_i sid clientIp hi
    refine ⟨sid, clientIp, hi, ?_⟩
    cases ok <;> exact (Option.some.inj h).symm
  · exact absurd h (by simp)

theorem onFrame_cases {now : UInt64} {hdr : PacketHeader} {payload : Bytes}
    (h : s.onFrame deps sid now hdr payload = some s') :
    ∃ session, s.sessions sid = some session ∧
      s' = { s with
        sessions :=
          Function.update s.sessions sid (some (handlePacket deps now session hdr payload).session)
        stuck := if (handlePacket deps now session hdr payload).exit = .diverged then sid :: s.stuck
          else s.stuck
        ended := (handlePacket deps now session hdr payload).exit = .threw } := by
  unfold Server.onFrame at h
  split at h
  · exact absurd h (by simp)
  · obtain ⟨session, hsession, hs'⟩ := Option.map_eq_some_iff.mp h
    exact ⟨session, hsession, hs'.symm⟩

/-- A frame of a registered session whose strand is free is handled. -/
theorem step_frame (deps : Deps) (now : UInt64) (hdr : PacketHeader) (payload : Bytes)
    {session : ClientSession}
    (hended : s.ended = false) (hstuck : sid ∉ s.stuck) (hsession : s.sessions sid = some session) :
    ∃ s', step deps s (.frame sid now hdr payload) = some s' ∧
      s'.sessions =
        Function.update s.sessions sid (some (handlePacket deps now session hdr payload).session) ∧
      s'.ipToSession = s.ipToSession ∧
      s'.stuck = (if (handlePacket deps now session hdr payload).exit = .diverged then sid :: s.stuck
        else s.stuck) ∧
      s'.ended = decide ((handlePacket deps now session hdr payload).exit = .threw) := by
  unfold step
  rw [hended]
  show ∃ s', s.onFrame deps sid now hdr payload = some s' ∧ _
  unfold Server.onFrame
  rw [if_neg hstuck, hsession]
  exact ⟨_, rfl, rfl, rfl, rfl, rfl⟩

theorem onTunPacket_cases (s : Server) (data : Bytes) :
    s.onTunPacket data = s ∨ s.onTunPacket data = { s with ended := true } := by
  unfold Server.onTunPacket
  split
  · exact Or.inl rfl
  · split
    · exact Or.inl rfl
    · exact Or.inr rfl

/-- What each event does to the server. -/
inductive Moves (deps : Deps) (s : Server) : Event → Server → Prop where
  | acceptError : Moves deps s .acceptError { s with accepting := s.accepting - 1 + 1 }
  | accept (peer : Peer) : Moves deps s (.accept peer) ({ s with accepting := s.accepting - 1 }.onAccept peer)
  | sslFailed {i : Nat} {sid : UInt32} {clientIp : Bytes} (hi : s.handshakes[i]? = some ⟨sid, clientIp, .ssl⟩) :
      Moves deps s (.sslHandshake i false) { s with handshakes := s.handshakes.eraseIdx i }
  | sslDone {i : Nat} {sid : UInt32} {clientIp : Bytes} (hi : s.handshakes[i]? = some ⟨sid, clientIp, .ssl⟩) :
      Moves deps s (.sslHandshake i true) { s with ended := true }
  | wsFailed {i : Nat} {sid : UInt32} {clientIp : Bytes} (hi : s.handshakes[i]? = some ⟨sid, clientIp, .ws⟩)
      (uninit : UInt32) :
      Moves deps s (.wsAccept i false uninit) { s with handshakes := s.handshakes.eraseIdx i }
  | wsDone {i : Nat} {sid : UInt32} {clientIp : Bytes} (hi : s.handshakes[i]? = some ⟨sid, clientIp, .ws⟩)
      (uninit : UInt32) :
      Moves deps s (.wsAccept i true uninit)
        ({ s with handshakes := s.handshakes.eraseIdx i }.registerSession sid clientIp uninit)
  | frame {sid : UInt32} {session : ClientSession} (hsession : s.sessions sid = some session) (now : UInt64)
      (hdr : PacketHeader) (payload : Bytes) (stuck : List UInt32) (ended : Bool) :
      Moves deps s (.frame sid now hdr payload)
        { s with
          sessions := Function.update s.sessions sid (some (handlePacket deps now session hdr payload).session)
          stuck := stuck
          ended := ended }
  | tunPacket (data : Bytes) (ended : Bool) : Moves deps s (.tunPacket data) { s with ended := ended }
  | stop : Moves deps s .stop { s with ended := true }

theorem step_moves (h : step deps s e = some s') : Moves deps s e s' := by
  have hh := step_handle h
  -- one handler for each event; a handshake or a routed packet may end in two ways
  cases e with
  | acceptError =>
      obtain ⟨m, hm, rfl⟩ := Option.map_eq_some_iff.mp hh
      rw [completeAccept_eq hm]
      exact .acceptError
  | accept peer =>
      obtain ⟨m, hm, rfl⟩ := Option.map_eq_some_iff.mp hh
      rw [completeAccept_eq hm]
      exact .accept peer
  | sslHandshake i ok =>
      obtain ⟨sid, clientIp, hi, rfl⟩ := onSslHandshake_cases hh
      cases ok with
      | true => exact .sslDone hi
      | false => exact .sslFailed hi
  | wsAccept i ok uninit =>
      obtain ⟨sid, clientIp, hi, rfl⟩ := onWsAccept_cases hh
      cases ok with
      | true => exact .wsDone hi uninit
      | false => exact .wsFailed hi uninit
  | frame sid now hdr payload =>
      obtain ⟨session, hsession, rfl⟩ := onFrame_cases hh
      exact .frame hsession now hdr payload _ _
  | tunPacket data =>
      cases hh
      rcases onTunPacket_cases s data with hsame | hended
      · rw [hsame]
        exact .tunPacket data s.ended
      · rw [hended]
        exact .tunPacket data true
  | stop =>
      cases hh
      exact .stop

/-- **The tables change in two steps only**: the WebSocket handshake of a connection completes and it is
    registered, or a registered session handles a frame. -/
theorem step_tables (h : step deps s e = some s') :
    ((∀ sid now hdr payload, e ≠ .frame sid now hdr payload) ∧ s'.sessions = s.sessions ∧
        s'.ipToSession = s.ipToSession) ∨
      (∃ i uninit sid clientIp, e = .wsAccept i true uninit ∧
        s.handshakes[i]? = some ⟨sid, clientIp, .ws⟩ ∧
        s' = { s with handshakes := s.handshakes.eraseIdx i }.registerSession sid clientIp uninit) ∨
      (∃ sid now hdr payload session, e = .frame sid now hdr payload ∧ s.sessions sid = some session ∧
        s'.sessions =
          Function.update s.sessions sid (some (handlePacket deps now session hdr payload).session) ∧
        s'.ipToSession = s.ipToSession) := by
  -- `on_ws_accept` and the handler of a session are the only ones that write
  cases step_moves h with
  | acceptError | sslFailed _ | sslDone _ | wsFailed _ _ | tunPacket _ _ | stop => exact Or.inl ⟨by simp, rfl, rfl⟩
  | accept peer => cases peer <;> exact Or.inl ⟨by simp, rfl, rfl⟩
  | wsDone hi uninit => exact Or.inr (Or.inl ⟨_, uninit, _, _, rfl, hi, rfl⟩)
  | frame hsession now hdr payload stuck ended =>
      exact Or.inr (Or.inr ⟨_, now, hdr, payload, _, rfl, hsession, rfl, rfl⟩)

/-- The configuration never changes. -/
theorem step_config (h : step deps s e = some s') : s'.config = s.config := by
  cases step_moves h with
  | accept peer => cases peer <;> rfl
  | _ => rfl

/-- What registering one connection does to the tables. -/
theorem registerSession_tables (s : Server) (sid : UInt32) (clientIp : Bytes) (uninit : UInt32) :
    ∃ session, (s.registerSession sid clientIp uninit).sessions
        = Function.update s.sessions sid (some session) ∧
      session.id = sid ∧ session.authenticated = false ∧ session.authSecret = s.config.authSecret ∧
      session.virtualIp = clientIp ∧ session.virtualIpN = (inetPton (cStr clientIp)).getD uninit ∧
      session.tunInfo = ⟨s.config.tunServerIp, s.config.tunMask, s.config.mtu⟩ ∧
      session.onIpPacketSet = true :=
  ⟨_, rfl, rfl, rfl, rfl, rfl, rfl, rfl, rfl⟩

/-- **`route_to_client` picks the session with the destination address**, if it is authenticated. -/
theorem routeToClient_eq_some_iff {data : Bytes} :
    s.routeToClient data = some sid ↔
      20 ≤ data.length ∧ s.ipToSession (ip4Dst data) = some sid ∧
        ∃ session, s.sessions sid = some session ∧ session.authenticated = true := by
  constructor
  · intro h
    unfold Server.routeToClient at h
    split at h
    · exact absurd h (by simp)
    rename_i hlen
    split at h
    · exact absurd h (by simp)
    rename_i sid' hip
    split at h
    · exact absurd h (by simp)
    rename_i session hsession
    split at h
    · rename_i hauth
      cases h
      exact ⟨Nat.not_lt.mp hlen, hip, session, hsession, hauth⟩
    · exact absurd h (by simp)
  · rintro ⟨hlen, hip, session, hsession, hauth⟩
    unfold Server.routeToClient
    rw [if_neg (Nat.not_lt.mpr hlen), hip]
    show (match s.sessions sid with | none => none | some session => _) = _
    rw [hsession]
    exact if_pos hauth

/-- The calls of a frame are those of its session's handler. -/
theorem mem_calls_frame {now : UInt64} {hdr : PacketHeader} {payload : Bytes} {c : Call} :
    c ∈ s.calls deps (.frame sid now hdr payload) ↔
      ∃ session, s.sessions sid = some session ∧ c ∈ (handlePacket deps now session hdr payload).calls := by
  show c ∈ (match s.sessions sid with | none => [] | some session => _) ↔ _
  cases s.sessions sid with
  | none => simp
  | some session => simp

theorem accepts_append (es fs : List Event) : accepts (es ++ fs) = accepts es + accepts fs :=
  List.countP_append

end Server
end Kirdi
