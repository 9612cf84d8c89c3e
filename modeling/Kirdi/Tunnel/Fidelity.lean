import Kirdi.Server.Login
import Kirdi.Tunnel.Tunnel

/-!
# `Tunnel.Fidelity` — the tunnel delivers what it is given

In every run of a connection, in both directions, the packets that come out are a prefix of those passed to
`send`, and all of them once the write queues are idle and everything has been read (`tunnel_fidelity`). A
packet comes out of the session while it is authenticated and of the client while its TUN device is open;
the run reads IP packets only then (`Established`).

The callbacks are what could break it. Neither sends an IP packet, and each lets out exactly the packet of
the message it is given (`onPacket_spec`, `handlePacket_spec`).
-/

set_option linter.dupNamespace false

namespace Kirdi
namespace Tunnel

open Protocol Crypto EventMachine Proc
open Transport (Kind Op)
open Client (Client Env Conn)
open Server (ClientSession Call handlePacket handleAuthRequest)

/-- IP packets are read by an authenticated session, and by a client whose TUN device is open. -/
def Established (t : Tunnel) : Event → Prop
  | .serverRead _ => ∀ message, t.up.net.head? = some message → (ipPayload message).isSome = true →
      t.session.authenticated = true
  | .clientRead _ => ∀ message, t.down.net.head? = some message → (ipPayload message).isSome = true →
      t.client.tunOpen = true
  | _ => True

instance (t : Tunnel) : (e : Event) → Decidable (Established t e)
  | .serverRead _ => inferInstanceAs (Decidable (∀ message ∈ t.up.net.head?, _ → _))
  | .clientRead _ => inferInstanceAs (Decidable (∀ message ∈ t.down.net.head?, _ → _))
  | .tunPacket _ | .clientSend _ _ | .client _ | .clientReadError | .clientWriteError | .routed _
  | .server _ => inferInstanceAs (Decidable True)

structure Tunnel.Inv (k : Kind) (t : Tunnel) : Prop where
  up        : t.up.Inv .wsClientTransport
  down      : t.down.Inv k
  upTaken   : t.up.taken = t.up.arrived.filterMap ipPayload
  downTaken : t.down.taken = t.down.arrived.filterMap ipPayload
  callback  : t.session.onIpPacketSet = true

variable {deps : Deps} {k : Kind} {t t' : Tunnel} {c : Client} {env : Env} {e : Event}

/-! ## `handle_packet` -/

/-- The frames among the calls of a handler. -/
theorem mem_sentFrame {calls : List Call} {data : Bytes}
    (h : data ∈ (calls.filterMap callOp).filterMap sentFrame) : Call.send data ∈ calls := by
  obtain ⟨op, hop, hdata⟩ := List.mem_filterMap.mp h
  obtain ⟨call, hcall, hco⟩ := List.mem_filterMap.mp hop
  cases call with
  | send d =>
      obtain rfl : Op.send d = op := Option.some.inj hco
      obtain rfl : d = data := Option.some.inj hdata
      exact hcall
  | close =>
      obtain rfl : Op.close = op := Option.some.inj hco
      exact absurd hdata (by simp [sentFrame])
  | onIpPacket id packet => exact absurd hco (by simp [callOp])

/-- The frames that `handle_packet` sends are no IP packets. -/
theorem handlePacket_quiet {now : UInt64} {s : ClientSession} {hdr : PacketHeader} {payload data : Bytes}
    (h : Call.send data ∈ (handlePacket deps now s hdr payload).calls) : ipPayload data = none := by
  have hbuilt : ∀ {type : MsgType} {b : Bytes} {r : Except String Bytes}, r = buildPacket type.toByte b →
      type ≠ .ipPacket → Call.send data ∈ (Server.sendBuilt s r).calls → ipPayload data = none := by
    intro type b r hr hty hmem
    cases r with
    | error err => exact absurd hmem List.not_mem_nil
    | ok pkt =>
        obtain rfl : data = pkt := Call.send.inj (List.mem_singleton.mp hmem)
        exact ipPayload_other hty hr.symm
  -- the frames of a session are an `AuthResponse`, a `Keepalive` or a `Pong`
  unfold handlePacket at h
  split at h
  · rcases Server.handleAuthRequest_calls deps now s payload with hnone | ⟨ok, pkt, -, hresp, hcalls⟩
    · rw [hnone] at h
      exact absurd h List.not_mem_nil
    · rw [hcalls] at h
      have hdata : data = pkt := by
        rcases List.mem_cons.mp h with hd | hd
        · exact Call.send.inj hd
        · split at hd <;> simp at hd
      unfold Server.authResponse at hresp
      split at hresp
      · exact absurd hresp (by simp)
      · rw [hdata]
        exact ipPayload_other (by decide) hresp
  · split at h
    · exact absurd h List.not_mem_nil
    · split at h <;> simp at h
  · exact hbuilt (b := []) rfl (by decide) h
  · exact hbuilt rfl (by decide) h
  · simp at h
  · exact absurd h List.not_mem_nil

/-- **`handle_packet` lets out the packet of an `IpPacket` frame** of an authenticated session. -/
theorem handlePacket_packets {now : UInt64} {s : ClientSession} {hdr : PacketHeader} {payload : Bytes}
    (hcb : s.onIpPacketSet = true) (hauth : MsgType.ofByte hdr.type = some .ipPacket → s.authenticated = true) :
    (handlePacket deps now s hdr payload).calls.filterMap callPacket =
      if MsgType.ofByte hdr.type = some .ipPacket then [payload] else [] := by
  have hbuilt : ∀ r : Except String Bytes, (Server.sendBuilt s r).calls.filterMap callPacket = [] := by
    intro r
    cases r <;> rfl
  unfold handlePacket
  split
  · rename_i hty
    rw [hty, if_neg (by decide)]
    rcases Server.handleAuthRequest_calls deps now s payload with hnone | ⟨ok, pkt, -, -, hcalls⟩
    · rw [hnone]
      rfl
    · rw [hcalls]
      cases ok <;> rfl
  · rename_i hty
    rw [hauth hty, hcb, hty, if_pos rfl]
    rfl
  · rename_i hty
    rw [hty, if_neg (by decide)]
    exact hbuilt _
  · rename_i hty
    rw [hty, if_neg (by decide)]
    exact hbuilt _
  · rename_i hty
    rw [hty, if_neg (by decide)]
    rfl
  · rename_i _ hip _ _ _
    rw [if_neg hip]
    rfl

/-- **The callback of the session**: it lets out the packet of the message, and sends none. -/
theorem outcome_spec (deps : Deps) (now : UInt64) {message : Bytes} (hcb : t.session.onIpPacketSet = true)
    (hauth : (ipPayload message).isSome = true → t.session.authenticated = true) :
    (t.outcome deps now message).calls.filterMap callPacket = (ipPayload message).toList ∧
      (∀ data ∈ ((t.outcome deps now message).calls.filterMap callOp).filterMap sentFrame,
        ipPayload data = none) ∧
      (t.outcome deps now message).session.onIpPacketSet = true := by
  unfold Tunnel.outcome
  rw [dispatchPacket_map]
  unfold ipPayload at hauth ⊢
  cases hdispatch : dispatchPacket message (some Prod.mk) with
  | none => exact ⟨rfl, fun _ h => absurd h List.not_mem_nil, hcb⟩
  | some p =>
      obtain ⟨hdr, payload⟩ := p
      rw [hdispatch] at hauth
      show (handlePacket deps now t.session hdr payload).calls.filterMap callPacket =
          (if MsgType.ofByte hdr.type = some .ipPacket then some payload else none).toList ∧
        (∀ data ∈ ((handlePacket deps now t.session hdr payload).calls.filterMap callOp).filterMap sentFrame, _) ∧
        (handlePacket deps now t.session hdr payload).session.onIpPacketSet = true
      refine ⟨?_, ?_, ?_⟩
      · rw [handlePacket_packets hcb fun hty => hauth (by simp [hty])]
        split <;> rfl
      · intro data hdata
        exact handlePacket_quiet (mem_sentFrame hdata)
      · obtain ⟨b, hb⟩ := Server.handlePacket_fields deps now t.session hdr payload
        rw [hb]
        exact hcb

/-! ## `on_packet` -/

/-- What the client lets out, and what it asks its transport to send. -/
def flow (c : Client) : List Bytes × Option (List Bytes) :=
  (c.delivered, c.transports[c.ws]?.map Conn.unsent)

theorem flow_closeWs (c : Client) : flow c.closeWs = flow c := by
  unfold flow Client.Client.closeWs Client.Client.setConn
  rw [List.getElem?_modify_eq]
  cases c.transports[c.ws]? <;> rfl

theorem keeps_flow_stop : Keeps flow Client.stop :=
  Client.keeps_stop (fun _ _ => rfl) (fun _ => rfl) flow_closeWs (fun _ => rfl) fun _ => rfl

/-- An `AuthResponse` lets out no packet, and nothing is sent. -/
theorem keeps_flow_onAuthResponse (payload : Bytes) :
    Keeps flow (Client.onAuthResponse deps env payload) :=
  Client.keeps_onAuthResponse (fun _ _ => rfl) keeps_flow_stop (fun _ _ => rfl) (fun _ _ => rfl)
    (fun _ _ => rfl) (fun _ _ => rfl) payload

/-- The frames of `flow` are no IP packets. -/
def Quiet (frames : Option (List Bytes)) : Prop := ∀ data ∈ frames.getD [], ipPayload data = none

/-- **`on_packet`** lets out the packet of an `IpPacket` frame when the TUN device is open, and sends none. -/
theorem onPacket_spec (deps : Deps) (env : Env) (hdr : PacketHeader) (payload : Bytes) (hquiet : Quiet (flow c).2)
    (htun : MsgType.ofByte hdr.type = some .ipPacket → c.tunOpen = true) :
    ((Client.onPacket deps env hdr payload).run c).delivered =
        c.delivered ++ (if MsgType.ofByte hdr.type = some .ipPacket then [payload] else []) ∧
      Quiet (flow ((Client.onPacket deps env hdr payload).run c)).2 := by
  have hkept : ∀ {p : Proc Client}, Keeps flow p → MsgType.ofByte hdr.type ≠ some .ipPacket →
      (p.run c).delivered = c.delivered ++ (if MsgType.ofByte hdr.type = some .ipPacket then [payload] else []) ∧
        Quiet (flow (p.run c)).2 := by
    intro p hp hty
    have hflow := hp.run_eq c
    refine ⟨?_, hflow ▸ hquiet⟩
    rw [if_neg hty, List.append_nil]
    exact congrArg Prod.fst hflow
  unfold Client.onPacket
  split
  · rename_i hty
    exact hkept (keeps_flow_onAuthResponse payload) (by rw [hty]; decide)
  · rename_i hty
    rw [run_branch, if_pos (htun hty), if_pos hty]
    exact ⟨rfl, hquiet⟩
  · rename_i hty
    rw [run_branch]
    split
    · rw [buildKeepalive_eq, hty, if_neg (by decide), List.append_nil]
      refine ⟨rfl, ?_⟩
      have hkeep : ipPayload (frame MsgType.keepalive.toByte []) = none :=
        ipPayload_other (by decide) buildKeepalive_eq
      have hsent : (flow (c.sendWs (frame MsgType.keepalive.toByte []))).2 =
          c.transports[c.ws]?.map fun u => (u.send (frame MsgType.keepalive.toByte [])).unsent := by
        unfold flow Client.Client.sendWs Client.Client.setConn
        rw [List.getElem?_modify_eq]
        cases c.transports[c.ws]? <;> rfl
      show Quiet (flow (c.sendWs (frame MsgType.keepalive.toByte []))).2
      rw [hsent]
      unfold flow at hquiet
      cases htr : c.transports[c.ws]? with
      | none =>
          intro data hdata
          exact absurd hdata List.not_mem_nil
      | some u =>
          rw [htr] at hquiet
          -- the keepalive joins what was sent
          intro data hdata
          change data ∈ (u.send (frame MsgType.keepalive.toByte [])).unsent at hdata
          unfold Conn.send at hdata
          split at hdata
          · exact hquiet data hdata
          · rcases List.mem_append.mp hdata with hd | hd
            · exact hquiet data hd
            · rw [List.mem_singleton.mp hd]
              exact hkeep
    · exact hkept keeps_done (by rw [hty]; decide)
  · rename_i _ hip _
    exact hkept keeps_done hip

/-- Nothing has been sent when the callback starts. -/
theorem quiet_attach (c : Client) (ws : Transport.Transport) : Quiet (flow (attach c ws)).2 := by
  unfold flow attach Client.Client.setConn
  rw [List.getElem?_modify_eq]
  cases c.transports[c.ws]? with
  | none =>
      intro data hdata
      exact absurd hdata List.not_mem_nil
  | some u =>
      intro data hdata
      exact absurd hdata List.not_mem_nil

theorem asked_quiet {ws : Transport.Transport} (h : Quiet (flow c).2) :
    ∀ data ∈ (asked c ws).filterMap sentFrame, ipPayload data = none := by
  intro data hdata
  unfold asked at hdata
  unfold flow at h
  cases htr : c.transports[c.ws]? with
  | none =>
      rw [htr] at hdata
      exact absurd hdata List.not_mem_nil
  | some u =>
      rw [htr] at hdata h
      obtain ⟨op, hop, hframe⟩ := List.mem_filterMap.mp hdata
      rcases List.mem_append.mp hop with hsend | hclose
      · obtain ⟨d, hd, rfl⟩ := List.mem_map.mp hsend
        obtain rfl : d = data := Option.some.inj hframe
        exact h d hd
      · split at hclose
        · rw [List.mem_singleton.mp hclose] at hframe
          exact absurd hframe (by simp [sentFrame])
        · exact absurd hclose List.not_mem_nil

/-- **The callback of the client**: it lets out the packet of the message, and sends none. -/
theorem dispatched_spec (deps : Deps) (env : Env) {message : Bytes}
    (htun : (ipPayload message).isSome = true → t.client.tunOpen = true) :
    (t.dispatched deps env message).delivered = t.client.delivered ++ (ipPayload message).toList ∧
      ∀ data ∈ (asked (t.dispatched deps env message) t.up.ws).filterMap sentFrame, ipPayload data = none := by
  unfold Tunnel.dispatched
  rw [dispatchPacket_map]
  unfold ipPayload at htun ⊢
  cases hdispatch : dispatchPacket message (some Prod.mk) with
  | none =>
      refine ⟨(List.append_nil _).symm, ?_⟩
      exact asked_quiet (quiet_attach t.client t.up.ws)
  | some p =>
      obtain ⟨hdr, payload⟩ := p
      rw [hdispatch] at htun
      obtain ⟨hdelivered, hquiet⟩ := onPacket_spec deps env hdr payload (quiet_attach t.client t.up.ws)
        fun hty => htun (by simp [hty])
      refine ⟨hdelivered.trans ?_, asked_quiet hquiet⟩
      show t.client.delivered ++ _ = t.client.delivered ++ _
      by_cases hty : MsgType.ofByte hdr.type = some .ipPacket
      · simp only [hty, if_true, Option.toList_some]
      · simp only [hty, if_false, Option.toList_none]

/-! ## Runs -/

theorem inv_start (client : Client) {session : ClientSession} {hello : Bytes}
    (hcb : session.onIpPacketSet = true) (hhello : ipPayload hello = none) :
    (Tunnel.start client session hello).Inv k := by
  refine ⟨⟨Transport.inv_start, rfl, Nat.zero_le 1, ?_, List.prefix_refl _, fun _ => rfl⟩,
    ⟨Transport.inv_start, rfl, Nat.zero_le 1, ?_, List.prefix_refl _, fun _ => rfl⟩, rfl, rfl, hcb⟩
  · intro data hdata
    rw [List.mem_singleton.mp hdata]
    exact hhello
  · intro data hdata
    exact absurd hdata List.not_mem_nil

/-- What is read of the packets stays in step with the messages. -/
theorem taken_take {l : Lane} {message : Bytes} {rest : List Bytes} (hnet : l.net = message :: rest)
    (h : l.taken = l.arrived.filterMap ipPayload) :
    (l.take (ipPayload message).toList).taken = (l.take (ipPayload message).toList).arrived.filterMap ipPayload := by
  show l.taken ++ (ipPayload message).toList = (l.arrived ++ l.net.take 1).filterMap ipPayload
  rw [h, hnet, List.filterMap_append]
  cases hp : ipPayload message with
  | none => simp [hp]
  | some packet => simp [hp]

/-- Neither end of the lane lets out a packet while its transport takes a step. -/
theorem taken_drive {l l' : Lane} {ev : Transport.Event} (hdrive : l.drive k ev = some l') :
    l'.taken = l.taken ∧ l'.arrived = l.arrived := by
  obtain ⟨ws, -, rfl⟩ := Option.map_eq_some_iff.mp hdrive
  exact ⟨rfl, rfl⟩

/-- **Every step keeps the invariant.** -/
theorem Tunnel.Inv.step (h : t.Inv k) (he : Established t e) (hstep : step deps k t e = some t') : t'.Inv k := by
  -- a step of one of the two transports
  have hup : ∀ {ev : Transport.Event} {up : Lane} (client : Client),
      t.up.drive .wsClientTransport ev = some up → quiet ev →
        ({ t with up := up, client := client } : Tunnel).Inv k := by
    intro ev up client hdrive hq
    obtain ⟨htaken, harrived⟩ := taken_drive hdrive
    exact ⟨h.up.drive hq hdrive, h.down, by rw [htaken, harrived]; exact h.upTaken, h.downTaken, h.callback⟩
  have hdown : ∀ {ev : Transport.Event} {down : Lane}, t.down.drive k ev = some down → quiet ev →
      ({ t with down := down } : Tunnel).Inv k := by
    intro ev down hdrive hq
    obtain ⟨htaken, harrived⟩ := taken_drive hdrive
    exact ⟨h.up, h.down.drive hq hdrive, h.upTaken, by rw [htaken, harrived]; exact h.downTaken, h.callback⟩
  cases step_moves hstep with
  | packetSent hfree hbuilt =>
      exact ⟨h.up.give hfree (ipPayload_buildIpPacket hbuilt), h.down, h.upTaken, h.downTaken, h.callback⟩
  | packetDropped _ => exact h
  | clientSend hty hbuilt hdrive => exact hup t.client hdrive (ipPayload_other hty hbuilt)
  | @client ev _ hev hdrive =>
      have hq : quiet ev := by
        cases ev with
        | send data | read calls => exact absurd hev (by simp [clientStep])
        | _ => trivial
      exact hup t.client hdrive hq
  | clientReadError hdrive | clientWriteError hdrive => exact hup t.failed hdrive trivial
  | @clientRead env message rest up hnet hdrive =>
      obtain ⟨hdelivered, hquiet⟩ := dispatched_spec deps env (he message (by rw [hnet]; rfl))
      have hpackets : (t.dispatched deps env message).delivered.drop t.client.delivered.length =
          (ipPayload message).toList := by
        rw [hdelivered, List.drop_left]
      have hread := hup (t.dispatched deps env message) hdrive hquiet
      rw [hpackets]
      exact ⟨hread.up, h.down.take _, hread.upTaken, taken_take hnet h.downTaken, h.callback⟩
  | routed hfree hbuilt =>
      exact ⟨h.up, h.down.give hfree (ipPayload_buildIpPacket hbuilt), h.upTaken, h.downTaken, h.callback⟩
  | @server ev _ hev hdrive =>
      have hq : quiet ev := by
        cases ev with
        | send data | read calls => exact absurd hev (by simp [serverStep])
        | _ => trivial
      exact hdown hdrive hq
  | @serverRead now message rest down hnet hexit hdrive =>
      obtain ⟨hpackets, hquiet, hcb⟩ := outcome_spec deps now h.callback (he message (by rw [hnet]; rfl))
      have hread := hdown hdrive hquiet
      rw [hpackets]
      exact ⟨h.up.take _, hread.down, taken_take hnet h.upTaken, hread.downTaken, hcb⟩

/-- **The tunnel delivers what it is given**, in both directions. -/
theorem tunnel_fidelity {client : Client} {session : ClientSession} {hello : Bytes} {now : Int64}
    {es : List Event} (hcb : session.onIpPacketSet = true)
    (hhello : Client.authRequest deps client.config now = .ok hello)
    (hest : Along (step deps k) Established (Tunnel.start client session hello) es)
    (hrun : run (step deps k) (Tunnel.start client session hello) es = some t) :
    (t.up.taken <+: t.up.given ∧ t.down.taken <+: t.down.given) ∧
      (t.up.ws.gate .wsClientTransport = true → t.down.ws.gate k = true → t.up.Idle → t.down.Idle →
        t.up.net = [] → t.down.net = [] → t.up.taken = t.up.given ∧ t.down.taken = t.down.given) := by
  have hquiet : ipPayload hello = none := by
    obtain ⟨authStr, hbuilt⟩ := Client.authRequest_built hhello
    exact ipPayload_other (by decide) hbuilt
  have h : t.Inv k := run_invariant (I := Tunnel.Inv k) (fun _ _ _ he hi hstep => hi.step he hstep) hest
    (inv_start client hcb hquiet) hrun
  refine ⟨⟨?_, ?_⟩, ?_⟩
  · rw [h.upTaken]
    exact h.up.channel.ordered
  · rw [h.downTaken]
    exact h.down.channel.ordered
  · intro hupOpen hdownOpen hupIdle hdownIdle hupRead hdownRead
    rw [h.upTaken, h.downTaken]
    exact ⟨h.up.complete hupOpen hupIdle hupRead, h.down.complete hdownOpen hdownIdle hdownRead⟩

/-! ## A connection to run -/

/-- The sample client when its handshakes are complete. -/
def onlineClient : Client :=
  { Client.sampleClient with
    connected := true
    transports := [{ Client.Conn.fresh with stage := .opened, connected := true }] }

/-- A session in development mode, which accepts anyone. -/
def openSession : ClientSession := { Server.sampleSession with authSecret := [] }

def helloJson : Json :=
  .object [(ascii "user", .string (ascii "kirdi")),
    (ascii "token", .string (buildAuthToken (Deps.table []) (ascii "kirdi") (ascii "secret") 1000)),
    (ascii "timestamp", .numberInteger 1000)]

def helloText : Bytes := (dumpFlat helloJson).getD []

def acceptanceText : Bytes := (dumpFlat (Server.acceptance openSession)).getD []

def openDeps : Deps := Deps.table [(helloText, helloJson), (acceptanceText, Server.acceptance openSession)]

/-- The `AuthRequest` of the sample client at time 1000. -/
def sampleHello : Bytes := frame MsgType.authRequest.toByte helloText

/-- An IPv4 packet for 10.8.0.2. -/
def samplePacket : Bytes := [0x45, 0, 0, 20, 0, 0, 0, 0, 64, 17, 0, 0, 10, 8, 0, 1, 10, 8, 0, 2]

/-- The client logs in, and a packet goes each way. -/
def packetEachWay : List Event :=
  [.client .advance, .client .advance, .client .advance, .client .doWrite, .client .lock, .client .startWrite,
    .server .advance, .serverRead 1000, .server .advance, .server .advance, .server .advance, .server .doWrite,
    .server .lock, .server .startWrite, .clientRead Client.sampleEnv, .client .advance,
    .tunPacket samplePacket, .client (.sendPush 0), .client (.writeDone true), .client .lock, .client .startWrite,
    .serverRead 1001, .server .advance, .routed samplePacket, .server (.sendPush 0), .server (.writeDone true),
    .server .lock, .server .startWrite, .clientRead Client.sampleEnv, .client .advance]

theorem tunnel_fidelity_each_way :
    ∃ t, run (step openDeps .wsPlainServerSession) (Tunnel.start onlineClient openSession sampleHello)
        packetEachWay = some t ∧
      (t.up.taken <+: [samplePacket] ∧ t.down.taken <+: [samplePacket]) ∧ t.up.taken ≠ [] ∧ t.down.taken ≠ [] := by
  have hrun : (run (step openDeps .wsPlainServerSession)
      (Tunnel.start onlineClient openSession sampleHello) packetEachWay).any (fun t =>
        t.up.given = [samplePacket] && t.down.given = [samplePacket] && !t.up.taken.isEmpty &&
          !t.down.taken.isEmpty) = true := by decide +kernel
  obtain ⟨t, ht, hbody⟩ := Option.any_eq_true _ _ |>.mp hrun
  simp only [Bool.and_eq_true, decide_eq_true_eq, Bool.not_eq_true', List.isEmpty_eq_false_iff] at hbody
  obtain ⟨⟨⟨hup, hdown⟩, hupTaken⟩, hdownTaken⟩ := hbody
  have hest : Along (step openDeps .wsPlainServerSession) Established
      (Tunnel.start onlineClient openSession sampleHello) packetEachWay := by decide +kernel
  have hhello : Client.authRequest openDeps onlineClient.config 1000 = .ok sampleHello := by decide +kernel
  obtain ⟨hbegins, -⟩ := tunnel_fidelity rfl hhello hest ht
  rw [hup, hdown] at hbegins
  exact ⟨t, ht, hbegins, hupTaken, hdownTaken⟩

end Tunnel
end Kirdi
