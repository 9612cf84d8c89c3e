import Kirdi.Common.Codec
import Kirdi.Tunnel.Fidelity

/-!
# `Tunnel.Replies` — the two handlers answering each other

`on_packet` of the client and `handle_packet` of the session, connected by two queues of messages. Neither
end sends anything but its replies, so the content of the queues says whether they ever fall silent.

A `Ping` or an `AuthRequest` is answered once, by a frame that the client does not answer. A `Keepalive` is
echoed by both ends, so it goes round for as long as the connection lasts: the deliveries end exactly when
none is there, or when some other message ends the connection (`replies_die_out_iff`).
-/

set_option linter.dupNamespace false

namespace Kirdi
namespace Tunnel

open Protocol Crypto EventMachine Proc
open Client (Client Env Conn)
open Server (ClientSession Call Outcome handlePacket handleAuthRequest authOk authResponse)

/-- The type of the packet in a message. -/
def messageType (message : Bytes) : Option MsgType :=
  (dispatchPacket message (some Prod.mk)).bind fun p => MsgType.ofByte p.1.type

/-- The frame of a `ws_->send`. -/
def callFrame : Call → Option Bytes
  | .send data => some data
  | _ => none

def keepaliveFrame : Bytes := frame MsgType.keepalive.toByte []

structure Link where
  client  : Client
  session : ClientSession
  serving : Bool             -- the session reads on: it has not closed, and its handler has returned
  up      : List Bytes       -- messages for the session, oldest first
  down    : List Bytes       -- messages for the client

/-- `handle_packet`, or nothing when the message is no packet. -/
def heard (deps : Deps) (now : UInt64) (s : ClientSession) (message : Bytes) : Outcome :=
  (dispatchPacket message (some (handlePacket deps now s))).getD ⟨s, [], .returned⟩

/-- The client with nothing left to send. -/
def unburdened (c : Client) : Client := c.setConn c.ws fun t => { t with unsent := [] }

/-- `on_packet`, with nothing sent before. -/
def received (deps : Deps) (env : Env) (c : Client) (message : Bytes) : Client :=
  ((dispatchPacket message (some (Client.onPacket deps env))).getD Proc.done).run (unburdened c)

/-- What the client has passed to `send`. -/
def outbox (c : Client) : List Bytes := (flow c).2.getD []

/-- The session has handled `message`, and `rest` is left for it. -/
def Link.afterServer (deps : Deps) (now : UInt64) (l : Link) (message : Bytes) (rest : List Bytes) : Link :=
  let o := heard deps now l.session message
  { l with
    session := o.session
    serving := o.exit = .returned && !o.calls.contains .close
    up := rest
    down := l.down ++ o.calls.filterMap callFrame }

/-- The client has handled `message`, and `rest` is left for it. -/
def Link.afterClient (deps : Deps) (env : Env) (l : Link) (message : Bytes) (rest : List Bytes) : Link :=
  let c := received deps env l.client message
  { l with client := c, up := l.up ++ outbox c, down := rest }

inductive Delivery where
  | toServer (now : UInt64)
  | toClient (env : Env)

/-- Deliver the oldest message of one queue; the replies join the other queue. -/
def deliver (deps : Deps) (l : Link) : Delivery → Option Link
  | .toServer now =>
      match l.up with
      | [] => none
      | message :: rest => if l.serving then some (l.afterServer deps now message rest) else none
  | .toClient env =>
      match l.down with
      | [] => none
      | message :: rest =>
          if l.client.iocStopped then none else some (l.afterClient deps env message rest)

/-- Running, with a transport that is connected. -/
structure ClientLive (c : Client) : Prop where
  running : c.running = true
  ioc     : c.iocStopped = false
  conn    : ∃ u, c.transports[c.ws]? = some u ∧ u.connected = true ∧ u.closing = false

structure Link.Live (l : Link) : Prop where
  client  : ClientLive l.client
  serving : l.serving = true

/-- The client takes the message for a refused login, and stops. -/
def EndsClient (deps : Deps) (mtu : UInt32) (message : Bytes) : Prop :=
  Client.authVerdict deps mtu message = some .rejected

/-- The session ends on the message: a `Disconnect`, or an `AuthRequest` that it accepts at no time, unless
    with an answer that makes the client stop. -/
def EndsSession (deps : Deps) (mtu : UInt32) (s : ClientSession) (message : Bytes) : Prop :=
  ∃ hdr payload, dispatchPacket message (some Prod.mk) = some (hdr, payload) ∧
    (MsgType.ofByte hdr.type = some .disconnect ∨
      MsgType.ofByte hdr.type = some .authRequest ∧
        ∀ now pkt, authOk deps now s.authSecret payload = some true →
          authResponse deps { s with authenticated := true } true = .ok pkt → EndsClient deps mtu pkt)

/-- A `Keepalive` is under way. -/
def Link.Circulates (l : Link) : Prop := ∃ message ∈ l.up ++ l.down, messageType message = some .keepalive

/-- A message that ends the connection is under way. -/
def Link.Ends (deps : Deps) (l : Link) : Prop :=
  (∃ message ∈ l.up, EndsSession deps l.client.config.mtu l.session message) ∨
    ∃ message ∈ l.down, EndsClient deps l.client.config.mtu message

variable {deps : Deps} {l l' : Link} {c : Client} {s : ClientSession} {env : Env} {now : UInt64}
  {message : Bytes} {d : Delivery}

/-! ## Types of messages -/

theorem messageType_built {type : MsgType} {payload data : Bytes}
    (h : buildPacket type.toByte payload = .ok data) : messageType data = some type := by
  obtain ⟨hlen, rfl⟩ := eq_frame_of_buildPacket h
  have hdispatch := dispatchPacket_frame type.toByte [] Prod.mk hlen
  rw [List.append_nil] at hdispatch
  unfold messageType
  rw [hdispatch]
  simp

theorem messageType_keepaliveFrame : messageType keepaliveFrame = some .keepalive :=
  messageType_built (show buildPacket MsgType.keepalive.toByte [] = .ok keepaliveFrame from buildKeepalive_eq)

theorem messageType_of_endsClient {mtu : UInt32} (h : EndsClient deps mtu message) :
    messageType message = some .authResponse := by
  unfold EndsClient Client.authVerdict at h
  unfold messageType
  cases hdispatch : dispatchPacket message (some Prod.mk) with
  | none =>
      rw [hdispatch] at h
      exact absurd h (by simp)
  | some p =>
      rw [hdispatch] at h
      exact (Option.ite_none_right_eq_some.mp h).1

theorem messageType_of_endsSession {mtu : UInt32} (h : EndsSession deps mtu s message) :
    messageType message = some .disconnect ∨ messageType message = some .authRequest := by
  obtain ⟨hdr, payload, hdispatch, hty⟩ := h
  unfold messageType
  rw [hdispatch]
  exact hty.imp id And.left

/-! ## The session -/

/-- What `handle_packet` makes of a message: the cases that differ in the replies. -/
inductive Heard (deps : Deps) (now : UInt64) (s : ClientSession) (message : Bytes) : Outcome → Prop where
  | silent (o : Outcome) (hty : messageType message ≠ some .keepalive) (hends : ∀ mtu, ¬ EndsSession deps mtu s message)
      (hcalls : o.calls.filterMap callFrame = []) (hclose : Call.close ∉ o.calls) (hexit : o.exit = .returned) :
      Heard deps now s message o
  | echoed (hty : messageType message = some .keepalive) :
      Heard deps now s message ⟨s, [.send keepaliveFrame], .returned⟩
  | ponged (pkt : Bytes) (hty : messageType message = some .ping) (hpkt : messageType pkt = some .pong) :
      Heard deps now s message ⟨s, [.send pkt], .returned⟩
  | left (hty : messageType message = some .disconnect) : Heard deps now s message ⟨s, [.close], .returned⟩
  | failed (o : Outcome) (hty : messageType message = some .authRequest) (hcalls : o.calls = [])
      (hexit : o.exit ≠ .returned) : Heard deps now s message o
  | refused (pkt : Bytes) (o : Outcome) (hty : messageType message = some .authRequest)
      (hpkt : messageType pkt = some .authResponse) (hcalls : o.calls = [.send pkt, .close]) :
      Heard deps now s message o
  | accepted (pkt : Bytes) (o : Outcome) (hty : messageType message = some .authRequest)
      (hpkt : messageType pkt = some .authResponse)
      (hends : ∀ mtu, EndsSession deps mtu s message → EndsClient deps mtu pkt)
      (hcalls : o.calls = [.send pkt]) (hexit : o.exit = .returned) : Heard deps now s message o

theorem messageType_authResponse {ok : Bool} {pkt : Bytes} (h : authResponse deps s ok = .ok pkt) :
    messageType pkt = some .authResponse := by
  unfold authResponse at h
  split at h
  · exact absurd h (by simp)
  · exact messageType_built h

theorem heard_spec (deps : Deps) (now : UInt64) (s : ClientSession) (message : Bytes) :
    Heard deps now s message (heard deps now s message) := by
  -- only two types end the session
  have hspare : messageType message ≠ some .disconnect → messageType message ≠ some .authRequest →
      ∀ mtu, ¬ EndsSession deps mtu s message := by
    intro hdisc hauth mtu hends
    rcases messageType_of_endsSession hends with h | h
    · exact hdisc h
    · exact hauth h
  unfold heard
  rw [dispatchPacket_map]
  cases hdispatch : dispatchPacket message (some Prod.mk) with
  | none =>
      have hty : messageType message = none := by
        unfold messageType
        rw [hdispatch]
        rfl
      exact .silent _ (by simp [hty]) (hspare (by simp [hty]) (by simp [hty])) rfl List.not_mem_nil rfl
  | some p =>
      obtain ⟨hdr, payload⟩ := p
      have hty : messageType message = MsgType.ofByte hdr.type := by
        unfold messageType
        rw [hdispatch]
        rfl
      show Heard deps now s message (handlePacket deps now s hdr payload)
      unfold handlePacket
      cases hkind : MsgType.ofByte hdr.type with
      | none =>
          rw [hkind] at hty
          exact .silent _ (by simp [hty]) (hspare (by simp [hty]) (by simp [hty])) rfl List.not_mem_nil rfl
      | some kind =>
          rw [hkind] at hty
          cases kind with
          | authRequest =>
              show Heard deps now s message (handleAuthRequest deps now s payload)
              unfold handleAuthRequest
              cases hauth : authOk deps now s.authSecret payload with
              | none => exact .failed _ hty rfl (by simp)
              | some ok =>
                  cases hresp : authResponse deps { s with authenticated := ok } ok with
                  | error err =>
                      simp only [hresp]
                      exact .failed _ hty rfl (by simp)
                  | ok pkt =>
                      simp only [hresp]
                      have hpkt := messageType_authResponse hresp
                      cases ok with
                      | false => exact .refused pkt _ hty hpkt rfl
                      | true =>
                          refine .accepted pkt _ hty hpkt ?_ rfl rfl
                          -- the answer to this request is the one that ends the connection
                          rintro mtu ⟨hdr', payload', hdispatch', hends⟩
                          rw [hdispatch] at hdispatch'
                          cases hdispatch'
                          rw [hkind] at hends
                          exact (hends.resolve_left (by simp)).2 now pkt hauth hresp
          | ipPacket =>
              have hends := hspare (by simp [hty]) (by simp [hty])
              cases s.authenticated with
              | false => exact .silent _ (by simp [hty]) hends rfl List.not_mem_nil rfl
              | true =>
                  cases s.onIpPacketSet with
                  | false => exact .silent _ (by simp [hty]) hends rfl List.not_mem_nil rfl
                  | true => exact .silent _ (by simp [hty]) hends rfl (by simp) rfl
          | keepalive =>
              simp only [buildKeepalive_eq, Server.sendBuilt]
              exact .echoed hty
          | ping =>
              have hlen : payload.length ≤ maxPayload := by
                have hmem : (hdr, payload) ∈ packets message := by
                  rw [packets, Option.mem_toList, hdispatch]
                exact (mem_packets.mp hmem).1
              have hbuilt := buildPacket_ok MsgType.pong.toByte hlen
              simp only [hbuilt, Server.sendBuilt]
              exact .ponged _ hty (messageType_built hbuilt)
          | disconnect => exact .left hty
          | authResponse | tunConfig | pong =>
              exact .silent _ (by simp [hty]) (hspare (by simp [hty]) (by simp [hty])) rfl List.not_mem_nil rfl

/-- What a message costs: a frame that is answered once costs more than its answer. -/
def weight (message : Bytes) : Nat :=
  if messageType message = some .authRequest ∨ messageType message = some .ping then 2 else 1

theorem weight_pos (message : Bytes) : 0 < weight message := by
  unfold weight
  split <;> omega

/-- There is at most one reply. -/
theorem Heard.length_le {o : Outcome} (h : Heard deps now s message o) :
    (o.calls.filterMap callFrame).length ≤ 1 := by
  cases h with
  | silent o hty hends hcalls hclose hexit =>
      rw [hcalls]
      exact Nat.zero_le 1
  | echoed hty | ponged pkt hty hpkt => exact le_refl 1
  | left hty => exact Nat.zero_le 1
  | failed o hty hcalls hexit =>
      rw [hcalls]
      exact Nat.zero_le 1
  | refused pkt o hty hpkt hcalls | accepted pkt o hty hpkt hends hcalls hexit =>
      have hone : (o.calls.filterMap callFrame).length = 1 := by simp [hcalls, callFrame]
      exact le_of_eq hone

/-- Unless a `Keepalive` is echoed, a reply costs less than the message, and is none itself. -/
theorem Heard.weighs {o : Outcome} (h : Heard deps now s message o) (hkeep : messageType message ≠ some .keepalive) :
    (o.calls.filterMap callFrame).length < weight message ∧
      ∀ reply ∈ o.calls.filterMap callFrame, messageType reply ≠ some .keepalive := by
  have hone : ∀ {pkt : Bytes} {ty : MsgType}, messageType pkt = some ty → ty ≠ .keepalive →
      ∀ reply ∈ [pkt], messageType reply ≠ some .keepalive := by
    intro pkt ty hpkt hty reply hreply
    rw [List.mem_singleton.mp hreply, hpkt]
    simpa using hty
  cases h with
  | silent o hty hends hcalls hclose hexit =>
      rw [hcalls]
      exact ⟨weight_pos message, fun _ h => absurd h List.not_mem_nil⟩
  | echoed hty => exact absurd hty hkeep
  | ponged pkt hty hpkt =>
      refine ⟨?_, hone hpkt (by decide)⟩
      unfold weight
      rw [if_pos (Or.inr hty)]
      exact Nat.one_lt_two
  | left hty => exact ⟨weight_pos message, fun _ h => absurd h List.not_mem_nil⟩
  | failed o hty hcalls hexit =>
      rw [hcalls]
      exact ⟨weight_pos message, fun _ h => absurd h List.not_mem_nil⟩
  | refused pkt o hty hpkt hcalls | accepted pkt o hty hpkt hends hcalls hexit =>
      rw [hcalls]
      refine ⟨?_, hone hpkt (by decide)⟩
      unfold weight
      rw [if_pos (Or.inl hty)]
      exact Nat.one_lt_two

/-- A message that ends the session does so, or makes it send what ends the client. -/
theorem Heard.ends {o : Outcome} {mtu : UInt32} (h : Heard deps now s message o)
    (hends : EndsSession deps mtu s message) :
    (o.exit = .returned && !o.calls.contains .close) = false ∨
      ∃ reply ∈ o.calls.filterMap callFrame, EndsClient deps mtu reply := by
  have hty := messageType_of_endsSession hends
  cases h with
  | silent o hty' hspares hcalls hclose hexit => exact absurd hends (hspares mtu)
  | echoed hty' =>
      rw [hty'] at hty
      exact absurd hty (by simp)
  | ponged pkt hty' hpkt =>
      rw [hty'] at hty
      exact absurd hty (by simp)
  | left hty' => exact Or.inl rfl
  | failed o hty' hcalls hexit =>
      left
      simp [hexit]
  | refused pkt o hty' hpkt hcalls =>
      left
      simp [hcalls]
  | accepted pkt o hty' hpkt hpasses hcalls hexit =>
      right
      rw [hcalls]
      exact ⟨pkt, List.mem_singleton.mpr rfl, hpasses mtu hends⟩

/-- A message that does not end the session leaves it serving, at some time, and echoes a `Keepalive`. -/
theorem exists_heard_serving {mtu : UInt32} (hspares : ¬ EndsSession deps mtu s message) :
    ∃ now, ((heard deps now s message).exit = .returned && !(heard deps now s message).calls.contains .close) = true ∧
      (∀ reply ∈ (heard deps now s message).calls.filterMap callFrame, ¬ EndsClient deps mtu reply) ∧
      (messageType message = some .keepalive →
        keepaliveFrame ∈ (heard deps now s message).calls.filterMap callFrame) := by
  by_cases hauth : messageType message = some .authRequest
  · -- the time is the one at which the session accepts
    obtain ⟨⟨hdr, payload⟩, hdispatch, hty⟩ := Option.bind_eq_some_iff.mp hauth
    have hpass : ∃ now pkt, authOk deps now s.authSecret payload = some true ∧
        authResponse deps { s with authenticated := true } true = .ok pkt ∧ ¬ EndsClient deps mtu pkt := by
      by_contra hnone
      refine hspares ⟨hdr, payload, hdispatch, Or.inr ⟨hty, ?_⟩⟩
      intro now pkt hok hresp
      by_contra hpass
      exact hnone ⟨now, pkt, hok, hresp, hpass⟩
    obtain ⟨now, pkt, hok, hresp, hpass⟩ := hpass
    have hheard : heard deps now s message = ⟨{ s with authenticated := true }, [.send pkt], .returned⟩ := by
      unfold heard
      rw [dispatchPacket_map, hdispatch]
      exact (Server.handlePacket_authRequest hty).trans (Server.handleAuthRequest_answered hok hresp)
    refine ⟨now, ?_, ?_, ?_⟩
    · rw [hheard]
      rfl
    · rw [hheard]
      intro reply hreply
      rw [List.mem_singleton.mp hreply]
      exact hpass
    · rw [hauth]
      intro hkeep
      exact absurd hkeep (by simp)
  · have hpassing : ∀ {pkt : Bytes} {ty : MsgType}, messageType pkt = some ty → ty ≠ .authResponse →
        ∀ reply ∈ [pkt], ¬ EndsClient deps mtu reply := by
      intro pkt ty hpkt hty reply hreply hends
      rw [List.mem_singleton.mp hreply] at hends
      exact hty (Option.some.inj (hpkt.symm.trans (messageType_of_endsClient hends)))
    refine ⟨0, ?_⟩
    have h := heard_spec deps 0 s message
    generalize heard deps 0 s message = o at h
    cases h with
    | silent o hty hends hcalls hclose hexit =>
        refine ⟨by simp [hexit, hclose], ?_, fun hkeep => absurd hkeep hty⟩
        rw [hcalls]
        exact fun _ hreply => absurd hreply List.not_mem_nil
    | echoed hty =>
        exact ⟨rfl, hpassing messageType_keepaliveFrame (by decide), fun _ => List.mem_singleton.mpr rfl⟩
    | ponged pkt hty hpkt =>
        refine ⟨rfl, hpassing hpkt (by decide), ?_⟩
        rw [hty]
        intro hkeep
        exact absurd hkeep (by simp)
    | left hty =>
        obtain ⟨⟨hdr, payload⟩, hdispatch, hty'⟩ := Option.bind_eq_some_iff.mp hty
        exact absurd ⟨hdr, payload, hdispatch, Or.inl hty'⟩ hspares
    | failed o hty hcalls hexit => exact absurd hty hauth
    | refused pkt o hty hpkt hcalls => exact absurd hty hauth
    | accepted pkt o hty hpkt hends hcalls hexit => exact absurd hty hauth

/-! ## The client -/

/-- What the replies of a client depend on. -/
def view (c : Client) : Bool × Bool × Client.ClientConfig × Nat × List Conn :=
  (c.running, c.iocStopped, c.config, c.ws, c.transports)

/-- What `on_packet` makes of a message. -/
inductive Received (deps : Deps) (env : Env) (c : Client) (message : Bytes) : Client → Prop where
  | quiet (r : Client) (hview : view r = view (unburdened c)) (hends : ¬ EndsClient deps c.config.mtu message)
      (hkeep : messageType message = some .keepalive → (unburdened c).wsConnected = false) :
      Received deps env c message r
  | echoed (hty : messageType message = some .keepalive) :
      Received deps env c message ((unburdened c).sendWs keepaliveFrame)
  | stopped (b : Client) (hview : view b = view (unburdened c)) (hty : messageType message = some .authResponse)
      (hend : EndsClient deps c.config.mtu message ∨ env.tunOpens = false) :
      Received deps env c message (Client.stop.run b)

/-- An accepted login, but for the TUN device that does not open. -/
theorem keeps_view_onAccepted (htun : env.tunOpens = true) (virtualIp : Bytes) (tunCfg : Client.TunConfig) :
    Keeps view (Client.onAccepted env virtualIp tunCfg) := by
  unfold Client.onAccepted
  rw [htun]
  refine keeps_andThen (keeps_atom fun _ => rfl) ?_
  refine keeps_andThen (keeps_atom fun _ => rfl) ?_
  refine keeps_andThen (keeps_atom fun _ => rfl) ?_
  exact keeps_andThen (Client.keeps_setup fun _ _ => rfl) (keeps_atom fun _ => rfl)

theorem received_spec (deps : Deps) (env : Env) (c : Client) (message : Bytes) :
    Received deps env c message (received deps env c message) := by
  unfold received
  rw [dispatchPacket_map]
  cases hdispatch : dispatchPacket message (some Prod.mk) with
  | none =>
      have hty : messageType message = none := by
        unfold messageType
        rw [hdispatch]
        rfl
      refine .quiet _ rfl ?_ ?_
      · intro hends
        rw [messageType_of_endsClient hends] at hty
        exact absurd hty (by simp)
      · rw [hty]
        intro hkeep
        exact absurd hkeep (by simp)
  | some p =>
      obtain ⟨hdr, payload⟩ := p
      have hty : messageType message = MsgType.ofByte hdr.type := by
        unfold messageType
        rw [hdispatch]
        rfl
      have hspare : MsgType.ofByte hdr.type ≠ some .authResponse → ¬ EndsClient deps c.config.mtu message := by
        intro hother hends
        exact hother (hty.symm.trans (messageType_of_endsClient hends))
      show Received deps env c message ((Client.onPacket deps env hdr payload).run (unburdened c))
      unfold Client.onPacket
      split
      · rename_i hkind
        have hverdict : Client.authVerdict deps c.config.mtu message =
            some (Client.readAuthResponse deps c.config.mtu payload) := by
          unfold Client.authVerdict
          rw [hdispatch]
          exact if_pos hkind
        have hkeep : messageType message = some .keepalive → (unburdened c).wsConnected = false := by
          rw [hty, hkind]
          intro h
          exact absurd h (by simp)
        have hends : EndsClient deps c.config.mtu message ↔
            Client.readAuthResponse deps c.config.mtu payload = .rejected := by
          unfold EndsClient
          rw [hverdict, Option.some.injEq]
        rw [Client.onAuthResponse_run]
        show Received deps env c message
          ((Client.onVerdict env (Client.readAuthResponse deps c.config.mtu payload)).run (unburdened c))
        cases hread : Client.readAuthResponse deps c.config.mtu payload with
        | malformed => exact .quiet _ rfl (by rw [hends, hread]; simp) hkeep
        | partlyRead virtualIp => exact .quiet _ rfl (by rw [hends, hread]; simp) hkeep
        | rejected => exact .stopped _ rfl (hty.trans hkind) (Or.inl (hends.mpr hread))
        | accepted virtualIp tunCfg =>
            cases htun : env.tunOpens with
            | true =>
                have hview := (keeps_view_onAccepted htun virtualIp tunCfg).run_eq (unburdened c)
                exact .quiet _ hview (by rw [hends, hread]; simp) hkeep
            | false =>
                -- the handler stops after creating the device
                unfold Client.onVerdict Client.onAccepted
                rw [htun]
                refine .stopped _ ?_ (hty.trans hkind) (Or.inr htun)
                rfl
      · rename_i hkind
        refine .quiet _ ?_ (hspare (by rw [hkind]; simp)) ?_
        · have hkeeps : Keeps view (branch Client.Client.tunOpen
              (atom fun c => { c with delivered := c.delivered ++ [payload] }) done) :=
            keeps_branch (keeps_atom fun _ => rfl) keeps_done
          exact hkeeps.run_eq _
        · rw [hty, hkind]
          intro h
          exact absurd h (by simp)
      · rename_i hkind
        rw [run_branch, buildKeepalive_eq]
        cases hconn : (unburdened c).wsConnected with
        | true => exact .echoed (hty.trans hkind)
        | false => exact .quiet _ rfl (hspare (by rw [hkind]; simp)) fun _ => hconn
      · rename_i hauth _ hkeep
        refine .quiet _ rfl (hspare hauth) ?_
        rw [hty]
        intro h
        exact absurd h hkeep

/-- The outbox can be read off the view. -/
theorem outbox_of_view {r b : Client} (h : view r = view b) : outbox r = outbox b := by
  simp only [view, Prod.mk.injEq] at h
  obtain ⟨-, -, -, hws, htransports⟩ := h
  unfold outbox flow
  rw [hws, htransports]

theorem outbox_unburdened (c : Client) : outbox (unburdened c) = [] := by
  unfold outbox flow unburdened Client.Client.setConn
  rw [List.getElem?_modify_eq]
  cases c.transports[c.ws]? <;> rfl

/-- A message other than a `Keepalive` is not answered; a `Keepalive` at most once, by another one. -/
theorem outbox_received (deps : Deps) (env : Env) (c : Client) (message : Bytes) :
    (outbox (received deps env c message)).length ≤ 1 ∧
      (messageType message ≠ some .keepalive → outbox (received deps env c message) = []) ∧
      ∀ reply ∈ outbox (received deps env c message), messageType reply = some .keepalive := by
  have h := received_spec deps env c message
  generalize received deps env c message = r at h
  cases h with
  | quiet r hview hends hkeep =>
      rw [outbox_of_view hview, outbox_unburdened]
      exact ⟨Nat.zero_le 1, fun _ => rfl, fun _ hreply => absurd hreply List.not_mem_nil⟩
  | echoed hty =>
      have hout : outbox ((unburdened c).sendWs keepaliveFrame) = [] ∨
          outbox ((unburdened c).sendWs keepaliveFrame) = [keepaliveFrame] := by
        unfold outbox flow Client.Client.sendWs unburdened Client.Client.setConn
        rw [List.getElem?_modify_eq, List.getElem?_modify_eq]
        cases c.transports[c.ws]? with
        | none => exact Or.inl rfl
        | some u =>
            show (Conn.send { u with unsent := [] } keepaliveFrame).unsent = [] ∨
              (Conn.send { u with unsent := [] } keepaliveFrame).unsent = [keepaliveFrame]
            unfold Conn.send
            split
            · exact Or.inl rfl
            · exact Or.inr rfl
      rcases hout with hout | hout
      · rw [hout]
        exact ⟨Nat.zero_le 1, fun _ => rfl, fun _ hreply => absurd hreply List.not_mem_nil⟩
      · rw [hout]
        refine ⟨le_refl 1, fun hother => absurd hty hother, ?_⟩
        intro reply hreply
        rw [List.mem_singleton.mp hreply]
        exact messageType_keepaliveFrame
  | stopped b hview hty hend =>
      have hflow : outbox (Client.stop.run b) = outbox b := by
        unfold outbox
        rw [keeps_flow_stop.run_eq b]
      rw [hflow, outbox_of_view hview, outbox_unburdened]
      exact ⟨Nat.zero_le 1, fun _ => rfl, fun _ hreply => absurd hreply List.not_mem_nil⟩

/-- `on_packet` changes no setting. -/
theorem config_received (deps : Deps) (env : Env) (c : Client) (message : Bytes) :
    (received deps env c message).config = c.config := by
  have h := received_spec deps env c message
  generalize received deps env c message = r at h
  cases h with
  | quiet r hview hends hkeep => exact congrArg (fun v => v.2.2.1) hview
  | echoed hty => rfl
  | stopped b hview hty hend =>
      have hkeeps := congrArg Prod.fst (Client.keeps_settings_stop.run_eq b)
      exact hkeeps.trans (congrArg (fun v => v.2.2.1) hview)

/-- A running client goes on or is stopped for good; after a refused login it is stopped. -/
theorem received_served (deps : Deps) (env : Env) (message : Bytes) (hr : c.running = true) :
    ((received deps env c message).running = true ∨ (received deps env c message).iocStopped = true) ∧
      (EndsClient deps c.config.mtu message → (received deps env c message).iocStopped = true) := by
  have h := received_spec deps env c message
  generalize received deps env c message = r at h
  cases h with
  | quiet r hview hends hkeep =>
      have hrun : r.running = c.running := congrArg Prod.fst hview
      exact ⟨Or.inl (hrun.trans hr), fun h => absurd h hends⟩
  | echoed hty =>
      refine ⟨Or.inl hr, ?_⟩
      intro hends
      rw [messageType_of_endsClient hends] at hty
      exact absurd hty (by simp)
  | stopped b hview hty hend =>
      -- nothing before `stop` has cleared `running_`
      have hrun : b.running = true := (congrArg Prod.fst hview).trans hr
      have hstopped : (Client.stop.run b).iocStopped = true := by
        rw [Client.stop_run hrun]
      exact ⟨Or.inr hstopped, fun _ => hstopped⟩

/-- As long as the TUN device can be opened, the client lives on after any other message, and echoes a
    `Keepalive`. -/
theorem received_live (h : ClientLive c) (hspares : ¬ EndsClient deps c.config.mtu message)
    (htun : env.tunOpens = true) :
    ClientLive (received deps env c message) ∧
      (messageType message = some .keepalive → keepaliveFrame ∈ outbox (received deps env c message)) := by
  obtain ⟨u, hu, hconn, hopen⟩ := h.conn
  have hburden : (unburdened c).transports[(unburdened c).ws]? = some { u with unsent := [] } := by
    unfold unburdened Client.Client.setConn
    rw [List.getElem?_modify_eq, hu]
    rfl
  have hspec := received_spec deps env c message
  generalize received deps env c message = r at hspec
  cases hspec with
  | quiet r hview hends hkeep =>
      have hconnected : (unburdened c).wsConnected = true := by
        unfold Client.Client.wsConnected
        rw [hburden]
        exact hconn
      simp only [view, Prod.mk.injEq] at hview
      obtain ⟨hrun, hioc, -, hws, htransports⟩ := hview
      refine ⟨⟨hrun.trans h.running, hioc.trans h.ioc, { u with unsent := [] }, ?_, hconn, hopen⟩, ?_⟩
      · rw [hws, htransports]
        exact hburden
      · intro hty
        rw [hkeep hty] at hconnected
        exact absurd hconnected (by simp)
  | echoed hty =>
      have hsent : ((unburdened c).sendWs keepaliveFrame).transports[(unburdened c).ws]? =
          some { u with unsent := [keepaliveFrame] } := by
        unfold Client.Client.sendWs
        show ((unburdened c).transports.modify (unburdened c).ws _)[(unburdened c).ws]? = _
        rw [List.getElem?_modify_eq, hburden]
        show some (Conn.send { u with unsent := [] } keepaliveFrame) = _
        unfold Conn.send
        rw [if_neg (by simp [hopen])]
        rfl
      refine ⟨⟨h.running, h.ioc, _, hsent, hconn, hopen⟩, fun _ => ?_⟩
      have hout : outbox ((unburdened c).sendWs keepaliveFrame) = [keepaliveFrame] := by
        unfold outbox flow
        show (Option.map Conn.unsent (((unburdened c).sendWs keepaliveFrame).transports[(unburdened c).ws]?)).getD [] = _
        rw [hsent]
        rfl
      rw [hout]
      exact List.mem_singleton.mpr rfl
  | stopped b hview hty hend =>
      rcases hend with hends | hclosed
      · exact absurd hends hspares
      · rw [htun] at hclosed
        exact absurd hclosed (by simp)

/-! ## Deliveries -/

/-- What a delivery can do. -/
inductive Delivered (deps : Deps) (l : Link) : Link → Prop where
  | toServer (now : UInt64) (message : Bytes) (rest : List Bytes) (hup : l.up = message :: rest)
      (hserving : l.serving = true) :
      Delivered deps l (l.afterServer deps now message rest)
  | toClient (env : Env) (message : Bytes) (rest : List Bytes) (hdown : l.down = message :: rest)
      (hioc : l.client.iocStopped = false) :
      Delivered deps l (l.afterClient deps env message rest)

theorem deliver_cases (h : deliver deps l d = some l') : Delivered deps l l' := by
  cases d with
  | toServer now =>
      simp only [deliver] at h
      split at h
      · exact absurd h (by simp)
      · rename_i message rest hup
        obtain ⟨hserving, ⟨⟩⟩ := Option.ite_none_right_eq_some.mp h
        exact .toServer now message rest hup hserving
  | toClient env =>
      simp only [deliver] at h
      split at h
      · exact absurd h (by simp)
      · rename_i message rest hdown
        obtain ⟨hioc, ⟨⟩⟩ := Option.ite_none_left_eq_some.mp h
        exact .toClient env message rest hdown (Bool.eq_false_of_not_eq_true hioc)

/-- The session changes in its flag only, and `EndsSession` does not look at that. -/
theorem endsSession_heard {mtu : UInt32} (deps : Deps) (now : UInt64) (s : ClientSession) (message other : Bytes) :
    EndsSession deps mtu (heard deps now s message).session other ↔ EndsSession deps mtu s other := by
  have hsession : ∃ b, (heard deps now s message).session = { s with authenticated := b } := by
    unfold heard
    rw [dispatchPacket_map]
    cases dispatchPacket message (some Prod.mk) with
    | none => exact ⟨s.authenticated, rfl⟩
    | some p => exact Server.handlePacket_fields deps now s p.1 p.2
  obtain ⟨b, hb⟩ := hsession
  rw [hb]
  exact Iff.rfl

/-! ## When the deliveries end -/

/-- When one end is gone, the queue to the other is not refilled. -/
theorem terminates_of_gone (h : l.serving = false ∨ l.client.iocStopped = true) : Terminates (deliver deps) l := by
  have hmeasure : ∃ n, (l.serving = false ∧ l.down.length = n) ∨ (l.client.iocStopped = true ∧ l.up.length = n) := by
    rcases h with h | h
    · exact ⟨_, Or.inl ⟨h, rfl⟩⟩
    · exact ⟨_, Or.inr ⟨h, rfl⟩⟩
  obtain ⟨n, hn⟩ := hmeasure
  refine terminates_of_measure (M := fun n l => (l.serving = false ∧ l.down.length = n) ∨
    (l.client.iocStopped = true ∧ l.up.length = n)) ?_ hn
  intro n l d l' hM hstep
  left
  cases deliver_cases hstep with
  | toServer now message rest hup hserving =>
      rcases hM with ⟨hgone, -⟩ | ⟨hgone, hlen⟩
      · rw [hserving] at hgone
        exact absurd hgone (by simp)
      · rw [hup, List.length_cons] at hlen
        exact ⟨rest.length, by omega, Or.inr ⟨hgone, rfl⟩⟩
  | toClient env message rest hdown hioc =>
      rcases hM with ⟨hgone, hlen⟩ | ⟨hgone, -⟩
      · rw [hdown, List.length_cons] at hlen
        exact ⟨rest.length, by omega, Or.inl ⟨hgone, rfl⟩⟩
      · rw [hioc] at hgone
        exact absurd hgone (by simp)

/-- Without a `Keepalive` every delivery brings the weight down. -/
theorem terminates_of_silent (h : ¬ l.Circulates) : Terminates (deliver deps) l := by
  refine terminates_of_measure (M := fun n l => ¬ l.Circulates ∧ (l.up.map weight).sum + l.down.length = n)
    ?_ ⟨h, rfl⟩
  rintro n l d l' ⟨hquiet, hn⟩ hstep
  left
  -- the messages for the server count with their answers, those for the client once
  have hup : ∀ message ∈ l.up, messageType message ≠ some .keepalive :=
    fun message hm hty => hquiet ⟨message, List.mem_append_left _ hm, hty⟩
  have hdown : ∀ message ∈ l.down, messageType message ≠ some .keepalive :=
    fun message hm hty => hquiet ⟨message, List.mem_append_right _ hm, hty⟩
  cases deliver_cases hstep with
  | toServer now message rest hhead hserving =>
      rw [hhead] at hup
      obtain ⟨hless, hreplies⟩ := (heard_spec deps now l.session message).weighs (hup message List.mem_cons_self)
      refine ⟨(rest.map weight).sum +
        (l.down ++ (heard deps now l.session message).calls.filterMap callFrame).length, ?_, ?_, rfl⟩
      · rw [← hn, hhead, List.map_cons, List.sum_cons, List.length_append]
        omega
      · rintro ⟨m, hm, hty⟩
        rcases List.mem_append.mp hm with hm | hm
        · exact hup m (List.mem_cons_of_mem _ hm) hty
        · rcases List.mem_append.mp hm with hm | hm
          · exact hdown m hm hty
          · exact hreplies m hm hty
  | toClient env message rest hhead hioc =>
      rw [hhead] at hdown
      have hnone := (outbox_received deps env l.client message).2.1 (hdown message List.mem_cons_self)
      refine ⟨((l.up ++ outbox (received deps env l.client message)).map weight).sum + rest.length, ?_, ?_, rfl⟩
      · rw [← hn, hhead, hnone, List.append_nil, List.length_cons]
        omega
      · rintro ⟨m, hm, hty⟩
        change m ∈ (l.up ++ outbox (received deps env l.client message)) ++ rest at hm
        rw [hnone, List.append_nil] at hm
        rcases List.mem_append.mp hm with hm | hm
        · exact hup m hm hty
        · exact hdown m (List.mem_cons_of_mem _ hm) hty

/-- A message that makes the client stop is reached: what comes before it gets less, and each delivery to the
    session adds at most one message behind it. -/
theorem terminates_of_endsClient (hr : l.client.running = true) (hmem : message ∈ l.down)
    (hends : EndsClient deps l.client.config.mtu message) : Terminates (deliver deps) l := by
  obtain ⟨pre, post, hsplit⟩ := List.append_of_mem hmem
  refine terminates_of_measure (M := fun (n : ℕ) (l : Link) => l.client.running = true ∧
    ∃ pre post, l.down = pre ++ message :: post ∧ EndsClient deps l.client.config.mtu message ∧
      2 * pre.length + l.up.length = n) ?_ ⟨hr, pre, post, hsplit, hends, rfl⟩
  rintro n l d l' ⟨hr, pre, post, hsplit, hends, hn⟩ hstep
  cases deliver_cases hstep with
  | toServer now m rest hup hserving =>
      left
      rw [hup, List.length_cons] at hn
      refine ⟨2 * pre.length + rest.length, by omega, hr, pre,
        post ++ (heard deps now l.session m).calls.filterMap callFrame, ?_, hends, rfl⟩
      show l.down ++ _ = _
      rw [hsplit, List.append_assoc]
      rfl
  | toClient env m rest hdown hioc =>
      obtain ⟨hserved, hstops⟩ := received_served deps env m hr
      cases pre with
      | nil =>
          -- the message is next
          right
          rw [hsplit] at hdown
          obtain ⟨rfl, -⟩ := List.cons.inj hdown
          exact terminates_of_gone (Or.inr (hstops hends))
      | cons first pre =>
          rcases hserved with hrun | hstopped
          · -- one message fewer before it, for at most one answer more
            left
            rw [hsplit] at hdown
            obtain ⟨rfl, rfl⟩ : first = m ∧ pre ++ message :: post = rest := List.cons.inj hdown
            have hle := (outbox_received deps env l.client first).1
            rw [List.length_cons] at hn
            refine ⟨2 * pre.length + (l.up ++ outbox (received deps env l.client first)).length, ?_, hrun, pre,
              post, rfl, ?_, rfl⟩
            · rw [List.length_append]
              omega
            · show EndsClient deps (received deps env l.client first).config.mtu message
              rw [config_received]
              exact hends
          · right
            exact terminates_of_gone (Or.inr hstopped)

/-- A message that ends the session is reached in the same way; its answer may be what ends the client. -/
theorem terminates_of_endsSession (hr : l.client.running = true) (hmem : message ∈ l.up)
    (hends : EndsSession deps l.client.config.mtu l.session message) : Terminates (deliver deps) l := by
  obtain ⟨pre, post, hsplit⟩ := List.append_of_mem hmem
  refine terminates_of_measure (M := fun (n : ℕ) (l : Link) => l.client.running = true ∧
    ∃ pre post, l.up = pre ++ message :: post ∧ EndsSession deps l.client.config.mtu l.session message ∧
      2 * pre.length + l.down.length = n) ?_ ⟨hr, pre, post, hsplit, hends, rfl⟩
  rintro n l d l' ⟨hr, pre, post, hsplit, hends, hn⟩ hstep
  cases deliver_cases hstep with
  | toServer now m rest hup hserving =>
      have hheard := heard_spec deps now l.session m
      cases pre with
      | nil =>
          right
          rw [hsplit] at hup
          obtain ⟨rfl, -⟩ := List.cons.inj hup
          rcases hheard.ends hends with hgone | ⟨reply, hreply, hstops⟩
          · exact terminates_of_gone (Or.inl hgone)
          · exact terminates_of_endsClient hr (List.mem_append_right _ hreply) hstops
      | cons first pre =>
          -- what the session makes of `first` does not change what ends it
          left
          rw [hsplit] at hup
          obtain ⟨rfl, rfl⟩ := List.cons.inj hup
          have hle := hheard.length_le
          rw [List.length_cons] at hn
          refine ⟨2 * pre.length +
            (l.down ++ (heard deps now l.session first).calls.filterMap callFrame).length, ?_, hr, pre,
            post, rfl, (endsSession_heard deps now l.session first message).mpr hends, rfl⟩
          rw [List.length_append]
          omega
  | toClient env m rest hdown hioc =>
      rcases (received_served deps env m hr).1 with hrun | hstopped
      · left
        rw [hdown, List.length_cons] at hn
        refine ⟨2 * pre.length + rest.length, by omega, hrun, pre,
          post ++ outbox (received deps env l.client m), ?_, ?_, rfl⟩
        · show l.up ++ _ = _
          rw [hsplit, List.append_assoc]
          rfl
        · show EndsSession deps (received deps env l.client m).config.mtu l.session message
          rw [config_received]
          exact hends
      · right
        exact terminates_of_gone (Or.inr hstopped)

/-! ## When they do not -/

theorem endsSession_keepalive {mtu : UInt32} (h : messageType message = some .keepalive) :
    ¬ EndsSession deps mtu s message := by
  intro hends
  have hty := messageType_of_endsSession hends
  rw [h] at hty
  exact absurd hty (by simp)

/-- A `Keepalive` goes round, and nothing else ends the connection. -/
structure Link.Turning (deps : Deps) (l : Link) : Prop where
  live       : l.Live
  circulates : l.Circulates
  spared     : ¬ l.Ends deps

theorem Link.Turning.spares (h : l.Turning deps) :
    (∀ message ∈ l.up, ¬ EndsSession deps l.client.config.mtu l.session message) ∧
      ∀ message ∈ l.down, ¬ EndsClient deps l.client.config.mtu message :=
  ⟨fun message hm hends => h.spared (Or.inl ⟨message, hm, hends⟩),
    fun message hm hends => h.spared (Or.inr ⟨message, hm, hends⟩)⟩

/-- A message for the session is delivered when the session accepts what it accepts at some time. -/
theorem Link.Turning.toServer {rest : List Bytes} (h : l.Turning deps) (hup : l.up = message :: rest) :
    ∃ now l', deliver deps l (.toServer now) = some l' ∧ l'.Turning deps := by
  obtain ⟨hsession, hclient⟩ := h.spares
  rw [hup] at hsession
  obtain ⟨now, hserving, hreplies, hecho⟩ := exists_heard_serving (hsession message List.mem_cons_self)
  refine ⟨now, l.afterServer deps now message rest, ?_, ?_⟩
  · simp only [deliver, hup, h.live.serving, if_true]
  refine ⟨⟨h.live.client, hserving⟩, ?_, ?_⟩
  · obtain ⟨m, hm, hty⟩ := h.circulates
    rw [hup] at hm
    rcases List.mem_append.mp hm with hm | hm
    · rcases List.mem_cons.mp hm with rfl | hm
      · -- the `Keepalive` itself, which comes back
        exact ⟨keepaliveFrame, List.mem_append_right _ (List.mem_append_right _ (hecho hty)),
          messageType_keepaliveFrame⟩
      · exact ⟨m, List.mem_append_left _ hm, hty⟩
    · exact ⟨m, List.mem_append_right _ (List.mem_append_left _ hm), hty⟩
  · rintro (⟨m, hm, hends⟩ | ⟨m, hm, hends⟩)
    · exact hsession m (List.mem_cons_of_mem _ hm) ((endsSession_heard deps now l.session message m).mp hends)
    · rcases List.mem_append.mp hm with hm | hm
      · exact hclient m hm hends
      · exact hreplies m hm hends

/-- A message for the client is delivered when its TUN device opens. -/
theorem Link.Turning.toClient {rest : List Bytes} (h : l.Turning deps) (hdown : l.down = message :: rest)
    (htun : env.tunOpens = true) : ∃ l', deliver deps l (.toClient env) = some l' ∧ l'.Turning deps := by
  obtain ⟨hsession, hclient⟩ := h.spares
  rw [hdown] at hclient
  obtain ⟨hlive, hecho⟩ := received_live h.live.client (hclient message List.mem_cons_self) htun
  refine ⟨l.afterClient deps env message rest, ?_, ?_⟩
  · simp only [deliver, hdown, h.live.client.ioc]
    exact if_neg (by simp)
  refine ⟨⟨hlive, h.live.serving⟩, ?_, ?_⟩
  · obtain ⟨m, hm, hty⟩ := h.circulates
    rw [hdown] at hm
    rcases List.mem_append.mp hm with hm | hm
    · exact ⟨m, List.mem_append_left _ (List.mem_append_left _ hm), hty⟩
    · rcases List.mem_cons.mp hm with rfl | hm
      · exact ⟨keepaliveFrame, List.mem_append_left _ (List.mem_append_right _ (hecho hty)),
          messageType_keepaliveFrame⟩
      · exact ⟨m, List.mem_append_right _ hm, hty⟩
  · rintro (⟨m, hm, hends⟩ | ⟨m, hm, hends⟩)
    · change EndsSession deps (received deps env l.client message).config.mtu l.session m at hends
      rw [config_received] at hends
      rcases List.mem_append.mp hm with hm | hm
      · exact hsession m hm hends
      · exact endsSession_keepalive ((outbox_received deps env l.client message).2.2 m hm) hends
    · change EndsClient deps (received deps env l.client message).config.mtu m at hends
      rw [config_received] at hends
      exact hclient m (List.mem_cons_of_mem _ hm) hends

theorem not_terminates_of_turning (h : l.Turning deps) : ¬ Terminates (deliver deps) l := by
  refine not_terminates_of_invariant (I := Link.Turning deps) ?_ h
  intro l h
  cases hup : l.up with
  | cons message rest =>
      obtain ⟨now, l', hstep, h'⟩ := h.toServer hup
      exact ⟨_, l', hstep, h'⟩
  | nil =>
      cases hdown : l.down with
      | cons message rest =>
          obtain ⟨l', hstep, h'⟩ := h.toClient hdown (show Client.sampleEnv.tunOpens = true from rfl)
          exact ⟨_, l', hstep, h'⟩
      | nil =>
          obtain ⟨m, hm, -⟩ := h.circulates
          rw [hup, hdown] at hm
          exact absurd hm List.not_mem_nil

/-- **When replies die out.** For every content of the two queues of a live connection, every sequence of
    deliveries is finite exactly when no `Keepalive` is under way, or a message that ends the connection is. -/
theorem replies_die_out_iff (h : l.Live) :
    Terminates (deliver deps) l ↔ ¬ l.Circulates ∨ l.Ends deps := by
  constructor
  · intro hterm
    by_contra hnot
    obtain ⟨hcirculates, hspared⟩ := not_or.mp hnot
    exact not_terminates_of_turning ⟨h, not_not.mp hcirculates, hspared⟩ hterm
  · rintro (hquiet | ⟨message, hm, hends⟩ | ⟨message, hm, hends⟩)
    · exact terminates_of_silent hquiet
    · exact terminates_of_endsSession h.client.running hm hends
    · exact terminates_of_endsClient h.client.running hm hends

/-! ## A connection that answers itself -/

/-- The sample client and a session that accepts anyone. -/
def sampleLink (up down : List Bytes) : Link := ⟨onlineClient, openSession, true, up, down⟩

theorem sampleLink_live (up down : List Bytes) : (sampleLink up down).Live :=
  ⟨⟨rfl, rfl, _, rfl, rfl, rfl⟩, rfl⟩

def pingFrame : Bytes := frame MsgType.ping.toByte (ascii "kirdi")

def disconnectFrame : Bytes := frame MsgType.disconnect.toByte []

/-- A `Ping` and a packet are answered once; a `Keepalive` stops going round at a `Disconnect`. -/
theorem replies_die_out_samples :
    Terminates (deliver openDeps) (sampleLink [pingFrame] [frame MsgType.ipPacket.toByte samplePacket]) ∧
      Terminates (deliver openDeps) (sampleLink [disconnectFrame] [keepaliveFrame]) := by
  refine ⟨(replies_die_out_iff (sampleLink_live _ _)).mpr (Or.inl ?_),
    (replies_die_out_iff (sampleLink_live _ _)).mpr (Or.inr (Or.inl ?_))⟩
  · unfold Link.Circulates
    decide
  · refine ⟨disconnectFrame, List.mem_singleton.mpr rfl, ?_⟩
    exact ⟨⟨MsgType.disconnect.toByte, 0⟩, [], by decide, Or.inl rfl⟩

/-- **One `Keepalive` goes round for ever.** -/
theorem keepalive_goes_round :
    (sampleLink [keepaliveFrame] []).Live ∧
      ¬ Terminates (deliver openDeps) (sampleLink [keepaliveFrame] []) := by
  have hlive := sampleLink_live [keepaliveFrame] []
  refine ⟨hlive, not_terminates_of_turning ⟨hlive, ?_, ?_⟩⟩
  · exact ⟨keepaliveFrame, List.mem_cons_self, messageType_keepaliveFrame⟩
  · rintro (⟨m, hm, hends⟩ | ⟨m, hm, hends⟩)
    · rw [List.mem_singleton.mp hm] at hends
      exact endsSession_keepalive messageType_keepaliveFrame hends
    · exact absurd hm List.not_mem_nil

end Tunnel
end Kirdi
