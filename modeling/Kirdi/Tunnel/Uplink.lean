import Kirdi.Tunnel.Agreement
import Kirdi.Tunnel.Drain
import Kirdi.Tunnel.Order
import Kirdi.Tunnel.Replies

/-!
# `Tunnel.Uplink` — what an honest client sends is let out

`on_connected` sends one `AuthRequest`, and no other code of the client sends another. The TUN device is opened
when the accepted response is read, which the session sends after it has set `authenticated_`; a session would
only clear the flag for a second `AuthRequest`. So while the device is open the session is authenticated
(`LoginFirst`), and it lets out every packet that comes up: `uplink_fidelity` and `uplink_delivers` need no
assumption on when packets are read.

Downwards this is not so (`packetBeforeResponse`).
-/

set_option linter.dupNamespace false

namespace Kirdi
namespace Tunnel

open Protocol Crypto EventMachine Proc
open Transport (Kind Op)
open Client (Client Env)
open Server (ClientSession Call handlePacket handleAuthRequest authOk authResponse)

/-- `send_auth` is the only code of the client that sends an `AuthRequest`. -/
def LogsInOnce : Event → Prop
  | .clientSend type _ => type ≠ .authRequest
  | _ => True

instance : DecidablePred LogsInOnce := fun e =>
  match e with
  | .clientSend type _ => inferInstanceAs (Decidable (type ≠ .authRequest))
  | .tunPacket _ | .client _ | .clientRead _ | .clientReadError | .clientWriteError | .routed _ | .server _
  | .serverRead _ => inferInstanceAs (Decidable True)

/-- The `AuthRequest`s among some messages. -/
def logins (messages : List Bytes) : Nat := messages.countP fun message => messageType message = some .authRequest

/-- The client takes the message for an accepted login. -/
def OpensClient (deps : Deps) (mtu : UInt32) (message : Bytes) : Prop :=
  ∃ virtualIp tunCfg, Client.authVerdict deps mtu message = some (.accepted virtualIp tunCfg)

/-- The session is authenticated before the client knows, and the client knows before it sends a packet. -/
structure LoginFirst (deps : Deps) (t : Tunnel) : Prop where
  once   : logins (issued t.up.ws) ≤ 1
  read   : t.session.authenticated = true → 1 ≤ logins t.up.arrived
  told   : ∀ message ∈ issued t.down.ws, OpensClient deps t.client.config.mtu message →
    t.session.authenticated = true
  opened : t.client.tunOpen = true → t.session.authenticated = true
  sent   : ∀ message ∈ issued t.up.ws, (ipPayload message).isSome = true → t.session.authenticated = true

variable {deps : Deps} {k : Kind} {t t' : Tunnel} {l l' : Lane} {env : Env} {e : Event} {message message' : Bytes}
  {now : UInt64} {c : Client}

/-! ## Messages on a lane -/

/-- What is under way was passed to `send`. -/
theorem Lane.Inv.mem_issued (h : l.Inv k) (hmem : message ∈ l.net) : message ∈ issued l.ws := by
  have hhanded : message ∈ l.ws.handed := by
    rw [h.net]
    exact List.mem_append_right _ hmem
  unfold issued
  rw [h.queue.ordered]
  simp [hhanded]

/-- A message that is read was counted before. -/
theorem Lane.Inv.logins_le (h : l.Inv k) {rest : List Bytes} (hnet : l.net = message :: rest) :
    logins (l.arrived ++ [message]) ≤ logins (issued l.ws) := by
  have hsub : (l.arrived ++ [message]).Sublist (issued l.ws) := by
    unfold issued
    rw [h.queue.ordered, h.net, hnet, List.append_cons l.arrived message rest]
    simp only [List.append_assoc (l.arrived ++ [message])]
    exact List.sublist_append_left _ _
  exact hsub.countP_le

/-- A step of the transport adds what it was asked to send. -/
theorem issued_drive {ev : Transport.Event} (hdrive : l.drive k ev = some l') :
    (issued l'.ws).Subperm (issued l.ws ++ requested ev) := by
  obtain ⟨ws, hws, rfl⟩ := Option.map_eq_some_iff.mp hdrive
  exact (issued_step hws).1

theorem mem_issued_drive {ev : Transport.Event} (hdrive : l.drive k ev = some l') (hmem : message ∈ issued l'.ws) :
    message ∈ issued l.ws ∨ message ∈ requested ev :=
  List.mem_append.mp ((issued_drive hdrive).subset hmem)

theorem logins_drive {ev : Transport.Event} (hdrive : l.drive k ev = some l')
    (hnone : ∀ message ∈ requested ev, messageType message ≠ some .authRequest) :
    logins (issued l'.ws) ≤ logins (issued l.ws) := by
  have hle := (issued_drive hdrive).countP_le (fun message => decide (messageType message = some .authRequest))
  rw [List.countP_append] at hle
  have hzero : (requested ev).countP (fun message => decide (messageType message = some .authRequest)) = 0 :=
    List.countP_eq_zero.mpr fun message hm => by simpa using hnone message hm
  unfold logins
  omega

theorem mem_issued_give {packet data : Bytes} (hmem : message ∈ issued (l.give k packet data).ws) :
    message ∈ issued l.ws ∨ message = data := by
  have hstep : Transport.step k l.ws (.send data) = some (l.give k packet data).ws := rfl
  rcases List.mem_append.mp ((issued_step hstep).1.subset hmem) with h | h
  · exact Or.inl h
  · exact Or.inr (List.mem_singleton.mp h)

theorem logins_give {packet data : Bytes} (hdata : messageType data ≠ some .authRequest) :
    logins (issued (l.give k packet data).ws) ≤ logins (issued l.ws) := by
  have hstep : Transport.step k l.ws (.send data) = some (l.give k packet data).ws := rfl
  have hle := (issued_step hstep).1.countP_le (fun message => decide (messageType message = some .authRequest))
  rw [List.countP_append] at hle
  simpa [logins, requested, hdata] using hle

/-! ## The client -/

theorem tunOpen_stop (hopen : (Client.stop.run c).tunOpen = true) : c.tunOpen = true := by
  cases hr : c.running with
  | false => rwa [Client.stop_run_of_stopped hr] at hopen
  | true =>
      rw [Client.stop_run hr] at hopen
      unfold Client.Client.tunOpen at hopen
      cases htun : c.tun with
      | none => simp [htun] at hopen
      | some d => simp [htun] at hopen

/-- The client lets go of its device when the connection fails. -/
theorem tunOpen_failed (hopen : t.failed.tunOpen = true) : t.client.tunOpen = true := by
  unfold Tunnel.failed at hopen
  split at hopen
  · exact hopen
  · cases hc : t.client.connected with
    | false => rwa [Client.onError_run_of_not_connected hc] at hopen
    | true =>
        rw [Client.onError_run hc] at hopen
        split at hopen <;> exact absurd hopen (by simp [Client.Client.tunOpen])

theorem config_failed (t : Tunnel) : t.failed.config = t.client.config := by
  unfold Tunnel.failed
  split
  · rfl
  · exact congrArg Prod.fst (Client.keeps_settings_onError.run_eq t.client)

/-- The callback of a tunnel's client is `on_packet` with nothing sent before. -/
theorem dispatched_eq (deps : Deps) (env : Env) (t : Tunnel) (message : Bytes) :
    ∃ c, t.dispatched deps env message = received deps env c message ∧ c.config = t.client.config ∧
      c.tun = t.client.tun := by
  refine ⟨t.client.setConn t.client.ws fun u =>
    { u with connected := t.up.ws.connected, closing := t.up.ws.closing }, ?_, rfl, rfl⟩
  unfold Tunnel.dispatched received attach unburdened Client.Client.setConn
  simp only [List.modify_modify_eq]
  rfl

theorem config_dispatched (deps : Deps) (env : Env) (t : Tunnel) (message : Bytes) :
    (t.dispatched deps env message).config = t.client.config := by
  obtain ⟨c, hc, hconfig, -⟩ := dispatched_eq deps env t message
  rw [hc, config_received, hconfig]

/-- A client answers with `Keepalive`s only. -/
theorem asked_keepalive {ws : Transport.Transport}
    (hmem : message ∈ (asked (t.dispatched deps env message') ws).filterMap sentFrame) :
    messageType message = some .keepalive := by
  obtain ⟨c, hc, -, -⟩ := dispatched_eq deps env t message'
  rw [hc] at hmem
  refine (outbox_received deps env c message').2.2 message ?_
  unfold asked at hmem
  unfold outbox flow
  cases htr : (received deps env c message').transports[(received deps env c message').ws]? with
  | none =>
      rw [htr] at hmem
      exact absurd hmem List.not_mem_nil
  | some u =>
      rw [htr] at hmem
      obtain ⟨op, hop, hframe⟩ := List.mem_filterMap.mp hmem
      rcases List.mem_append.mp hop with hsend | hclose
      · obtain ⟨d, hd, rfl⟩ := List.mem_map.mp hsend
        obtain rfl : d = message := Option.some.inj hframe
        exact hd
      · split at hclose
        · rw [List.mem_singleton.mp hclose] at hframe
          exact absurd hframe (by simp [sentFrame])
        · exact absurd hclose List.not_mem_nil

/-- **Only an accepted login opens the device.** -/
theorem tunOpen_received (hopen : (received deps env c message).tunOpen = true) :
    c.tunOpen = true ∨ OpensClient deps c.config.mtu message := by
  unfold received at hopen
  rw [dispatchPacket_map] at hopen
  cases hdispatch : dispatchPacket message (some Prod.mk) with
  | none =>
      rw [hdispatch] at hopen
      exact Or.inl hopen
  | some p =>
      obtain ⟨hdr, payload⟩ := p
      rw [hdispatch] at hopen
      change ((Client.onPacket deps env hdr payload).run (unburdened c)).tunOpen = true at hopen
      by_cases hty : MsgType.ofByte hdr.type = some .authResponse
      · rw [Client.onPacket_authResponse hty, Client.onAuthResponse_run] at hopen
        have hmtu : (unburdened c).config.mtu = c.config.mtu := rfl
        rw [hmtu] at hopen
        cases hread : Client.readAuthResponse deps c.config.mtu payload with
        | malformed =>
            rw [hread] at hopen
            exact Or.inl hopen
        | partlyRead virtualIp =>
            rw [hread] at hopen
            exact Or.inl hopen
        | rejected =>
            rw [hread] at hopen
            change (Client.stop.run (unburdened c)).tunOpen = true at hopen
            have hbefore : (unburdened c).tunOpen = true := tunOpen_stop hopen
            exact Or.inl hbefore
        | accepted virtualIp tunCfg =>
            refine Or.inr ⟨virtualIp, tunCfg, ?_⟩
            unfold Client.authVerdict
            rw [hdispatch]
            simp only [hty, if_true, hread]
      · have hkeeps : Keeps Client.Client.tunOpen (Client.onPacket deps env hdr payload) :=
          Client.keeps_onPacket hty (fun _ _ => rfl) fun _ _ => rfl
        exact Or.inl ((hkeeps.run_eq (unburdened c)).symm.trans hopen)

theorem tunOpen_dispatched (hopen : (t.dispatched deps env message).tunOpen = true) :
    t.client.tunOpen = true ∨ OpensClient deps t.client.config.mtu message := by
  obtain ⟨c, hc, hconfig, htun⟩ := dispatched_eq deps env t message
  rw [hc] at hopen
  have hopened := tunOpen_received hopen
  unfold Client.Client.tunOpen at hopened ⊢
  rwa [hconfig, htun] at hopened

/-! ## The session -/

/-- An `OpensClient` message is an `AuthResponse`. -/
theorem messageType_of_opensClient {mtu : UInt32} (h : OpensClient deps mtu message) :
    messageType message = some .authResponse := by
  obtain ⟨virtualIp, tunCfg, h⟩ := h
  unfold Client.authVerdict at h
  unfold messageType
  cases hdispatch : dispatchPacket message (some Prod.mk) with
  | none =>
      rw [hdispatch] at h
      exact absurd h (by simp)
  | some p =>
      rw [hdispatch] at h
      exact (Option.ite_none_right_eq_some.mp h).1

/-- A refusal does not open the client. -/
theorem not_opensClient_refusal {session : ClientSession} {pkt : Bytes} {mtu : UInt32}
    (hjson : RoundTrips deps Server.refusal) (hresp : authResponse deps session false = .ok pkt) :
    ¬ OpensClient deps mtu pkt := by
  rintro ⟨virtualIp, tunCfg, h⟩
  unfold authResponse at hresp
  rw [if_neg (by simp)] at hresp
  cases hdump : deps.dump Server.refusal with
  | none =>
      rw [hdump] at hresp
      exact absurd hresp (by simp)
  | some respStr =>
      rw [hdump] at hresp
      obtain ⟨hlen, rfl⟩ := eq_frame_of_buildPacket hresp
      have hdispatch := dispatchPacket_frame MsgType.authResponse.toByte [] Prod.mk hlen
      rw [List.append_nil] at hdispatch
      obtain ⟨members, hparse, hmembers⟩ := hjson _ respStr rfl hdump
      have hok : members.lookup (ascii "ok") = some (.boolean false) := hmembers (ascii "ok")
      have hread : Client.readAuthResponse deps mtu respStr = .rejected := by
        unfold Client.readAuthResponse
        rw [hparse]
        simp only [Json.value, hok, Json.getBool]
      unfold Client.authVerdict at h
      rw [hdispatch] at h
      simp [hread] at h

/-- The frames that `handle_packet` sends for other messages are `Keepalive`s and `Pong`s. -/
theorem handlePacket_no_response {session : ClientSession} {hdr : PacketHeader} {payload data : Bytes}
    (hty : MsgType.ofByte hdr.type ≠ some .authRequest)
    (hmem : Call.send data ∈ (handlePacket deps now session hdr payload).calls) :
    messageType data ≠ some .authResponse := by
  have hbuilt : ∀ {type : MsgType} {b : Bytes} {r : Except String Bytes}, r = buildPacket type.toByte b →
      type ≠ .authResponse → Call.send data ∈ (Server.sendBuilt session r).calls →
        messageType data ≠ some .authResponse := by
    intro type b r hr hother hmem
    cases r with
    | error err => exact absurd hmem List.not_mem_nil
    | ok pkt =>
        obtain rfl : data = pkt := Call.send.inj (List.mem_singleton.mp hmem)
        rw [messageType_built hr.symm]
        exact fun h => hother (Option.some.inj h)
  unfold handlePacket at hmem
  split at hmem
  · exact absurd ‹_› hty
  · split at hmem
    · exact absurd hmem List.not_mem_nil
    · split at hmem <;> simp at hmem
  · exact hbuilt (b := []) rfl (by decide) hmem
  · exact hbuilt rfl (by decide) hmem
  · simp at hmem
  · exact absurd hmem List.not_mem_nil

/-- What a message does to the flag of a session: nothing unless it is an `AuthRequest`, whose answer is then the
    only frame that is sent. -/
theorem outcome_login (hexit : (t.outcome deps now message).exit = .returned) :
    (messageType message ≠ some .authRequest ∧ (t.outcome deps now message).session = t.session ∧
        ∀ data ∈ requested (.read ((t.outcome deps now message).calls.filterMap callOp)),
          messageType data ≠ some .authResponse) ∨
      (messageType message = some .authRequest ∧ ∃ ok pkt,
        (t.outcome deps now message).session = { t.session with authenticated := ok } ∧
        authResponse deps { t.session with authenticated := ok } ok = .ok pkt ∧
        requested (.read ((t.outcome deps now message).calls.filterMap callOp)) = [pkt]) := by
  unfold Tunnel.outcome at hexit ⊢
  rw [dispatchPacket_map] at hexit ⊢
  unfold messageType
  cases hdispatch : dispatchPacket message (some Prod.mk) with
  | none => exact Or.inl ⟨by simp, rfl, fun _ hd => absurd hd List.not_mem_nil⟩
  | some p =>
      obtain ⟨hdr, payload⟩ := p
      rw [hdispatch] at hexit
      simp only [Option.map_some, Option.getD_some, Option.bind_some] at hexit ⊢
      by_cases hty : MsgType.ofByte hdr.type = some .authRequest
      · right
        refine ⟨hty, ?_⟩
        rw [Server.handlePacket_authRequest hty] at hexit ⊢
        cases hok : authOk deps now t.session.authSecret payload with
        | none =>
            rw [Server.handleAuthRequest_diverged hok] at hexit
            exact absurd hexit (by simp)
        | some ok =>
            cases hresp : authResponse deps { t.session with authenticated := ok } ok with
            | error err =>
                unfold handleAuthRequest at hexit
                rw [hok] at hexit
                simp only [hresp] at hexit
                exact absurd hexit (by simp)
            | ok pkt =>
                rw [Server.handleAuthRequest_answered hok hresp]
                refine ⟨ok, pkt, rfl, hresp, ?_⟩
                cases ok <;> rfl
      · left
        refine ⟨hty, ?_, ?_⟩
        · rw [Server.handlePacket_session, if_neg hty]
        · intro data hdata
          exact handlePacket_no_response hty (mem_sentFrame hdata)

/-! ## Runs -/

theorem loginFirst_start {client : Client} {session : ClientSession} {hello : Bytes} {c : Int64}
    (hhello : Client.authRequest deps client.config c = .ok hello) (hclosed : client.tunOpen = false)
    (hauth : session.authenticated = false) : LoginFirst deps (Tunnel.start client session hello) := by
  have hissued : issued (Tunnel.start client session hello).up.ws = [hello] := rfl
  refine ⟨?_, ?_, fun _ hm => absurd hm List.not_mem_nil, ?_, ?_⟩
  · rw [hissued]
    exact List.countP_le_length
  · intro h
    exact absurd (h.symm.trans hauth) (by simp)
  · intro h
    exact absurd (h.symm.trans hclosed) (by simp)
  · intro message hm hip
    rw [hissued] at hm
    obtain ⟨authStr, hbuilt⟩ := Client.authRequest_built hhello
    rw [List.mem_singleton.mp hm, ipPayload_other (by decide) hbuilt] at hip
    exact absurd hip (by simp)

/-- A step of the client's transport, and of the client, that sends neither an `AuthRequest` nor a packet. -/
theorem LoginFirst.up (h : LoginFirst deps t) {ev : Transport.Event} {up : Lane} {client : Client}
    (hdrive : t.up.drive .wsClientTransport ev = some up)
    (hrequested : ∀ message ∈ requested ev, messageType message ≠ some .authRequest ∧ ipPayload message = none)
    (hconfig : client.config = t.client.config)
    (hopened : client.tunOpen = true → t.session.authenticated = true) :
    LoginFirst deps { t with client := client, up := up } := by
  refine ⟨(logins_drive hdrive fun m hm => (hrequested m hm).1).trans h.once, ?_, ?_, hopened, ?_⟩
  · have harrived := (taken_drive hdrive).2
    rw [harrived]
    exact h.read
  · rw [hconfig]
    exact h.told
  · intro message hm hip
    rcases mem_issued_drive hdrive hm with hm | hm
    · exact h.sent message hm hip
    · rw [(hrequested message hm).2] at hip
      exact absurd hip (by simp)

/-- An IP packet is neither an `AuthRequest` nor an `AuthResponse`. -/
theorem messageType_buildIpPacket {packet data : Bytes} (h : buildIpPacket packet = .ok data) :
    messageType data = some .ipPacket := messageType_built h

theorem LoginFirst.step (h : LoginFirst deps t) (ho : t.Ordered k) (hjson : RoundTrips deps Server.refusal)
    (honce : LogsInOnce e) (hstep : step deps k t e = some t') : LoginFirst deps t' := by
  cases step_moves hstep with
  | @packetSent packet data hfree hbuilt =>
      -- the thread found the device open
      have hopen : t.client.tunOpen = true := (Option.ite_none_right_eq_some.mp hstep).1.2.2.1
      have hauth := h.opened hopen
      refine ⟨(logins_give (by simp [messageType_buildIpPacket hbuilt])).trans h.once, h.read, h.told, h.opened, ?_⟩
      exact fun _ _ _ => hauth
  | packetDropped _ => exact h
  | @clientSend type payload data up hty hbuilt hdrive =>
      refine h.up hdrive ?_ rfl h.opened
      intro message hm
      rw [List.mem_singleton.mp hm, messageType_built hbuilt]
      exact ⟨fun heq => honce (Option.some.inj heq), ipPayload_other hty hbuilt⟩
  | client hev hdrive =>
      refine h.up hdrive ?_ rfl h.opened
      rw [requested_own hev]
      exact fun _ hm => absurd hm List.not_mem_nil
  | clientReadError hdrive | clientWriteError hdrive =>
      refine h.up hdrive (fun _ hm => absurd hm List.not_mem_nil) (config_failed t) ?_
      exact fun hopen => h.opened (tunOpen_failed hopen)
  | @clientRead env message rest up hnet hdrive =>
      have hmem : message ∈ t.down.net := by
        rw [hnet]
        exact List.mem_cons_self
      have hread : LoginFirst deps { t with client := t.dispatched deps env message, up := up } := by
        refine h.up hdrive ?_ (config_dispatched deps env t message) ?_
        · intro data hd
          have hkeep := asked_keepalive hd
          refine ⟨by simp [hkeep], ?_⟩
          exact (dispatched_packets deps env t message).2 data hd
        · intro hopen
          rcases tunOpen_dispatched hopen with hbefore | hopens
          · exact h.opened hbefore
          · -- the response was sent by an authenticated session
            exact h.told message (ho.down.mem_issued hmem) hopens
      exact ⟨hread.once, hread.read, hread.told, hread.opened, hread.sent⟩
  | @routed packet data hfree hbuilt =>
      refine ⟨h.once, h.read, ?_, h.opened, h.sent⟩
      intro message hm hopens
      rcases mem_issued_give hm with hm | rfl
      · exact h.told message hm hopens
      · have hty := messageType_of_opensClient hopens
        rw [messageType_buildIpPacket hbuilt] at hty
        exact absurd hty (by simp)
  | @server ev down hev hdrive =>
      refine ⟨h.once, h.read, ?_, h.opened, h.sent⟩
      intro message hm hopens
      rcases mem_issued_drive hdrive hm with hm | hm
      · exact h.told message hm hopens
      · have hnone : requested ev = [] := by
          cases ev with
          | send | read => exact absurd hev (by simp [serverStep])
          | _ => rfl
        rw [hnone] at hm
        exact absurd hm List.not_mem_nil
  | @serverRead now message rest down hnet hexit hdrive =>
      have hcount := (ho.up.logins_le hnet).trans h.once
      have harrived : (t.up.take ((t.outcome deps now message).calls.filterMap callPacket)).arrived =
          t.up.arrived ++ [message] := by
        show t.up.arrived ++ t.up.net.take 1 = _
        rw [hnet]
        rfl
      rcases outcome_login hexit with ⟨hty, hsame, hnone⟩ | ⟨hty, ok, pkt, hsession, hresp, hsent⟩
      · refine ⟨h.once, ?_, ?_, ?_, ?_⟩
        · intro hauth
          rw [hsame] at hauth
          rw [harrived]
          exact (h.read hauth).trans (List.sublist_append_left _ _).countP_le
        · intro data hd hopens
          rw [hsame]
          rcases mem_issued_drive hdrive hd with hd | hd
          · exact h.told data hd hopens
          · exact absurd (messageType_of_opensClient hopens) (hnone data hd)
        · rw [hsame]
          exact h.opened
        · rw [hsame]
          exact h.sent
      · -- the only `AuthRequest`, so the session was not authenticated before
        have hlogins : logins (t.up.arrived ++ [message]) = logins t.up.arrived + 1 := by
          unfold logins
          rw [List.countP_append]
          simp [hty]
        have hbefore : t.session.authenticated ≠ true := by
          intro hauth
          have hread := h.read hauth
          omega
        rw [hsession]
        refine ⟨h.once, ?_, ?_, ?_, ?_⟩
        · intro _
          rw [harrived, hlogins]
          exact Nat.le_add_left 1 _
        · intro data hd hopens
          rcases mem_issued_drive hdrive hd with hold | hnew
          · exact absurd (h.told data hold hopens) hbefore
          · rw [hsent] at hnew
            cases ok with
            | true => rfl
            | false =>
                rw [List.mem_singleton.mp hnew] at hopens
                exact absurd hopens (not_opensClient_refusal hjson hresp)
        · exact fun hopen => absurd (h.opened hopen) hbefore
        · exact fun data hd hip => absurd (h.sent data hd hip) hbefore

/-- What holds in every run of a connection whose client logs in once. -/
structure Tunnel.Honest (deps : Deps) (k : Kind) (t : Tunnel) : Prop where
  ordered  : t.Ordered k
  login    : LoginFirst deps t
  callback : t.session.onIpPacketSet = true
  upTaken  : t.up.taken = t.up.arrived.filterMap ipPayload

theorem callback_step (h : t.session.onIpPacketSet = true) (hstep : step deps k t e = some t') :
    t'.session.onIpPacketSet = true := by
  cases step_moves hstep with
  | @serverRead now message rest down hnet hexit hdrive =>
      rcases outcome_login hexit with ⟨-, hsame, -⟩ | ⟨-, ok, pkt, hsession, -, -⟩
      · exact hsame ▸ h
      · exact hsession ▸ h
  | _ => exact h

/-- **Every step keeps it**: a packet that is read was sent by a client whose device was open. -/
theorem Tunnel.Honest.step (h : t.Honest deps k) (hjson : RoundTrips deps Server.refusal) (honce : LogsInOnce e)
    (hstep : step deps k t e = some t') : t'.Honest deps k := by
  refine ⟨h.ordered.step hstep, h.login.step h.ordered hjson honce hstep, callback_step h.callback hstep, ?_⟩
  have hdriven : ∀ {ev : Transport.Event} {up : Lane}, t.up.drive .wsClientTransport ev = some up →
      up.taken = up.arrived.filterMap ipPayload := by
    intro ev up hdrive
    obtain ⟨htaken, harrived⟩ := taken_drive hdrive
    rw [htaken, harrived]
    exact h.upTaken
  cases step_moves hstep with
  | clientSend _ _ hdrive | client _ hdrive | clientRead _ hdrive | clientReadError hdrive
  | clientWriteError hdrive => exact hdriven hdrive
  | packetSent | packetDropped | routed | server => exact h.upTaken
  | @serverRead now message rest down hnet hexit hdrive =>
      have hmem : message ∈ t.up.net := by
        rw [hnet]
        exact List.mem_cons_self
      obtain ⟨hpackets, -, -⟩ := outcome_spec (t := t) deps now h.callback
        fun hip : (ipPayload message).isSome = true => h.login.sent message (h.ordered.up.mem_issued hmem) hip
      rw [hpackets]
      exact taken_take hnet h.upTaken

theorem honest_of_run {client : Client} {session : ClientSession} {hello : Bytes} {c : Int64} {es : List Event}
    (hjson : RoundTrips deps Server.refusal) (hcb : session.onIpPacketSet = true)
    (hauth : session.authenticated = false) (hclosed : client.tunOpen = false)
    (hhello : Client.authRequest deps client.config c = .ok hello) (honce : ∀ e ∈ es, LogsInOnce e)
    (hrun : run (step deps k) (Tunnel.start client session hello) es = some t) : t.Honest deps k := by
  have hquiet : ipPayload hello = none := by
    obtain ⟨authStr, hbuilt⟩ := Client.authRequest_built hhello
    exact ipPayload_other (by decide) hbuilt
  refine run_invariant (C := fun _ e => LogsInOnce e) (I := Tunnel.Honest deps k)
    (fun _ _ _ hone h hstep => h.step hjson hone hstep) ?_
    ⟨ordered_start client hquiet, loginFirst_start hhello hclosed hauth, hcb, rfl⟩ hrun
  rintro pre e post s rfl -
  exact honce e (List.mem_append_right _ List.mem_cons_self)

/-- **An honest client's packets are let out**: in every run of a connection whose client logs in once, the
    session is authenticated whenever the client's TUN device is open, so the packets that come out are a prefix
    of those passed to `send`, and all of them once the queue of the client, whose transport still takes packets, is
    idle and everything has been read. -/
theorem uplink_fidelity {client : Client} {session : ClientSession} {hello : Bytes} {c : Int64} {es : List Event}
    (hjson : RoundTrips deps Server.refusal) (hcb : session.onIpPacketSet = true)
    (hauth : session.authenticated = false) (hclosed : client.tunOpen = false)
    (hhello : Client.authRequest deps client.config c = .ok hello) (honce : ∀ e ∈ es, LogsInOnce e)
    (hrun : run (step deps k) (Tunnel.start client session hello) es = some t) :
    (t.client.tunOpen = true → t.session.authenticated = true) ∧ t.up.taken <+: t.up.given ∧
      (t.up.ws.gate .wsClientTransport = true → t.up.Idle → t.up.net = [] → t.up.taken = t.up.given) := by
  have h := honest_of_run hjson hcb hauth hclosed hhello honce hrun
  refine ⟨h.login.opened, ?_, ?_⟩
  · rw [h.upTaken]
    exact h.ordered.up.channel.ordered
  · intro hopen hidle hread
    rw [h.upTaken]
    exact h.ordered.up.complete hopen hidle hread

/-- **And they all get there**: from every state of such a run the uplink comes to rest, in whatever order its
    steps are taken; if both ends are live then, every packet that had been passed to `send` has come out, unless
    the handler of a message does not return. -/
theorem uplink_delivers {client : Client} {session : ClientSession} {hello : Bytes} {c : Int64} {es : List Event}
    (hjson : RoundTrips deps Server.refusal) (hcb : session.onIpPacketSet = true)
    (hauth : session.authenticated = false) (hclosed : client.tunOpen = false)
    (hhello : Client.authRequest deps client.config c = .ok hello) (honce : ∀ e ∈ es, LogsInOnce e)
    (hrun : run (step deps k) (Tunnel.start client session hello) es = some t) :
    Terminates (only uplink (step deps k)) t ∧
      ∀ fs t', run (only uplink (step deps k)) t fs = some t' → Stuck (only uplink (step deps k)) t' →
        t'.up.ws.live = true → t'.down.ws.live = true → t'.client.iocStopped = false →
          t'.up.taken = t.up.given ∨ t'.Blocked deps := by
  refine ⟨uplink_terminates t, ?_⟩
  intro fs t' hfs hstuck hup hdown hserved
  have hrun' := run_append.mpr ⟨t, hrun, run_of_only hfs⟩
  have hfsOnce : ∀ e ∈ fs, LogsInOnce e := by
    intro e he
    have hdir := only_events hfs e he
    cases e with
    | clientSend => exact absurd hdir (by simp [uplink])
    | _ => trivial
  have h : t'.Honest deps k := by
    refine honest_of_run hjson hcb hauth hclosed hhello ?_ hrun'
    intro e he
    rcases List.mem_append.mp he with he | he
    · exact honce e he
    · exact hfsOnce e he
  obtain ⟨-, downs, hdowns⟩ := transports_of_run hrun'
  rw [← (given_run (fun _ he => Or.inl he) hfs).1]
  exact uplink_rest h.ordered.up h.ordered.down.queue h.upTaken (attentive_of_run hdowns) hstuck hup hdown hserved

/-! ## An honest client -/

def refusalJsonText : Bytes := (dumpFlat Server.refusal).getD []

/-- As `openDeps`, with a parser that knows the refusal as well. -/
def honestDeps : Deps :=
  Deps.table [(helloText, helloJson), (acceptanceText, Server.acceptance openSession), (refusalJsonText, Server.refusal)]

theorem honest_roundTrips : RoundTrips honestDeps Server.refusal := roundTrips_of_parse refusalJsonText rfl rfl

theorem honest_hello : Client.authRequest honestDeps onlineClient.config 1000 = .ok sampleHello := by decide +kernel

theorem uplink_fidelity_each_way :
    ∃ t, run (step honestDeps .wsPlainServerSession) (Tunnel.start onlineClient openSession sampleHello)
        packetEachWay = some t ∧
      t.client.tunOpen = true ∧ t.session.authenticated = true ∧ t.up.taken <+: [samplePacket] ∧ t.up.taken ≠ [] := by
  have hrun : (run (step honestDeps .wsPlainServerSession) (Tunnel.start onlineClient openSession sampleHello)
      packetEachWay).any (fun t => t.client.tunOpen && t.up.given = [samplePacket] && !t.up.taken.isEmpty) = true := by
    decide +kernel
  obtain ⟨t, ht, hbody⟩ := Option.any_eq_true _ _ |>.mp hrun
  simp only [Bool.and_eq_true, decide_eq_true_eq, Bool.not_eq_true', List.isEmpty_eq_false_iff] at hbody
  obtain ⟨⟨hopen, hgiven⟩, htaken⟩ := hbody
  obtain ⟨hauth, hbegins, -⟩ :=
    uplink_fidelity honest_roundTrips rfl rfl rfl honest_hello (by decide) ht
  rw [hgiven] at hbegins
  exact ⟨t, ht, hopen, hauth hopen, hbegins, htaken⟩

theorem uplink_delivers_packet :
    ∃ t t', run (step honestDeps .wsPlainServerSession) (Tunnel.start onlineClient openSession sampleHello) packetUp =
        some t ∧
      run (only uplink (step honestDeps .wsPlainServerSession)) t packetThrough = some t' ∧
      t.up.taken = [] ∧ t.up.given = [samplePacket] ∧ (t'.up.taken = t.up.given ∨ t'.Blocked honestDeps) := by
  have hruns : ((run (step honestDeps .wsPlainServerSession) (Tunnel.start onlineClient openSession sampleHello)
      packetUp).any fun t => t.up.taken = [] && t.up.given = [samplePacket] &&
        (run (only uplink (step honestDeps .wsPlainServerSession)) t packetThrough).any AtRest) = true := by
    decide +kernel
  obtain ⟨t, ht, hbody⟩ := Option.any_eq_true _ _ |>.mp hruns
  simp only [Bool.and_eq_true, decide_eq_true_eq] at hbody
  obtain ⟨⟨hbefore, hgiven⟩, hrest⟩ := hbody
  obtain ⟨t', ht', hend⟩ := Option.any_eq_true _ _ |>.mp hrest
  obtain ⟨hstuck, hupLive, hdownLive, hserved⟩ := stuck_of_atRest (of_decide_eq_true hend)
  obtain ⟨-, hup⟩ := uplink_delivers honest_roundTrips rfl rfl rfl honest_hello (by decide) ht
  exact ⟨t, t', ht, ht', hbefore, hgiven, hup packetThrough t' ht' hstuck hupLive hdownLive hserved⟩

end Tunnel
end Kirdi
