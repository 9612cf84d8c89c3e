import Kirdi.Tunnel.Uplink

/-!
# `Tunnel.Settings` — the device is set up as the server says

`login_agreement` follows one login. Over a whole run, several responses may be under way, the device may be
opened, closed and opened again, and packets overtake responses. Still, whenever the client's TUN device is open, it
has the address, the peer, the netmask and the MTU that the server holds for the session (`device_settings`): every
accepting response on the lane was built from them.
-/

set_option linter.dupNamespace false

namespace Kirdi
namespace Tunnel

open Protocol Crypto EventMachine Proc
open Transport (Kind)
open Client (Client Env TunConfig)
open Server (ClientSession acceptance authResponse)

/-- What the server holds for a session. -/
def settings (session : ClientSession) : TunConfig where
  address := session.virtualIp
  peerAddress := session.tunInfo.serverIp
  netmask := session.tunInfo.mask
  mtu := session.tunInfo.mtu

structure Settled (deps : Deps) (config : TunConfig) (t : Tunnel) : Prop where
  session : settings t.session = config
  told    : ∀ message ∈ issued t.down.ws, ∀ mtu virtualIp tunCfg,
    Client.authVerdict deps mtu message = some (.accepted virtualIp tunCfg) → tunCfg = config
  device  : ∀ d, t.client.tun = some d → d.isOpen = true → d.config = config

variable {deps : Deps} {k : Kind} {t t' : Tunnel} {env : Env} {e : Event} {message : Bytes} {c : Client}
  {config : TunConfig} {session : ClientSession}

/-! ## The client -/

/-- A stopped client has no open device but the one that it had. -/
theorem device_stop {d : Client.Tun} (htun : (Client.stop.run c).tun = some d) (hopen : d.isOpen = true) :
    c.tun = some d := by
  cases hr : c.running with
  | false => rwa [Client.stop_run_of_stopped hr] at htun
  | true =>
      rw [Client.stop_run hr] at htun
      obtain ⟨d', -, rfl⟩ := Option.map_eq_some_iff.mp htun
      exact absurd hopen (by simp)

theorem device_failed {d : Client.Tun} (htun : t.failed.tun = some d) : t.client.tun = some d := by
  unfold Tunnel.failed at htun
  split at htun
  · exact htun
  · cases hc : t.client.connected with
    | false => rwa [Client.onError_run_of_not_connected hc] at htun
    | true =>
        rw [Client.onError_run hc] at htun
        split at htun <;> exact absurd htun (by simp)

/-- **An open device is the one from before**, or the accepted response has opened it. -/
theorem device_received {d : Client.Tun} (htun : (received deps env c message).tun = some d) (hopen : d.isOpen = true) :
    c.tun = some d ∨ ∃ virtualIp, Client.authVerdict deps c.config.mtu message = some (.accepted virtualIp d.config) := by
  unfold received at htun
  rw [dispatchPacket_map] at htun
  cases hdispatch : dispatchPacket message (some Prod.mk) with
  | none =>
      rw [hdispatch] at htun
      exact Or.inl htun
  | some p =>
      obtain ⟨hdr, payload⟩ := p
      rw [hdispatch] at htun
      change ((Client.onPacket deps env hdr payload).run (unburdened c)).tun = some d at htun
      by_cases hty : MsgType.ofByte hdr.type = some .authResponse
      · rw [Client.onPacket_authResponse hty, Client.onAuthResponse_run] at htun
        have hmtu : (unburdened c).config.mtu = c.config.mtu := rfl
        rw [hmtu] at htun
        cases hread : Client.readAuthResponse deps c.config.mtu payload with
        | malformed =>
            rw [hread] at htun
            exact Or.inl htun
        | partlyRead virtualIp =>
            rw [hread] at htun
            exact Or.inl htun
        | rejected =>
            rw [hread] at htun
            change (Client.stop.run (unburdened c)).tun = some d at htun
            have hbefore : (unburdened c).tun = some d := device_stop htun hopen
            exact Or.inl hbefore
        | accepted virtualIp tunCfg =>
            right
            rw [hread] at htun
            change ((Client.onAccepted env virtualIp tunCfg).run (unburdened c)).tun = some d at htun
            have hconfig : d.config = tunCfg := by
              cases htunOpens : env.tunOpens with
              | true =>
                  obtain ⟨⟨d', hd', -, hcfg⟩, -⟩ := onAccepted_opens htunOpens virtualIp tunCfg (unburdened c)
                  obtain rfl := Option.some.inj (hd'.symm.trans htun)
                  exact hcfg
              | false =>
                  -- the device that was just created is not open
                  unfold Client.onAccepted at htun
                  rw [htunOpens] at htun
                  simp only [Bool.not_false, if_true, run_andThen, run_atom] at htun
                  have hcreated := device_stop htun hopen
                  obtain rfl := Option.some.inj hcreated
                  exact absurd hopen (by simp)
            refine ⟨virtualIp, ?_⟩
            unfold Client.authVerdict
            rw [hdispatch]
            simp only [hty, if_true, hread, hconfig]
      · have hkeeps : Keeps Client.Client.tun (Client.onPacket deps env hdr payload) :=
          Client.keeps_onPacket hty (fun _ _ => rfl) fun _ _ => rfl
        exact Or.inl ((hkeeps.run_eq (unburdened c)).symm.trans htun)

theorem device_dispatched {d : Client.Tun} (htun : (t.dispatched deps env message).tun = some d)
    (hopen : d.isOpen = true) :
    t.client.tun = some d ∨
      ∃ virtualIp, Client.authVerdict deps t.client.config.mtu message = some (.accepted virtualIp d.config) := by
  obtain ⟨c, hc, hconfig, hsame⟩ := dispatched_eq deps env t message
  rw [hc] at htun
  rw [← hsame, ← hconfig]
  exact device_received htun hopen

/-! ## The session -/

/-- **What an answer says**: the settings of the session, if it accepts. -/
theorem response_settings {ok : Bool} {pkt : Bytes} {mtu : UInt32} {virtualIp : Bytes} {tunCfg : TunConfig}
    (hrefusal : RoundTrips deps Server.refusal) (hacceptance : RoundTrips deps (acceptance session))
    (hresp : authResponse deps { session with authenticated := ok } ok = .ok pkt)
    (hverdict : Client.authVerdict deps mtu pkt = some (.accepted virtualIp tunCfg)) : tunCfg = settings session := by
  cases ok with
  | false => exact absurd ⟨virtualIp, tunCfg, hverdict⟩ (not_opensClient_refusal hrefusal hresp)
  | true =>
      have hsame : acceptance { session with authenticated := true } = acceptance session := rfl
      cases hdump : deps.dump (acceptance session) with
      | none =>
          unfold authResponse at hresp
          rw [if_pos rfl, hsame, hdump] at hresp
          exact absurd hresp (by simp)
      | some respStr =>
          rw [Server.authResponse_accepted (hsame ▸ hdump)] at hresp
          obtain ⟨hlen, rfl⟩ := eq_frame_of_buildPacket hresp
          have hdispatch := dispatchPacket_frame MsgType.authResponse.toByte [] Prod.mk hlen
          rw [List.append_nil] at hdispatch
          unfold Client.authVerdict at hverdict
          rw [hdispatch] at hverdict
          simp only [MsgType.ofByte_toByte, if_true, response_read mtu hacceptance hdump, Option.some.injEq,
            Client.AuthVerdict.accepted.injEq] at hverdict
          exact hverdict.2.symm

/-! ## Runs -/

theorem settled_start {client : Client} {hello : Bytes} (hclosed : client.tunOpen = false) :
    Settled deps (settings session) (Tunnel.start client session hello) := by
  refine ⟨rfl, fun _ hm => absurd hm List.not_mem_nil, ?_⟩
  intro d htun hopen
  change client.tun = some d at htun
  unfold Client.Client.tunOpen at hclosed
  rw [htun] at hclosed
  exact absurd (hopen.symm.trans hclosed) (by simp)

/-- **Every step keeps the settings.** -/
theorem Settled.step (h : Settled deps config t) (ho : t.Ordered k) (hrefusal : RoundTrips deps Server.refusal)
    (hacceptance : RoundTrips deps (acceptance t.session)) (hstep : step deps k t e = some t') :
    Settled deps config t' := by
  cases step_moves hstep with
  | packetSent | packetDropped | clientSend | client => exact ⟨h.session, h.told, h.device⟩
  | clientReadError | clientWriteError =>
      exact ⟨h.session, h.told, fun d htun hopen => h.device d (device_failed htun) hopen⟩
  | @clientRead env message rest up hnet hdrive =>
      refine ⟨h.session, h.told, ?_⟩
      intro d htun hopen
      rcases device_dispatched htun hopen with hbefore | ⟨virtualIp, hverdict⟩
      · exact h.device d hbefore hopen
      · have hmem : message ∈ t.down.net := by
          rw [hnet]
          exact List.mem_cons_self
        exact h.told message (ho.down.mem_issued hmem) _ virtualIp d.config hverdict
  | @routed packet data hfree hbuilt =>
      refine ⟨h.session, ?_, h.device⟩
      intro message hm mtu virtualIp tunCfg hverdict
      rcases mem_issued_give hm with hm | rfl
      · exact h.told message hm mtu virtualIp tunCfg hverdict
      · have hty := messageType_of_opensClient ⟨virtualIp, tunCfg, hverdict⟩
        rw [messageType_buildIpPacket hbuilt] at hty
        exact absurd hty (by simp)
  | @server ev down hev hdrive =>
      refine ⟨h.session, ?_, h.device⟩
      intro message hm mtu virtualIp tunCfg hverdict
      rcases mem_issued_drive hdrive hm with hm | hm
      · exact h.told message hm mtu virtualIp tunCfg hverdict
      · have hnone : requested ev = [] := by
          cases ev with
          | send | read => exact absurd hev (by simp [serverStep])
          | _ => rfl
        rw [hnone] at hm
        exact absurd hm List.not_mem_nil
  | @serverRead now message rest down hnet hexit hdrive =>
      rcases outcome_login hexit with ⟨-, hsame, hnone⟩ | ⟨-, ok, pkt, hsession, hresp, hsent⟩
      · refine ⟨hsame ▸ h.session, ?_, h.device⟩
        intro data hd mtu virtualIp tunCfg hverdict
        rcases mem_issued_drive hdrive hd with hold | hnew
        · exact h.told data hold mtu virtualIp tunCfg hverdict
        · exact absurd (messageType_of_opensClient ⟨virtualIp, tunCfg, hverdict⟩) (hnone data hnew)
      · refine ⟨hsession ▸ h.session, ?_, h.device⟩
        intro data hd mtu virtualIp tunCfg hverdict
        rcases mem_issued_drive hdrive hd with hold | hnew
        · exact h.told data hold mtu virtualIp tunCfg hverdict
        · rw [hsent] at hnew
          rw [List.mem_singleton.mp hnew] at hverdict
          exact (response_settings hrefusal hacceptance hresp hverdict).trans h.session

/-- The response depends on the settings of a session only. -/
theorem acceptance_of_settings {session session' : ClientSession} (h : settings session = settings session') :
    acceptance session = acceptance session' := by
  obtain ⟨hip, hserver, hmask, hmtu⟩ := TunConfig.mk.inj h
  unfold acceptance
  rw [hip, hserver, hmask, hmtu]

theorem settled_of_run {client : Client} {hello : Bytes} {now : Int64} {es : List Event}
    (hrefusal : RoundTrips deps Server.refusal) (hacceptance : RoundTrips deps (acceptance session))
    (hclosed : client.tunOpen = false) (hhello : Client.authRequest deps client.config now = .ok hello)
    (hrun : run (step deps k) (Tunnel.start client session hello) es = some t) :
    Settled deps (settings session) t := by
  have hquiet : ipPayload hello = none := by
    obtain ⟨authStr, hbuilt⟩ := Client.authRequest_built hhello
    exact ipPayload_other (by decide) hbuilt
  have h : Settled deps (settings session) t ∧ t.Ordered k := by
    refine run_invariant' (I := fun t : Tunnel => Settled deps (settings session) t ∧ t.Ordered k) ?_
      ⟨settled_start hclosed, ordered_start client hquiet⟩ hrun
    rintro t e t' ⟨hs, ho⟩ hstep
    have hacc : RoundTrips deps (acceptance t.session) := acceptance_of_settings hs.session ▸ hacceptance
    exact ⟨hs.step ho hrefusal hacc hstep, ho.step hstep⟩
  exact h.1

/-- The settings of a session never change. -/
theorem settings_of_run {client : Client} {hello : Bytes} {es : List Event}
    (hrun : run (step deps k) (Tunnel.start client session hello) es = some t) :
    settings t.session = settings session := by
  refine run_invariant' (I := fun t : Tunnel => settings t.session = settings session) ?_ rfl hrun
  intro t e t' h hstep
  cases step_moves hstep with
  | @serverRead now message rest down hnet hexit hdrive =>
      rcases outcome_login hexit with ⟨-, hsame, -⟩ | ⟨-, ok, pkt, hsession, -, -⟩
      · exact hsame ▸ h
      · exact hsession ▸ h
  | _ => exact h

theorem device_of_run {client : Client} {hello : Bytes} {now : Int64} {es : List Event} {d : Client.Tun}
    (hrefusal : RoundTrips deps Server.refusal) (hacceptance : RoundTrips deps (acceptance session))
    (hclosed : client.tunOpen = false) (hhello : Client.authRequest deps client.config now = .ok hello)
    (hrun : run (step deps k) (Tunnel.start client session hello) es = some t) (htun : t.client.tun = some d)
    (hopen : d.isOpen = true) : d.config = settings session :=
  (settled_of_run hrefusal hacceptance hclosed hhello hrun).device d htun hopen

/-- **The device is set up as the server says**, in every state of every run of a connection: while the client's TUN
    device is open, it has the address, peer, netmask and MTU that the server holds for the session. -/
theorem device_settings {client : Client} {hello : Bytes} {now : Int64} {es : List Event} {d : Client.Tun}
    (hrefusal : RoundTrips deps Server.refusal) (hacceptance : RoundTrips deps (acceptance session))
    (hclosed : client.tunOpen = false) (hhello : Client.authRequest deps client.config now = .ok hello)
    (hrun : run (step deps k) (Tunnel.start client session hello) es = some t) (htun : t.client.tun = some d)
    (hopen : d.isOpen = true) : d.config = settings t.session := by
  rw [settings_of_run hrun]
  exact device_of_run hrefusal hacceptance hclosed hhello hrun htun hopen

theorem device_settings_each_way :
    ∃ t d, run (step honestDeps .wsPlainServerSession) (Tunnel.start onlineClient openSession sampleHello)
        packetEachWay = some t ∧
      t.client.tun = some d ∧ d.isOpen = true ∧ d.config = settings t.session := by
  have hrun : (run (step honestDeps .wsPlainServerSession) (Tunnel.start onlineClient openSession sampleHello)
      packetEachWay).any (fun t => t.client.tun.any Client.Tun.isOpen) = true := by decide +kernel
  obtain ⟨t, ht, hopen⟩ := Option.any_eq_true _ _ |>.mp hrun
  obtain ⟨d, hd, hisOpen⟩ := Option.any_eq_true _ _ |>.mp hopen
  have hacceptance : RoundTrips honestDeps (acceptance openSession) := roundTrips_of_parse acceptanceText rfl rfl
  exact ⟨t, d, ht, hd, hisOpen,
    device_settings honest_roundTrips hacceptance rfl honest_hello ht hd hisOpen⟩

end Tunnel
end Kirdi
