import Kirdi.Client.Client

/-!
# `Client.Handlers` — what the handlers do

The commands change the host only (`HostAside`), those of the routes leave the DNS files alone
(`RoutesAside`); what `stop` and `on_error` do is written out (`stop_run`, `onError_run`). A property of all
handlers is proved from its parts (`handler_of_parts`).

After `stop` has run, wherever it fell, no handler runs any more (`signalled_stopped`).
-/

set_option linter.dupNamespace false

namespace Kirdi
namespace Client

open Protocol Crypto Proc

variable {c d : Client} {α : Type} {f : Client → α} {env : Env} {deps : Deps}

/-! ## The commands -/

/-- `f` does not look at the host. -/
def HostAside (f : Client → α) : Prop := ∀ c h, f { c with host := h } = f c

/-- `f` does not look at the route table. -/
def RoutesAside (f : Client → α) : Prop :=
  ∀ c r, f { c with host := { c.host with routes := r } } = f c

theorem HostAside.routes (hf : HostAside f) : RoutesAside f := fun c r => hf c { c.host with routes := r }

/-- Everything but the host. -/
def Client.hostless (c : Client) : Client := { c with host := ⟨[], none, none, fun _ => none⟩ }

theorem hostAside_hostless : HostAside Client.hostless := fun _ _ => rfl

theorem eq_of_hostless (h : c.hostless = d.hostless) : c = { d with host := c.host } := by
  cases c
  cases d
  simp only [Client.hostless, Client.mk.injEq] at h
  simp only [Client.mk.injEq]
  tauto

theorem routeAdd_routes (h : Host) (p : Prefix) (r : Route) (ok : Bool) :
    ∃ t, (h.routeAdd p r ok).1 = { h with routes := t } := by
  unfold Host.routeAdd
  split
  · exact ⟨_, rfl⟩
  · exact ⟨h.routes, rfl⟩

theorem keeps_perform_routes (hf : RoutesAside f) {cmd : Client → Host}
    (hcmd : ∀ c, ∃ t, cmd c = { c.host with routes := t }) : Keeps f (perform cmd) := by
  apply keeps_atom
  intro c
  obtain ⟨t, ht⟩ := hcmd c
  rw [ht]
  exact hf c t

theorem keeps_system_routes (hf : RoutesAside f) {cmd : Client → Host × Bool} {next : Bool → Proc Client}
    (hcmd : ∀ c, ∃ t, (cmd c).1 = { c.host with routes := t }) (hnext : ∀ ok, Keeps f (next ok)) :
    Keeps f (system cmd next) := by
  refine ⟨?_, fun c => hnext _⟩
  intro c
  obtain ⟨t, ht⟩ := hcmd c
  show f { c with host := (cmd c).1 } = f c
  rw [ht]
  exact hf c t

theorem keeps_addHalves (hf : RoutesAside f) : Keeps f (addHalves env) := by
  apply keeps_andThen
  · exact keeps_perform_routes hf fun c => routeAdd_routes _ _ _ _
  · exact keeps_perform_routes hf fun c => routeAdd_routes _ _ _ _

/-- **`setup_routes` changes the route table only.** -/
theorem keeps_setupRoutes (hf : RoutesAside f) : Keeps f (setupRoutes env) := by
  have hhalves : Keeps f (addHalves env) := keeps_addHalves hf
  apply keeps_branch keeps_done
  apply keeps_branch
  · apply keeps_system_routes hf (fun c => routeAdd_routes _ _ _ _)
    intro ok
    cases ok with
    | true => exact hhalves
    | false =>
        exact keeps_andThen (keeps_perform_routes hf fun c => routeAdd_routes _ _ _ _) hhalves
  · apply keeps_system_routes hf (fun c => routeAdd_routes _ _ _ _)
    intro ok
    cases ok with
    | true => exact hhalves
    | false => exact keeps_done

/-- **`teardown_routes` changes the route table only.** -/
theorem keeps_teardownRoutes (hf : RoutesAside f) : Keeps f teardownRoutes := by
  have hdel : ∀ p : Client → Prefix, Keeps f (perform fun c => c.host.routeDel (p c)) :=
    fun p => keeps_perform_routes hf fun c => ⟨_, rfl⟩
  apply keeps_branch _ keeps_done
  apply keeps_andThen (hdel _)
  apply keeps_andThen (hdel _)
  exact keeps_branch keeps_done (hdel _)

theorem keeps_perform (hf : HostAside f) (cmd : Client → Host) : Keeps f (perform cmd) :=
  keeps_atom fun c => hf c (cmd c)

/-- `setup_dns` changes the host only. -/
theorem keeps_setupDns (hf : HostAside f) : Keeps f (setupDns env) := by
  apply keeps_branch keeps_done
  apply keeps_branch (keeps_perform hf _)
  exact keeps_andThen (keeps_perform hf _) (keeps_perform hf _)

/-- `teardown_dns` changes the host only. -/
theorem keeps_teardownDns (hf : HostAside f) : Keeps f teardownDns := by
  apply keeps_branch keeps_done
  exact keeps_branch (keeps_perform hf _) (keeps_perform hf _)

/-- The routes and DNS of an accepted login change the host only. -/
theorem keeps_setup (hf : HostAside f) :
    Keeps f (branch (fun c => c.config.autoRoute) ((setupRoutes env).andThen (setupDns env)) done) := by
  refine keeps_branch ?_ keeps_done
  exact keeps_andThen (keeps_setupRoutes hf.routes) (keeps_setupDns hf)

theorem setup_run (env : Env) (c : Client) : ∃ h,
    (branch (fun c => c.config.autoRoute) ((setupRoutes env).andThen (setupDns env)) done).run c =
      { c with host := h } :=
  ⟨_, eq_of_hostless ((keeps_setup hostAside_hostless).run_eq c)⟩

/-- The host after `setup_dns`. -/
def ClientConfig.dnsSetUp (config : ClientConfig) (s : Scripted) (h : Host) : Host :=
  if config.dnsServer.isEmpty then h
  else if config.platform = .macos then h.scutilSet config.dnsServer s
  else h.cpBackup.echoNameserver config.dnsServer s

/-- The host after `teardown_dns`. -/
def ClientConfig.dnsTornDown (config : ClientConfig) (h : Host) : Host :=
  if config.dnsServer.isEmpty then h
  else if config.platform = .macos then h.scutilRemove
  else h.mvBackup

/-- The host after `teardown_routes`. -/
def ClientConfig.routesTornDown (config : ClientConfig) (serverIp : Bytes) (h : Host) : Host :=
  if config.autoRoute then
    let h := (h.routeDel .lowHalf).routeDel .highHalf
    if serverIp.isEmpty then h else h.routeDel (.host serverIp)
  else h

/-- The host after both teardowns. -/
def Client.tornDown (c : Client) : Host :=
  c.config.routesTornDown c.serverIp (c.config.dnsTornDown c.host)

theorem setupDns_run (env : Env) (c : Client) :
    (setupDns env).run c = { c with host := c.config.dnsSetUp env.scripted c.host } := by
  unfold setupDns ClientConfig.dnsSetUp
  rw [run_branch]
  split
  · rfl
  · rw [run_branch]
    simp only [decide_eq_true_eq]
    split
    · rfl
    · rw [run_andThen]
      rfl

theorem teardownDns_run (c : Client) :
    teardownDns.run c = { c with host := c.config.dnsTornDown c.host } := by
  unfold teardownDns ClientConfig.dnsTornDown
  rw [run_branch]
  split
  · rfl
  · rw [run_branch]
    simp only [decide_eq_true_eq]
    split <;> rfl

theorem teardownRoutes_run (c : Client) :
    teardownRoutes.run c = { c with host := c.config.routesTornDown c.serverIp c.host } := by
  unfold teardownRoutes ClientConfig.routesTornDown
  rw [run_branch]
  split
  · rw [run_andThen, run_andThen, run_branch]
    by_cases hip : c.serverIp.isEmpty = true
    · rw [if_pos hip]
      exact if_pos hip
    · rw [if_neg hip]
      exact if_neg hip
  · rfl

/-! ## Stopping and reconnecting -/

theorem stop_run_of_stopped (h : c.running = false) : stop.run c = c := by
  unfold stop
  rw [run_act, h]
  cases c
  cases h
  rfl

/-- **`stop`** of a running client. -/
theorem stop_run (h : c.running = true) :
    stop.run c = { c.closeWs with
      running := false
      iocStopped := true
      host := c.tornDown
      tun := c.tun.map fun d => { d with isOpen := false } } := by
  unfold stop
  rw [run_act, h, if_neg (by simp), run_andThen, run_andThen, run_andThen, run_andThen, teardownDns_run,
    teardownRoutes_run]
  rfl

/-- What none of the steps of `stop` changes. -/
theorem keeps_stop (hf : HostAside f) (hrunning : ∀ c, f { c with running := false } = f c)
    (hws : ∀ c, f c.closeWs = f c) (hioc : ∀ c, f { c with iocStopped := true } = f c)
    (htun : ∀ c, f c.closeTun = f c) : Keeps f stop := by
  refine keeps_act hrunning ?_
  intro c
  split
  · exact keeps_done
  · refine keeps_andThen (keeps_atom hws) ?_
    refine keeps_andThen (keeps_atom hioc) ?_
    refine keeps_andThen (keeps_teardownDns hf) ?_
    exact keeps_andThen (keeps_teardownRoutes hf.routes) (keeps_atom htun)

theorem scheduleReconnect_run (c : Client) :
    scheduleReconnect.run c = { c with
      reconnectAttempt := c.reconnectAttempt + 1
      timers := c.timers ++ [reconnectDelay (c.reconnectAttempt + 1)] } := by
  unfold scheduleReconnect
  rw [run_andThen]
  rfl

/-- `on_error` is ignored while the client is not connected. -/
theorem onError_run_of_not_connected (h : c.connected = false) : onError.run c = c := by
  unfold onError
  rw [run_act, h]
  cases c
  cases h
  rfl

/-- **`on_error`** of a connected client. -/
theorem onError_run (h : c.connected = true) :
    onError.run c =
      if c.running then
        { c with
          connected := false
          host := c.tornDown
          tun := none
          reconnectAttempt := c.reconnectAttempt + 1
          timers := c.timers ++ [reconnectDelay (c.reconnectAttempt + 1)] }
      else { c with connected := false, host := c.tornDown, tun := none } := by
  unfold onError
  rw [run_act, h, if_neg (by simp), run_andThen, run_andThen, run_andThen, run_andThen, teardownDns_run,
    teardownRoutes_run, run_branch, scheduleReconnect_run]
  rfl

/-- `fail` reports an error of a transport that is not being closed. -/
theorem fail_run {i : Nat} {t : Conn} (hi : c.transports[i]? = some t) :
    (fail i).run c =
      if t.closing then c else onError.run (c.setConn i fun t => { t with connected := false }) := by
  unfold fail
  rw [run_branch, hi]
  cases hc : t.closing with
  | true => simp [hc]
  | false => simp [hc]

/-- A packet from the TUN is passed to the current transport, and concerns nothing else. -/
theorem onTunPacket_frame (hf : ∀ (c : Client) (pkt : Bytes), f (c.sendWs pkt) = f c) (c : Client)
    (data : Bytes) : f (c.onTunPacket data) = f c := by
  unfold Client.onTunPacket
  split
  · rfl
  · split
    · exact hf c _
    · rfl

/-- The frame of `send_auth` is an `AuthRequest`. -/
theorem authRequest_built {config : ClientConfig} {now : Int64} {pkt : Bytes}
    (h : authRequest deps config now = .ok pkt) :
    ∃ authStr, buildPacket MsgType.authRequest.toByte authStr = .ok pkt := by
  unfold authRequest at h
  simp only at h
  split at h
  · exact absurd h (by simp)
  · exact ⟨_, h⟩

/-! ## Packets -/

theorem onPacket_authResponse {hdr : PacketHeader} {payload : Bytes}
    (hty : MsgType.ofByte hdr.type = some .authResponse) :
    onPacket deps env hdr payload = onAuthResponse deps env payload := by
  unfold onPacket
  rw [hty]

/-- What the client does about an `AuthResponse` that it has read. -/
def onVerdict (env : Env) : AuthVerdict → Proc Client
  | .malformed => done
  | .rejected => stop
  | .partlyRead virtualIp => atom fun c => { c with virtualIp := virtualIp }
  | .accepted virtualIp tunCfg => onAccepted env virtualIp tunCfg

theorem onAuthResponse_eq (deps : Deps) (env : Env) (payload : Bytes) :
    onAuthResponse deps env payload =
      .act id fun c => onVerdict env (readAuthResponse deps c.config.mtu payload) := by
  unfold onAuthResponse
  refine congrArg (Proc.act id) (funext fun c => ?_)
  cases readAuthResponse deps c.config.mtu payload <;> rfl

theorem onAuthResponse_run (deps : Deps) (env : Env) (payload : Bytes) (c : Client) :
    (onAuthResponse deps env payload).run c =
      (onVerdict env (readAuthResponse deps c.config.mtu payload)).run c := by
  rw [onAuthResponse_eq, run_act]
  rfl

/-- What none of the steps on an `AuthResponse` changes. -/
theorem keeps_onAuthResponse (hf : HostAside f) (hstop : Keeps f stop)
    (hip : ∀ (c : Client) (ip : Bytes), f { c with virtualIp := ip } = f c)
    (hcreate : ∀ (c : Client) (tunCfg : TunConfig), f (c.createTun tunCfg) = f c)
    (hopen : ∀ (c : Client) (name : Bytes), f (c.openTun name) = f c)
    (hloops : ∀ (c : Client) (n : ℕ), f { c with tunLoops := n } = f c) (payload : Bytes) :
    Keeps f (onAuthResponse deps env payload) := by
  refine keeps_act (fun _ => rfl) ?_
  intro c
  split
  · exact keeps_done
  · exact hstop
  · exact keeps_atom fun c => hip c _
  · refine keeps_andThen (keeps_atom fun c => hip c _) ?_
    refine keeps_andThen (keeps_atom fun c => hcreate c _) ?_
    split
    · exact hstop
    · refine keeps_andThen (keeps_atom fun c => hopen c _) ?_
      exact keeps_andThen (keeps_setup hf) (keeps_atom fun c => hloops c _)

/-- A packet other than an `AuthResponse` is delivered, answered or ignored. -/
theorem keeps_onPacket {hdr : PacketHeader} {payload : Bytes}
    (hty : MsgType.ofByte hdr.type ≠ some .authResponse)
    (hdelivered : ∀ (c : Client) (packets : List Bytes), f { c with delivered := packets } = f c)
    (hsend : ∀ (c : Client) (pkt : Bytes), f (c.sendWs pkt) = f c) :
    Keeps f (onPacket deps env hdr payload) := by
  unfold onPacket
  split
  · exact absurd ‹_› hty
  · exact keeps_branch (keeps_atom fun c => hdelivered c _) keeps_done
  · refine keeps_branch ?_ keeps_done
    split
    · exact keeps_atom fun c => hsend c _
    · exact keeps_done
  · exact keeps_done

/-! ## The parts of the handlers -/

/-- What the client makes of the `AuthResponse` in a message. -/
def authVerdict (deps : Deps) (mtu : UInt32) (message : Bytes) : Option AuthVerdict :=
  match dispatchPacket message (some Prod.mk) with
  | some (hdr, payload) =>
      if MsgType.ofByte hdr.type = some .authResponse then some (readAuthResponse deps mtu payload) else none
  | none => none

/-- An update of what the client keeps about its connections. -/
def Bookkeeping (upd : Client → Client) : Prop :=
  ∀ c, upd c = { c with
    connected := (upd c).connected
    reconnectAttempt := (upd c).reconnectAttempt
    virtualIp := (upd c).virtualIp
    delivered := (upd c).delivered
    ws := (upd c).ws
    transports := (upd c).transports
    timers := (upd c).timers }

/-- **Induction over the handlers.** What holds of the parts, and of their sequences and branches, holds of
    every handler. The states in which a handler reads the state may be restricted to `R`. -/
theorem handler_of_parts {M : Proc Client → Prop} {R : Client → Prop} {e : Event} (hdone : M done)
    (hseq : ∀ {p q}, M p → M q → M (p.andThen q))
    (hread : ∀ {next : Client → Proc Client}, (∀ c, R c → M (next c)) → M (.act id next))
    (hbook : ∀ {upd}, Bookkeeping upd → M (atom upd)) (hescape : M escape) (hstop : M stop)
    (herror : M onError)
    (haccepted : ∀ {i message env c virtualIp tunCfg}, e = .read i message env → R c →
      authVerdict deps c.config.mtu message = some (.accepted virtualIp tunCfg) →
        M (onAccepted env virtualIp tunCfg)) : M (handler deps e) := by
  have hconn : ∀ (i : Nat) (g : Conn → Conn), M (atom fun c => c.setConn i g) :=
    fun _ _ => hbook fun _ => rfl
  have hbranch : ∀ {b : Client → Bool} {p q}, M p → M q → M (branch b p q) := by
    intro b p q hp hq
    refine hread fun c _ => ?_
    split
    · exact hp
    · exact hq
  have hfail : ∀ i, M (fail i) := fun i => hbranch hdone (hseq (hconn i _) herror)
  have hphase : ∀ (i : Nat) (ok : Bool) (next : Stage), M (onPhase i ok next) := by
    intro i ok next
    unfold onPhase
    split
    · exact hconn i _
    · exact hseq (hconn i _) (hfail i)
  cases e with
  | resolved i ok | tcpConnected i ok | sslHandshaken i ok => exact hphase i ok _
  | noDelayThrows i => exact hseq (hconn i _) hescape
  | wsHandshaken i ok now =>
      show M (if ok then _ else _)
      split
      · refine hseq (hconn i _) (hseq (hbook fun _ => rfl) (hseq (hbook fun _ => rfl) ?_))
        refine hread fun c _ => ?_
        split
        · exact hescape
        · exact hseq (hbook fun _ => rfl) (hconn i _)
      · exact hseq (hconn i _) (hfail i)
  | read i message env =>
      refine hseq (hconn i _) (hseq ?_ (hconn i _))
      rw [dispatchPacket_map]
      cases hdispatch : dispatchPacket message (some Prod.mk) with
      | none => exact hdone
      | some p =>
          obtain ⟨hdr, payload⟩ := p
          show M (onPacket deps env hdr payload)
          unfold onPacket
          split
          · rename_i hty
            refine hread fun c hR => ?_
            split
            · exact hdone
            · exact hstop
            · exact hbook fun _ => rfl
            · rename_i virtualIp tunCfg hverdict
              refine haccepted rfl hR ?_
              unfold authVerdict
              rw [hdispatch]
              exact (if_pos hty).trans (congrArg some hverdict)
          · exact hbranch (hbook fun _ => rfl) hdone
          · refine hbranch ?_ hdone
            split
            · exact hbook fun _ => rfl
            · exact hdone
          · exact hdone
  | readError i => exact hseq (hconn i _) (hfail i)
  | writeDone i ok =>
      show M (if ok then _ else _)
      split
      · exact hconn i _
      · exact hseq (hconn i _) (hfail i)
  | timer j => exact hseq (hbook fun _ => rfl) (hbranch (hbook fun _ => rfl) hdone)

/-! ## An accepted login -/

/-- An accepted login, up to the last command of `setup_dns`. -/
def loginSetup (env : Env) (virtualIp : Bytes) (tunCfg : TunConfig) : Proc Client :=
  (atom fun c => { c with virtualIp := virtualIp }).andThen <|
    (atom fun c => c.createTun tunCfg).andThen <|
      (atom fun c => c.openTun env.interfaceName).andThen <|
        branch (fun c => c.config.autoRoute) ((setupRoutes env).andThen (setupDns env)) done

/-- What follows in the handler. -/
def loginFinish (i : Nat) : Proc Client :=
  (atom fun c => { c with tunLoops := c.tunLoops + 1 }).andThen (atom fun c => c.setConn i Conn.doRead)

/-- Two steps, then the setup, then the rest. -/
theorem onRead_accepted {i : Nat} {message virtualIp : Bytes} {tunCfg : TunConfig}
    (hverdict : authVerdict deps c.config.mtu message = some (.accepted virtualIp tunCfg))
    (htun : env.tunOpens = true) :
    ∃ next : Client → Proc Client,
      onRead deps i message env =
        .act (fun c => c.setConn i fun t => { t with reading := false }) (fun _ => .act id next) ∧
      ∀ d : Client, d.config = c.config → next d = (loginSetup env virtualIp tunCfg).andThen (loginFinish i) := by
  unfold authVerdict at hverdict
  cases hdispatch : dispatchPacket message (some Prod.mk) with
  | none => simp [hdispatch] at hverdict
  | some p =>
      obtain ⟨hdr, payload⟩ := p
      rw [hdispatch] at hverdict
      obtain ⟨hty, hread⟩ := Option.ite_none_right_eq_some.mp hverdict
      have hresponse : readAuthResponse deps c.config.mtu payload = .accepted virtualIp tunCfg :=
        Option.some.inj hread
      have hpacket : onPacket deps env hdr payload = onAuthResponse deps env payload :=
        onPacket_authResponse hty
      -- the handler looks at the state once more, for the MTU, before it knows the verdict
      refine ⟨fun s => (onVerdict env (readAuthResponse deps s.config.mtu payload)).andThen
        (atom fun c => c.setConn i Conn.doRead), ?_, ?_⟩
      · unfold onRead
        rw [dispatchPacket_map, hdispatch]
        show (atom _).andThen ((onPacket deps env hdr payload).andThen _) = _
        rw [hpacket, onAuthResponse_eq]
        rfl
      · intro d hd
        show (onVerdict env (readAuthResponse deps d.config.mtu payload)).andThen _ = _
        rw [hd, hresponse]
        show (onAccepted env virtualIp tunCfg).andThen _ = _
        unfold onAccepted
        rw [htun]
        simp only [Bool.not_true, Bool.false_eq_true, if_false, loginSetup, loginFinish, andThen_assoc]

/-! ## After `stop` -/

/-- The client runs, or its `io_context` is stopped: so it is between any two handlers. -/
def Client.Served (c : Client) : Prop := c.running = true ∨ c.iocStopped = true

def Client.Stopped (c : Client) : Prop := c.iocStopped = true

theorem stop_run_stopped (h : c.Served) : (stop.run c).Stopped := by
  cases hr : c.running with
  | true =>
      rw [stop_run hr]
      rfl
  | false =>
      rw [stop_run_of_stopped hr]
      rcases h with h | h
      · rw [hr] at h
        exact absurd h (by simp)
      · exact h

/-- `stop` stops the `io_context` for good, whether the handler calls it or a signal does. -/
def StopSafe (p : Proc Client) : Prop := Robust stop.run Client.Served Client.Stopped p

/-- Handlers that do not touch the two flags. -/
theorem stopSafe_of_keeps {p : Proc Client} (h : Keeps (fun c => (c.running, c.iocStopped)) p) :
    StopSafe p :=
  robust_of_maintains (fun _ => stop_run_stopped) (h.maintains fun x => x.1 = true ∨ x.2 = true)
    (h.maintains fun x => x.2 = true)

/-- The rest of `stop` leaves `running_` cleared. -/
theorem maintains_stopped : Maintains (fun c : Client => c.running = false)
    ((atom Client.closeWs).andThen <| (atom fun c => { c with iocStopped := true }).andThen <|
      teardownDns.andThen <| teardownRoutes.andThen <| atom Client.closeTun) := by
  refine maintains_andThen (maintains_atom fun _ h => h) ?_
  refine maintains_andThen (maintains_atom fun _ h => h) ?_
  refine maintains_andThen ((keeps_teardownDns fun _ _ => rfl).maintains (· = false)) ?_
  refine maintains_andThen ((keeps_teardownRoutes fun _ _ => rfl).maintains (· = false)) ?_
  exact maintains_atom fun _ h => h

/-- A second `stop` finds `running_` cleared, wherever it falls, so the first one runs its course. -/
theorem stop_interrupted (h : c.running = true) (k : Nat) :
    stop.runInterrupted stop.run (k + 1) c = stop.run c := by
  show Proc.runInterrupted _ (if !c.running then done else _) k _ = Proc.run (if !c.running then done else _) _
  rw [h, if_neg (by simp)]
  exact runInterrupted_eq_run (fun s hs => stop_run_of_stopped hs) maintains_stopped rfl k

/-- What `stop` achieves from `P` and keeps, it achieves when another `stop` interrupts it. -/
theorem robust_stop {P Q : Client → Prop} (hP : ∀ c, P c → P (stop.run c))
    (hQ : ∀ c, Q c → Q (stop.run c)) (hintr : ∀ c, P c → Q (stop.run c)) : Robust stop.run P Q stop where
  before := hP
  after := hQ
  interrupted := by
    intro c k hc
    cases k with
    | zero => exact hQ _ (hintr c hc)
    | succ k =>
        cases hr : c.running with
        | true =>
            rw [stop_interrupted hr k]
            exact hintr c hc
        | false =>
            -- the handler is over after its first step
            have hfirst : ({ c with running := false } : Client) = c := by
              cases c
              cases hr
              rfl
            have hinter : stop.runInterrupted stop.run (k + 1) c = stop.run c := by
              show Proc.runInterrupted _ (if !c.running then done else _) k _ = _
              rw [hr, if_pos (by simp)]
              exact congrArg stop.run hfirst
            rw [hinter]
            exact hintr c hc

theorem stopSafe_stop : StopSafe stop := by
  refine robust_stop (fun c hc => Or.inr (stop_run_stopped hc)) ?_ fun _ => stop_run_stopped
  intro c hc
  exact stop_run_stopped (Or.inr hc)

theorem stopSafe_handler (deps : Deps) (e : Event) : StopSafe (handler deps e) := by
  have hintr : ∀ c : Client, c.Served → (stop.run c).Stopped := fun _ => stop_run_stopped
  have hatom : ∀ {upd : Client → Client}, (∀ c, (upd c).running = c.running) →
      (∀ c, (upd c).iocStopped = c.iocStopped) → StopSafe (atom upd) :=
    fun hr hs => stopSafe_of_keeps (keeps_atom fun c => by rw [hr c, hs c])
  refine handler_of_parts (R := fun _ => True) ?_ ?_ ?_ ?_ ?_ ?_ ?_ ?_
  · exact robust_done hintr
  · intro p q hp hq
    exact robust_andThen hp hq
  · intro next hnext
    exact robust_act hintr (fun _ h => h) (fun _ h => h) fun c _ => hnext c trivial
  · intro upd hupd
    exact hatom (fun c => by rw [hupd c]) (fun c => by rw [hupd c])
  · exact robust_atom hintr (fun _ _ => Or.inr rfl) (fun _ _ => rfl)
  · exact stopSafe_stop
  · refine robust_act hintr (fun _ h => h) (fun _ h => h) fun c _ => ?_
    split
    · exact robust_done hintr
    · refine robust_andThen (stopSafe_of_keeps (keeps_teardownDns fun _ _ => rfl)) ?_
      refine robust_andThen (stopSafe_of_keeps (keeps_teardownRoutes fun _ _ => rfl)) ?_
      refine robust_andThen (hatom (fun _ => rfl) (fun _ => rfl)) ?_
      refine robust_andThen (hatom (fun _ => rfl) (fun _ => rfl)) ?_
      refine robust_branch hintr ?_ (robust_done hintr)
      exact robust_andThen (hatom (fun _ => rfl) (fun _ => rfl)) (hatom (fun _ => rfl) (fun _ => rfl))
  · intro i message env c virtualIp tunCfg _ _ _
    refine robust_andThen (hatom (fun _ => rfl) (fun _ => rfl)) ?_
    refine robust_andThen (hatom (fun _ => rfl) (fun _ => rfl)) ?_
    split
    · exact stopSafe_stop
    · refine robust_andThen (hatom (fun _ => rfl) (fun _ => rfl)) ?_
      refine robust_andThen ?_ (hatom (fun _ => rfl) (fun _ => rfl))
      refine robust_branch hintr ?_ (robust_done hintr)
      exact robust_andThen (stopSafe_of_keeps (keeps_setupRoutes fun _ _ => rfl))
        (stopSafe_of_keeps (keeps_setupDns fun _ _ => rfl))

/-- **A handler that a signal interrupts is the last one.** -/
theorem signalled_stopped (deps : Deps) (e : Event) (k : Nat) (h : c.Served) :
    ((handler deps e).runInterrupted stop.run k c).iocStopped = true :=
  (stopSafe_handler deps e).interrupted c k h

theorem served_step {x : Input} (h : c.Served) (hstep : step deps c x = some d) : d.Served := by
  cases x with
  | handle e =>
      obtain ⟨-, ⟨⟩⟩ := Option.ite_none_right_eq_some.mp hstep
      exact (stopSafe_handler deps e).before c h
  | signalled e k =>
      obtain ⟨-, ⟨⟩⟩ := Option.ite_none_right_eq_some.mp hstep
      exact Or.inr (signalled_stopped deps e k h)
  | stop =>
      cases hstep
      exact Or.inr (stop_run_stopped h)
  | tunPacket data =>
      obtain ⟨-, ⟨⟩⟩ := Option.ite_none_right_eq_some.mp hstep
      rw [onTunPacket_frame (f := Client.Served) fun _ _ => rfl]
      exact h

/-! ## Settings -/

/-- What `run` has set up and no handler changes. -/
def Client.settings (c : Client) : ClientConfig × Bytes × Bytes := (c.config, c.serverIp, c.originalGateway)

theorem keeps_settings_teardownDns : Keeps Client.settings teardownDns := keeps_teardownDns fun _ _ => rfl

theorem keeps_settings_teardownRoutes : Keeps Client.settings teardownRoutes :=
  keeps_teardownRoutes fun _ _ => rfl

theorem keeps_settings_stop : Keeps Client.settings stop :=
  keeps_stop (fun _ _ => rfl) (fun _ => rfl) (fun _ => rfl) (fun _ => rfl) fun _ => rfl

theorem keeps_settings_onError : Keeps Client.settings onError := by
  refine keeps_act (fun _ => rfl) ?_
  intro c
  split
  · exact keeps_done
  · refine keeps_andThen keeps_settings_teardownDns ?_
    refine keeps_andThen keeps_settings_teardownRoutes ?_
    refine keeps_andThen (keeps_atom fun _ => rfl) ?_
    refine keeps_andThen (keeps_atom fun _ => rfl) ?_
    refine keeps_branch ?_ keeps_done
    exact keeps_andThen (keeps_atom fun _ => rfl) (keeps_atom fun _ => rfl)

theorem keeps_settings_onAccepted (env : Env) (virtualIp : Bytes) (tunCfg : TunConfig) :
    Keeps Client.settings (onAccepted env virtualIp tunCfg) := by
  refine keeps_andThen (keeps_atom fun _ => rfl) ?_
  refine keeps_andThen (keeps_atom fun _ => rfl) ?_
  split
  · exact keeps_settings_stop
  · refine keeps_andThen (keeps_atom fun _ => rfl) ?_
    exact keeps_andThen (keeps_setup fun _ _ => rfl) (keeps_atom fun _ => rfl)

theorem keeps_settings_handler (deps : Deps) (e : Event) : Keeps Client.settings (handler deps e) := by
  refine handler_of_parts (R := fun _ => True) ?_ ?_ ?_ ?_ ?_ ?_ ?_ ?_
  · exact keeps_done
  · intro p q hp hq
    exact keeps_andThen hp hq
  · intro next hnext
    exact keeps_act (fun _ => rfl) fun c => hnext c trivial
  · intro upd hupd
    refine keeps_atom fun c => ?_
    rw [hupd c]
    rfl
  · exact keeps_atom fun _ => rfl
  · exact keeps_settings_stop
  · exact keeps_settings_onError
  · intro i message env c virtualIp tunCfg _ _ _
    exact keeps_settings_onAccepted env virtualIp tunCfg

theorem settings_step {x : Input} (hstep : step deps c x = some d) : d.settings = c.settings := by
  cases x with
  | handle e =>
      obtain ⟨-, ⟨⟩⟩ := Option.ite_none_right_eq_some.mp hstep
      exact (keeps_settings_handler deps e).run_eq c
  | signalled e k =>
      obtain ⟨-, ⟨⟩⟩ := Option.ite_none_right_eq_some.mp hstep
      have hkeeps := (keeps_settings_handler deps e).maintains (· = c.settings)
      exact hkeeps.runInterrupted hkeeps (fun s hs => (keeps_settings_stop.run_eq s).trans hs) rfl k
  | stop =>
      cases hstep
      exact keeps_settings_stop.run_eq c
  | tunPacket data =>
      obtain ⟨-, ⟨⟩⟩ := Option.ite_none_right_eq_some.mp hstep
      exact onTunPacket_frame (f := Client.settings) (fun _ _ => rfl) c data

end Client
end Kirdi
