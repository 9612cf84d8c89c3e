import Kirdi.Client.Loop

/-!
# `Client.Superseded` — transports that have been replaced

The callbacks of a transport lead into the client without saying which transport they come from, and a
transport lives on while an operation of it is outstanding. So after a write error has led to a new
transport, the read of the old one is still there: what it reads is dispatched, and its error is an error of
the client. `undisturbed_iff` says exactly which events of a superseded transport leave alone what belongs to
the current connection (`Guarded`).
-/

set_option linter.dupNamespace false

namespace Kirdi
namespace Client

open Protocol Crypto Proc EventMachine Loop

/-- What belongs to the current connection. -/
structure Guarded where
  connected : Bool
  tun       : Option Tun
  virtualIp : Bytes
  host      : Host             -- routes and DNS
  timers    : List UInt32      -- armed reconnect timers

/-- The timers that may expire. -/
def Client.armed (c : Client) : List UInt32 := if c.iocStopped then [] else c.timers

def Client.guarded (c : Client) : Guarded := ⟨c.connected, c.tun, c.virtualIp, c.host, c.armed⟩

/-- The event comes from a transport other than the current one. -/
def Client.Superseded (c : Client) (e : Event) : Prop := ∃ i, e.transport = some i ∧ i ≠ c.ws

/-- An `AuthResponse` that changes nothing of the current connection. -/
def AuthVerdict.Harmless (c : Client) : AuthVerdict → Prop
  | .malformed => True
  | .partlyRead virtualIp => virtualIp = c.virtualIp
  | .rejected => c.tunOpen = false ∧ c.tornDown = c.host ∧ c.timers = []
  | .accepted _ _ => False

/-- The events of a superseded transport that do no harm: errors while the client is not connected, and
    messages without an `AuthResponse` that changes anything. -/
def Harmless (deps : Deps) (c : Client) : Event → Prop
  | .read _ message _ => ∀ v, authVerdict deps c.config.mtu message = some v → v.Harmless c
  | .readError _ => c.connected = false
  | .writeDone _ ok => ok = true ∨ c.connected = false
  | _ => True

/-- An event of a superseded transport leaves the current connection alone. -/
def Undisturbed (deps : Deps) (c : Client) (x : Input) : Prop :=
  ∀ e d, x = .handle e → c.Superseded e → step deps c x = some d → d.guarded = c.guarded

/-- An event of a superseded transport is harmless. -/
def Guards (deps : Deps) (c : Client) (x : Input) : Prop :=
  ∀ e d, x = .handle e → c.Superseded e → step deps c x = some d → Harmless deps c e

variable {deps : Deps} {c d : Client} {i : Nat} {env : Env}

/-! ## Runs -/

/-- The `io_context` is stopped, or the loop is in one of its phases. -/
def Client.Tracked (c : Client) : Prop := c.iocStopped = true ∨ ∃ p, c.loop.InPhase p

theorem Client.Tracked.served (h : c.Tracked) : c.Served := by
  rcases h with h | ⟨p, h⟩
  · exact Or.inr h
  · cases hs : c.iocStopped with
    | true => exact Or.inr hs
    | false =>
        obtain ⟨t, calm⟩ := h.calm hs
        exact Or.inl calm.running

theorem tracked_step {x : Input} (h : c.Tracked) (hstep : step deps c x = some d) : d.Tracked := by
  cases x with
  | stop =>
      cases hstep
      exact Or.inl (stop_run_stopped h.served)
  | signalled e k =>
      obtain ⟨-, ⟨⟩⟩ := Option.ite_none_right_eq_some.mp hstep
      exact Or.inl (signalled_stopped deps e k h.served)
  | tunPacket data =>
      obtain ⟨-, ⟨⟩⟩ := Option.ite_none_right_eq_some.mp hstep
      have hstopped : (c.onTunPacket data).iocStopped = c.iocStopped :=
        onTunPacket_frame (f := Client.iocStopped) (fun _ _ => rfl) c data
      rcases h with h | ⟨p, h⟩
      · exact Or.inl (hstopped.trans h)
      · refine Or.inr ⟨p, ?_⟩
        rw [loop_onTunPacket]
        exact h
  | handle e =>
      obtain ⟨⟨hs, ha⟩, ⟨⟩⟩ := Option.ite_none_right_eq_some.mp hstep
      rcases h with h | ⟨p, h⟩
      · exact absurd (hs.symm.trans h) (by simp)
      · -- a packet that is a reason to stop is one that the loop cannot foresee
        obtain ⟨stops, hloop⟩ := loop_handler deps e c ha
        refine Or.inr ⟨p.next (e.report deps c.config stops), ?_⟩
        rw [hloop]
        exact inPhase_handle h hs (loop_awaits deps c.config stops ha)

/-- The TUN device in use, and the number of the next one. -/
def Client.device (c : Client) : Option Nat × Nat := (c.tun.map Tun.id, c.tunsCreated)

/-- The device in use has been created. -/
def Client.Numbered (c : Client) : Prop := ∀ n, c.device.1 = some n → n < c.device.2

theorem numbered_of_device (h : d.device = c.device) (hc : c.Numbered) : d.Numbered := by
  unfold Client.Numbered
  rw [h]
  exact hc

theorem device_closeTun (c : Client) : c.closeTun.device = c.device := by
  unfold Client.device Client.closeTun
  cases c.tun <;> rfl

theorem keeps_device_stop : Keeps Client.device stop :=
  keeps_stop (fun _ _ => rfl) (fun _ => rfl) (fun _ => rfl) (fun _ => rfl) device_closeTun

theorem maintains_of_keeps_device {p : Proc Client} (h : Keeps Client.device p) :
    Maintains Client.Numbered p := h.maintains fun x => ∀ n, x.1 = some n → n < x.2

theorem maintains_numbered_onError : Maintains Client.Numbered onError := by
  refine ⟨fun _ h => h, ?_⟩
  intro c
  show Maintains _ (if _ then _ else _)
  split
  · exact maintains_done
  · refine maintains_andThen (maintains_of_keeps_device (keeps_teardownDns fun _ _ => rfl)) ?_
    refine maintains_andThen (maintains_of_keeps_device (keeps_teardownRoutes fun _ _ => rfl)) ?_
    refine maintains_andThen (maintains_of_keeps_device (keeps_atom device_closeTun)) ?_
    refine maintains_andThen (maintains_atom fun c _ => ?_) ?_
    · intro n hn
      exact absurd hn (by simp [Client.device])
    · refine maintains_branch ?_ maintains_done
      exact maintains_andThen (maintains_atom fun _ h => h) (maintains_atom fun _ h => h)

theorem device_openTun (c : Client) (name : Bytes) : (c.openTun name).device = c.device := by
  unfold Client.device Client.openTun
  cases c.tun <;> rfl

/-- What an accepted login does after it has created the device. -/
theorem keeps_device_open (env : Env) : Keeps Client.device
    (if !env.tunOpens then stop
      else
        (atom fun c => c.openTun env.interfaceName).andThen <|
          (branch (fun c => c.config.autoRoute) ((setupRoutes env).andThen (setupDns env)) done).andThen <|
            atom fun c => { c with tunLoops := c.tunLoops + 1 }) := by
  split
  · exact keeps_device_stop
  · refine keeps_andThen (keeps_atom fun c => device_openTun c _) ?_
    exact keeps_andThen (keeps_setup fun _ _ => rfl) (keeps_atom fun _ => rfl)

theorem maintains_numbered_onAccepted (env : Env) (virtualIp : Bytes) (tunCfg : TunConfig) :
    Maintains Client.Numbered (onAccepted env virtualIp tunCfg) := by
  refine maintains_andThen (maintains_atom fun _ h => h) ?_
  refine maintains_andThen (maintains_atom fun c _ => ?_) (maintains_of_keeps_device (keeps_device_open env))
  intro n hn
  obtain rfl : c.tunsCreated = n := Option.some.inj hn
  exact Nat.lt_succ_self c.tunsCreated

theorem maintains_numbered (deps : Deps) (e : Event) : Maintains Client.Numbered (handler deps e) := by
  refine handler_of_parts (R := fun _ => True) ?_ ?_ ?_ ?_ ?_ ?_ ?_ ?_
  · exact maintains_done
  · intro p q hp hq
    exact maintains_andThen hp hq
  · intro next hnext
    exact maintains_act (fun _ h => h) fun c => hnext c trivial
  · intro upd hupd
    refine maintains_atom fun c hc => numbered_of_device ?_ hc
    rw [hupd c]
    rfl
  · exact maintains_atom fun _ h => h
  · exact maintains_of_keeps_device keeps_device_stop
  · exact maintains_numbered_onError
  · intro i message env c virtualIp tunCfg _ _ _
    exact maintains_numbered_onAccepted env virtualIp tunCfg

theorem numbered_step {x : Input} (h : c.Numbered) (hstep : step deps c x = some d) : d.Numbered := by
  have hstop : ∀ c : Client, c.Numbered → (stop.run c).Numbered := fun c hc =>
    numbered_of_device (keeps_device_stop.run_eq c) hc
  cases x with
  | stop =>
      cases hstep
      exact hstop c h
  | signalled e k =>
      obtain ⟨-, ⟨⟩⟩ := Option.ite_none_right_eq_some.mp hstep
      exact (maintains_numbered deps e).runInterrupted (maintains_numbered deps e) hstop h k
  | tunPacket data =>
      obtain ⟨-, ⟨⟩⟩ := Option.ite_none_right_eq_some.mp hstep
      rw [onTunPacket_frame (f := Client.Numbered) fun _ _ => rfl]
      exact h
  | handle e =>
      obtain ⟨-, ⟨⟩⟩ := Option.ite_none_right_eq_some.mp hstep
      exact (maintains_numbered deps e).run h

/-! ## What an event of a superseded transport does -/

/-- Packets other than an `AuthResponse`. -/
theorem keeps_guarded_onPacket {hdr : PacketHeader} (payload : Bytes)
    (h : MsgType.ofByte hdr.type ≠ some .authResponse) : Keeps Client.guarded (onPacket deps env hdr payload) :=
  keeps_onPacket h (fun _ _ => rfl) fun _ _ => rfl

theorem closeTun_eq_iff : (c.tun.map fun t => { t with isOpen := false }) = c.tun ↔ c.tunOpen = false := by
  unfold Client.tunOpen
  cases c.tun with
  | none => simp
  | some t =>
      cases t
      simp [eq_comm]

theorem guarded_stop_iff (hs : c.iocStopped = false) (hr : c.running = true) :
    (stop.run c).guarded = c.guarded ↔ c.tunOpen = false ∧ c.tornDown = c.host ∧ c.timers = [] := by
  rw [stop_run hr]
  show (⟨c.connected, _, c.virtualIp, c.tornDown, []⟩ : Guarded) = ⟨c.connected, c.tun, c.virtualIp, c.host, c.armed⟩ ↔ _
  have htimers : c.armed = c.timers := if_neg (by rw [hs]; simp)
  rw [Guarded.mk.injEq, closeTun_eq_iff, htimers, eq_comm (a := [])]
  simp

/-- An accepted login brings a new device. -/
theorem onAccepted_disturbs (hn : c.Numbered) (virtualIp : Bytes) (tunCfg : TunConfig) :
    ((onAccepted env virtualIp tunCfg).run c).guarded ≠ c.guarded := by
  intro heq
  have htun : ((onAccepted env virtualIp tunCfg).run c).device.1 = c.device.1 :=
    congrArg (fun g => g.tun.map Tun.id) heq
  have hnew : ((onAccepted env virtualIp tunCfg).run c).device = (some c.tunsCreated, c.tunsCreated + 1) := by
    unfold onAccepted
    rw [run_andThen, run_andThen, (keeps_device_open env).run_eq]
    rfl
  rw [hnew] at htun
  exact absurd (hn c.tunsCreated htun.symm) (Nat.lt_irrefl _)

theorem guarded_onAuthResponse_iff (hs : c.iocStopped = false) (hr : c.running = true) (hn : c.Numbered)
    (payload : Bytes) :
    ((onAuthResponse deps env payload).run c).guarded = c.guarded ↔
      (readAuthResponse deps c.config.mtu payload).Harmless c := by
  rw [onAuthResponse_run]
  cases readAuthResponse deps c.config.mtu payload with
  | malformed => exact iff_of_true rfl trivial
  | rejected => exact guarded_stop_iff hs hr
  | partlyRead virtualIp =>
      show (⟨c.connected, c.tun, virtualIp, c.host, c.armed⟩ : Guarded) =
        ⟨c.connected, c.tun, c.virtualIp, c.host, c.armed⟩ ↔ virtualIp = c.virtualIp
      rw [Guarded.mk.injEq]
      simp
  | accepted virtualIp tunCfg => exact iff_of_false (onAccepted_disturbs hn virtualIp tunCfg) id

/-- What reading a message does to the connection. -/
theorem guarded_onRead_iff (hs : c.iocStopped = false) (hr : c.running = true) (hn : c.Numbered)
    (message : Bytes) :
    ((onRead deps i message env).run c).guarded = c.guarded ↔ Harmless deps c (.read i message env) := by
  have hrun : ((onRead deps i message env).run c).guarded =
      (((dispatchPacket message (some (onPacket deps env))).getD done).run
        (c.setConn i fun t => { t with reading := false })).guarded := by
    unfold onRead
    rw [run_andThen, run_andThen]
    rfl
  show _ ↔ ∀ v, authVerdict deps c.config.mtu message = some v → v.Harmless c
  rw [hrun, dispatchPacket_map]
  unfold authVerdict
  cases dispatchPacket message (some Prod.mk) with
  | none => exact iff_of_true rfl (by simp)
  | some p =>
      obtain ⟨hdr, payload⟩ := p
      by_cases hty : MsgType.ofByte hdr.type = some .authResponse
      · have hpacket : onPacket deps env hdr payload = onAuthResponse deps env payload :=
          onPacket_authResponse hty
        simp only [Option.map_some, Option.getD_some, hpacket, hty, if_true, Option.some.injEq, forall_eq']
        exact guarded_onAuthResponse_iff (c := c.setConn i fun t => { t with reading := false }) hs hr hn payload
      · simp only [Option.map_some, Option.getD_some, hty, if_false]
        exact iff_of_true ((keeps_guarded_onPacket payload hty).run_eq _) (by simp)

/-- What an error of a transport does to the connection. -/
theorem guarded_fail_iff {t : Conn} (ht : c.transports[i]? = some t) (hopen : t.closing = false) :
    ((fail i).run c).guarded = c.guarded ↔ c.connected = false := by
  rw [fail_run ht, if_neg (by rw [hopen]; simp)]
  have hset : (c.setConn i fun t => { t with connected := false }).connected = c.connected := rfl
  cases hc : c.connected with
  | false =>
      rw [onError_run_of_not_connected (hset.trans hc)]
      exact iff_of_true rfl rfl
  | true =>
      have hdropped : (onError.run (c.setConn i fun t => { t with connected := false })).connected = false := by
        rw [onError_run (hset.trans hc)]
        split <;> rfl
      refine iff_of_false ?_ (by simp)
      intro heq
      have hconnected := congrArg Guarded.connected heq
      exact absurd (hdropped.symm.trans (hconnected.trans hc)) (by simp)

theorem guarded_handler_iff {e : Event} (htracked : c.Tracked) (hn : c.Numbered) (hsup : c.Superseded e)
    (hstep : step deps c (.handle e) = some d) : d.guarded = c.guarded ↔ Harmless deps c e := by
  obtain ⟨⟨hs, ha⟩, ⟨⟩⟩ := Option.ite_none_right_eq_some.mp hstep
  obtain ⟨p, hp⟩ : ∃ p, c.loop.InPhase p := htracked.resolve_left (by rw [hs]; simp)
  obtain ⟨t, calm⟩ := hp.calm hs
  obtain ⟨j, hj, hne⟩ := hsup
  have hopen : ∀ (k : Nat) (u : Conn), c.transports[k]? = some u → u.closing = false := by
    intro k u hu
    apply calm.unclosed k u.link
    show (c.transports.map Conn.link)[k]? = _
    rw [List.getElem?_map, hu]
    rfl
  -- a superseded transport has finished connecting
  have hold : ∀ {k : Nat} {st : Stage}, k ≠ c.ws → st.settled = false →
      (c.transports[k]?.any fun t => t.stage = st) = true → False := by
    intro k st hk hst hany
    obtain ⟨u, hu, hus⟩ := Option.any_eq_true _ _ |>.mp hany
    have hsettled := calm.older k u.link (by
      show (c.transports.map Conn.link)[k]? = _
      rw [List.getElem?_map, hu]
      rfl) hk
    rw [show u.link.stage = st from of_decide_eq_true hus, hst] at hsettled
    exact absurd hsettled (by simp)
  have hfail : ∀ {k : Nat} {f : Conn → Conn} {u : Conn}, c.transports[k]? = some u →
      (∀ t, (f t).closing = t.closing) →
        (((fail k).run (c.setConn k f)).guarded = c.guarded ↔ c.connected = false) := by
    intro k f u hu hf
    have hset : (c.setConn k f).transports[k]? = some (f u) := by
      show (c.transports.modify k f)[k]? = _
      rw [List.getElem?_modify_eq, hu]
      rfl
    exact guarded_fail_iff hset ((hf u).trans (hopen k u hu))
  cases e with
  | resolved k ok | tcpConnected k ok | sslHandshaken k ok | noDelayThrows k | wsHandshaken k ok now =>
      obtain rfl : k = j := Option.some.inj hj
      exact (hold hne rfl ha).elim
  | timer k => exact absurd hj (by simp [Event.transport])
  | read k message env => exact guarded_onRead_iff hs calm.running hn message
  | readError k =>
      obtain ⟨u, hu, -⟩ := Option.any_eq_true _ _ |>.mp ha
      exact hfail hu fun _ => rfl
  | writeDone k ok =>
      obtain ⟨u, hu, -⟩ := Option.any_eq_true _ _ |>.mp ha
      cases ok with
      | true => exact iff_of_true rfl (Or.inl rfl)
      | false =>
          refine (hfail (f := fun t => { t with broken := true }) hu fun _ => rfl).trans ?_
          simp [Harmless]

/-- **Superseded transports are harmless exactly as far as their events are.** -/
theorem undisturbed_iff {config : ClientConfig} {serverIp originalGateway : Bytes} {host : Host}
    {xs : List Input} :
    Along (step deps) (Undisturbed deps) (Client.start config serverIp originalGateway host) xs ↔
      Along (step deps) (Guards deps) (Client.start config serverIp originalGateway host) xs := by
  have hiff : ∀ pre c x, run (step deps) (Client.start config serverIp originalGateway host) pre = some c →
      (Undisturbed deps c x ↔ Guards deps c x) := by
    intro pre c x hpre
    have htracked : c.Tracked := run_invariant' (fun _ _ _ => tracked_step)
      (Or.inr ⟨_, inPhase_start config serverIp originalGateway host⟩) hpre
    have hstart : (Client.start config serverIp originalGateway host).Numbered :=
      fun _ h => absurd h (by simp [Client.device, Client.start])
    have hn : c.Numbered := run_invariant' (fun _ _ _ => numbered_step) hstart hpre
    refine forall_congr' fun e => forall_congr' fun d => ?_
    constructor
    · rintro h rfl hsup hstep
      exact (guarded_handler_iff htracked hn hsup hstep).mp (h rfl hsup hstep)
    · rintro h rfl hsup hstep
      exact (guarded_handler_iff htracked hn hsup hstep).mpr (h rfl hsup hstep)
  constructor
  · intro h pre x post c hxs hpre
    exact (hiff pre c x hpre).mp (h pre x post c hxs hpre)
  · intro h pre x post c hxs hpre
    exact (hiff pre c x hpre).mpr (h pre x post c hxs hpre)

/-- A write error replaces the transport; the read of the old one is still outstanding. -/
def switchEvents : List Input :=
  loginEvents 0 ++ [.handle (.writeDone 0 false), .handle (.timer 0)] ++ loginEvents 1

/-- **A connection that its predecessor ends.** When the old transport's read fails, the new one, logged in,
    loses its device, and a timer is armed. -/
theorem superseded_disturbs :
    (∃ c d, run (step responseDeps) sampleClient switchEvents = some c ∧ c.ws = 1 ∧
      c.connected = true ∧ c.tunOpen = true ∧ c.timers = [] ∧
      step responseDeps c (.handle (.readError 0)) = some d ∧
      d.connected = false ∧ d.tun = none ∧ d.timers = [1]) ∧
    ¬ Along (step responseDeps) (Undisturbed responseDeps) sampleClient
      (switchEvents ++ [.handle (.readError 0)]) := by
  have hrun : (run (step responseDeps) sampleClient switchEvents).any (fun c =>
      c.ws = 1 && c.connected && c.tunOpen && c.timers.isEmpty &&
        (step responseDeps c (.handle (.readError 0))).any fun d =>
          !d.connected && d.tun.isNone && d.timers = [1]) = true := by decide +kernel
  obtain ⟨c, hc, hbody⟩ := Option.any_eq_true _ _ |>.mp hrun
  obtain ⟨hbefore, hafter⟩ := Bool.and_eq_true_iff.mp hbody
  obtain ⟨d, hd, hlost⟩ := Option.any_eq_true _ _ |>.mp hafter
  simp only [Bool.and_eq_true, decide_eq_true_eq, List.isEmpty_iff] at hbefore
  simp only [Bool.and_eq_true, Bool.not_eq_true', decide_eq_true_eq, Option.isNone_iff_eq_none] at hlost
  obtain ⟨⟨⟨hws, hconnected⟩, htun⟩, htimers⟩ := hbefore
  obtain ⟨⟨hdropped, hnone⟩, harmed⟩ := hlost
  refine ⟨⟨c, d, hc, hws, hconnected, htun, htimers, hd, hdropped, hnone, harmed⟩, ?_⟩
  intro halong
  have hsame : d.guarded = c.guarded :=
    halong switchEvents _ [] c rfl hc _ d rfl ⟨0, rfl, by rw [hws]; decide⟩ hd
  have hflag : d.connected = c.connected := congrArg Guarded.connected hsame
  exact absurd (hdropped.symm.trans (hflag.trans hconnected)) (by simp)

end Client
end Kirdi
