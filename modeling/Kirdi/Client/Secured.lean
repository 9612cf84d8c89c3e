import Kirdi.Client.Handlers

/-!
# `Client.Secured` — settings that the teardown takes back

`teardown_dns` runs in `stop` and in `on_error`, `setup_dns` at the end of an accepted login only. So what a client
does about the DNS settings of its machine depends on two things: what the teardown takes back, and what the setup
leaves for it. `Secured` asks for the first, of either platform: a property `P` of the client while it runs, and the
property `Q` that `stop` leaves behind. It then holds of every handler that sets up no DNS (`Secured.handler`), and of
every step in which the setup keeps `P` and is not overtaken by the `stop` that interrupts it (`Secured.step`).
-/

set_option linter.dupNamespace false

namespace Kirdi
namespace Client

open Protocol Crypto Proc

/-- What the DNS settings of either platform depend on. -/
def Client.dnsState (c : Client) : ClientConfig × Bool × Bytes × Option Bytes × Option Bytes :=
  (c.config, c.running, c.host.resolvConf, c.host.backup, c.host.scutilDns)

/-- `P` holds while the client runs and `Q` once it has stopped, for all that `stop` and the teardown do. -/
structure Secured (config : ClientConfig) (P Q : Client → Prop) : Prop where
  settings : ∀ c, P c → c.config = config
  stopped  : ∀ c, P c → Q (stop.run c)
  weaken   : ∀ c, Q c → P c
  before   : ∀ c d, d.dnsState = c.dnsState → P c → P d
  after    : ∀ c d, d.dnsState = c.dnsState → Q c → Q d
  teardown : Robust stop.run P Q teardownDns

/-- The login of a message that makes the client set up DNS. -/
def Event.setsDns (deps : Deps) (config : ClientConfig) : Event → Bool
  | .read _ message env =>
      match authVerdict deps config.mtu message with
      | some (.accepted _ _) => env.tunOpens && config.autoRoute && !config.dnsServer.isEmpty
      | _ => false
  | _ => false

def Input.setsDns (deps : Deps) (config : ClientConfig) : Input → Bool
  | .handle e | .signalled e _ => e.setsDns deps config
  | .stop | .tunPacket _ => false

/-- How many steps the handler takes to the last command of `setup_dns`. -/
def Client.dnsSteps (deps : Deps) (c : Client) : Event → Nat
  | .read i message env =>
      match authVerdict deps c.config.mtu message with
      | some (.accepted virtualIp tunCfg) =>
          (loginSetup env virtualIp tunCfg).steps (c.setConn i fun t => { t with reading := false }) + 2
      | _ => 0
  | _ => 0

/-- `stop` leaves a handler that sets up DNS time to finish. -/
def Unhurried (deps : Deps) (c : Client) : Input → Prop
  | .signalled e k => e.setsDns deps c.config = true → c.dnsSteps deps e ≤ k
  | .handle _ | .stop | .tunPacket _ => True

instance (deps : Deps) (c : Client) : (x : Input) → Decidable (Unhurried deps c x)
  | .signalled e k => inferInstanceAs (Decidable (e.setsDns deps c.config = true → c.dnsSteps deps e ≤ k))
  | .handle _ => inferInstanceAs (Decidable True)
  | .stop => inferInstanceAs (Decidable True)
  | .tunPacket _ => inferInstanceAs (Decidable True)

/-- The setup of a running client, up to the last command of `setup_dns`, keeps `P`. -/
def SetupKeeps (config : ClientConfig) (P : Client → Prop) (c : Client) : Prop :=
  config.autoRoute = true → config.dnsServer ≠ [] → c.running = true → ∀ env virtualIp tunCfg d,
    d.dnsState = c.dnsState → P ((loginSetup env virtualIp tunCfg).run d)

variable {deps : Deps} {config : ClientConfig} {P Q : Client → Prop} {c d : Client} {e : Event} {env : Env}
  {p : Proc Client}

/-- **The setup ends with `setup_dns`**; before it nothing that the DNS settings depend on has changed. -/
theorem loginSetup_dns (env : Env) (virtualIp : Bytes) (tunCfg : TunConfig) (hroute : d.config.autoRoute = true) :
    ∃ m : Client, m.dnsState = d.dnsState ∧
      (loginSetup env virtualIp tunCfg).run d = { m with host := m.config.dnsSetUp env.scripted m.host } := by
  refine ⟨(setupRoutes env).run
    (({ d with virtualIp := virtualIp }.createTun tunCfg).openTun env.interfaceName), ?_, ?_⟩
  · exact (keeps_setupRoutes fun _ _ => rfl : Keeps Client.dnsState (setupRoutes env)).run_eq _
  · have hbranch : (({ d with virtualIp := virtualIp }.createTun tunCfg).openTun
        env.interfaceName).config.autoRoute = true := hroute
    unfold loginSetup
    rw [run_andThen, run_andThen, run_andThen, run_branch, run_atom, run_atom, run_atom, if_pos hbranch,
      run_andThen, setupDns_run]

theorem setsDns_accepted {i : Nat} {message virtualIp : Bytes} {tunCfg : TunConfig}
    (h : authVerdict deps config.mtu message = some (.accepted virtualIp tunCfg)) :
    (Event.read i message env).setsDns deps config =
      (env.tunOpens && config.autoRoute && !config.dnsServer.isEmpty) := by
  show (match authVerdict deps config.mtu message with | some (.accepted _ _) => _ | _ => _) = _
  rw [h]

/-- The parts of the condition that DNS is set up. -/
theorem setsDns_iff : e.setsDns deps config = true ↔
    ∃ i message env virtualIp tunCfg, e = .read i message env ∧
      authVerdict deps config.mtu message = some (.accepted virtualIp tunCfg) ∧ env.tunOpens = true ∧
      config.autoRoute = true ∧ config.dnsServer ≠ [] := by
  constructor
  · intro h
    cases e with
    | read i message env =>
        change (match authVerdict deps config.mtu message with | some (.accepted _ _) => _ | _ => _) = true at h
        split at h
        · rename_i virtualIp tunCfg hverdict
          simp only [Bool.and_eq_true, Bool.not_eq_true', List.isEmpty_eq_false_iff] at h
          exact ⟨i, message, env, virtualIp, tunCfg, rfl, hverdict, h.1.1, h.1.2, h.2⟩
        · exact absurd h (by simp)
    | resolved i ok | tcpConnected i ok | noDelayThrows i | sslHandshaken i ok | wsHandshaken i ok now
    | readError i | writeDone i ok | timer j => exact absurd h (by simp [Event.setsDns])
  · rintro ⟨i, message, env, virtualIp, tunCfg, rfl, hverdict, htun, hroute, hserver⟩
    rw [setsDns_accepted hverdict]
    simp [htun, hroute, hserver]

namespace Secured

/-! ## Handlers that do not set up DNS -/

theorem atom (h : Secured config P Q) {upd : Client → Client} (hupd : ∀ c, (upd c).dnsState = c.dnsState) :
    Robust stop.run P Q (Proc.atom upd) :=
  robust_atom h.stopped (fun c => h.before c _ (hupd c)) (fun c => h.after c _ (hupd c))

theorem keeps (h : Secured config P Q) (hp : Keeps Client.dnsState p) : Robust stop.run P Q p := by
  induction p with
  | done => exact robust_done h.stopped
  | act upd next ih =>
      exact robust_act h.stopped (fun c => h.before c _ (hp.1 c)) (fun c => h.after c _ (hp.1 c))
        fun c _ => ih c (hp.2 c)

/-- A test of the configuration. -/
theorem read (h : Secured config P Q) {next : Client → Proc Client}
    (hnext : ∀ c, c.config = config → Robust stop.run P Q (next c)) : Robust stop.run P Q (.act id next) := by
  refine robust_act h.stopped (fun _ hc => hc) (fun _ hc => hc) fun c hc => ?_
  apply hnext
  rcases hc with hc | hc
  · exact h.settings c hc
  · exact h.settings c (h.weaken c hc)

theorem stop (h : Secured config P Q) : Robust Client.stop.run P Q Client.stop :=
  robust_stop (fun c hc => h.weaken _ (h.stopped c hc)) (fun c hc => h.stopped c (h.weaken c hc)) h.stopped

theorem onError (h : Secured config P Q) : Robust Client.stop.run P Q Client.onError := by
  have hdone : Robust Client.stop.run P Q done := h.keeps keeps_done
  refine robust_act h.stopped ?_ ?_ fun c _ => ?_
  · intro c
    exact h.before c _ rfl
  · intro c
    exact h.after c _ rfl
  · split
    · exact hdone
    · refine robust_andThen h.teardown ?_
      refine robust_andThen (h.keeps (keeps_teardownRoutes fun _ _ => rfl)) ?_
      refine robust_andThen (h.atom fun _ => rfl) ?_
      refine robust_andThen (h.atom fun _ => rfl) ?_
      refine robust_branch h.stopped ?_ hdone
      exact robust_andThen (h.atom fun _ => rfl) (h.atom fun _ => rfl)

/-- An accepted login for which one of the conditions of `setup_dns` fails. -/
theorem onAccepted (h : Secured config P Q) (virtualIp : Bytes) (tunCfg : TunConfig)
    (hskips : (env.tunOpens && config.autoRoute && !config.dnsServer.isEmpty) = false) :
    Robust Client.stop.run P Q (Client.onAccepted env virtualIp tunCfg) := by
  have hdone : Robust Client.stop.run P Q done := h.keeps keeps_done
  refine robust_andThen (h.atom fun _ => rfl) (robust_andThen (h.atom fun _ => rfl) ?_)
  cases htun : env.tunOpens with
  | false => exact h.stop
  | true =>
      refine robust_andThen (h.atom fun _ => rfl) (robust_andThen ?_ (h.atom fun _ => rfl))
      refine h.read fun c hc => ?_
      split
      · rename_i hroute
        have hroute' : config.autoRoute = true := hc ▸ hroute
        have hempty : config.dnsServer.isEmpty = true := by simpa [htun, hroute'] using hskips
        refine robust_andThen (h.keeps (keeps_setupRoutes fun _ _ => rfl)) ?_
        refine h.read fun c' hc' => ?_
        split
        · exact hdone
        · rename_i hserver
          exact absurd hempty (hc' ▸ hserver)
      · exact hdone

/-- **Every handler that sets up no DNS.** -/
theorem handler (h : Secured config P Q) (hsets : e.setsDns deps config = false) :
    Robust Client.stop.run P Q (Client.handler deps e) := by
  refine handler_of_parts (R := fun c => c.config = config) ?_ ?_ ?_ ?_ ?_ ?_ ?_ ?_
  · exact h.keeps keeps_done
  · intro p q hp hq
    exact robust_andThen hp hq
  · intro next hnext
    exact h.read hnext
  · intro upd hupd
    refine h.atom fun c => ?_
    rw [hupd c]
    rfl
  · exact h.atom fun _ => rfl
  · exact h.stop
  · exact h.onError
  · rintro i message env c virtualIp tunCfg rfl hc hverdict
    apply h.onAccepted
    rw [hc] at hverdict
    exact (setsDns_accepted hverdict).symm.trans hsets

/-! ## The login that sets up DNS -/

theorem loginFinish (h : Secured config P Q) (i : Nat) : Robust Client.stop.run P Q (Client.loginFinish i) :=
  robust_andThen (h.atom fun _ => rfl) (h.atom fun _ => rfl)

/-- **The login that sets up DNS**, run to its end or stopped after the setup. -/
theorem login (h : Secured config P Q) (hsets : e.setsDns deps config = true) (hc : P c) (hr : c.running = true)
    (hsetup : SetupKeeps config P c) :
    P ((Client.handler deps e).run c) ∧
      ∀ k, c.dnsSteps deps e ≤ k → Q ((Client.handler deps e).runInterrupted Client.stop.run k c) := by
  obtain ⟨i, message, env, virtualIp, tunCfg, rfl, hverdict, htun, hroute, hserver⟩ := setsDns_iff.mp hsets
  rw [← h.settings c hc] at hverdict
  obtain ⟨next, hhandler, hnext⟩ := onRead_accepted (i := i) hverdict htun
  have hread : next (c.setConn i fun t => { t with reading := false }) =
      (loginSetup env virtualIp tunCfg).andThen (Client.loginFinish i) := hnext _ rfl
  have hset := hsetup hroute hserver hr env virtualIp tunCfg (c.setConn i fun t => { t with reading := false }) rfl
  have hfinish := h.loginFinish i
  constructor
  · show P ((onRead deps i message env).run c)
    rw [hhandler, run_act, run_act]
    show P ((next (c.setConn i _)).run _)
    rw [hread, run_andThen]
    exact hfinish.before _ hset
  · intro k hk
    have hsteps : c.dnsSteps deps (.read i message env) =
        (loginSetup env virtualIp tunCfg).steps (c.setConn i fun t => { t with reading := false }) + 2 := by
      unfold Client.dnsSteps
      dsimp only
      rw [hverdict]
    -- the interrupt falls after the setup, within the rest of the handler
    rw [hsteps] at hk
    obtain ⟨m, rfl⟩ := Nat.exists_eq_add_of_le' (Nat.le_trans (Nat.le_add_left 2 _) hk)
    show Q ((onRead deps i message env).runInterrupted Client.stop.run (m + 2) c)
    rw [hhandler]
    show Q ((next (c.setConn i _)).runInterrupted Client.stop.run m _)
    rw [hread]
    show Q (Proc.runInterrupted _ _ m (c.setConn i _))
    rw [runInterrupted_andThen_ge _ _ _ (Nat.le_of_add_le_add_right hk)]
    exact hfinish.interrupted _ _ hset

/-- **A step** that is not hurried, and whose setup keeps `P`. -/
theorem step (h : Secured config P Q) {x : Input} (hx : Unhurried deps c x) (hserved : c.Served) (hc : P c)
    (hsetup : x.setsDns deps config = true → SetupKeeps config P c) (hstep : Client.step deps c x = some d) : P d := by
  have hrunning : c.iocStopped = false → c.running = true := fun hs =>
    hserved.resolve_right fun hs' => absurd (hs.symm.trans hs') (by simp)
  cases x with
  | handle e =>
      obtain ⟨⟨hs, -⟩, ⟨⟩⟩ := Option.ite_none_right_eq_some.mp hstep
      cases hsets : e.setsDns deps config with
      | false => exact (h.handler hsets).before c hc
      | true => exact (h.login hsets hc (hrunning hs) (hsetup hsets)).1
  | signalled e k =>
      obtain ⟨⟨hs, -⟩, ⟨⟩⟩ := Option.ite_none_right_eq_some.mp hstep
      -- `stop` takes the settings back, unless it comes before the setup has changed them
      apply h.weaken
      cases hsets : e.setsDns deps config with
      | false => exact (h.handler hsets).interrupted c k hc
      | true =>
          exact (h.login hsets hc (hrunning hs) (hsetup hsets)).2 k (hx ((h.settings c hc).symm ▸ hsets))
  | stop =>
      cases hstep
      exact h.weaken _ (h.stopped c hc)
  | tunPacket data =>
      obtain ⟨-, ⟨⟩⟩ := Option.ite_none_right_eq_some.mp hstep
      exact h.before c _ (onTunPacket_frame (f := Client.dnsState) (fun _ _ => rfl) c data) hc

end Secured
end Client
end Kirdi
