import Kirdi.Client.Secured
import Kirdi.Lib.EventMachine

/-!
# `Client.Dns` — the DNS settings on Linux

`setup_dns` copies `/etc/resolv.conf` to the backup file and overwrites it; `teardown_dns` moves the backup
file back. While the client runs, the original text is in one of the two (`Host.Restorable`), and `stop`
brings it back, wherever it falls in a handler that sets nothing up (`secured_text`).

Three things break this: a `setup_dns` while there is a backup already, which then holds the client's own
text; a `stop` that runs before the handler that stops for it gets to the end of `setup_dns`; and a `dns_server` with
a quote, which may spell any command. Without them the original text is restored at the end of every run
(`dns_restored`).
-/

set_option linter.dupNamespace false

namespace Kirdi
namespace Client

open Protocol Crypto Proc EventMachine

/-- The original text is in place, and there is no backup. -/
def Host.Restored (h : Host) (text : Bytes) : Prop := h.resolvConf = text ∧ h.backup = none

/-- `teardown_dns` brings the original text back. -/
def Host.Restorable (h : Host) (dnsServer text : Bytes) : Prop :=
  h.Restored text ∨ dnsServer ≠ [] ∧ h.backup = some text

/-- The client between two handlers: the text can be restored, and is when the client has stopped. -/
structure Restoring (config : ClientConfig) (text : Bytes) (c : Client) : Prop where
  settings   : c.config = config
  restorable : c.host.Restorable config.dnsServer text
  ended      : c.running = false → c.host.Restored text

/-- The client has stopped and left the DNS settings as they were. -/
structure Ended (config : ClientConfig) (text : Bytes) (c : Client) : Prop where
  settings : c.config = config
  stopped  : c.running = false
  restored : c.host.Restored text

/-- DNS is set up only when there is no backup, with a `dns_server` that stays within its quotes, and `stop` leaves a
    handler that does so time to finish. -/
def Spares (deps : Deps) (c : Client) (x : Input) : Prop :=
  Unhurried deps c x ∧
    (x.setsDns deps c.config = true → c.host.backup = none ∧ endsQuotes c.config.dnsServer = false)

instance (deps : Deps) (c : Client) : DecidablePred (Spares deps c) :=
  fun x => inferInstanceAs (Decidable (Unhurried deps c x ∧ _))

variable {deps : Deps} {config : ClientConfig} {text : Bytes} {c d : Client}

/-! ## The teardown -/

theorem mvBackup_restored {h : Host} {server : Bytes} (hr : h.Restorable server text) :
    h.mvBackup.Restored text := by
  unfold Host.mvBackup
  rcases hr with hr | ⟨-, hr⟩
  · rw [hr.2]
    exact hr
  · rw [hr]
    exact ⟨rfl, rfl⟩

theorem routesTornDown_restored (config : ClientConfig) (serverIp : Bytes) {h : Host}
    (hr : h.Restored text) : (config.routesTornDown serverIp h).Restored text := by
  unfold ClientConfig.routesTornDown
  split
  · split
    · exact hr
    · exact hr
  · exact hr

/-- The teardowns leave the original text. -/
theorem tornDown_restored (hlinux : config.platform = .linux) (h : Restoring config text c) :
    c.tornDown.Restored text := by
  unfold Client.tornDown
  apply routesTornDown_restored
  unfold ClientConfig.dnsTornDown
  rw [h.settings]
  split
  · rename_i hempty
    exact h.restorable.resolve_right fun hset => hset.1 (List.isEmpty_iff.mp hempty)
  · rw [if_neg (by rw [hlinux]; decide)]
    exact mvBackup_restored h.restorable

theorem ended_restoring (h : Ended config text c) : Restoring config text c :=
  ⟨h.settings, Or.inl h.restored, fun _ => h.restored⟩

/-- **`stop` restores the settings.** -/
theorem stop_ended (hlinux : config.platform = .linux) (h : Restoring config text c) :
    Ended config text (stop.run c) := by
  cases hr : c.running with
  | true =>
      rw [stop_run hr]
      exact ⟨h.settings, rfl, tornDown_restored hlinux h⟩
  | false =>
      rw [stop_run_of_stopped hr]
      exact ⟨h.settings, hr, h.ended hr⟩

theorem restoring_of_dnsState (hd : d.dnsState = c.dnsState) (h : Restoring config text c) :
    Restoring config text d := by
  simp only [Client.dnsState, Prod.mk.injEq] at hd
  obtain ⟨hconfig, hrunning, hresolv, hbackup, -⟩ := hd
  refine ⟨hconfig.trans h.settings, ?_, ?_⟩
  · unfold Host.Restorable Host.Restored
    rw [hresolv, hbackup]
    exact h.restorable
  · unfold Host.Restored
    rw [hrunning, hresolv, hbackup]
    exact h.ended

theorem ended_of_dnsState (hd : d.dnsState = c.dnsState) (h : Ended config text c) : Ended config text d := by
  have hr := restoring_of_dnsState hd (ended_restoring h)
  have hrunning : d.running = c.running := congrArg (fun x => x.2.1) hd
  have hstopped := hrunning.trans h.stopped
  exact ⟨hr.settings, hstopped, hr.ended hstopped⟩

/-- **The original text is secured**, wherever `stop` falls. -/
theorem secured_text (hlinux : config.platform = .linux) (text : Bytes) :
    Secured config (Restoring config text) (Ended config text) where
  settings := fun _ h => h.settings
  stopped := fun _ => stop_ended hlinux
  weaken := fun _ => ended_restoring
  before := fun _ _ => restoring_of_dnsState
  after := fun _ _ => ended_of_dnsState
  teardown := by
    have hstop : ∀ c, Restoring config text c → Ended config text (stop.run c) := fun _ => stop_ended hlinux
    refine robust_branch hstop (robust_done hstop) ?_
    refine robust_branch hstop ?_ ?_
    · -- the command of the other platform leaves the files alone
      refine robust_atom hstop ?_ ?_
      · intro c h
        exact ⟨h.settings, h.restorable, h.ended⟩
      · intro c h
        exact ⟨h.settings, h.stopped, h.restored⟩
    · refine robust_atom hstop ?_ ?_
      · intro c h
        exact ⟨h.settings, Or.inl (mvBackup_restored h.restorable), fun _ => mvBackup_restored h.restorable⟩
      · intro c h
        exact ⟨h.settings, h.stopped, mvBackup_restored (ended_restoring h).restorable⟩

/-! ## The login that sets up DNS -/

/-- Within its quotes `dns_server` does not touch the backup. -/
theorem echoNameserver_backup {h : Host} {server : Bytes} (hquotes : endsQuotes server = false) (s : Scripted) :
    (h.echoNameserver server s).backup = h.backup := by
  unfold Host.echoNameserver
  rw [if_neg (by rw [hquotes]; simp)]
  repeat' split
  all_goals rfl

/-- After the setup the text is in the backup. -/
theorem setupKeeps_restoring (hlinux : config.platform = .linux) (h : Restoring config text c)
    (hbackup : c.host.backup = none) (hquotes : endsQuotes config.dnsServer = false) :
    SetupKeeps config (Restoring config text) c := by
  intro hroute hserver hr env virtualIp tunCfg d hd
  have htext : c.host.resolvConf = text := by
    rcases h.restorable with hres | ⟨-, hset⟩
    · exact hres.1
    · rw [hbackup] at hset
      exact absurd hset (by simp)
  simp only [Client.dnsState, Prod.mk.injEq] at hd
  obtain ⟨hconfig, hrunning, hresolv, -, -⟩ := hd
  have hsetsUp : d.config.autoRoute = true := by
    rw [hconfig, h.settings, hroute]
  obtain ⟨m, hm, hrun⟩ := loginSetup_dns env virtualIp tunCfg hsetsUp
  simp only [Client.dnsState, Prod.mk.injEq] at hm
  obtain ⟨hconfig', hrunning', hresolv', -, -⟩ := hm
  have hsettings : m.config = config := hconfig'.trans (hconfig.trans h.settings)
  have hsetUp : m.config.dnsSetUp env.scripted m.host =
      m.host.cpBackup.echoNameserver config.dnsServer env.scripted := by
    unfold ClientConfig.dnsSetUp
    rw [hsettings, if_neg (by simpa using hserver), if_neg (by rw [hlinux]; decide)]
  rw [hrun, hsetUp]
  refine ⟨hsettings, Or.inr ⟨hserver, ?_⟩, ?_⟩
  · show (m.host.cpBackup.echoNameserver config.dnsServer env.scripted).backup = some text
    rw [echoNameserver_backup hquotes]
    show some m.host.resolvConf = some text
    rw [hresolv', hresolv, htext]
  · intro hstopped
    exact absurd (hr.symm.trans (hrunning.symm.trans (hrunning'.symm.trans hstopped))) (by simp)

/-! ## Runs -/

/-- **A step** that spares the settings. -/
theorem restoring_step (hlinux : config.platform = .linux) {x : Input} (hx : Spares deps c x)
    (hserved : c.Served) (h : Restoring config text c) (hstep : step deps c x = some d) :
    Restoring config text d := by
  refine (secured_text hlinux text).step hx.1 hserved h (fun hsets => ?_) hstep
  rw [← h.settings] at hsets
  obtain ⟨hbackup, hquotes⟩ := hx.2 hsets
  exact setupKeeps_restoring hlinux h hbackup (h.settings ▸ hquotes)

/-- With this server the command of `setup_dns` is two: `echo 'nameserver A' > /etc/resolv.conf.kirdi-backup` and
    `echo 'B' > /etc/resolv.conf`. -/
def quotedConfig : ClientConfig :=
  { sampleConfig with dnsServer := ascii "A' > /etc/resolv.conf.kirdi-backup; echo 'B" }

/-- What the two commands leave. -/
def quotedEnv : Env := { sampleEnv with scripted := ⟨ascii "B\n", some (ascii "nameserver A\n"), none⟩ }

end Client
end Kirdi
