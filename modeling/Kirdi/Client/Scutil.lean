import Kirdi.Client.Secured
import Kirdi.Lib.EventMachine

/-!
# `Client.Scutil` — the DNS override on macOS

On macOS `setup_dns` registers a DNS service of its own under one key of the dynamic store, and `teardown_dns`
removes the key. There is nothing to be brought back: a second `setup_dns` takes nothing away, whatever came
between, and whatever commands `dns_server` spells. So of the conditions on Linux only one is left: a `stop` must not
run before the handler that it interrupts has come to the end of `setup_dns` (`override_removed`).
-/

set_option linter.dupNamespace false

namespace Kirdi
namespace Client

open Protocol Crypto Proc EventMachine

/-- The client between two handlers: there is an override only while it runs, and with a server to name. -/
structure Overriding (config : ClientConfig) (c : Client) : Prop where
  settings : c.config = config
  unset    : config.dnsServer = [] → c.host.scutilDns = none
  ended    : c.running = false → c.host.scutilDns = none

/-- The client has stopped and left no override. -/
structure Removed (config : ClientConfig) (c : Client) : Prop where
  settings : c.config = config
  stopped  : c.running = false
  removed  : c.host.scutilDns = none

variable {deps : Deps} {config : ClientConfig} {c d : Client}

/-! ## The override -/

theorem routesTornDown_scutilDns (config : ClientConfig) (serverIp : Bytes) (h : Host) :
    (config.routesTornDown serverIp h).scutilDns = h.scutilDns := by
  unfold ClientConfig.routesTornDown
  split
  · split <;> rfl
  · rfl

theorem dnsTornDown_removed (hmac : config.platform = .macos) {h : Host}
    (hunset : config.dnsServer = [] → h.scutilDns = none) : (config.dnsTornDown h).scutilDns = none := by
  unfold ClientConfig.dnsTornDown
  by_cases hempty : config.dnsServer.isEmpty = true
  · rw [if_pos hempty]
    exact hunset (List.isEmpty_iff.mp hempty)
  · rw [if_neg hempty, if_pos hmac]
    rfl

/-- **`stop` removes the override.** -/
theorem stop_removed (hmac : config.platform = .macos) (h : Overriding config c) : Removed config (stop.run c) := by
  cases hr : c.running with
  | true =>
      rw [stop_run hr]
      refine ⟨h.settings, rfl, ?_⟩
      show c.tornDown.scutilDns = none
      unfold Client.tornDown
      rw [routesTornDown_scutilDns, h.settings]
      exact dnsTornDown_removed hmac h.unset
  | false =>
      rw [stop_run_of_stopped hr]
      exact ⟨h.settings, hr, h.ended hr⟩

theorem secured_override (hmac : config.platform = .macos) : Secured config (Overriding config) (Removed config) where
  settings := fun _ h => h.settings
  stopped := fun _ => stop_removed hmac
  weaken := fun _ h => ⟨h.settings, fun _ => h.removed, fun _ => h.removed⟩
  before := by
    intro c d hd h
    simp only [Client.dnsState, Prod.mk.injEq] at hd
    obtain ⟨hconfig, hrunning, -, -, hscutil⟩ := hd
    refine ⟨hconfig.trans h.settings, ?_, ?_⟩
    · rw [hscutil]
      exact h.unset
    · rw [hrunning, hscutil]
      exact h.ended
  after := by
    intro c d hd h
    simp only [Client.dnsState, Prod.mk.injEq] at hd
    obtain ⟨hconfig, hrunning, -, -, hscutil⟩ := hd
    exact ⟨hconfig.trans h.settings, hrunning.trans h.stopped, hscutil.trans h.removed⟩
  teardown := by
    have hskips (c : Client) : c.host.mvBackup.scutilDns = c.host.scutilDns := by
      unfold Host.mvBackup
      split <;> rfl
    refine robust_branch (fun _ => stop_removed hmac) (robust_done fun _ => stop_removed hmac) ?_
    refine robust_branch (fun _ => stop_removed hmac) ?_ ?_
    · refine robust_atom (fun _ => stop_removed hmac) ?_ ?_
      · intro c h
        exact ⟨h.settings, fun _ => rfl, fun _ => rfl⟩
      · intro c h
        exact ⟨h.settings, h.stopped, rfl⟩
    · -- the command of the other platform leaves the store alone
      refine robust_atom (fun _ => stop_removed hmac) ?_ ?_
      · intro c h
        exact ⟨h.settings, fun hs => (hskips c).trans (h.unset hs), fun hr => (hskips c).trans (h.ended hr)⟩
      · intro c h
        exact ⟨h.settings, h.stopped, (hskips c).trans h.removed⟩

/-! ## Runs -/

/-- The setup leaves an override to a client that runs. -/
theorem setupKeeps_overriding (h : Overriding config c) : SetupKeeps config (Overriding config) c := by
  intro hroute hserver hr env virtualIp tunCfg d hd
  simp only [Client.dnsState, Prod.mk.injEq] at hd
  obtain ⟨hconfig, hrunning, -⟩ := hd
  have hsetsUp : d.config.autoRoute = true := by
    rw [hconfig, h.settings, hroute]
  obtain ⟨m, hm, hrun⟩ := loginSetup_dns env virtualIp tunCfg hsetsUp
  simp only [Client.dnsState, Prod.mk.injEq] at hm
  obtain ⟨hconfig', hrunning', -⟩ := hm
  rw [hrun]
  refine ⟨hconfig'.trans (hconfig.trans h.settings), fun hs => absurd hs hserver, fun hstopped => ?_⟩
  exact absurd (hr.symm.trans (hrunning.symm.trans (hrunning'.symm.trans hstopped))) (by simp)

/-- **A step** that is not hurried keeps the override in hand. -/
theorem overriding_step (hmac : config.platform = .macos) {x : Input} (hx : Unhurried deps c x) (hserved : c.Served)
    (h : Overriding config c) (hstep : step deps c x = some d) : Overriding config d :=
  (secured_override hmac).step hx hserved h (fun _ => setupKeeps_overriding h) hstep

/-- A client on macOS. -/
def macClient : Client := Client.start { sampleConfig with platform := .macos } (ascii "203.0.113.1")
  (ascii "192.168.1.1") sampleHost

end Client
end Kirdi
