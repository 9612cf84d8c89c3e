import Kirdi.Client.Handlers
import Kirdi.Lib.Passage

/-!
# `Client.Routes` — the route table

`teardown_routes` deletes three prefixes, whoever has put a route there; `setup_routes` adds routes for no
others. So the client leaves every other prefix alone, and these three are free when it has stopped
(`Site.Tidy`, `Site.Cleared`): the table is the initial one again exactly when they were free to begin with.

A signal can run `stop` within `setup_routes`, whose last commands then add routes that nothing removes. The
handlers that set up routes are told apart by `Event.setsRoutes`.
-/

set_option linter.dupNamespace false

namespace Kirdi
namespace Client

open Protocol Crypto Proc EventMachine

/-- Where a client runs: its settings, and the table before it started. -/
structure Site where
  config   : ClientConfig
  serverIp : Bytes
  gateway  : Bytes
  table    : Prefix → Option Route

namespace Site

/-- The prefixes that `teardown_routes` deletes. -/
def Claims (u : Site) : Prefix → Prop
  | .lowHalf | .highHalf => u.config.autoRoute = true
  | .host ip => u.config.autoRoute = true ∧ u.serverIp ≠ [] ∧ ip = u.serverIp

/-- Every other prefix is as it was. -/
def Kept (u : Site) (r : Prefix → Option Route) : Prop := ∀ p, ¬ u.Claims p → r p = u.table p

/-- There are no routes for the prefixes that `teardown_routes` deletes. -/
def Clear (u : Site) (r : Prefix → Option Route) : Prop := ∀ p, u.Claims p → r p = none

/-- An invariant of tables that the teardown keeps. -/
structure Lasting (u : Site) (I : (Prefix → Option Route) → Prop) : Prop where
  low   : ∀ r, I r → I (Function.update r .lowHalf none)
  high  : ∀ r, I r → I (Function.update r .highHalf none)
  clear : ∀ r, u.Kept r → u.Clear r → I r

/-- The settings and the table of a client that keeps to its own prefixes. -/
structure Orderly (u : Site) (I : (Prefix → Option Route) → Prop) (c : Client) : Prop where
  settings : c.settings = (u.config, u.serverIp, u.gateway)
  kept     : u.Kept c.host.routes
  holds    : I c.host.routes

/-- The client between two handlers. -/
structure Tidy (u : Site) (I : (Prefix → Option Route) → Prop) (c : Client) : Prop where
  orderly : u.Orderly I c
  ended   : c.running = false → u.Clear c.host.routes

/-- The client has stopped and removed its routes. -/
structure Cleared (u : Site) (c : Client) : Prop where
  settings : c.settings = (u.config, u.serverIp, u.gateway)
  kept     : u.Kept c.host.routes
  stopped  : c.running = false
  clear    : u.Clear c.host.routes

end Site

/-- What the routes depend on. -/
def Client.routing (c : Client) : (ClientConfig × Bytes × Bytes) × Bool × (Prefix → Option Route) :=
  (c.settings, c.running, c.host.routes)

variable {deps : Deps} {u : Site} {I : (Prefix → Option Route) → Prop} {r : Prefix → Option Route}
  {c d : Client} {e : Event} {env : Env}

theorem routing_onTunPacket (c : Client) (data : Bytes) : (c.onTunPacket data).routing = c.routing :=
  onTunPacket_frame (f := Client.routing) (fun _ _ => rfl) c data

theorem mvBackup_routes (h : Host) : h.mvBackup.routes = h.routes := by
  unfold Host.mvBackup
  cases h.backup <;> rfl

theorem keeps_routing_teardownDns : Keeps Client.routing teardownDns := by
  refine keeps_branch keeps_done ?_
  refine keeps_branch (keeps_atom fun _ => rfl) (keeps_atom fun c => ?_)
  show (c.settings, c.running, c.host.mvBackup.routes) = c.routing
  rw [mvBackup_routes]
  rfl

theorem keeps_routing_setupDns (env : Env) : Keeps Client.routing (setupDns env) := by
  have hroutes : ∀ {cmd : Client → Host}, (∀ c, (cmd c).routes = c.host.routes) →
      Keeps Client.routing (perform cmd) := by
    intro cmd hcmd
    refine keeps_atom fun c => ?_
    show (c.settings, c.running, (cmd c).routes) = c.routing
    rw [hcmd c]
    rfl
  refine keeps_branch keeps_done ?_
  refine keeps_branch (hroutes fun c => c.host.scutilSet_routes _ _) ?_
  exact keeps_andThen (hroutes fun _ => rfl) (hroutes fun c => c.host.echoNameserver_routes _ _)

namespace Site

theorem Kept.update (h : u.Kept r) {p : Prefix} (hp : u.Claims p) (v : Option Route) :
    u.Kept (Function.update r p v) := by
  intro q hq
  have hne : q ≠ p := by
    rintro rfl
    exact hq hp
  rw [Function.update_of_ne hne]
  exact h q hq

theorem Clear.update (h : u.Clear r) (p : Prefix) : u.Clear (Function.update r p none) := by
  intro q hq
  by_cases hqp : q = p
  · rw [hqp, Function.update_self]
  · rw [Function.update_of_ne hqp]
    exact h q hq

/-- Without the halves, the route to the server is the last one. -/
theorem clear_update (hlow : r .lowHalf = none) (hhigh : r .highHalf = none) :
    u.Clear (Function.update r (.host u.serverIp) none) := by
  intro p hp
  cases p with
  | lowHalf => rw [Function.update_of_ne (by simp), hlow]
  | highHalf => rw [Function.update_of_ne (by simp), hhigh]
  | host ip => rw [hp.2.2, Function.update_self]

theorem orderly_of_routing (hd : d.routing = c.routing) (h : u.Orderly I c) : u.Orderly I d := by
  simp only [Client.routing, Prod.mk.injEq] at hd
  obtain ⟨hsettings, -, hroutes⟩ := hd
  exact ⟨hsettings.trans h.settings, hroutes ▸ h.kept, hroutes ▸ h.holds⟩

theorem tidy_of_routing (hd : d.routing = c.routing) (h : u.Tidy I c) : u.Tidy I d := by
  refine ⟨orderly_of_routing hd h.orderly, ?_⟩
  simp only [Client.routing, Prod.mk.injEq] at hd
  rw [hd.2.1, hd.2.2]
  exact h.ended

theorem cleared_of_routing (hd : d.routing = c.routing) (h : u.Cleared c) : u.Cleared d := by
  simp only [Client.routing, Prod.mk.injEq] at hd
  obtain ⟨hsettings, hrunning, hroutes⟩ := hd
  exact ⟨hsettings.trans h.settings, hroutes ▸ h.kept, hrunning.trans h.stopped, hroutes ▸ h.clear⟩

theorem Cleared.address (h : u.Cleared c) : c.serverIp = u.serverIp := congrArg (fun x => x.2.1) h.settings

theorem Cleared.tidy (hI : u.Lasting I) (h : u.Cleared c) : u.Tidy I c :=
  ⟨⟨h.settings, h.kept, hI.clear _ h.kept h.clear⟩, fun _ => h.clear⟩

/-! ## The teardown -/

/-- What a teardown that has begun in `c` keeps. -/
structure Tearing (u : Site) (I : (Prefix → Option Route) → Prop) (c d : Client) : Prop where
  orderly : u.Orderly I d
  running : d.running = c.running
  clear   : u.Clear c.host.routes → u.Clear d.host.routes

/-- A command that deletes a prefix of the client's. -/
theorem Tearing.delete (h : u.Tearing I c d) {p : Prefix} (hp : u.Claims p)
    (hI : I (Function.update d.host.routes p none)) : u.Tearing I c { d with host := d.host.routeDel p } where
  orderly := ⟨h.orderly.settings, h.orderly.kept.update hp none, hI⟩
  running := h.running
  clear := fun hc => (h.clear hc).update p

/-- **`teardown_routes` removes the routes of the client.** -/
theorem teardownRoutes_safe (hI : u.Lasting I) (h : u.Orderly I c) :
    teardownRoutes.Safe (u.Tearing I c) (fun d => u.Tearing I c d ∧ u.Clear d.host.routes) c := by
  have hsettings := h.settings
  simp only [Client.settings, Prod.mk.injEq] at hsettings
  obtain ⟨hconfig, hip, -⟩ := hsettings
  have hstart : u.Tearing I c c := ⟨h, rfl, id⟩
  refine ⟨hstart, ?_⟩
  show Safe _ _ (if c.config.autoRoute then _ else done) c
  by_cases ha : u.config.autoRoute = true
  · rw [if_pos (by rw [hconfig, ha])]
    have hlow := hstart.delete (p := .lowHalf) ha (hI.low _ h.holds)
    have hhigh := hlow.delete (p := .highHalf) ha (hI.high _ hlow.orderly.holds)
    refine ⟨hlow, hhigh, hhigh, ?_⟩
    have hlowFree : Function.update (Function.update c.host.routes .lowHalf none) .highHalf none .lowHalf = none := by
      rw [Function.update_of_ne (by decide), Function.update_self]
    have hhighFree : Function.update (Function.update c.host.routes .lowHalf none) .highHalf none .highHalf = none :=
      Function.update_self _ _ _
    show Safe _ _ (if c.serverIp.isEmpty then done else _) _
    by_cases hempty : u.serverIp = []
    · rw [if_pos (by rw [hip, hempty]; rfl)]
      refine ⟨hhigh, ?_⟩
      intro p hp
      cases p with
      | lowHalf => exact hlowFree
      | highHalf => exact hhighFree
      | host ip => exact absurd hempty hp.2.1
    · rw [if_neg (by rw [hip]; simpa using hempty)]
      have hclear := clear_update (u := u) hlowFree hhighFree
      have hkept := hhigh.orderly.kept.update (p := .host u.serverIp) ⟨ha, hempty, rfl⟩ none
      have hlast := hhigh.delete (p := .host u.serverIp) ⟨ha, hempty, rfl⟩ (hI.clear _ hkept hclear)
      rw [← hip] at hlast hclear
      exact ⟨hlast, hlast, hclear⟩
  · rw [if_neg (by rw [hconfig]; exact ha)]
    refine ⟨hstart, ?_⟩
    intro p hp
    cases p with
    | lowHalf | highHalf => exact absurd hp ha
    | host ip => exact absurd hp.1 ha

/-- A handler that does not concern the routes. -/
theorem safe_of_keeps {p : Proc Client} (hp : Keeps Client.routing p) {J : Client → Prop}
    (hJ : ∀ d, d.routing = c.routing → J d) : p.Safe J J c :=
  (safe_of_maintains (P := fun d => d.routing = c.routing) hJ (hp.maintains (· = c.routing)) rfl).mono hJ

/-- `stop` does nothing to a client that has stopped. -/
theorem stop_safe_of_stopped {Q : Client → Prop} (hr : c.running = false) (hroutes : I c.host.routes) (hQ : Q c) :
    stop.Safe (fun d => I d.host.routes) Q c := by
  have hfirst : ({ c with running := false } : Client) = c := by
    cases c
    cases hr
    rfl
  refine ⟨hroutes, ?_⟩
  show Safe _ _ (if !c.running then done else _) { c with running := false }
  rw [hr, hfirst]
  exact hQ

/-- The client when `stop` comes to the teardowns. -/
def stopping (c : Client) : Client := { ({ c with running := false } : Client).closeWs with iocStopped := true }

theorem Tidy.stopping (h : u.Tidy I c) : u.Orderly I (stopping c) :=
  ⟨h.orderly.settings, h.orderly.kept, h.orderly.holds⟩

/-- **`stop` leaves the table clear.** -/
theorem stop_safe (hI : u.Lasting I) (h : u.Tidy I c) :
    stop.Safe (fun d => I d.host.routes) u.Cleared c := by
  refine ⟨h.orderly.holds, ?_⟩
  show Safe _ _ (if !c.running then done else _) _
  cases hr : c.running with
  | false => exact ⟨h.orderly.settings, h.orderly.kept, rfl, h.ended hr⟩
  | true =>
      rw [if_neg (by simp)]
      refine ⟨h.orderly.holds, h.orderly.holds, ?_⟩
      show Safe _ _ (teardownDns.andThen (teardownRoutes.andThen (atom Client.closeTun))) (stopping c)
      -- `running_` is cleared, the routes are still there
      have hdns := safe_of_keeps (c := stopping c) (J := fun d => u.Orderly I d ∧ d.running = false)
        keeps_routing_teardownDns fun d hd => ⟨orderly_of_routing hd h.stopping, congrArg (fun x => x.2.1) hd⟩
      refine safe_andThen.mpr (hdns.imp (fun d hd => hd.1.holds) ?_)
      rintro d ⟨hd, hstopped⟩
      refine safe_andThen.mpr ((teardownRoutes_safe hI hd).imp (fun d' hd' => hd'.orderly.holds) ?_)
      rintro d' ⟨htorn, hclear⟩
      refine ⟨htorn.orderly.holds, ?_⟩
      exact ⟨htorn.orderly.settings, htorn.orderly.kept, htorn.running.trans hstopped, hclear⟩

/-! ## Handlers that do not set up routes -/

/-- The handler leaves the client tidy, `stop` clears the table wherever it falls in the handler, and every
    table on the way meets `I`. -/
def RouteSafe (u : Site) (I : (Prefix → Option Route) → Prop) (p : Proc Client) : Prop :=
  ∀ k, Guards stop (fun d => I d.host.routes) (u.Tidy I) u.Cleared p (u.Tidy I) u.Cleared k

theorem routeSafe_andThen {p q : Proc Client} (hp : u.RouteSafe I p) (hq : u.RouteSafe I q) :
    u.RouteSafe I (p.andThen q) := fun k => guards_andThen (hp k) hq

section Handlers

variable (hI : u.Lasting I)

include hI

theorem Cleared.holds (h : u.Cleared c) : I c.host.routes := (h.tidy hI).orderly.holds

/-- A handler that does not concern the routes. -/
theorem routeSafe_keeps {p : Proc Client} (hp : Keeps Client.routing p) : u.RouteSafe I p :=
  fun _ => guards_of_keeps (fun _ => stop_safe hI) (fun _ h => h.orderly.holds) (fun _ => Cleared.holds hI)
    (fun _ _ => tidy_of_routing) (fun _ _ => cleared_of_routing) hp

theorem routeSafe_atom {upd : Client → Client} (h : ∀ c, (upd c).routing = c.routing) :
    u.RouteSafe I (atom upd) := routeSafe_keeps hI (keeps_atom h)

/-- A test of the settings. -/
theorem routeSafe_read {next : Client → Proc Client}
    (h : ∀ c, c.settings = (u.config, u.serverIp, u.gateway) → u.RouteSafe I (next c)) :
    u.RouteSafe I (.act id next) := by
  refine fun k => guards_act (M := u.Tidy I) (N := u.Cleared) (fun _ => stop_safe hI) ?_ ?_ fun c hc => ?_
  · intro c hc
    exact ⟨hc.orderly.holds, hc⟩
  · intro c hc
    exact ⟨hc.holds hI, hc⟩
  · rcases hc with hc | hc
    · exact h c hc.orderly.settings _
    · exact h c hc.settings _

/-- A second `stop` changes nothing. -/
theorem routeSafe_stop : u.RouteSafe I stop := by
  refine fun k => ⟨fun c hc => (stop_safe hI hc).mono fun d hd => hd.tidy hI,
    fun _ c hc => stop_safe hI (hc.tidy hI), ?_⟩
  intro c hc
  cases k with
  | zero => exact (stop_safe hI hc).mono fun d hd => stop_safe hI (hd.tidy hI)
  | succ k =>
      have hrun := stop_safe hI hc
      refine ⟨hrun.1, safeAt_of_noop (R := fun d => d.running = false) ?_ ?_ rfl hrun.1 hrun.2⟩
      · exact fun d hd hroutes Q hQ => stop_safe_of_stopped hd hroutes hQ
      · show Maintains _ (if !c.running then done else _)
        split
        · exact maintains_done
        · exact maintains_stopped

/-- One command of the teardown. -/
theorem guards_delete {P P' : Client → Prop} {p : Client → Prefix} {k : Nat}
    (hp : ∀ d : Client, d.settings = (u.config, u.serverIp, u.gateway) → u.Claims (p d))
    (hP : ∀ d, P d → u.Tidy I d)
    (hdel : ∀ d, P d → I (Function.update d.host.routes (p d) none) ∧
      (u.Tidy I { d with host := d.host.routeDel (p d) } → P' { d with host := d.host.routeDel (p d) }))
    (hP' : ∀ d, P' d → u.Tidy I d) :
    Guards stop (fun d => I d.host.routes) P u.Cleared (perform fun d => d.host.routeDel (p d)) P' u.Cleared k := by
  refine guards_atom (fun d hd => stop_safe hI (hP d hd)) (fun d hd => stop_safe hI (hP' d hd)) ?_ ?_
  · intro d hd
    have htidy := hP d hd
    have hclaims := hp d htidy.orderly.settings
    refine ⟨(hdel d hd).1, (hdel d hd).2 ⟨?_, fun hrun => (htidy.ended hrun).update _⟩⟩
    exact ⟨htidy.orderly.settings, htidy.orderly.kept.update hclaims none, (hdel d hd).1⟩
  · intro d hd
    have hclear := hd.clear.update (p d)
    have hkept := hd.kept.update (hp d hd.settings) none
    exact ⟨hI.clear _ hkept hclear, hd.settings, hkept, hd.stopped, hclear⟩

theorem routeSafe_teardownRoutes : u.RouteSafe I teardownRoutes := by
  refine routeSafe_read hI fun c hc => ?_
  have hconfig : c.config = u.config := congrArg Prod.fst hc
  simp only [hconfig]
  split
  · rename_i ha
    let low : Client → Prop := fun d => u.Tidy I d ∧ d.host.routes .lowHalf = none
    let halves : Client → Prop := fun d => low d ∧ d.host.routes .highHalf = none
    refine fun k => guards_andThen (M := low) (N := u.Cleared)
      (guards_delete hI (fun _ _ => ha) (fun _ h => h) ?_ fun _ h => h.1) fun _ => ?_
    · intro d hd
      exact ⟨hI.low _ hd.orderly.holds, fun h => ⟨h, Host.routeDel_self⟩⟩
    refine guards_andThen (M := halves) (N := u.Cleared)
      (guards_delete hI (fun _ _ => ha) (fun _ h => h.1) ?_ fun _ h => h.1.1) fun _ => ?_
    · intro d hd
      exact ⟨hI.high _ hd.1.orderly.holds,
        fun h => ⟨⟨h, (Host.routeDel_of_ne (by decide)).trans hd.2⟩, Host.routeDel_self⟩⟩
    -- the last prefix, when there is one
    refine guards_act (M := halves) (N := u.Cleared) (fun _ h => stop_safe hI h.1.1) ?_ ?_ fun d hd => ?_
    · intro d hd
      exact ⟨hd.1.1.orderly.holds, hd⟩
    · intro d hd
      exact ⟨hd.holds hI, hd⟩
    · have hip : d.serverIp = u.serverIp := by
        rcases hd with hd | hd
        · exact congrArg (fun x => x.2.1) hd.1.1.orderly.settings
        · exact congrArg (fun x => x.2.1) hd.settings
      simp only [hip]
      split
      · exact (guards_done fun _ h => stop_safe hI h.1.1).mono (fun _ h => h.1.1) fun _ h => h
      · rename_i hempty
        have hne : u.serverIp ≠ [] := by simpa using hempty
        refine guards_delete hI ?_ (fun _ h => h.1.1) ?_ fun _ h => h
        · intro d' hd'
          exact ⟨ha, hne, congrArg (fun x => x.2.1) hd'⟩
        · intro d' hd'
          have hip' : d'.serverIp = u.serverIp := congrArg (fun x => x.2.1) hd'.1.1.orderly.settings
          refine ⟨?_, fun h => h⟩
          rw [hip']
          exact hI.clear _ (hd'.1.1.orderly.kept.update (p := .host u.serverIp) ⟨ha, hne, rfl⟩ none)
            (clear_update hd'.1.2 hd'.2)
  · exact routeSafe_keeps hI keeps_done

theorem routeSafe_onError : u.RouteSafe I onError := by
  have hdone : u.RouteSafe I done := routeSafe_keeps hI keeps_done
  refine fun k => guards_act (M := u.Tidy I) (N := u.Cleared) (fun _ => stop_safe hI) ?_ ?_ fun c _ => ?_
  · intro c hc
    exact ⟨hc.orderly.holds, tidy_of_routing (c := c) rfl hc⟩
  · intro c hc
    exact ⟨Cleared.holds (c := c) hI hc, cleared_of_routing (c := c) rfl hc⟩
  · split
    · exact hdone _
    · refine routeSafe_andThen (routeSafe_keeps hI keeps_routing_teardownDns) ?_ _
      refine routeSafe_andThen (routeSafe_teardownRoutes hI) ?_
      refine routeSafe_andThen (routeSafe_atom hI fun _ => rfl) ?_
      refine routeSafe_andThen (routeSafe_atom hI fun _ => rfl) ?_
      refine routeSafe_keeps hI (keeps_branch ?_ keeps_done)
      exact keeps_andThen (keeps_atom fun _ => rfl) (keeps_atom fun _ => rfl)

end Handlers

end Site

/-! ## The setup -/

/-- A command that `setup_routes` runs, and whether it may succeed. -/
inductive RouteCmd where
  | hostRoute (ok : Bool)
  | lowHalf (ok : Bool)
  | highHalf (ok : Bool)
  deriving DecidableEq, Repr

theorem routeAdd_table (h : Host) (p : Prefix) (r : Route) (ok : Bool) :
    (h.routeAdd p r ok).1.routes =
      if ok && (h.routes p).isNone then Function.update h.routes p (some r) else h.routes := by
  unfold Host.routeAdd
  by_cases hfree : (ok && (h.routes p).isNone) = true
  · rw [if_pos hfree, if_pos hfree]
  · rw [if_neg hfree, if_neg hfree]

namespace RouteCmd

def ok : RouteCmd → Bool
  | hostRoute ok | lowHalf ok | highHalf ok => ok

def exec : RouteCmd → Client → Client
  | hostRoute ok, c =>
      { c with host := (c.host.routeAdd (.host c.serverIp) (.via c.originalGateway) ok).1 }
  | lowHalf ok, c => { c with host := (c.host.routeAdd .lowHalf (.dev c.interfaceName) ok).1 }
  | highHalf ok, c => { c with host := (c.host.routeAdd .highHalf (.dev c.interfaceName) ok).1 }

def target : RouteCmd → Client → Prefix
  | hostRoute _, c => .host c.serverIp
  | lowHalf _, _ => .lowHalf
  | highHalf _, _ => .highHalf

def value : RouteCmd → Client → Route
  | hostRoute _, c => .via c.originalGateway
  | lowHalf _, c | highHalf _, c => .dev c.interfaceName

theorem exec_eq (x : RouteCmd) (d : Client) :
    x.exec d = { d with host := { d.host with routes := (x.exec d).host.routes } } := by
  cases x with
  | hostRoute ok | lowHalf ok | highHalf ok =>
      simp only [exec, Host.routeAdd]
      split <;> rfl

theorem exec_routes (x : RouteCmd) (d : Client) :
    (x.exec d).host.routes =
      if x.ok && (d.host.routes (x.target d)).isNone then
        Function.update d.host.routes (x.target d) (some (x.value d))
      else d.host.routes := by
  cases x with
  | hostRoute ok | lowHalf ok | highHalf ok =>
      exact routeAdd_table d.host _ _ ok

end RouteCmd

/-- The commands that `setup_routes` runs. -/
def Client.commands (c : Client) (env : Env) : List RouteCmd :=
  if env.hostRoute && (c.host.routes (.host c.serverIp)).isNone then
    [.hostRoute env.hostRoute, .lowHalf env.lowHalf, .highHalf env.highHalf]
  else
    match c.config.platform with
    | .linux =>
        [.hostRoute env.hostRoute, .hostRoute env.hostRouteMetric, .lowHalf env.lowHalf, .highHalf env.highHalf]
    | .macos => [.hostRoute env.hostRoute]

/-- The part of `setup_routes` that runs commands. -/
def runCommands (env : Env) : Proc Client :=
  branch (fun c => c.config.platform = .linux)
    (system (fun c => c.host.routeAdd (.host c.serverIp) (.via c.originalGateway) env.hostRoute)
      fun ok =>
        if ok then addHalves env
        else
          (perform fun c =>
            (c.host.routeAdd (.host c.serverIp) (.via c.originalGateway) env.hostRouteMetric).1).andThen
            (addHalves env))
    (system (fun c => c.host.routeAdd (.host c.serverIp) (.via c.originalGateway) env.hostRoute)
      fun ok => if ok then addHalves env else done)

/-- The commands of `setup_routes` that the handler runs. -/
def Client.routeCommands (deps : Deps) (c : Client) : Event → List RouteCmd
  | .read _ message env =>
      match authVerdict deps c.config.mtu message with
      | some (.accepted _ _) =>
          if env.tunOpens && c.config.autoRoute && !c.serverIp.isEmpty && !c.originalGateway.isEmpty then
            c.commands env
          else []
      | _ => []
  | _ => []

/-- How many steps the handler takes before the first of them. -/
def setupSteps : Nat := 8

/-- The handlers that run such commands. -/
theorem routeCommands_cases (deps : Deps) (c : Client) (e : Event) :
    c.routeCommands deps e = [] ∨ ∃ i message env virtualIp tunCfg, e = .read i message env ∧
      authVerdict deps c.config.mtu message = some (.accepted virtualIp tunCfg) ∧
      env.tunOpens = true ∧ c.config.autoRoute = true ∧ c.serverIp ≠ [] ∧ c.originalGateway ≠ [] ∧
      c.routeCommands deps e = c.commands env := by
  cases e with
  | read i message env =>
      cases hverdict : authVerdict deps c.config.mtu message with
      | none =>
          left
          simp only [Client.routeCommands, hverdict]
      | some verdict =>
          cases verdict with
          | malformed | rejected | partlyRead _ =>
              left
              simp only [Client.routeCommands, hverdict]
          | accepted virtualIp tunCfg =>
              have hcmds : c.routeCommands deps (.read i message env) =
                  if env.tunOpens && c.config.autoRoute && !c.serverIp.isEmpty && !c.originalGateway.isEmpty then
                    c.commands env
                  else [] := by
                simp only [Client.routeCommands, hverdict]
              -- the four tests before the first command
              by_cases hset : (env.tunOpens && c.config.autoRoute && !c.serverIp.isEmpty &&
                  !c.originalGateway.isEmpty) = true
              · rw [if_pos hset] at hcmds
                simp only [Bool.and_eq_true, Bool.not_eq_true', List.isEmpty_eq_false_iff] at hset
                obtain ⟨⟨⟨htun, hroute⟩, hip⟩, hgateway⟩ := hset
                exact Or.inr ⟨i, message, env, virtualIp, tunCfg, rfl, hverdict, htun, hroute, hip, hgateway, hcmds⟩
              · rw [if_neg hset] at hcmds
                exact Or.inl hcmds
  | resolved i ok | tcpConnected i ok | noDelayThrows i | sslHandshaken i ok | wsHandshaken i ok now
  | readError i | writeDone i ok | timer j => exact Or.inl rfl

/-- The commands that follow the first one. -/
def laterCommands (env : Env) (platform : Platform) (ok : Bool) : List RouteCmd :=
  if ok then [.lowHalf env.lowHalf, .highHalf env.highHalf]
  else
    match platform with
    | .linux => [.hostRoute env.hostRouteMetric, .lowHalf env.lowHalf, .highHalf env.highHalf]
    | .macos => []

theorem routeCommands_accepted {i : Nat} {message virtualIp : Bytes} {tunCfg : TunConfig}
    (hverdict : authVerdict deps c.config.mtu message = some (.accepted virtualIp tunCfg))
    (htun : env.tunOpens = true) (hroute : c.config.autoRoute = true) (hip : c.serverIp ≠ [])
    (hgateway : c.originalGateway ≠ []) : c.routeCommands deps (.read i message env) = c.commands env := by
  simp only [Client.routeCommands, hverdict]
  exact if_pos (by simp [htun, hroute, hip, hgateway])

theorem commands_eq (c : Client) (env : Env) :
    c.commands env = .hostRoute env.hostRoute ::
      laterCommands env c.config.platform (env.hostRoute && (c.host.routes (.host c.serverIp)).isNone) := by
  unfold Client.commands laterCommands
  split
  · rfl
  · cases c.config.platform <;> rfl

/-- The first command, and what follows from its outcome. -/
def firstCommand (env : Env) (platform : Platform) : Proc Client :=
  .act (RouteCmd.exec (.hostRoute env.hostRoute)) fun c =>
    atoms RouteCmd.exec
      (laterCommands env platform (env.hostRoute && (c.host.routes (.host c.serverIp)).isNone))

theorem runCommands_eq (env : Env) :
    runCommands env = .act id fun d => firstCommand env d.config.platform := by
  unfold runCommands branch
  refine congrArg (Proc.act id) (funext fun d => ?_)
  have hok : ∀ c : Client, (c.host.routeAdd (.host c.serverIp) (.via c.originalGateway) env.hostRoute).2 =
      (env.hostRoute && (c.host.routes (.host c.serverIp)).isNone) := by
    intro c
    unfold Host.routeAdd
    split
    · rename_i h
      exact h.symm
    · rename_i h
      exact ((Bool.not_eq_true _).mp h).symm
  cases hp : d.config.platform with
  | linux =>
      rw [if_pos (by simp [hp])]
      refine congrArg (Proc.act _) (funext fun c => ?_)
      rw [hok c]
      cases env.hostRoute && (c.host.routes (.host c.serverIp)).isNone <;> rfl
  | macos =>
      rw [if_neg (by simp [hp])]
      refine congrArg (Proc.act _) (funext fun c => ?_)
      rw [hok c]
      cases env.hostRoute && (c.host.routes (.host c.serverIp)).isNone <;> rfl

namespace Site

/-- The client just before `setup_routes`: running, with the table `r`. -/
structure Ready (u : Site) (I : (Prefix → Option Route) → Prop) (r : Prefix → Option Route) (c : Client) :
    Prop where
  tidy    : u.Tidy I c
  running : c.running = true
  table   : c.host.routes = r

/-- What holds before each command, of it and the ones after it: `J`, and `L` after a `stop`. The `stop` comes
    after `j` of the commands. -/
structure Plan (u : Site) (I : (Prefix → Option Route) → Prop) (env : Env) (r : Prefix → Option Route) (j : Nat)
    (J L : List RouteCmd → Client → Prop) : Prop where
  tidy     : ∀ xs d, J xs d → u.Tidy I d
  holds    : ∀ xs d, L xs d → I d.host.routes
  exec     : ∀ x xs d, J (x :: xs) d → J xs (x.exec d)
  execLate : ∀ x xs d, L (x :: xs) d → L xs (x.exec d)
  start    : ∀ d, u.Ready I r d → J (d.commands env) d
  whole    : j = 0 → ∀ d, u.Cleared d → L (d.commands env) d
  rest     : ∀ c d, u.Ready I r c → u.Cleared d → L ((c.commands env).drop j) d

variable {J L : List RouteCmd → Client → Prop} {j : Nat}

theorem Ready.settings (h : u.Ready I r c) : c.settings = (u.config, u.serverIp, u.gateway) :=
  h.tidy.orderly.settings

theorem ready_of_routing (hd : d.routing = c.routing) (h : u.Ready I r c) : u.Ready I r d := by
  refine ⟨tidy_of_routing hd h.tidy, ?_, ?_⟩
  · exact (congrArg (fun x => x.2.1) hd : d.running = c.running).trans h.running
  · exact (congrArg (fun x => x.2.2) hd : d.host.routes = c.host.routes).trans h.table

/-- **The commands of `setup_routes`**, with a `stop` before them or after `j` of them. -/
theorem guards_firstCommand (hI : u.Lasting I) (h : u.Plan I env r j J L) :
    Guards stop (fun d => I d.host.routes) (u.Ready I r) u.Cleared (firstCommand env u.config.platform)
      (J []) (L []) j := by
  have hcommands : ∀ d : Client, d.settings = (u.config, u.serverIp, u.gateway) →
      d.commands env = .hostRoute env.hostRoute :: laterCommands env u.config.platform
        (env.hostRoute && (d.host.routes (.host d.serverIp)).isNone) := by
    intro d hd
    rw [commands_eq, show d.config = u.config from congrArg Prod.fst hd]
  have hholds : ∀ xs d, J xs d → I d.host.routes := fun xs d hd => (h.tidy xs d hd).orderly.holds
  have hafter : j = 0 → ∀ d, u.Cleared d →
      (firstCommand env u.config.platform).Safe (fun d => I d.host.routes) (L []) d := by
    intro hj d hd
    have hwhole := h.whole hj d hd
    rw [hcommands d hd.settings] at hwhole
    have hlater := h.execLate _ _ _ hwhole
    exact ⟨h.holds _ _ hlater, safe_atoms h.holds h.execLate hlater⟩
  refine ⟨?_, hafter, ?_⟩
  · intro d hd
    have hwhole := h.start d hd
    rw [hcommands d hd.settings] at hwhole
    have hlater := h.exec _ _ _ hwhole
    exact ⟨hholds _ _ hlater, safe_atoms hholds h.exec hlater⟩
  · intro d hd
    have hwhole := h.start d hd
    have hrest := fun d' => h.rest d d' hd
    rw [hcommands d hd.settings] at hwhole hrest
    -- `stop` falls before the first command, or after `i` of the later ones
    cases j with
    | zero => exact (stop_safe hI hd.tidy).mono (hafter rfl)
    | succ i =>
        have hlater := h.exec _ _ _ hwhole
        refine ⟨hholds _ _ hlater, safeAt_atoms hholds h.holds h.exec h.execLate ?_ hlater⟩
        intro s hs
        exact (stop_safe hI (h.tidy _ _ hs)).mono hrest

/-- A step that leaves the client ready. -/
theorem guards_ready (hI : u.Lasting I) {upd : Client → Client} {next : Client → Proc Client} {k : Nat}
    {P' Q' : Client → Prop} (hupd : ∀ d, (upd d).routing = d.routing)
    (hnext : ∀ d, d.settings = (u.config, u.serverIp, u.gateway) →
      Guards stop (fun d => I d.host.routes) (u.Ready I r) u.Cleared (next d) P' Q' (k - 1)) :
    Guards stop (fun d => I d.host.routes) (u.Ready I r) u.Cleared (.act upd next) P' Q' k := by
  refine guards_act (M := u.Ready I r) (N := u.Cleared) (fun d hd => stop_safe hI hd.tidy) ?_ ?_ fun d hd => ?_
  · intro d hd
    have hready := ready_of_routing (hupd d) hd
    exact ⟨hready.tidy.orderly.holds, hready⟩
  · intro d hd
    have hcleared := cleared_of_routing (hupd d) hd
    exact ⟨hcleared.holds hI, hcleared⟩
  · rcases hd with hd | hd
    · exact hnext d hd.settings
    · exact hnext d hd.settings

/-- `setup_routes`, with a `stop` after `k` steps. -/
theorem guards_setupRoutes (hI : u.Lasting I) (hip : u.serverIp ≠ []) (hgateway : u.gateway ≠ []) {k : Nat}
    (h : u.Plan I env r (k - 2) J L) :
    Guards stop (fun d => I d.host.routes) (u.Ready I r) u.Cleared (setupRoutes env) (J []) (L []) k := by
  refine guards_ready hI (fun _ => rfl) fun c hc => ?_
  simp only [Client.settings, Prod.mk.injEq] at hc
  rw [if_neg (by simp [hc, hip, hgateway])]
  show Guards _ _ _ _ (runCommands env) _ _ _
  rw [runCommands_eq]
  refine guards_ready hI (fun _ => rfl) fun d hd => ?_
  rw [show d.config = u.config from congrArg Prod.fst hd]
  exact guards_firstCommand hI h

/-- The settings make the client set up routes. -/
structure Routing (u : Site) : Prop where
  auto    : u.config.autoRoute = true
  address : u.serverIp ≠ []
  via     : u.gateway ≠ []

/-- Where the handler leaves the client when a `stop` interrupts it. -/
structure Outcome (u : Site) (I : (Prefix → Option Route) → Prop) (Q : Client → Prop) : Prop where
  cleared : ∀ d, u.Cleared d → Q d
  holds   : ∀ d, Q d → I d.host.routes
  routing : ∀ c d : Client, d.routing = c.routing → Q c → Q d

/-- **The login that sets up routes**, with a `stop` after `k` steps. -/
theorem guards_login (hI : u.Lasting I) {Q : Client → Prop} (hQ : u.Outcome I Q) {k : Nat}
    (hc : c.settings = (u.config, u.serverIp, u.gateway)) {i : Nat} {message virtualIp : Bytes}
    {tunCfg : TunConfig} (hverdict : authVerdict deps c.config.mtu message = some (.accepted virtualIp tunCfg))
    (htun : env.tunOpens = true) (hrouting : u.Routing) (h : u.Plan I env r (k - setupSteps) J L)
    (hlate : ∀ d, L [] d → Q d) :
    Guards stop (fun d => I d.host.routes) (u.Ready I r) u.Cleared (onRead deps i message env) (u.Tidy I) Q k := by
  obtain ⟨next, hhandler, hnext⟩ := onRead_accepted (i := i) hverdict htun
  have hconfig : c.config = u.config := congrArg Prod.fst hc
  have hkeeps : ∀ {p : Proc Client}, Keeps Client.routing p → ∀ j,
      Guards stop (fun d => I d.host.routes) (u.Tidy I) Q p (u.Tidy I) Q j := by
    intro p hp j
    exact guards_of_keeps (fun d hd => (stop_safe hI hd).mono hQ.cleared) (fun d hd => hd.orderly.holds) hQ.holds
      (fun _ _ => tidy_of_routing) hQ.routing hp
  have hsetup : ∀ m, m - 2 = k - setupSteps → Guards stop (fun d => I d.host.routes) (u.Ready I r) u.Cleared
      (setupRoutes env) (u.Tidy I) Q m := by
    intro m hm
    exact (guards_setupRoutes hI hrouting.address hrouting.via (hm ▸ h)).mono (h.tidy []) hlate
  rw [hhandler]
  -- the six steps up to `setup_routes` do not concern the routes
  refine guards_ready hI (fun _ => rfl) fun _ _ => ?_
  refine guards_ready hI (fun _ => rfl) fun d hd => ?_
  rw [hnext d ((show d.config = u.config from congrArg Prod.fst hd).trans hconfig.symm)]
  refine guards_andThen ?_ (hkeeps (keeps_andThen (keeps_atom fun _ => rfl) (keeps_atom fun _ => rfl)))
  refine guards_ready hI (fun _ => rfl) fun _ _ => ?_
  refine guards_ready hI (fun _ => rfl) fun _ _ => ?_
  refine guards_ready hI (fun _ => rfl) fun _ _ => ?_
  refine guards_ready hI (fun _ => rfl) fun d hd => ?_
  have hauto : d.config.autoRoute = true := (congrArg (fun x => x.1.autoRoute) hd).trans hrouting.auto
  rw [if_pos (by exact hauto)]
  refine guards_andThen (hsetup _ ?_) (hkeeps (keeps_routing_setupDns _))
  unfold setupSteps
  omega

/-- **Every other handler.** -/
theorem routeSafe_handler (hI : u.Lasting I) (hc : c.settings = (u.config, u.serverIp, u.gateway))
    (he : c.routeCommands deps e = []) : u.RouteSafe I (handler deps e) := by
  refine handler_of_parts (R := fun d => d.settings = (u.config, u.serverIp, u.gateway)) ?_ ?_ ?_ ?_ ?_ ?_ ?_ ?_
  · exact routeSafe_keeps hI keeps_done
  · intro p q hp hq
    exact routeSafe_andThen hp hq
  · intro next hnext
    exact routeSafe_read hI hnext
  · intro upd hupd
    refine routeSafe_atom hI fun d => ?_
    rw [hupd d]
    rfl
  · exact routeSafe_atom hI fun _ => rfl
  · exact routeSafe_stop hI
  · exact routeSafe_onError hI
  · rintro i message env d virtualIp tunCfg rfl hd hverdict
    have hcs : c.settings = d.settings := hc.trans hd.symm
    simp only [Client.settings, Prod.mk.injEq] at hcs hd
    refine routeSafe_andThen (routeSafe_atom hI fun _ => rfl) ?_
    refine routeSafe_andThen (routeSafe_atom hI fun _ => rfl) ?_
    split
    · exact routeSafe_stop hI
    · rename_i htun
      refine routeSafe_andThen (routeSafe_atom hI fun _ => rfl) ?_
      refine routeSafe_andThen (routeSafe_read hI fun d' hd' => ?_) (routeSafe_atom hI fun _ => rfl)
      split
      · rename_i hauto
        refine routeSafe_andThen (routeSafe_read hI fun m hm => ?_) (routeSafe_keeps hI (keeps_routing_setupDns _))
        split
        · exact routeSafe_keeps hI keeps_done
        · -- the handler would run the commands of `setup_routes`
          rename_i hset
          exfalso
          simp only [Client.settings, Prod.mk.injEq] at hd' hm
          simp only [Bool.or_eq_true, not_or, Bool.not_eq_true, List.isEmpty_eq_false_iff] at hset
          obtain ⟨hconfig, hip, hgateway⟩ := hcs
          have hcmds := routeCommands_accepted (c := c) (i := i) (hconfig ▸ hverdict) (by simpa using htun)
            (by rw [hconfig, hd.1, ← hd'.1]; exact hauto) (by rw [hip, hd.2.1, ← hm.2.1]; exact hset.1)
            (by rw [hgateway, hd.2.2, ← hm.2.2]; exact hset.2)
          rw [he, commands_eq] at hcmds
          exact absurd hcmds (by simp)
      · exact routeSafe_keeps hI keeps_done

/-- **A handler**, run to its end or with a `stop` after `k` steps. -/
theorem handler_safe (hI : u.Lasting I) {Q : Client → Prop} (hQ : u.Outcome I Q) (h : u.Tidy I c)
    (hr : c.running = true) (k : Nat)
    (hplan : ∀ env, c.routeCommands deps e = c.commands env → u.Routing →
      ∃ J L, u.Plan I env c.host.routes (k - setupSteps) J L ∧ ∀ d, L [] d → Q d) :
    (handler deps e).Safe (fun d => I d.host.routes) (u.Tidy I) c ∧
      (handler deps e).SafeAt (fun d => I d.host.routes) Q stop k c := by
  have hc := h.orderly.settings
  rcases routeCommands_cases deps c e with hnone | ⟨i, message, env, virtualIp, tunCfg, rfl, hverdict, htun, hauto,
    hip, hgateway, hcmds⟩
  · have hsafe := routeSafe_handler hI hc hnone k
    exact ⟨hsafe.before c h, (hsafe.interrupted c h).mono hQ.cleared⟩
  · simp only [Client.settings, Prod.mk.injEq] at hc
    have hrouting : u.Routing := ⟨hc.1 ▸ hauto, hc.2.1 ▸ hip, hc.2.2 ▸ hgateway⟩
    obtain ⟨J, L, hJL, hlate⟩ := hplan env hcmds hrouting
    have hlogin := guards_login (i := i) hI hQ h.orderly.settings hverdict htun hrouting hJL hlate
    exact ⟨hlogin.before c ⟨h, hr, rfl⟩, hlogin.interrupted c ⟨h, hr, rfl⟩⟩

/-! ## The table afterwards -/

/-- A signal leaves no command of the setup that may succeed. -/
def Undisturbed (deps : Deps) (c : Client) : Input → Prop
  | .signalled e k => ∀ x ∈ (c.routeCommands deps e).drop (k - setupSteps), x.ok = false
  | .handle _ | .stop | .tunPacket _ => True

instance (deps : Deps) (c : Client) : (x : Input) → Decidable (Undisturbed deps c x)
  | .signalled e k =>
      inferInstanceAs (Decidable (∀ x ∈ (c.routeCommands deps e).drop (k - setupSteps), x.ok = false))
  | .handle _ | .stop | .tunPacket _ => inferInstanceAs (Decidable True)

theorem claims_target (h : u.Routing) (x : RouteCmd) (hd : d.settings = (u.config, u.serverIp, u.gateway)) :
    u.Claims (x.target d) := by
  cases x with
  | hostRoute ok => exact ⟨h.auto, h.address, congrArg (fun x => x.2.1) hd⟩
  | lowHalf ok | highHalf ok => exact h.auto

/-- A command adds one of the three prefixes or changes nothing. -/
theorem exec_kept (h : u.Routing) (x : RouteCmd) (hd : d.settings = (u.config, u.serverIp, u.gateway))
    (hk : u.Kept d.host.routes) : u.Kept (x.exec d).host.routes := by
  rw [RouteCmd.exec_routes]
  split
  · exact hk.update (claims_target h x hd) _
  · exact hk

theorem exec_tidy (h : u.Routing) (x : RouteCmd) (hd : u.Tidy I d) (hr : d.running = true)
    (hI : I (x.exec d).host.routes) : u.Tidy I (x.exec d) := by
  have hsettings := hd.orderly.settings
  have hkept := exec_kept h x hsettings hd.orderly.kept
  rw [RouteCmd.exec_eq] at hI hkept ⊢
  exact ⟨⟨hsettings, hkept, hI⟩, fun hstopped => absurd (hr.symm.trans hstopped) (by simp)⟩

/-- A command that fails. -/
theorem exec_routing {x : RouteCmd} (hx : x.ok = false) : (x.exec d).routing = d.routing := by
  have hroutes : (x.exec d).host.routes = d.host.routes := by
    rw [RouteCmd.exec_routes, hx]
    rfl
  rw [RouteCmd.exec_eq] at hroutes ⊢
  exact congrArg (fun r => (d.settings, d.running, r)) hroutes

/-- The commands depend on the settings and the table. -/
theorem commands_congr (hsettings : d.settings = c.settings) (hroutes : d.host.routes = c.host.routes) :
    d.commands env = c.commands env := by
  simp only [Client.settings, Prod.mk.injEq] at hsettings
  rw [commands_eq, commands_eq, hsettings.1, hsettings.2.1, hroutes]

/-- On an empty table the commands differ only where the first one succeeds. -/
theorem commands_idle (hsettings : d.settings = c.settings) (h : ∀ x ∈ c.commands env, x.ok = false) :
    ∀ x ∈ d.commands env, x.ok = false := by
  have hfirst : env.hostRoute = false := h (.hostRoute env.hostRoute) (by rw [commands_eq]; exact List.mem_cons_self)
  rw [commands_eq, hfirst] at h ⊢
  rw [show d.config = c.config from congrArg Prod.fst hsettings]
  exact h

/-- The plan of a client that may be stopped once the remaining commands fail. -/
theorem plan_idle (h : u.Routing) (hc : u.Ready (fun _ => True) r c)
    (hidle : ∀ x ∈ (c.commands env).drop j, x.ok = false) :
    u.Plan (fun _ => True) env r j (fun _ d => u.Tidy (fun _ => True) d ∧ d.running = true)
      (fun xs d => u.Cleared d ∧ ∀ x ∈ xs, x.ok = false) where
  tidy := fun _ _ hd => hd.1
  holds := fun _ _ _ => trivial
  exec := by
    rintro x xs d ⟨hd, hr⟩
    have hrunning : (x.exec d).running = d.running := by
      rw [RouteCmd.exec_eq]
    exact ⟨exec_tidy h x hd hr trivial, hrunning.trans hr⟩
  execLate := by
    rintro x xs d ⟨hd, hfalse⟩
    exact ⟨cleared_of_routing (exec_routing (hfalse x List.mem_cons_self)) hd,
      fun y hy => hfalse y (List.mem_cons_of_mem x hy)⟩
  start := fun d hd => ⟨hd.tidy, hd.running⟩
  whole := by
    rintro rfl d hd
    exact ⟨hd, commands_idle (hd.settings.trans hc.settings.symm) hidle⟩
  rest := by
    intro d d' hd hd'
    rw [commands_congr (hd.settings.trans hc.settings.symm) (hd.table.trans hc.table.symm)]
    exact ⟨hd', hidle⟩

theorem lasting_true : u.Lasting fun _ => True := ⟨fun _ _ => trivial, fun _ _ => trivial, fun _ _ _ => trivial⟩

theorem outcome_cleared (hI : u.Lasting I) : u.Outcome I u.Cleared :=
  ⟨fun _ h => h, fun _ h => h.holds hI, fun _ _ => cleared_of_routing⟩

/-- **A step** of a client that may be stopped. -/
theorem tidy_step {x : Input} (hx : Undisturbed deps c x) (hserved : c.Served) (h : u.Tidy (fun _ => True) c)
    (hstep : step deps c x = some d) : u.Tidy (fun _ => True) d := by
  have hrunning : c.iocStopped = false → c.running = true := fun hs =>
    hserved.resolve_right fun hs' => absurd (hs.symm.trans hs') (by simp)
  have hhandler : ∀ e k, c.running = true →
      (∀ x ∈ (c.routeCommands deps e).drop (k - setupSteps), x.ok = false) →
      (handler deps e).Safe (fun _ => True) (u.Tidy fun _ => True) c ∧
        (handler deps e).SafeAt (fun _ => True) u.Cleared stop k c := by
    intro e k hr hidle
    refine handler_safe lasting_true (outcome_cleared lasting_true) h hr k fun env hcmds hrouting => ?_
    rw [hcmds] at hidle
    exact ⟨_, _, plan_idle hrouting ⟨h, hr, rfl⟩ hidle, fun _ hd => hd.1⟩
  cases x with
  | handle e =>
      obtain ⟨⟨hs, -⟩, ⟨⟩⟩ := Option.ite_none_right_eq_some.mp hstep
      have hlast : ∀ x ∈ (c.routeCommands deps e).drop ((c.routeCommands deps e).length + setupSteps - setupSteps),
          x.ok = false := by simp
      exact (safe_iff.mp (hhandler e _ (hrunning hs) hlast).1).2
  | signalled e k =>
      obtain ⟨⟨hs, -⟩, ⟨⟩⟩ := Option.ite_none_right_eq_some.mp hstep
      exact (safeAt_iff.mp (hhandler e k (hrunning hs) hx).2).2.tidy lasting_true
  | stop =>
      cases hstep
      exact (safe_iff.mp (stop_safe lasting_true h)).2.tidy lasting_true
  | tunPacket data =>
      obtain ⟨-, ⟨⟩⟩ := Option.ite_none_right_eq_some.mp hstep
      exact tidy_of_routing (routing_onTunPacket c data) h

end Site
end Client
end Kirdi
