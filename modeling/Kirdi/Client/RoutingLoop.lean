import Kirdi.Client.Routes

/-!
# `Client.RoutingLoop` — the route to the server

A catch-all route through the tunnel also takes the packets of the tunnel itself, unless there is a route to
the server via the original gateway (`NoLoop`). The property is about every state that a handler passes
through (`Client.passed`), because `setup_routes` and `teardown_routes` run one command after the other.

On macOS `setup_routes` stops when the route to the server cannot be added. On Linux it goes on, so a loop
arises when both attempts fail and a catch-all route can be added. A `stop` within the setup deletes the route to the
server while catch-all routes are still to come; these go to a device that is closed by then, and must fail as long as
that route has not been added again (`Excludes`).
-/

set_option linter.dupNamespace false

namespace Kirdi
namespace Client

open Protocol Crypto Proc EventMachine

/-- With a catch-all route there is a route to the server via the gateway. -/
def NoLoop (serverIp gateway : Bytes) (r : Prefix → Option Route) : Prop :=
  r .lowHalf ≠ none ∨ r .highHalf ≠ none → r (.host serverIp) = some (.via gateway)

/-- The states that the client passes through in a step. -/
def Client.passed (deps : Deps) (c : Client) : Input → List Client
  | .handle e => (handler deps e).visited c
  | .signalled e k => (handler deps e).visitedInterrupted stop k c
  | .stop => stop.visited c
  | .tunPacket data => [c.onTunPacket data]

/-- There is a route to the server. -/
def Client.hostRouted (c : Client) : Bool := (c.host.routes (.host c.serverIp)).isSome

/-- No command adds a catch-all route before there is a route to the server. -/
def excludesFirst : (routed : Bool) → List RouteCmd → Bool
  | true, _ => true
  | false, [] => true
  | false, .hostRoute ok :: xs => excludesFirst ok xs
  | false, .lowHalf ok :: xs | false, .highHalf ok :: xs => !ok && excludesFirst false xs

/-- The command adds the route to the server where there is none. -/
def RouteCmd.routesHost : RouteCmd → Bool
  | hostRoute ok => ok
  | lowHalf _ | highHalf _ => false

theorem excludesFirst_cons {routed : Bool} {x : RouteCmd} {xs : List RouteCmd}
    (h : excludesFirst routed (x :: xs) = true) : excludesFirst (routed || x.routesHost) xs = true := by
  cases routed with
  | true => cases xs <;> rfl
  | false =>
      cases x with
      | hostRoute ok => exact h
      | lowHalf ok | highHalf ok => exact (Bool.and_eq_true _ _ ▸ h : _ ∧ _).2

theorem RouteCmd.hostRouted_exec (x : RouteCmd) (d : Client) :
    (x.exec d).hostRouted = (d.hostRouted || x.routesHost) := by
  have hip : (x.exec d).serverIp = d.serverIp := by
    rw [RouteCmd.exec_eq]
  unfold Client.hostRouted
  rw [hip, RouteCmd.exec_routes]
  cases x with
  | hostRoute ok =>
      cases hhost : d.host.routes (.host d.serverIp) <;> cases ok <;>
        simp [RouteCmd.ok, RouteCmd.target, RouteCmd.routesHost, hhost]
  | lowHalf ok | highHalf ok =>
      rw [RouteCmd.routesHost, Bool.or_false]
      split
      · rw [Function.update_of_ne (by simp [RouteCmd.target])]
      · rfl

variable {deps : Deps} {c : Client} {e : Event}

/-- On Linux, the commands of a handler keep to that order; and on both platforms those after a `stop` do so again. -/
def Excludes (deps : Deps) (c : Client) : Input → Prop
  | .handle e => c.config.platform = .linux → excludesFirst c.hostRouted (c.routeCommands deps e) = true
  | .signalled e k =>
      (c.config.platform = .linux → excludesFirst c.hostRouted (c.routeCommands deps e) = true) ∧
        excludesFirst false ((c.routeCommands deps e).drop (k - setupSteps)) = true
  | .stop | .tunPacket _ => True

instance (deps : Deps) (c : Client) : (x : Input) → Decidable (Excludes deps c x)
  | .handle e => inferInstanceAs
      (Decidable (c.config.platform = .linux → excludesFirst c.hostRouted (c.routeCommands deps e) = true))
  | .signalled e k => inferInstanceAs
      (Decidable ((c.config.platform = .linux → excludesFirst c.hostRouted (c.routeCommands deps e) = true) ∧
        excludesFirst false ((c.routeCommands deps e).drop (k - setupSteps)) = true))
  | .stop | .tunPacket _ => inferInstanceAs (Decidable True)

/-- **On macOS every handler keeps the order.** -/
theorem excludesFirst_macos (hmac : c.config.platform = .macos) :
    excludesFirst c.hostRouted (c.routeCommands deps e) = true := by
  rcases routeCommands_cases deps c e with hnone | ⟨_, _, env, _, _, -, -, -, -, -, -, hcmds⟩
  · rw [hnone]
    cases c.hostRouted <;> rfl
  · rw [hcmds, commands_eq, hmac]
    cases hrouted : c.hostRouted with
    | true => rfl
    | false =>
        -- the first command succeeds, or it is the only one
        have hfree : (c.host.routes (.host c.serverIp)).isNone = true := by
          unfold Client.hostRouted at hrouted
          simpa using hrouted
        rw [hfree]
        cases env.hostRoute <;> rfl

theorem excludesFirst_of_linux
    (h : c.config.platform = .linux → excludesFirst c.hostRouted (c.routeCommands deps e) = true) :
    excludesFirst c.hostRouted (c.routeCommands deps e) = true := by
  cases hplatform : c.config.platform with
  | linux => exact h hplatform
  | macos => exact excludesFirst_macos hplatform

namespace Site

/-- The tables of a client without a loop; the route to the server is its own. -/
structure Guarded (u : Site) (r : Prefix → Option Route) : Prop where
  own  : r (.host u.serverIp) ≠ none → r (.host u.serverIp) = some (.via u.gateway)
  loop : NoLoop u.serverIp u.gateway r

/-- The three prefixes are free. -/
structure Free (u : Site) : Prop where
  low  : u.table .lowHalf = none
  high : u.table .highHalf = none
  host : u.table (.host u.serverIp) = none

variable {u : Site} {r : Prefix → Option Route} {d : Client} {env : Env}

theorem guarded_of_none (hlow : r .lowHalf = none) (hhigh : r .highHalf = none)
    (hhost : r (.host u.serverIp) = none) : u.Guarded r := by
  refine ⟨fun h => absurd hhost h, ?_⟩
  rintro (h | h)
  · exact absurd hlow h
  · exact absurd hhigh h

theorem lasting_guarded (hfree : u.Free) : u.Lasting u.Guarded where
  low := by
    rintro r ⟨hown, hloop⟩
    refine ⟨by rwa [Function.update_of_ne (by simp)], ?_⟩
    intro h
    rw [Function.update_of_ne (by simp)]
    apply hloop
    -- the deleted half is not the one that is left
    rcases h with h | h
    · exact absurd (Function.update_self _ _ _) h
    · exact Or.inr (by rwa [Function.update_of_ne (by simp)] at h)
  high := by
    rintro r ⟨hown, hloop⟩
    refine ⟨by rwa [Function.update_of_ne (by simp)], ?_⟩
    intro h
    rw [Function.update_of_ne (by simp)]
    apply hloop
    rcases h with h | h
    · exact Or.inl (by rwa [Function.update_of_ne (by simp)] at h)
    · exact absurd (Function.update_self _ _ _) h
  clear := by
    intro r hkept hclear
    have hnone : ∀ p, u.table p = none → r p = none := by
      intro p hp
      by_cases hc : u.Claims p
      · exact hclear p hc
      · exact (hkept p hc).trans hp
    exact guarded_of_none (hnone _ hfree.low) (hnone _ hfree.high) (hnone _ hfree.host)

/-! ## The setup -/

/-- The state of a client that still runs the commands `xs`. -/
structure Adding (u : Site) (xs : List RouteCmd) (d : Client) : Prop where
  settings : d.settings = (u.config, u.serverIp, u.gateway)
  guarded  : u.Guarded d.host.routes
  order    : excludesFirst d.hostRouted xs = true

theorem hostRouted_eq (hd : d.settings = (u.config, u.serverIp, u.gateway)) :
    d.hostRouted = (d.host.routes (.host u.serverIp)).isSome := by
  unfold Client.hostRouted
  rw [show d.serverIp = u.serverIp from congrArg (fun x => x.2.1) hd]

/-- A catch-all route is added to a table that has the route to the server. -/
theorem guarded_half {p : Prefix} (hp : p = .lowHalf ∨ p = .highHalf) (h : u.Guarded r)
    (hrouted : (r (.host u.serverIp)).isSome = true) (v : Route) : u.Guarded (Function.update r p (some v)) := by
  have hne : (.host u.serverIp : Prefix) ≠ p := by
    rcases hp with rfl | rfl <;> simp
  have hown := h.own (Option.isSome_iff_ne_none.mp hrouted)
  refine ⟨fun _ => ?_, fun _ => ?_⟩
  · rw [Function.update_of_ne hne, hown]
  · rw [Function.update_of_ne hne, hown]

/-- **One command.** It keeps the client without a loop, and the later ones in order. -/
theorem Adding.exec {x : RouteCmd} {xs : List RouteCmd} (h : u.Adding (x :: xs) d) : u.Adding xs (x.exec d) := by
  have horder := h.order
  have hsettings : (x.exec d).settings = (u.config, u.serverIp, u.gateway) := by
    rw [RouteCmd.exec_eq]
    exact h.settings
  rw [hostRouted_eq h.settings] at horder
  refine ⟨hsettings, ?_, ?_⟩
  · rw [RouteCmd.exec_routes]
    split
    · rename_i hadds
      simp only [Bool.and_eq_true] at hadds
      cases x with
      | hostRoute ok =>
          -- the route to the server itself
          have hip : d.serverIp = u.serverIp := congrArg (fun x => x.2.1) h.settings
          have hgateway : d.originalGateway = u.gateway := congrArg (fun x => x.2.2) h.settings
          have hhost : Function.update d.host.routes (.host d.serverIp) (some (.via d.originalGateway))
              (.host u.serverIp) = some (.via u.gateway) := by
            rw [hip, hgateway, Function.update_self]
          exact ⟨fun _ => hhost, fun _ => hhost⟩
      | lowHalf ok | highHalf ok =>
          refine guarded_half (by simp [RouteCmd.target]) h.guarded ?_ _
          cases hrouted : (d.host.routes (.host u.serverIp)).isSome with
          | true => rfl
          | false =>
              rw [hrouted, show ok = true from hadds.1] at horder
              exact absurd horder (by simp [excludesFirst])
    · exact h.guarded
  · rw [RouteCmd.hostRouted_exec, hostRouted_eq h.settings]
    exact excludesFirst_cons horder

/-- On an empty table the commands begin with the one that adds the route to the server, or are the same. -/
theorem excludesFirst_cleared (hsettings : d.settings = c.settings)
    (hhost : d.host.routes (.host d.serverIp) = none) (h : excludesFirst false (c.commands env) = true) :
    excludesFirst false (d.commands env) = true := by
  rw [commands_eq] at h ⊢
  rw [hhost, show d.config = c.config from congrArg Prod.fst hsettings]
  cases hok : env.hostRoute with
  | true => rfl
  | false => rwa [hok] at h

theorem Cleared.hostRouted (hrouting : u.Routing) (h : u.Cleared d) : d.hostRouted = false := by
  rw [hostRouted_eq h.settings, h.clear (.host u.serverIp) ⟨hrouting.auto, hrouting.address, rfl⟩]
  rfl

/-- The plan of a client whose commands keep the order. -/
theorem plan_ordered (hfree : u.Free) (hrouting : u.Routing) {j : Nat} (hc : u.Ready u.Guarded r c)
    (hfirst : excludesFirst c.hostRouted (c.commands env) = true)
    (hlater : excludesFirst false ((c.commands env).drop j) = true) :
    u.Plan u.Guarded env r j
      (fun xs d => u.Adding xs d ∧ u.Tidy u.Guarded d ∧ d.running = true)
      (fun xs d => u.Adding xs d ∧ d.running = false) where
  tidy := fun _ _ hd => hd.2.1
  holds := fun _ _ hd => hd.1.guarded
  exec := by
    rintro x xs d ⟨hd, htidy, hr⟩
    have hrunning : (x.exec d).running = d.running := by
      rw [RouteCmd.exec_eq]
    exact ⟨hd.exec, exec_tidy hrouting x htidy hr hd.exec.guarded, hrunning.trans hr⟩
  execLate := by
    rintro x xs d ⟨hd, hr⟩
    have hrunning : (x.exec d).running = d.running := by
      rw [RouteCmd.exec_eq]
    exact ⟨hd.exec, hrunning.trans hr⟩
  start := by
    intro d hd
    have hsettings := hd.settings.trans hc.settings.symm
    have htable := hd.table.trans hc.table.symm
    refine ⟨⟨hd.settings, hd.tidy.orderly.holds, ?_⟩, hd.tidy, hd.running⟩
    rw [commands_congr hsettings htable, hostRouted_eq hd.settings, htable, ← hostRouted_eq hc.settings]
    exact hfirst
  whole := by
    rintro rfl d hd
    -- `stop` came before the commands: they find a table without the route to the server
    have hhost := hd.clear (.host d.serverIp) ⟨hrouting.auto, hd.address ▸ hrouting.address, hd.address⟩
    refine ⟨⟨hd.settings, hd.holds (lasting_guarded hfree), ?_⟩, hd.stopped⟩
    rw [hd.hostRouted hrouting]
    exact excludesFirst_cleared (hd.settings.trans hc.settings.symm) hhost hlater
  rest := by
    intro d d' hd hd'
    refine ⟨⟨hd'.settings, hd'.holds (lasting_guarded hfree), ?_⟩, hd'.stopped⟩
    rw [commands_congr (hd.settings.trans hc.settings.symm) (hd.table.trans hc.table.symm), hd'.hostRouted hrouting]
    exact hlater

/-! ## Runs -/

/-- The client after a `stop` within a handler. -/
structure Halted (u : Site) (d : Client) : Prop where
  settings : d.settings = (u.config, u.serverIp, u.gateway)
  stopped  : d.running = false
  guarded  : u.Guarded d.host.routes

theorem halted_of_routing (hd : d.routing = c.routing) (h : u.Halted c) : u.Halted d := by
  simp only [Client.routing, Prod.mk.injEq] at hd
  obtain ⟨hsettings, hrunning, hroutes⟩ := hd
  exact ⟨hsettings.trans h.settings, hrunning.trans h.stopped, hroutes ▸ h.guarded⟩

theorem outcome_halted (hfree : u.Free) : u.Outcome u.Guarded u.Halted where
  cleared := fun _ h => ⟨h.settings, h.stopped, h.holds (lasting_guarded hfree)⟩
  holds := fun _ h => h.guarded
  routing := fun _ _ => halted_of_routing

/-- A handler whose commands keep the order, with a `stop` after `k` steps. -/
theorem handler_guarded (hfree : u.Free) (h : u.Tidy u.Guarded c) (hr : c.running = true) (k : Nat)
    (hfirst : excludesFirst c.hostRouted (c.routeCommands deps e) = true)
    (hlater : excludesFirst false ((c.routeCommands deps e).drop (k - setupSteps)) = true) :
    (handler deps e).Safe (fun d => u.Guarded d.host.routes) (u.Tidy u.Guarded) c ∧
      (handler deps e).SafeAt (fun d => u.Guarded d.host.routes) u.Halted stop k c := by
  refine handler_safe (lasting_guarded hfree) (outcome_halted hfree) h hr k fun env hcmds hrouting => ?_
  rw [hcmds] at hfirst hlater
  refine ⟨_, _, plan_ordered hfree hrouting ⟨h, hr, rfl⟩ hfirst hlater, ?_⟩
  rintro d ⟨hd, hstopped⟩
  exact ⟨hd.settings, hstopped, hd.guarded⟩

/-- The client between two steps. -/
def Steady (u : Site) (c : Client) : Prop :=
  u.Tidy u.Guarded c ∧ c.Served ∨ u.Halted c ∧ c.iocStopped = true

/-- **A step** whose commands keep the order. -/
theorem steady_step (hfree : u.Free) {x : Input} (hx : Excludes deps c x) (h : u.Steady c)
    (hstep : step deps c x = some d) :
    (∀ m ∈ c.passed deps x, u.Guarded m.host.routes) ∧ u.Steady d := by
  have hhandler : c.iocStopped = false → u.Tidy u.Guarded c ∧ c.Served ∧ c.running = true := by
    intro hs
    rcases h with ⟨htidy, hserved⟩ | ⟨-, hs'⟩
    · exact ⟨htidy, hserved, hserved.resolve_right fun hs' => absurd (hs.symm.trans hs') (by simp)⟩
    · exact absurd (hs.symm.trans hs') (by simp)
  cases x with
  | handle e =>
      obtain ⟨⟨hs, -⟩, ⟨⟩⟩ := Option.ite_none_right_eq_some.mp hstep
      obtain ⟨htidy, hserved, hr⟩ := hhandler hs
      have hlater : excludesFirst false ((c.routeCommands deps e).drop
          ((c.routeCommands deps e).length + setupSteps - setupSteps)) = true := by
        rw [Nat.add_sub_cancel, List.drop_length]
        rfl
      have hsafe := safe_iff.mp (handler_guarded hfree htidy hr _ (excludesFirst_of_linux hx) hlater).1
      exact ⟨hsafe.1, Or.inl ⟨hsafe.2, (stopSafe_handler deps e).before c hserved⟩⟩
  | signalled e k =>
      obtain ⟨⟨hs, -⟩, ⟨⟩⟩ := Option.ite_none_right_eq_some.mp hstep
      obtain ⟨htidy, hserved, hr⟩ := hhandler hs
      have hsafe := safeAt_iff.mp (handler_guarded hfree htidy hr k (excludesFirst_of_linux hx.1) hx.2).2
      exact ⟨hsafe.1, Or.inr ⟨hsafe.2, signalled_stopped deps e k hserved⟩⟩
  | stop =>
      cases hstep
      rcases h with ⟨htidy, hserved⟩ | ⟨hhalted, hs⟩
      · have hsafe := safe_iff.mp (stop_safe (lasting_guarded hfree) htidy)
        exact ⟨hsafe.1, Or.inl ⟨hsafe.2.tidy (lasting_guarded hfree), Or.inr (stop_run_stopped hserved)⟩⟩
      · have hsafe := safe_iff.mp (stop_safe_of_stopped (Q := u.Steady) hhalted.stopped hhalted.guarded
          (Or.inr ⟨hhalted, hs⟩))
        exact hsafe
  | tunPacket data =>
      obtain ⟨⟨-, hr, -⟩, ⟨⟩⟩ := Option.ite_none_right_eq_some.mp hstep
      rcases h with ⟨htidy, hserved⟩ | ⟨hhalted, -⟩
      · have hnext := tidy_of_routing (routing_onTunPacket c data) htidy
        refine ⟨?_, Or.inl ⟨hnext, served_step hserved hstep⟩⟩
        intro m hm
        rw [List.mem_singleton.mp hm]
        exact hnext.orderly.holds
      · -- the readers stop with the client
        exact absurd (hr.symm.trans hhalted.stopped) (by simp)

/-- **No routing loop** at any point of a run whose commands keep the order. -/
theorem no_routing_loop {config : ClientConfig} {serverIp gateway : Bytes} {host : Host} {xs : List Input}
    (hlow : host.routes .lowHalf = none) (hhigh : host.routes .highHalf = none)
    (hhost : host.routes (.host serverIp) = none)
    (hxs : Along (step deps) (Excludes deps) (Client.start config serverIp gateway host) xs) :
    Along (step deps)
      (fun c x => (step deps c x).isSome = true → ∀ m ∈ c.passed deps x, NoLoop serverIp gateway m.host.routes)
      (Client.start config serverIp gateway host) xs := by
  have hfree : (Site.mk config serverIp gateway host.routes).Free := ⟨hlow, hhigh, hhost⟩
  have hstart : (Site.mk config serverIp gateway host.routes).Steady
      (Client.start config serverIp gateway host) := by
    refine Or.inl ⟨⟨⟨rfl, fun _ _ => rfl, guarded_of_none hlow hhigh hhost⟩, ?_⟩, Or.inl rfl⟩
    exact fun hr => absurd hr (by simp [Client.start])
  intro pre x post c hpre hrun hstep m hm
  have hsteady : (Site.mk config serverIp gateway host.routes).Steady c := by
    have hbefore : Along (step deps) (Excludes deps) (Client.start config serverIp gateway host) pre := by
      rw [hpre] at hxs
      exact hxs.of_append
    refine run_invariant ?_ hbefore hstart hrun
    exact fun s y s' hy hs hs' => (steady_step hfree hy hs hs').2
  obtain ⟨d, hd⟩ := Option.isSome_iff_exists.mp hstep
  exact ((steady_step hfree (hxs pre x post c hpre hrun) hsteady hd).1 m hm).loop

/-- Two logins; at the second one the route to the server is added at the second attempt. -/
def sampleLogins : List Input :=
  loginEvents 0 ++ [.handle (.writeDone 0 false), .handle (.timer 0)] ++ (loginEvents 1).dropLast ++
    [.handle (.read 1 sampleAuthResponse { sampleEnv with hostRoute := false }), .stop]

theorem no_routing_loop_logins :
    (run (step responseDeps) sampleClient sampleLogins).isSome = true ∧
      Along (step responseDeps)
        (fun c x => (step responseDeps c x).isSome = true → ∀ m ∈ c.passed responseDeps x,
          NoLoop (ascii "203.0.113.1") (ascii "192.168.1.1") m.host.routes)
        sampleClient sampleLogins :=
  ⟨by decide +kernel, no_routing_loop rfl rfl rfl (by decide +kernel)⟩

/-- **A loop** on Linux: both attempts to add the route to the server fail. -/
theorem routing_loops :
    ¬ Along (step responseDeps)
      (fun c x => (step responseDeps c x).isSome = true → ∀ m ∈ c.passed responseDeps x,
        NoLoop (ascii "203.0.113.1") (ascii "192.168.1.1") m.host.routes)
      sampleClient ((loginEvents 0).dropLast ++
        [.handle (.read 0 sampleAuthResponse { sampleEnv with hostRoute := false, hostRouteMetric := false })]) := by
  intro halong
  have hloop : (run (step responseDeps) sampleClient (loginEvents 0).dropLast).any (fun c =>
      let x := Input.handle (.read 0 sampleAuthResponse { sampleEnv with hostRoute := false, hostRouteMetric := false })
      (step responseDeps c x).isSome && (c.passed responseDeps x).any fun m =>
        (m.host.routes .highHalf).isSome && (m.host.routes (.host (ascii "203.0.113.1"))).isNone) = true := by
    decide +kernel
  obtain ⟨c, hc, hbody⟩ := Option.any_eq_true _ _ |>.mp hloop
  simp only [Bool.and_eq_true, List.any_eq_true] at hbody
  obtain ⟨hstep, m, hm, hhigh, hhost⟩ := hbody
  have hroute := halong _ _ [] c rfl hc hstep m hm (Or.inr (Option.isSome_iff_ne_none.mp hhigh))
  rw [hroute] at hhost
  exact absurd hhost (by simp)

end Site
end Client
end Kirdi
