import Kirdi.Client.Loop

/-!
# `Client.Reconnect` — when the client reconnects

A client is `Alive` when it is stopped, or something is under way that will take it further: the attempt of
the current transport, a read of the connected one, or the reconnect timer, of which there is one at most.

`connected_` is set when the handshake is complete, and `on_error` takes an error of a client that is not
connected for one that is being dealt with. So an attempt that fails arms no timer: the client stays alive
for exactly as long as no attempt fails (`alive_iff_unfailing`).
-/

set_option linter.dupNamespace false

namespace Kirdi
namespace Client

open Protocol Crypto Proc EventMachine Loop

/-- A connection attempt is in progress on the current transport. -/
def Client.Attempting (c : Client) : Prop :=
  ∃ t, c.transports[c.ws]? = some t ∧ t.stage.settled = false

/-- The current transport is connected, with a read pending. -/
def Client.Listening (c : Client) : Prop :=
  ∃ t, c.transports[c.ws]? = some t ∧ t.connected = true ∧ t.reading = true

structure Client.Alive (c : Client) : Prop where
  pending : c.running = true → c.Attempting ∨ c.Listening ∨ c.timers ≠ []
  single  : c.timers.length ≤ 1

/-- The event ends the connection attempt of the client, or its connection. -/
def Client.Fails (c : Client) : Event → Prop
  | .resolved _ ok | .tcpConnected _ ok | .sslHandshaken _ ok | .wsHandshaken _ ok _ => ok = false
  | .noDelayThrows _ => True
  | .readError _ => c.connected = true
  | .writeDone _ ok => ok = false ∧ c.connected = true
  | .read _ _ _ | .timer _ => False

/-- The client is alive, and an attempt or a connection that the step ends is followed by exactly one
    further attempt. -/
structure Sustained (deps : Deps) (c : Client) (x : Input) : Prop where
  alive       : c.Alive
  rescheduled : ∀ e d, x = .handle e → c.Fails e → step deps c x = some d →
    c.timers = [] ∧ d.timers.length = 1

/-- A step of the client itself: not `stop`, from outside or from a signal handler. -/
def Input.own : Input → Bool
  | .handle _ | .tunPacket _ => true
  | .signalled _ _ | .stop => false

/-- No attempt fails: every phase of it succeeds, and the `AuthRequest` can be built. -/
def Input.Unfailing (deps : Deps) (config : ClientConfig) : Input → Prop
  | .handle (.resolved _ ok) | .handle (.tcpConnected _ ok) | .handle (.sslHandshaken _ ok) => ok = true
  | .handle (.noDelayThrows _) => False
  | .handle (.wsHandshaken _ ok now) => ok = true ∧ (authRequest deps config now).toOption.isSome = true
  | _ => True

variable {deps : Deps} {c d : Client} {l : Loop} {p : Phase} {x : Input}

/-! ## Phases of the client -/

/-- The phases of a client that is alive. -/
def Phase.healthy : Phase → Bool
  | .lost | .escaped => false
  | _ => true

/-- The report of an attempt that fails. -/
def Report.fails : Report → Bool
  | .attemptFails _ | .attemptThrows _ | .opens _ false => true
  | _ => false

theorem next_healthy {r : Report} (h : p.healthy = true) (hr : r.fails = false) :
    (p.next r).healthy = true := by
  cases r with
  | opens i built => cases built <;> cases p <;> simp_all [Phase.next, Phase.healthy, Report.fails]
  | message i stops => cases stops <;> cases p <;> simp_all [Phase.next, Phase.healthy]
  | attemptFails i | attemptThrows i => simp [Report.fails] at hr
  | advances i stage | readFails i | writeFails i | writes | expires =>
      cases p <;> simp_all [Phase.next, Phase.healthy]

/-- Nothing follows an attempt that fails. -/
theorem next_not_healthy {r : Report} (h : l.InPhase p) (hs : l.iocStopped = false)
    (ha : l.awaits r = true) (hr : r.fails = true) : (p.next r).healthy = false := by
  cases r with
  | attemptFails i | attemptThrows i =>
      obtain ⟨rfl, -⟩ := attempting_of_unsettled h hs ha
      rfl
  | opens i built =>
      obtain ⟨rfl, -⟩ := attempting_of_unsettled h hs ha
      cases built with
      | true => simp [Report.fails] at hr
      | false => rfl
  | message i stops | advances i stage | readFails i | writeFails i | writes | expires =>
      simp [Report.fails] at hr

theorem unfailing_iff {e : Event} {config : ClientConfig} {stops : Bool} :
    (Input.handle e).Unfailing deps config ↔ (e.report deps config stops).fails = false := by
  cases e with
  | resolved i ok | tcpConnected i ok | sslHandshaken i ok =>
      cases ok <;> simp [Input.Unfailing, Event.report, Report.fails]
  | wsHandshaken i ok now =>
      cases ok with
      | false => simp [Input.Unfailing, Event.report, Report.fails]
      | true =>
          cases hb : (authRequest deps config now).toOption.isSome <;>
            simp [Input.Unfailing, Event.report, Report.fails, hb]
  | writeDone i ok => cases ok <;> simp [Input.Unfailing, Event.report, Report.fails]
  | noDelayThrows i | read i message env | readError i | timer j =>
      simp [Input.Unfailing, Event.report, Report.fails]

/-- The current transport of the loop is that of the client. -/
theorem current_iff {t : Link} :
    c.loop.links[c.loop.ws]? = some t ↔ ∃ u, c.transports[c.ws]? = some u ∧ u.link = t := by
  show (c.transports.map Conn.link)[c.ws]? = some t ↔ _
  rw [List.getElem?_map, Option.map_eq_some_iff]

/-- **Alive is to be in a healthy phase.** -/
theorem alive_iff_healthy (h : c.loop.InPhase p) : c.Alive ↔ p.healthy = true := by
  have hempty : c.loop.timers = 0 → c.timers = [] := List.length_eq_zero_iff.mp
  have hat : ∀ {t : Link}, c.loop.links[c.loop.ws]? = some t → t.stage.settled = true →
      (t.connected = false ∨ t.reading = false) → c.loop.timers = 0 → c.running = true → ¬ c.Alive := by
    intro t ht hstage hquiet htimers hr halive
    obtain ⟨u, hu, rfl⟩ := current_iff.mp ht
    rcases halive.pending hr with ⟨v, hv, hvs⟩ | ⟨v, hv, hvc, hvr⟩ | hne
    · obtain rfl : u = v := Option.some.inj (hu.symm.trans hv)
      exact absurd (hstage.symm.trans hvs) (by simp)
    · obtain rfl : u = v := Option.some.inj (hu.symm.trans hv)
      rcases hquiet with hq | hq
      · exact absurd (hq.symm.trans hvc) (by simp)
      · exact absurd (hq.symm.trans hvr) (by simp)
    · exact hne (hempty htimers)
  -- in each phase the transport or the timer says what is still to come
  cases h with
  | attempting calm stage reading connected timers =>
      obtain ⟨u, hu, rfl⟩ := current_iff.mp calm.current
      exact iff_of_true ⟨fun _ => Or.inl ⟨u, hu, stage⟩, by rw [hempty timers]; simp⟩ rfl
  | up calm stage opened reading connected timers =>
      obtain ⟨u, hu, rfl⟩ := current_iff.mp calm.current
      exact iff_of_true ⟨fun _ => Or.inr (Or.inl ⟨u, hu, opened, reading⟩), by rw [hempty timers]; simp⟩ rfl
  | waiting calm stage connected timers =>
      refine iff_of_true ⟨fun _ => Or.inr (Or.inr ?_), timers.le⟩ rfl
      exact List.ne_nil_of_length_pos (Nat.lt_of_lt_of_eq Nat.one_pos timers.symm)
  | lost calm stage closed connected timers =>
      exact iff_of_false (hat calm.current stage (Or.inl closed) timers calm.running) (by simp [Phase.healthy])
  | escaped stopped running current stage reading timers =>
      exact iff_of_false (hat current stage (Or.inr reading) timers running) (by simp [Phase.healthy])
  | stopped stopped running timers =>
      refine iff_of_true ⟨fun hr => ?_, timers⟩ rfl
      exact absurd (hr.symm.trans running) (by simp)

/-! ## Runs -/

/-- **A step** of a client in a phase. -/
theorem inPhase_step (h : c.loop.InPhase p) (hown : x.own = true) (hstep : step deps c x = some d) :
    ∃ q, d.loop.InPhase q ∧
      (x.Unfailing deps c.config → p.healthy = true → q.healthy = true) ∧
      (¬ x.Unfailing deps c.config → q.healthy = false) := by
  cases x with
  | signalled e k | stop => simp [Input.own] at hown
  | tunPacket data =>
      obtain ⟨-, ⟨⟩⟩ := Option.ite_none_right_eq_some.mp hstep
      refine ⟨p, (loop_onTunPacket c data).symm ▸ h, fun _ hp => hp, fun hx => absurd trivial hx⟩
  | handle e =>
      obtain ⟨⟨hs, ha⟩, ⟨⟩⟩ := Option.ite_none_right_eq_some.mp hstep
      obtain ⟨stops, hloop⟩ := loop_handler deps e c ha
      have hla := loop_awaits deps c.config stops ha
      refine ⟨p.next (e.report deps c.config stops), ?_, ?_, ?_⟩
      · rw [hloop]
        exact inPhase_handle h hs hla
      · intro hx hp
        exact next_healthy hp (unfailing_iff.mp hx)
      · intro hx
        apply next_not_healthy h hs hla
        exact (Bool.not_eq_false _).mp fun hf => hx (unfailing_iff.mpr hf)

/-- An error of a connected client arms the timer. -/
theorem rescheduled_of_unfailing {e : Event} (h : c.loop.InPhase p) (hx : (Input.handle e).Unfailing deps c.config)
    (hf : c.Fails e) (hstep : step deps c (.handle e) = some d) : c.timers = [] ∧ d.timers.length = 1 := by
  obtain ⟨⟨hs, ha⟩, ⟨⟩⟩ := Option.ite_none_right_eq_some.mp hstep
  obtain ⟨stops, hloop⟩ := loop_handler deps e c ha
  have hla := loop_awaits deps c.config stops ha
  have hnext := inPhase_handle h hs hla
  rw [← hloop] at hnext
  -- an attempt that fails is excluded, so the client was connected
  have hdrop : c.connected = true ∧ (Phase.up.next (e.report deps c.config stops)) = .waiting := by
    cases e with
    | resolved i ok | tcpConnected i ok | sslHandshaken i ok => exact absurd (hx.symm.trans hf) (by simp)
    | wsHandshaken i ok now => exact absurd (hx.1.symm.trans hf) (by simp)
    | noDelayThrows i => exact hx.elim
    | read i message env => exact hf.elim
    | timer j => exact hf.elim
    | readError i => exact ⟨hf, rfl⟩
    | writeDone i ok =>
        obtain ⟨rfl, hc⟩ := hf
        exact ⟨hc, rfl⟩
  obtain ⟨hc, hnext'⟩ := hdrop
  have hno : c.loop.connected = false → False := fun hcf => absurd (hc.symm.trans hcf) (by simp)
  cases h with
  | attempting calm stage reading connected timers => exact (hno connected).elim
  | waiting calm stage connected timers => exact (hno connected).elim
  | lost calm stage closed connected timers => exact (hno connected).elim
  | escaped stopped | stopped stopped => exact absurd (hs.symm.trans stopped) (by simp)
  | up calm stage opened reading connected timers =>
      refine ⟨List.length_eq_zero_iff.mp timers, ?_⟩
      rw [hnext'] at hnext
      cases hnext with
      | waiting _ _ _ htimers => exact htimers

theorem sustained_iff_unfailing {xs : List Input} (h : c.loop.InPhase p) (hp : p.healthy = true)
    (hown : ∀ x ∈ xs, x.own = true) (hrun : run (step deps) c xs = some d) :
    (Along (step deps) (Sustained deps) c xs ∧ d.Alive) ↔ ∀ x ∈ xs, x.Unfailing deps c.config := by
  induction xs generalizing c p with
  | nil =>
      obtain rfl : c = d := Option.some.inj hrun
      refine iff_of_true ⟨along_nil c, (alive_iff_healthy h).mpr hp⟩ ?_
      intro x hx
      exact absurd hx List.not_mem_nil
  | cons x xs ih =>
      obtain ⟨m, hm, hrest⟩ := run_cons.mp hrun
      obtain ⟨q, hq, hkeep, hbreak⟩ := inPhase_step h (hown x List.mem_cons_self) hm
      have hconfig : m.config = c.config := congrArg Prod.fst (settings_step hm)
      have htail := fun hqh => ih hq hqh (fun y hy => hown y (List.mem_cons_of_mem x hy)) hrest
      rw [List.forall_mem_cons]
      by_cases hx : x.Unfailing deps c.config
      · have hqh := hkeep hx hp
        have hsus : Sustained deps c x := by
          refine ⟨(alive_iff_healthy h).mpr hp, ?_⟩
          rintro e d' rfl hf hstep
          exact rescheduled_of_unfailing h hx hf hstep
        rw [hconfig] at htail
        constructor
        · rintro ⟨halong, hd⟩
          exact ⟨hx, (htail hqh).mp ⟨(along_cons.mp halong).2 m hm, hd⟩⟩
        · rintro ⟨-, hxs⟩
          obtain ⟨halong, hd⟩ := (htail hqh).mpr hxs
          refine ⟨along_cons.mpr ⟨hsus, ?_⟩, hd⟩
          intro m' hm'
          obtain rfl : m = m' := Option.some.inj (hm.symm.trans hm')
          exact halong
      · -- the state after the failed attempt is one of the run
        have hdead : ¬ m.Alive := by
          rw [alive_iff_healthy hq, hbreak hx]
          simp
        refine iff_of_false ?_ (fun hall => hx hall.1)
        rintro ⟨halong, hd⟩
        have hmalong := (along_cons.mp halong).2 m hm
        cases xs with
        | nil =>
            cases hrest
            exact hdead hd
        | cons y ys => exact hdead (along_cons.mp hmalong).1.alive

/-- **The client stays alive for exactly as long as no attempt fails.** -/
theorem alive_iff_unfailing {config : ClientConfig} {serverIp originalGateway : Bytes} {host : Host}
    {xs : List Input} (hown : ∀ x ∈ xs, x.own = true)
    (hrun : run (step deps) (Client.start config serverIp originalGateway host) xs = some c) :
    (Along (step deps) (Sustained deps) (Client.start config serverIp originalGateway host) xs ∧ c.Alive) ↔
      ∀ x ∈ xs, x.Unfailing deps config :=
  sustained_iff_unfailing (inPhase_start config serverIp originalGateway host) rfl hown hrun

/-- A connection is made, its write fails, and the timer expires. -/
def sampleReconnect : List Input :=
  [.handle (.resolved 0 true), .handle (.tcpConnected 0 true), .handle (.sslHandshaken 0 true),
    .handle (.wsHandshaken 0 true 1000), .handle (.writeDone 0 false), .handle (.timer 0)]

theorem alive_after_reconnect :
    ∃ c, run (step (Deps.table [])) sampleClient sampleReconnect = some c ∧
      Along (step (Deps.table [])) (Sustained (Deps.table [])) sampleClient sampleReconnect ∧ c.Alive := by
  have hrun : (run (step (Deps.table [])) sampleClient sampleReconnect).isSome = true := by decide +kernel
  obtain ⟨c, hc⟩ := Option.isSome_iff_exists.mp hrun
  refine ⟨c, hc, (alive_iff_unfailing (by decide) hc).mpr ?_⟩
  have hauth : (authRequest (Deps.table []) sampleConfig 1000).toOption.isSome = true := by decide +kernel
  intro x hx
  simp only [sampleReconnect, List.mem_cons, List.not_mem_nil, or_false] at hx
  rcases hx with rfl | rfl | rfl | rfl | rfl | rfl
  · rfl
  · rfl
  · rfl
  · exact ⟨rfl, hauth⟩
  · exact trivial
  · exact trivial

/-- **A client that is lost.** The name of the server does not resolve once, and nothing follows. -/
theorem lost_after_failed_attempt :
    ∃ c, run (step (Deps.table [])) sampleClient [.handle (.resolved 0 false)] = some c ∧
      c.running = true ∧ c.iocStopped = false ∧ ¬ c.Alive := by
  have hstep : (run (step (Deps.table [])) sampleClient [.handle (.resolved 0 false)]).any (fun c =>
      c.running && !c.iocStopped && c.timers.isEmpty &&
        (c.transports[c.ws]?.any fun t => t.stage.settled && !t.connected)) = true := by decide +kernel
  obtain ⟨c, hc, hbody⟩ := Option.any_eq_true _ _ |>.mp hstep
  simp only [Bool.and_eq_true, Bool.not_eq_true', List.isEmpty_iff] at hbody
  obtain ⟨⟨⟨hr, hs⟩, htimers⟩, hcur⟩ := hbody
  obtain ⟨t, ht, htb⟩ := Option.any_eq_true _ _ |>.mp hcur
  simp only [Bool.and_eq_true, Bool.not_eq_true'] at htb
  refine ⟨c, hc, hr, hs, ?_⟩
  intro halive
  rcases halive.pending hr with ⟨u, hu, hus⟩ | ⟨u, hu, huc, -⟩ | hne
  · obtain rfl : t = u := Option.some.inj (ht.symm.trans hu)
    exact absurd (htb.1.symm.trans hus) (by simp)
  · obtain rfl : t = u := Option.some.inj (ht.symm.trans hu)
    exact absurd (htb.2.symm.trans huc) (by simp)
  · exact hne htimers

end Client
end Kirdi
