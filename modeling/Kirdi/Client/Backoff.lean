import Kirdi.Client.Reconnect
import Kirdi.Client.Superseded

/-!
# `Client.Backoff` — the delays of `schedule_reconnect`

`reconnect_attempt_` counts the calls of `schedule_reconnect` since `on_connected` last reset it, and the delay
doubles with every call up to the sixth; the shift is clamped at 5, so `MAX_RECONNECT_DELAY_SEC` is never reached
(`reconnectDelay_scheduled_iff`).

None of this shows in a run of the client. `schedule_reconnect` is called by `on_error` alone, which returns early
unless the client is connected, and an attempt that fails finds it not connected. So the first delay of the
schedule is armed when a connection is lost, and after an attempt that fails no further one: the schedule is kept
for exactly as long as no attempt fails (`onSchedule_iff`).
-/

set_option linter.dupNamespace false

namespace Kirdi
namespace Client

open Protocol Proc EventMachine Loop

/-- The delay of call number `k`, in seconds. -/
def scheduledDelay (k : ℕ) : ℕ := min (2 ^ (k - 1)) maxReconnectDelaySec.toNat

/-- A client, and the delays that it has armed since `on_connected` or the start. -/
structure Paced where
  client : Client
  delays : List UInt32

/-- The handler calls `on_connected`. -/
def Event.connects : Event → Bool
  | .wsHandshaken _ ok _ => ok
  | _ => false

def Input.connects : Input → Bool
  | .handle e | .signalled e _ => e.connects
  | .stop | .tunPacket _ => false

/-- A step, with the delays of the timers that it adds to the armed ones. -/
def pace (deps : Deps) (s : Paced) (x : Input) : Option Paced :=
  (step deps s.client x).map fun c =>
    ⟨c, if x.connects then [] else s.delays ++ c.timers.drop s.client.timers.length⟩

/-- The delays so far are those of the schedule, and when the step ends an attempt or the connection, the next one
    is armed; there is no shift by 32 or more, and the counter does not wrap. -/
structure OnSchedule (deps : Deps) (s : Paced) (x : Input) : Prop where
  delays  : s.delays.map UInt32.toNat = (List.range s.delays.length).map fun n => scheduledDelay (n + 1)
  next    : ∀ e s', x = .handle e → s.client.Fails e → pace deps s x = some s' →
    ∃ delay, s'.delays = s.delays ++ [delay] ∧ delay.toNat = scheduledDelay (s.delays.length + 1)
  shift   : (min (s.client.reconnectAttempt + 1 - 1) 5).toNat < 32
  no_wrap : (s.client.reconnectAttempt + 1).toNat = s.delays.length + 1

/-- A phase of the connection attempt fails. -/
def Event.attemptFails : Event → Bool
  | .resolved _ ok | .tcpConnected _ ok | .sslHandshaken _ ok | .wsHandshaken _ ok _ => !ok
  | .noDelayThrows _ => true
  | .read _ _ _ | .readError _ | .writeDone _ _ | .timer _ => false

/-- No attempt fails in the step. -/
def Input.Lasts : Input → Prop
  | .handle e => e.attemptFails = false
  | .signalled _ _ | .stop | .tunPacket _ => True

variable {deps : Deps} {c d : Client} {s s' : Paced} {e : Event} {x : Input} {env : Env}

/-! ## The delay -/

theorem toNat_min_five (n : UInt32) : (min n 5).toNat = min n.toNat 5 := by
  show (if n ≤ 5 then n else 5).toNat = _
  rw [min_def]
  by_cases h : n ≤ 5
  · have hle : n.toNat ≤ 5 := UInt32.le_iff_toNat_le.mp h
    rw [if_pos h, if_pos hle]
  · have hlt : ¬ n.toNat ≤ 5 := fun hle => h (UInt32.le_iff_toNat_le.mpr hle)
    rw [if_neg h, if_neg hlt]
    rfl

/-- **The delay is a power of two of at most 32 seconds.** -/
theorem toNat_reconnectDelay (attempt : UInt32) :
    (reconnectDelay attempt).toNat = 2 ^ min (attempt - 1).toNat 5 := by
  have hpow : ∀ n ≤ 5, (min ((1 : UInt32) <<< UInt32.ofNat n) maxReconnectDelaySec).toNat = 2 ^ n := by
    decide
  unfold reconnectDelay
  rw [← hpow _ (Nat.min_le_right _ _), ← toNat_min_five, UInt32.ofNat_toNat]

/-- **The function by itself keeps to the schedule for six calls.** -/
theorem reconnectDelay_scheduled_iff {attempt : UInt32} (h : 1 ≤ attempt) :
    (reconnectDelay attempt).toNat = scheduledDelay attempt.toNat ↔ attempt.toNat ≤ 6 := by
  have hcap : maxReconnectDelaySec.toNat = 60 := rfl
  have hone : 1 ≤ attempt.toNat := UInt32.le_iff_toNat_le.mp h
  have hpred : (attempt - 1).toNat = attempt.toNat - 1 := UInt32.toNat_sub_of_le _ _ h
  unfold scheduledDelay
  rw [toNat_reconnectDelay, hpred, hcap]
  constructor
  · intro hdelay
    -- from the seventh call on the schedule asks for 60 seconds, which is no power of two
    by_contra hlate
    have hlarge : 2 ^ 6 ≤ 2 ^ (attempt.toNat - 1) := Nat.pow_le_pow_right (by decide) (by omega)
    have hsmall : 2 ^ min (attempt.toNat - 1) 5 ≤ 2 ^ 5 := Nat.pow_le_pow_right (by decide) (Nat.min_le_right _ _)
    omega
  · intro hearly
    have hpow : 2 ^ (attempt.toNat - 1) ≤ 2 ^ 5 := Nat.pow_le_pow_right (by decide) (by omega)
    rw [Nat.min_eq_left (by omega), Nat.min_eq_left (by omega)]

/-! ## What a handler does to the counter -/

/-- What `schedule_reconnect` depends on and changes. -/
structure Pacing where
  connected : Bool
  attempts  : UInt32
  timers    : List UInt32

def Client.pacing (c : Client) : Pacing := ⟨c.connected, c.reconnectAttempt, c.timers⟩

/-- A call of `schedule_reconnect`. -/
def Pacing.scheduled (p : Pacing) : Pacing :=
  { p with attempts := p.attempts + 1, timers := p.timers ++ [reconnectDelay (p.attempts + 1)] }

/-- Nothing happens; or a connected client is connected no more, and may have called `schedule_reconnect`. -/
def Drops (p q : Pacing) : Prop :=
  q = p ∨ p.connected = true ∧ (q = { p with connected := false } ∨ q = { p with connected := false }.scheduled)

theorem keeps_pacing_stop : Keeps Client.pacing stop :=
  keeps_stop (fun _ _ => rfl) (fun _ => rfl) (fun _ => rfl) (fun _ => rfl) fun _ => rfl

theorem pacing_stop (c : Client) : (stop.run c).pacing = c.pacing := keeps_pacing_stop.run_eq c

/-- An effect on the counter, wherever a `stop` falls. -/
def Paces (R : Pacing → Pacing → Prop) (p : Proc Client) : Prop := Effects stop.run Client.pacing R p

theorem paces_keeps {p : Proc Client} (h : Keeps Client.pacing p) : Paces Drops p :=
  (effects_of_keeps pacing_stop h).imp fun _ _ heq => Or.inl heq.symm

theorem paces_scheduleReconnect : Paces (fun p q => q = p.scheduled) scheduleReconnect := by
  refine effects_act pacing_stop fun c => (effects_atom pacing_stop (R := fun p q => q =
    { p with timers := p.timers ++ [reconnectDelay p.attempts] }) fun _ => rfl).imp ?_
  rintro p q rfl rfl
  rfl

/-- **`on_error`** of a client that is connected may schedule a reconnect, of any other it does nothing. -/
theorem paces_onError : Paces Drops onError := by
  refine effects_act pacing_stop fun c => ?_
  cases hc : c.connected with
  | false =>
      refine (effects_done pacing_stop).imp ?_
      rintro p q rfl rfl
      refine Or.inl ?_
      show Pacing.mk false c.reconnectAttempt c.timers = c.pacing
      rw [← hc]
      rfl
  | true =>
      have hrest : Paces (fun p q => q = p ∨ q = p.scheduled)
          (teardownDns.andThen <| teardownRoutes.andThen <| (atom Client.closeTun).andThen <|
            (atom fun c => { c with tun := none }).andThen <| branch (fun c => c.running) scheduleReconnect done) := by
        refine effects_keeps_andThen pacing_stop (keeps_teardownDns fun _ _ => rfl) ?_
        refine effects_keeps_andThen pacing_stop (keeps_teardownRoutes fun _ _ => rfl) ?_
        refine effects_keeps_andThen pacing_stop (keeps_atom fun _ => rfl) ?_
        refine effects_keeps_andThen pacing_stop (keeps_atom fun _ => rfl) ?_
        refine effects_branch pacing_stop (paces_scheduleReconnect.imp fun _ _ => Or.inr) ?_
        exact (effects_done pacing_stop).imp fun _ _ heq => Or.inl heq.symm
      refine hrest.imp ?_
      rintro p q hq rfl
      exact Or.inr ⟨hc, hq⟩

theorem paces_fail (i : Nat) : Paces Drops (fail i) := by
  refine effects_branch pacing_stop (paces_keeps keeps_done) ?_
  exact effects_keeps_andThen pacing_stop (keeps_atom fun _ => rfl) paces_onError

theorem keeps_pacing_onRead (i : Nat) (message : Bytes) : Keeps Client.pacing (onRead deps i message env) := by
  refine keeps_andThen (keeps_atom fun _ => rfl) (keeps_andThen ?_ (keeps_atom fun _ => rfl))
  cases hcb : dispatchPacket message (some (onPacket deps env)) with
  | none => exact keeps_done
  | some p =>
      obtain ⟨hdr, payload, rfl⟩ := dispatchPacket_callback hcb
      show Keeps Client.pacing (onPacket deps env hdr payload)
      by_cases hty : MsgType.ofByte hdr.type = some .authResponse
      · rw [onPacket_authResponse hty]
        exact keeps_onAuthResponse (fun _ _ => rfl) keeps_pacing_stop (fun _ _ => rfl) (fun _ _ => rfl)
          (fun _ _ => rfl) (fun _ _ => rfl) payload
      · exact keeps_onPacket hty (fun _ _ => rfl) fun _ _ => rfl

theorem paces_onPhase (i : Nat) (ok : Bool) (next : Stage) : Paces Drops (onPhase i ok next) := by
  unfold onPhase
  cases ok with
  | true => exact paces_keeps (keeps_atom fun _ => rfl)
  | false => exact effects_keeps_andThen pacing_stop (keeps_atom fun _ => rfl) (paces_fail i)

/-- **`on_connected` resets the counter.** -/
theorem paces_connected (i : Nat) (now : Int64) :
    Paces (fun p q => q = ⟨true, 0, p.timers⟩) (handler deps (.wsHandshaken i true now)) := by
  have hreset : Paces (fun p q => q = { p with attempts := 0 }) (atom fun c => { c with reconnectAttempt := 0 }) :=
    effects_atom pacing_stop fun _ => rfl
  have hset : Paces (fun p q => q = { p with connected := true }) (atom fun c => { c with connected := true }) :=
    effects_atom pacing_stop fun _ => rfl
  refine effects_keeps_andThen pacing_stop (keeps_atom fun _ => rfl) ?_
  refine (effects_andThen hset (effects_andThen hreset (effects_of_keeps pacing_stop ?_))).imp ?_
  · -- sending the login does not touch the counter
    refine keeps_act (fun _ => rfl) fun c => ?_
    split
    · exact keeps_atom fun _ => rfl
    · exact keeps_andThen (keeps_atom fun _ => rfl) (keeps_atom fun _ => rfl)
  · rintro p q ⟨_, rfl, _, rfl, rfl⟩
    rfl

/-- Every other event, unless a timer expires. -/
theorem paces_handler (he : e.connects = false) (htimer : ∀ j, e ≠ .timer j) : Paces Drops (handler deps e) := by
  cases e with
  | resolved i ok | tcpConnected i ok | sslHandshaken i ok => exact paces_onPhase i ok _
  | noDelayThrows i => exact paces_keeps (keeps_andThen (keeps_atom fun _ => rfl) (keeps_atom fun _ => rfl))
  | wsHandshaken i ok now =>
      cases ok with
      | true => exact absurd he (by simp [Event.connects])
      | false => exact effects_keeps_andThen pacing_stop (keeps_atom fun _ => rfl) (paces_fail i)
  | read i message env => exact paces_keeps (keeps_pacing_onRead i message)
  | readError i => exact effects_keeps_andThen pacing_stop (keeps_atom fun _ => rfl) (paces_fail i)
  | writeDone i ok =>
      cases ok with
      | true => exact paces_keeps (keeps_atom fun _ => rfl)
      | false => exact effects_keeps_andThen pacing_stop (keeps_atom fun _ => rfl) (paces_fail i)
  | timer j => exact absurd rfl (htimer j)

theorem paces_timer (j : Nat) :
    Paces (fun p q => q = { p with timers := p.timers.eraseIdx j }) (handler deps (.timer j)) := by
  have herase : Paces (fun p q => q = { p with timers := p.timers.eraseIdx j })
      (atom fun c => { c with timers := c.timers.eraseIdx j }) := effects_atom pacing_stop fun _ => rfl
  have hrest : Keeps Client.pacing (branch (fun c => c.running)
      (atom fun c => { c with transports := c.transports ++ [Conn.fresh], ws := c.transports.length }) done) :=
    keeps_branch (keeps_atom fun _ => rfl) keeps_done
  refine (effects_andThen herase (effects_of_keeps pacing_stop hrest)).imp ?_
  rintro p q ⟨_, rfl, rfl⟩
  rfl

/-! ## Steps -/

/-- The three things that a step can do to the schedule. -/
inductive ScheduleTurn (s s' : Paced) : Prop where
  | resets (attempts : s'.client.reconnectAttempt = 0) (delays : s'.delays = [])
  | rests (attempts : s'.client.reconnectAttempt = s.client.reconnectAttempt) (delays : s'.delays = s.delays)
      (connected : s'.client.connected = true → s.client.connected = true)
  | schedules (before : s.client.connected = true) (after : s'.client.connected = false)
      (attempts : s'.client.reconnectAttempt = s.client.reconnectAttempt + 1)
      (delays : s'.delays = s.delays ++ [reconnectDelay (s.client.reconnectAttempt + 1)])

theorem turn_of_drops (h : Drops s.client.pacing d.pacing) :
    ScheduleTurn s ⟨d, s.delays ++ d.timers.drop s.client.timers.length⟩ := by
  have hsame : ∀ {ts}, ts = s.client.timers → s.delays ++ ts.drop s.client.timers.length = s.delays := by
    rintro ts rfl
    rw [List.drop_length, List.append_nil]
  unfold Drops Pacing.scheduled Client.pacing at h
  simp only [Pacing.mk.injEq] at h
  rcases h with ⟨hconnected, hattempts, htimers⟩ | ⟨hbefore, ⟨hconnected, hattempts, htimers⟩ | h⟩
  · exact .rests hattempts (hsame htimers) fun hc => hconnected ▸ hc
  · refine .rests hattempts (hsame htimers) fun hc => ?_
    exact absurd (hconnected.symm.trans hc) (by simp)
  · obtain ⟨hconnected, hattempts, htimers⟩ := h
    refine .schedules hbefore hconnected hattempts ?_
    show s.delays ++ d.timers.drop _ = _
    rw [htimers, List.drop_left]

/-- The handler of the event, run to its end or interrupted, leads from `c` to `d`. -/
def Runs (deps : Deps) (e : Event) (c d : Client) : Prop :=
  d = (handler deps e).run c ∨ ∃ k, d = (handler deps e).runInterrupted stop.run k c

theorem turn_of_runs (h : Runs deps e s.client d) :
    ScheduleTurn s ⟨d, if e.connects then [] else s.delays ++ d.timers.drop s.client.timers.length⟩ := by
  have hpaced : ∀ {R}, Paces R (handler deps e) → R s.client.pacing d.pacing := by
    intro R hR
    rcases h with rfl | ⟨k, rfl⟩
    · exact hR.run s.client
    · exact hR.interrupted s.client k
  cases hconnects : e.connects with
  | true =>
      cases e with
      | wsHandshaken i ok now =>
          obtain rfl : ok = true := hconnects
          have hreset := hpaced (paces_connected i now)
          exact .resets (congrArg Pacing.attempts hreset) rfl
      | resolved | tcpConnected | noDelayThrows | sslHandshaken | read | readError | writeDone | timer =>
          exact absurd hconnects (by simp [Event.connects])
  | false =>
      by_cases htimer : ∃ j, e = .timer j
      · -- an expired timer is one less
        obtain ⟨j, rfl⟩ := htimer
        have herased := hpaced (paces_timer j)
        simp only [Client.pacing, Pacing.mk.injEq] at herased
        obtain ⟨hconnected, hattempts, htimers⟩ := herased
        refine .rests hattempts ?_ fun hc => hconnected ▸ hc
        show s.delays ++ d.timers.drop _ = _
        rw [htimers, List.drop_eq_nil_of_le (List.length_eraseIdx_le _ _), List.append_nil]
      · exact turn_of_drops (hpaced (paces_handler hconnects fun j hj => htimer ⟨j, hj⟩))

/-- **What a step does to the schedule.** -/
theorem pace_turn (h : pace deps s x = some s') : ScheduleTurn s s' := by
  obtain ⟨d, hstep, rfl⟩ := Option.map_eq_some_iff.mp h
  cases x with
  | handle e =>
      obtain ⟨-, ⟨⟩⟩ := Option.ite_none_right_eq_some.mp hstep
      exact turn_of_runs (Or.inl rfl)
  | signalled e k =>
      obtain ⟨-, ⟨⟩⟩ := Option.ite_none_right_eq_some.mp hstep
      exact turn_of_runs (Or.inr ⟨k, rfl⟩)
  | stop =>
      cases hstep
      exact turn_of_drops (Or.inl (pacing_stop s.client))
  | tunPacket data =>
      obtain ⟨-, ⟨⟩⟩ := Option.ite_none_right_eq_some.mp hstep
      exact turn_of_drops (Or.inl (onTunPacket_frame (f := Client.pacing) (fun _ _ => rfl) s.client data))

/-- The counter counts the delays, of which there is one at most, and none while the client is connected. -/
structure Paced.Spent (s : Paced) : Prop where
  tracked  : s.client.Tracked
  attempts : s.client.reconnectAttempt = UInt32.ofNat s.delays.length
  fresh    : s.client.connected = true → s.delays = []
  spent    : s.delays = [] ∨ s.delays = [1]

theorem spent_step (h : s.Spent) (hpace : pace deps s x = some s') : s'.Spent := by
  have htracked : s'.client.Tracked := by
    obtain ⟨d, hstep, rfl⟩ := Option.map_eq_some_iff.mp hpace
    exact tracked_step h.tracked hstep
  cases pace_turn hpace with
  | resets attempts delays =>
      refine ⟨htracked, ?_, fun _ => delays, Or.inl delays⟩
      rw [attempts, delays]
      rfl
  | rests attempts delays connected =>
      refine ⟨htracked, ?_, ?_, ?_⟩
      · rw [attempts, delays]
        exact h.attempts
      · intro hc
        rw [delays]
        exact h.fresh (connected hc)
      · rw [delays]
        exact h.spent
  | schedules before after attempts delays =>
      -- the client was connected, so this is the first delay
      have hnone := h.fresh before
      have hzero : s.client.reconnectAttempt = 0 := by
        rw [h.attempts, hnone]
        rfl
      rw [hnone, hzero] at delays
      refine ⟨htracked, ?_, ?_, Or.inr (delays.trans (by decide))⟩
      · rw [attempts, hzero, delays]
        rfl
      · intro hc
        exact absurd (after.symm.trans hc) (by simp)

/-- An attempt that fails finds the client not connected. -/
theorem not_connected_of_attemptFails (h : c.Tracked) (he : e.attemptFails = true)
    (hstep : step deps c (.handle e) = some d) : c.connected = false := by
  obtain ⟨⟨hs, ha⟩, -⟩ := Option.ite_none_right_eq_some.mp hstep
  obtain ⟨p, hp⟩ : ∃ p, c.loop.InPhase p := h.resolve_left (by rw [hs]; simp)
  have hla := loop_awaits deps c.config false ha
  have hunsettled : ∃ i : ℕ, (c.loop.links[i]?.any fun t : Link => !t.stage.settled) = true := by
    cases e with
    | resolved i ok | tcpConnected i ok | sslHandshaken i ok | wsHandshaken i ok now =>
        obtain rfl : ok = false := by simpa [Event.attemptFails] using he
        exact ⟨i, hla⟩
    | noDelayThrows i => exact ⟨i, hla⟩
    | read i message env | readError i | writeDone i ok | timer j => exact absurd he (by simp [Event.attemptFails])
  obtain ⟨i, hi⟩ := hunsettled
  obtain ⟨rfl, -⟩ := attempting_of_unsettled hp hs hi
  cases hp with
  | attempting _ _ _ connected _ => exact connected

/-- A connection that is lost is followed by a timer. -/
theorem schedules_of_lost (h : s.Spent) (he : e.attemptFails = false) (hf : s.client.Fails e)
    (hpace : pace deps s (.handle e) = some s') : s'.delays = [1] := by
  obtain ⟨d, hstep, rfl⟩ := Option.map_eq_some_iff.mp hpace
  obtain ⟨⟨hs, -⟩, -⟩ := Option.ite_none_right_eq_some.mp hstep
  obtain ⟨p, hp⟩ : ∃ p, s.client.loop.InPhase p := h.tracked.resolve_left (by rw [hs]; simp)
  obtain ⟨hconnected, hconnects, hlasts⟩ : s.client.connected = true ∧ e.connects = false ∧
      (Input.handle e).Unfailing deps s.client.config := by
    cases e with
    | resolved i ok | tcpConnected i ok | sslHandshaken i ok | wsHandshaken i ok now =>
        have hok : ok = false := hf
        subst hok
        exact absurd he (by simp [Event.attemptFails])
    | noDelayThrows i => exact absurd he (by simp [Event.attemptFails])
    | readError i => exact ⟨hf, rfl, trivial⟩
    | writeDone i ok => exact ⟨hf.2, rfl, trivial⟩
    | read i message env | timer j => exact hf.elim
  obtain ⟨hnone, hone⟩ := rescheduled_of_unfailing hp hlasts hf hstep
  have hdelays : (if e.connects then [] else s.delays ++ d.timers.drop s.client.timers.length) = d.timers := by
    rw [if_neg (by rw [hconnects]; simp), h.fresh hconnected, hnone]
    rfl
  rcases (spent_step h hpace).spent with hempty | hsingle
  · rw [show d.timers = [] from hdelays.symm.trans hempty] at hone
    exact absurd hone (by simp)
  · exact hsingle

/-- **A step** keeps to the schedule exactly when no attempt fails in it. -/
theorem onSchedule_step_iff (h : s.Spent) (hpace : pace deps s x = some s') : OnSchedule deps s x ↔ x.Lasts := by
  have hsmall : s.delays.length ≤ 1 := by
    rcases h.spent with hd | hd
    · rw [hd]; decide
    · rw [hd]; decide
  have hattempts : s.client.reconnectAttempt.toNat = s.delays.length := by
    rw [h.attempts, UInt32.toNat_ofNat', Nat.mod_eq_of_lt (by omega)]
  have hfirst : (reconnectDelay 1).toNat = scheduledDelay 1 :=
    (@reconnectDelay_scheduled_iff 1 (by decide)).mpr (by decide)
  constructor
  · intro hon
    cases x with
    | handle e =>
        by_contra hfails
        have hfailing : e.attemptFails = true := (Bool.not_eq_false _).mp hfails
        have hf : s.client.Fails e := by
          cases e <;> simp_all [Event.attemptFails, Client.Fails]
        obtain ⟨delay, hdelay, -⟩ := hon.next e s' rfl hf hpace
        obtain ⟨d, hstep, -⟩ := Option.map_eq_some_iff.mp hpace
        have hdown := not_connected_of_attemptFails h.tracked hfailing hstep
        -- `on_error` has returned early
        cases pace_turn hpace with
        | resets _ delays =>
            rw [delays] at hdelay
            exact absurd hdelay (by simp)
        | rests _ delays _ =>
            rw [delays] at hdelay
            exact absurd hdelay (by simp)
        | schedules before => exact absurd (hdown.symm.trans before) (by simp)
    | signalled e k => exact trivial
    | stop => exact trivial
    | tunPacket data => exact trivial
  · intro hlasts
    refine ⟨?_, ?_, ?_, ?_⟩
    · rcases h.spent with hd | hd
      · rw [hd]; rfl
      · rw [hd]
        exact congrArg (fun n => [n]) hfirst
    · rintro e s'' rfl hf hpace'
      have hconnected : s.client.connected = true := by
        have hlost : e.attemptFails = false := hlasts
        cases e <;> simp_all [Event.attemptFails, Client.Fails]
      refine ⟨1, ?_, ?_⟩
      · rw [schedules_of_lost h hlasts hf hpace', h.fresh hconnected]
        rfl
      · rw [h.fresh hconnected]
        exact hfirst
    · rw [toNat_min_five]
      omega
    · rw [UInt32.toNat_add, hattempts]
      exact Nat.mod_eq_of_lt (by change s.delays.length + 1 < 2 ^ 32; omega)

/-! ## Runs -/

/-- **The schedule is kept for exactly as long as no attempt fails**, and no second delay is armed between two
    connections in any run. -/
theorem onSchedule_iff {config : ClientConfig} {serverIp originalGateway : Bytes} {host : Host} {xs : List Input}
    (hrun : run (pace deps) ⟨Client.start config serverIp originalGateway host, []⟩ xs = some s) :
    (Along (pace deps) (OnSchedule deps) ⟨Client.start config serverIp originalGateway host, []⟩ xs ↔
        ∀ x ∈ xs, x.Lasts) ∧
      (s.delays = [] ∨ s.delays = [1]) := by
  have hstart : Paced.Spent ⟨Client.start config serverIp originalGateway host, []⟩ :=
    ⟨Or.inr ⟨_, inPhase_start config serverIp originalGateway host⟩, rfl, fun _ => rfl, Or.inl rfl⟩
  constructor
  · exact along_iff (I := Paced.Spent) (D := Input.Lasts) (fun _ _ _ h hstep => spent_step h hstep)
      (fun _ _ _ h hstep => onSchedule_step_iff h hstep) hstart hrun
  · exact (run_invariant' (I := Paced.Spent) (fun _ _ _ h hstep => spent_step h hstep) hstart hrun).spent

/-- A connection that is lost is made again. -/
theorem onSchedule_reconnect :
    ∃ s, run (pace (Deps.table [])) ⟨sampleClient, []⟩ sampleReconnect = some s ∧
      Along (pace (Deps.table [])) (OnSchedule (Deps.table [])) ⟨sampleClient, []⟩ sampleReconnect ∧
      s.delays = [1] := by
  have hrun : (run (pace (Deps.table [])) ⟨sampleClient, []⟩ sampleReconnect).any (fun s => s.delays = [1]) =
      true := by decide +kernel
  obtain ⟨s, hs, hdelays⟩ := Option.any_eq_true _ _ |>.mp hrun
  refine ⟨s, hs, (onSchedule_iff hs).1.mpr ?_, of_decide_eq_true hdelays⟩
  intro x hx
  simp only [sampleReconnect, List.mem_cons, List.not_mem_nil, or_false] at hx
  rcases hx with rfl | rfl | rfl | rfl | rfl | rfl <;> rfl

/-- **A delay that is never armed**: the connection is lost, and the name of the server does not resolve once. The
    second delay should be of 2 seconds. -/
theorem second_delay_missing :
    ∃ s, run (pace (Deps.table [])) ⟨sampleClient, []⟩ (sampleReconnect ++ [.handle (.resolved 1 false)]) =
        some s ∧
      s.delays = [1] ∧ s.client.timers = [] ∧ s.client.running = true ∧
      ¬ Along (pace (Deps.table [])) (OnSchedule (Deps.table [])) ⟨sampleClient, []⟩
        (sampleReconnect ++ [.handle (.resolved 1 false)]) := by
  have hrun : (run (pace (Deps.table [])) ⟨sampleClient, []⟩ sampleReconnect).any (fun m =>
      m.delays = [1] && (pace (Deps.table []) m (.handle (.resolved 1 false))).any fun s =>
        s.delays = [1] && s.client.timers.isEmpty && s.client.running) = true := by decide +kernel
  obtain ⟨m, hm, hbody⟩ := Option.any_eq_true _ _ |>.mp hrun
  obtain ⟨hbefore, hafter⟩ := Bool.and_eq_true_iff.mp hbody
  obtain ⟨s, hs, hlost⟩ := Option.any_eq_true _ _ |>.mp hafter
  simp only [Bool.and_eq_true, decide_eq_true_eq, List.isEmpty_iff] at hlost
  obtain ⟨⟨hdelays, htimers⟩, hrunning⟩ := hlost
  refine ⟨s, run_snoc.mpr ⟨m, hm, hs⟩, hdelays, htimers, hrunning, fun halong => ?_⟩
  have hon := halong sampleReconnect _ [] m rfl hm
  obtain ⟨delay, hgrown, -⟩ := hon.next _ s rfl rfl hs
  rw [hdelays, of_decide_eq_true hbefore] at hgrown
  exact absurd hgrown (by simp)

end Client
end Kirdi
