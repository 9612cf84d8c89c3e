import Kirdi.Client.Handlers

/-!
# `Client.Loop` — the reconnect loop of the client

What connecting and reconnecting depends on: the two flags, the number of armed timers, and of every
transport how far it has come and whether it is read from. `Loop.handle` says what the events do to that;
the client refines it (`loop_handler`), a packet it receives being quiet or a reason to stop.

A `Phase` is what the loop is doing. Every event takes a loop in a phase to the next one (`inPhase_handle`);
in two of them, `lost` and `escaped`, nothing will connect again.
-/

set_option linter.dupNamespace false

namespace Kirdi
namespace Client

open Protocol Crypto Proc

/-- Nothing of the connection attempt is outstanding. -/
def Stage.settled : Stage → Bool
  | .opened | .over => true
  | _ => false

/-- A transport, as the loop sees it. -/
structure Link where
  stage     : Stage
  connected : Bool
  closing   : Bool
  reading   : Bool
  deriving DecidableEq, Repr

structure Loop where
  running    : Bool
  iocStopped : Bool
  connected  : Bool
  timers     : Nat
  ws         : Nat
  links      : List Link
  deriving DecidableEq, Repr

def Conn.link (t : Conn) : Link := ⟨t.stage, t.connected, t.closing, t.reading⟩

def Client.loop (c : Client) : Loop :=
  ⟨c.running, c.iocStopped, c.connected, c.timers.length, c.ws, c.transports.map Conn.link⟩

/-- What an event means for the loop. -/
inductive Report where
  | advances (i : Nat) (stage : Stage)
  | attemptFails (i : Nat)
  | attemptThrows (i : Nat)
  | opens (i : Nat) (authBuilt : Bool)
  | message (i : Nat) (stops : Bool)
  | readFails (i : Nat)
  | writeFails (i : Nat)
  | writes
  | expires
  deriving DecidableEq, Repr

namespace Loop

def setLink (l : Loop) (i : Nat) (f : Link → Link) : Loop := { l with links := l.links.modify i f }

/-- `on_error`. -/
def error (l : Loop) : Loop :=
  if l.connected then
    { l with connected := false, timers := if l.running then l.timers + 1 else l.timers }
  else l

/-- `fail` of transport `i`. -/
def fail (l : Loop) (i : Nat) : Loop :=
  if (l.links[i]?.map Link.closing).getD true then l
  else (l.setLink i fun t => { t with connected := false }).error

/-- `stop`. -/
def stop (l : Loop) : Loop :=
  if l.running then
    { l.setLink l.ws fun t => { t with closing := true, connected := false } with
      running := false
      iocStopped := true }
  else l

/-- `do_read`. -/
def doRead (l : Loop) (i : Nat) : Loop :=
  l.setLink i fun t => if t.closing then t else { t with reading := true }

/-- A new transport, connecting. -/
def reconnect (l : Loop) : Loop :=
  { l with links := l.links ++ [⟨.resolve, false, false, false⟩], ws := l.links.length }

def handle (l : Loop) : Report → Loop
  | .advances i stage => l.setLink i fun t => { t with stage := stage }
  | .attemptFails i => (l.setLink i fun t => { t with stage := .over }).fail i
  | .attemptThrows i => { l.setLink i fun t => { t with stage := .over } with iocStopped := true }
  | .opens i true =>
      { l.setLink i fun t => { t with stage := .opened, connected := true } with connected := true }.doRead i
  | .opens i false =>
      { l.setLink i fun t => { t with stage := .opened, connected := true } with
        connected := true
        iocStopped := true }
  | .message i stops =>
      let l := l.setLink i fun t => { t with reading := false }
      (if stops then l.stop else l).doRead i
  | .readFails i => (l.setLink i fun t => { t with reading := false, connected := false }).fail i
  | .writeFails i => l.fail i
  | .writes => l
  | .expires =>
      let l := { l with timers := l.timers - 1 }
      if l.running then l.reconnect else l

end Loop

/-! ## The client refines the loop -/

variable {c d : Client} {l : Loop} {i : Nat}

/-- A change of a transport that is one of its link. -/
theorem loop_setConn {f : Conn → Conn} {g : Link → Link} (h : ∀ t, (f t).link = g t.link) :
    (c.setConn i f).loop = c.loop.setLink i g := by
  have hmap : (c.transports.modify i f).map Conn.link = (c.transports.map Conn.link).modify i g := by
    apply List.ext_getElem?
    intro j
    simp only [List.getElem?_map, List.getElem?_modify]
    cases c.transports[j]? with
    | none => rfl
    | some t =>
        by_cases hij : i = j
        · simp [hij, h]
        · simp [hij]
  unfold Client.loop Client.setConn Loop.setLink
  rw [hmap]

theorem setLink_id (l : Loop) (i : Nat) : l.setLink i (fun t => t) = l := by
  have hid : l.links.modify i (fun t => t) = l.links := List.modify_id i l.links
  unfold Loop.setLink
  rw [hid]

/-- What is sent does not concern the loop. -/
theorem loop_sendWs (c : Client) (data : Bytes) : (c.sendWs data).loop = c.loop := by
  have hsend : ∀ t : Conn, (t.send data).link = t.link := by
    intro t
    unfold Conn.send
    split <;> rfl
  exact (loop_setConn hsend).trans (setLink_id _ _)

theorem loop_onTunPacket (c : Client) (data : Bytes) : (c.onTunPacket data).loop = c.loop :=
  onTunPacket_frame (f := Client.loop) loop_sendWs c data

theorem loop_doRead (c : Client) (i : Nat) : (c.setConn i Conn.doRead).loop = c.loop.doRead i := by
  apply loop_setConn
  intro t
  unfold Conn.doRead
  cases h : t.closing with
  | true => simp [Conn.link, h]
  | false => simp [Conn.link, h]

theorem loop_stop (c : Client) : (stop.run c).loop = c.loop.stop := by
  cases hr : c.running with
  | true =>
      have hclose : c.closeWs.loop = c.loop.setLink c.ws fun t => { t with closing := true, connected := false } :=
        loop_setConn fun _ => rfl
      rw [stop_run hr]
      show { c.closeWs.loop with running := false, iocStopped := true } = _
      rw [hclose]
      exact (if_pos hr).symm
  | false =>
      rw [stop_run_of_stopped hr]
      exact (if_neg (by simp [Client.loop, hr])).symm

theorem loop_onError (c : Client) : (onError.run c).loop = c.loop.error := by
  unfold Loop.error
  cases hc : c.connected with
  | false =>
      rw [onError_run_of_not_connected hc]
      exact (if_neg (by simp [Client.loop, hc])).symm
  | true =>
      rw [onError_run hc, if_pos (show c.loop.connected = true from hc)]
      cases hr : c.running with
      | true => simp [Client.loop, hr]
      | false => simp [Client.loop, hr]

theorem loop_fail (c : Client) (i : Nat) : ((fail i).run c).loop = c.loop.fail i := by
  have hat : c.loop.links[i]? = c.transports[i]?.map Conn.link := List.getElem?_map
  have hclosing : (c.loop.links[i]?.map Link.closing).getD true = (c.transports[i]?.map Conn.closing).getD true := by
    rw [hat]
    cases c.transports[i]? <;> rfl
  unfold fail Loop.fail
  rw [run_branch, hclosing]
  split
  · rfl
  · rw [run_andThen, loop_onError]
    congr 1
    exact loop_setConn fun _ => rfl

/-- A packet is quiet, or a reason to stop. -/
theorem loop_onPacket (deps : Deps) (env : Env) (hdr : PacketHeader) (payload : Bytes) (c : Client) :
    ∃ stops : Bool, ((onPacket deps env hdr payload).run c).loop = if stops then c.loop.stop else c.loop := by
  have hquiet : ∀ {p : Proc Client}, Keeps Client.loop p →
      ∃ stops : Bool, (p.run c).loop = if stops then c.loop.stop else c.loop :=
    fun h => ⟨false, h.run_eq c⟩
  unfold onPacket
  split
  · rw [onAuthResponse_run]
    cases readAuthResponse deps c.config.mtu payload with
    | malformed => exact hquiet keeps_done
    | rejected => exact ⟨true, loop_stop c⟩
    | partlyRead virtualIp => exact hquiet (keeps_atom fun _ => rfl)
    | accepted virtualIp tunCfg =>
        unfold onVerdict onAccepted
        rw [run_andThen, run_andThen]
        split
        · exact ⟨true, loop_stop _⟩
        · refine ⟨false, ?_⟩
          have hsetup : Keeps Client.loop ((branch (fun c => c.config.autoRoute)
              ((setupRoutes env).andThen (setupDns env)) done)) := keeps_setup fun _ _ => rfl
          rw [run_andThen, run_andThen]
          exact hsetup.run_eq _
  · exact hquiet (keeps_branch (keeps_atom fun _ => rfl) keeps_done)
  · refine hquiet (keeps_branch ?_ keeps_done)
    split
    · exact keeps_atom fun c => loop_sendWs c _
    · exact keeps_done
  · exact hquiet keeps_done

/-- What the events mean for the loop; `stops` for a packet that is a reason to stop. -/
def Event.report (deps : Deps) (config : ClientConfig) (stops : Bool) : Event → Report
  | .resolved i ok => if ok then .advances i .tcpConnect else .attemptFails i
  | .tcpConnected i ok => if ok then .advances i .sslHandshake else .attemptFails i
  | .noDelayThrows i => .attemptThrows i
  | .sslHandshaken i ok => if ok then .advances i .wsHandshake else .attemptFails i
  | .wsHandshaken i ok now =>
      if ok then .opens i (authRequest deps config now).toOption.isSome else .attemptFails i
  | .read i _ _ => .message i stops
  | .readError i => .readFails i
  | .writeDone i ok => if ok then .writes else .writeFails i
  | .timer _ => .expires

theorem loop_onPhase (c : Client) (i : Nat) (ok : Bool) (next : Stage) :
    ((onPhase i ok next).run c).loop = c.loop.handle (if ok then .advances i next else .attemptFails i) := by
  unfold onPhase
  cases ok with
  | true => exact loop_setConn fun _ => rfl
  | false =>
      show (((setStage i .over).andThen (fail i)).run c).loop = (c.loop.setLink i _).fail i
      rw [run_andThen, loop_fail]
      congr 1
      exact loop_setConn fun _ => rfl

theorem loop_onConnected (deps : Deps) (now : Int64) (c : Client) (i : Nat) :
    ((onConnected deps now i).run c).loop =
      if (authRequest deps c.config now).toOption.isSome then
        { c.loop with connected := true }.doRead i
      else { c.loop with connected := true, iocStopped := true } := by
  cases hauth : authRequest deps c.config now with
  | error e =>
      simp only [onConnected, run_andThen, run_atom, run_act, id, hauth]
      rfl
  | ok pkt =>
      simp only [onConnected, run_andThen, run_atom, run_act, id, hauth, loop_doRead, loop_sendWs]
      rfl

theorem loop_onWsHandshake (deps : Deps) (c : Client) (i : Nat) (now : Int64) :
    ((onWsHandshake deps i true now).run c).loop =
      c.loop.handle (.opens i (authRequest deps c.config now).toOption.isSome) := by
  have hopen : (c.setConn i fun t => { t with stage := .opened, connected := true }).loop =
      c.loop.setLink i fun t => { t with stage := .opened, connected := true } :=
    loop_setConn fun _ => rfl
  show ((onConnected deps now i).run (c.setConn i _)).loop = _
  rw [loop_onConnected, hopen]
  show (if (authRequest deps c.config now).toOption.isSome then _ else _) = _
  cases (authRequest deps c.config now).toOption.isSome <;> rfl

theorem loop_onRead (deps : Deps) (c : Client) (i : Nat) (message : Bytes) (env : Env) :
    ∃ stops, ((onRead deps i message env).run c).loop = c.loop.handle (.message i stops) := by
  have hread : (c.setConn i fun t => { t with reading := false }).loop =
      c.loop.setLink i fun t => { t with reading := false } := loop_setConn fun _ => rfl
  unfold onRead
  cases hcb : dispatchPacket message (some (onPacket deps env)) with
  | none =>
      refine ⟨false, ?_⟩
      rw [run_andThen, run_andThen, run_atom, run_atom, loop_doRead]
      show (c.setConn i _).loop.doRead i = _
      rw [hread]
      rfl
  | some p =>
      obtain ⟨hdr, payload, rfl⟩ := dispatchPacket_callback hcb
      obtain ⟨stops, hstops⟩ := loop_onPacket deps env hdr payload (c.setConn i fun t => { t with reading := false })
      refine ⟨stops, ?_⟩
      rw [run_andThen, run_andThen, run_atom, run_atom, loop_doRead]
      show ((onPacket deps env hdr payload).run _).loop.doRead i = _
      rw [hstops, hread]
      rfl

/-- **The client refines the loop.** -/
theorem loop_handler (deps : Deps) (e : Event) (c : Client) (ha : c.awaits e = true) :
    ∃ stops, ((handler deps e).run c).loop = c.loop.handle (e.report deps c.config stops) := by
  cases e with
  | resolved i ok => exact ⟨false, loop_onPhase c i ok _⟩
  | tcpConnected i ok => exact ⟨false, loop_onPhase c i ok _⟩
  | sslHandshaken i ok => exact ⟨false, loop_onPhase c i ok _⟩
  | noDelayThrows i =>
      refine ⟨false, ?_⟩
      show { (c.setConn i _).loop with iocStopped := true } = _
      rw [loop_setConn (g := fun t => { t with stage := .over }) fun _ => rfl]
      rfl
  | wsHandshaken i ok now =>
      cases ok with
      | true => exact ⟨false, loop_onWsHandshake deps c i now⟩
      | false => exact ⟨false, loop_onPhase c i false .opened⟩
  | read i message env => exact loop_onRead deps c i message env
  | readError i =>
      refine ⟨false, ?_⟩
      show (((atom _).andThen (fail i)).run c).loop = (c.loop.setLink i _).fail i
      rw [run_andThen, loop_fail]
      congr 1
      exact loop_setConn fun _ => rfl
  | writeDone i ok =>
      refine ⟨false, ?_⟩
      cases ok with
      | true => exact (loop_setConn fun _ => rfl).trans (setLink_id _ _)
      | false =>
          show (((atom _).andThen (fail i)).run c).loop = c.loop.fail i
          rw [run_andThen, loop_fail]
          congr 1
          exact (loop_setConn fun _ => rfl).trans (setLink_id _ _)
  | timer j =>
      refine ⟨false, ?_⟩
      -- the loop only counts the timers, whichever expires
      have hj : j < c.timers.length := by simpa [Client.awaits] using ha
      have hlen : (c.timers.eraseIdx j).length = c.timers.length - 1 := List.length_eraseIdx_of_lt hj
      show ((onTimer j).run c).loop = c.loop.handle .expires
      unfold onTimer
      rw [run_andThen, run_branch]
      cases hr : c.running with
      | true => simp [Client.loop, Loop.handle, Loop.reconnect, hr, hlen, Conn.link, Conn.fresh]
      | false => simp [Client.loop, Loop.handle, hr, hlen]

/-- An event that the client waits for is one that its loop waits for. -/
def Loop.awaits (l : Loop) : Report → Bool
  | .advances i stage => !stage.settled && l.links[i]?.any fun t => !t.stage.settled
  | .attemptFails i | .attemptThrows i | .opens i _ => l.links[i]?.any fun t => !t.stage.settled
  | .message i _ | .readFails i => l.links[i]?.any fun t => t.reading
  | .writeFails i => l.links[i]?.isSome
  | .writes => true
  | .expires => 0 < l.timers

theorem loop_awaits (deps : Deps) (config : ClientConfig) (stops : Bool) {e : Event}
    (h : c.awaits e = true) : c.loop.awaits (e.report deps config stops) = true := by
  have hstage : ∀ {i : Nat} {st : Stage}, st.settled = false →
      (c.transports[i]?.any fun t => t.stage = st) = true →
        (c.loop.links[i]?.any fun t => !t.stage.settled) = true := by
    intro i st hst hany
    obtain ⟨t, ht, hts⟩ := Option.any_eq_true _ _ |>.mp hany
    simp only [decide_eq_true_eq] at hts
    simp [Client.loop, ht, Conn.link, hts, hst]
  have hreading : ∀ {i : Nat}, (c.transports[i]?.any fun t => t.reading) = true →
      (c.loop.links[i]?.any fun t => t.reading) = true := by
    intro i hany
    obtain ⟨t, ht, htr⟩ := Option.any_eq_true _ _ |>.mp hany
    simp [Client.loop, ht, Conn.link, htr]
  -- an event of a phase comes while the transport is in it, one of a read while the read is outstanding
  cases e with
  | resolved i ok | tcpConnected i ok | sslHandshaken i ok =>
      cases ok with
      | true =>
          show (true && _) = true
          rw [Bool.true_and]
          exact hstage rfl h
      | false => exact hstage rfl h
  | noDelayThrows i => exact hstage rfl h
  | wsHandshaken i ok now =>
      cases ok with
      | true => exact hstage rfl h
      | false => exact hstage rfl h
  | read i message env => exact hreading h
  | readError i => exact hreading h
  | writeDone i ok =>
      cases ok with
      | true => rfl
      | false =>
          obtain ⟨t, ht, -⟩ := Option.any_eq_true _ _ |>.mp h
          show (c.loop.links[i]?).isSome = true
          simp [Client.loop, ht]
  | timer j =>
      have hj : j < c.timers.length := by simpa [Client.awaits] using h
      show decide (0 < c.timers.length) = true
      exact decide_eq_true (Nat.zero_lt_of_lt hj)

/-! ## Phases -/

inductive Phase where
  | attempting     -- the current transport is connecting
  | up             -- the client is connected and reads
  | waiting        -- for the reconnect timer
  | lost           -- the attempt has failed, and nothing follows
  | escaped        -- by an exception out of `ioc_.run()`
  | stopped
  deriving DecidableEq, Repr

namespace Phase

def next : Phase → Report → Phase
  | _, .message _ true => .stopped
  | .attempting, .attemptFails _ => .lost
  | .attempting, .attemptThrows _ | .attempting, .opens _ false => .escaped
  | .attempting, .opens _ true => .up
  | .up, .readFails _ | .up, .writeFails _ => .waiting
  | .waiting, .expires => .attempting
  | p, _ => p

end Phase

namespace Loop

/-- The `io_context` runs, and `t` is the current transport: the last one, the only one that may be
    connecting; no transport is closed. -/
structure Calm (l : Loop) (t : Link) : Prop where
  serving  : l.iocStopped = false
  running  : l.running = true
  current  : l.links[l.ws]? = some t
  newest   : l.ws + 1 = l.links.length
  older    : ∀ (i : Nat) (u : Link), l.links[i]? = some u → i ≠ l.ws → u.stage.settled = true
  unclosed : ∀ (i : Nat) (u : Link), l.links[i]? = some u → u.closing = false

/-- The loop is in the phase. -/
inductive InPhase (l : Loop) : Phase → Prop where
  | attempting {t : Link} (calm : l.Calm t) (stage : t.stage.settled = false) (reading : t.reading = false)
      (connected : l.connected = false) (timers : l.timers = 0) : InPhase l .attempting
  | up {t : Link} (calm : l.Calm t) (stage : t.stage.settled = true) (opened : t.connected = true)
      (reading : t.reading = true) (connected : l.connected = true) (timers : l.timers = 0) : InPhase l .up
  | waiting {t : Link} (calm : l.Calm t) (stage : t.stage.settled = true)
      (connected : l.connected = false) (timers : l.timers = 1) : InPhase l .waiting
  | lost {t : Link} (calm : l.Calm t) (stage : t.stage.settled = true) (closed : t.connected = false)
      (connected : l.connected = false) (timers : l.timers = 0) : InPhase l .lost
  | escaped {t : Link} (stopped : l.iocStopped = true) (running : l.running = true)
      (current : l.links[l.ws]? = some t) (stage : t.stage.settled = true) (reading : t.reading = false)
      (timers : l.timers = 0) : InPhase l .escaped
  | stopped (stopped : l.iocStopped = true) (running : l.running = false) (timers : l.timers ≤ 1) :
      InPhase l .stopped

variable {t : Link} {p : Phase}

theorem getElem?_setLink {f : Link → Link} (j : Nat) :
    (l.setLink i f).links[j]? = l.links[j]?.map fun u => if i = j then f u else u := by
  unfold setLink
  rw [List.getElem?_modify]
  cases l.links[j]? with
  | none => rfl
  | some u => by_cases hij : i = j <;> simp [hij]

/-- A change of one transport that keeps the loop calm. -/
theorem Calm.setLink (h : l.Calm t) {f : Link → Link} (hclosing : ∀ u, (f u).closing = u.closing)
    (hstage : i ≠ l.ws → ∀ u, u.stage.settled = true → (f u).stage.settled = true) :
    (l.setLink i f).Calm (if i = l.ws then f t else t) where
  serving := h.serving
  running := h.running
  current := by
    show (l.setLink i f).links[l.ws]? = _
    rw [getElem?_setLink, h.current]
    rfl
  newest := by
    show l.ws + 1 = (l.links.modify i f).length
    rw [List.length_modify]
    exact h.newest
  older := by
    intro j u hu hj
    rw [getElem?_setLink] at hu
    obtain ⟨v, hv, rfl⟩ := Option.map_eq_some_iff.mp hu
    have hold := h.older j v hv hj
    by_cases hij : i = j
    · rw [if_pos hij]
      exact hstage (fun hi => hj (hij.symm.trans hi)) v hold
    · rw [if_neg hij]
      exact hold
  unclosed := by
    intro j u hu
    rw [getElem?_setLink] at hu
    obtain ⟨v, hv, rfl⟩ := Option.map_eq_some_iff.mp hu
    have hopen := h.unclosed j v hv
    by_cases hij : i = j
    · rw [if_pos hij, hclosing v]
      exact hopen
    · rw [if_neg hij]
      exact hopen

/-- Only the current transport may be connecting. -/
theorem Calm.eq_ws (h : l.Calm t) (ha : (l.links[i]?.any fun u => !u.stage.settled) = true) :
    i = l.ws ∧ t.stage.settled = false := by
  obtain ⟨u, hu, hus⟩ := Option.any_eq_true _ _ |>.mp ha
  have hus' : u.stage.settled = false := by simpa using hus
  have hi : i = l.ws := by
    by_contra hne
    rw [h.older i u hu hne] at hus'
    exact absurd hus' (by simp)
  refine ⟨hi, ?_⟩
  rw [hi, h.current] at hu
  rw [Option.some.inj hu]
  exact hus'

/-- `on_error` arms a timer when the client was connected. -/
theorem Calm.error (h : l.Calm t) :
    l.error.Calm t ∧ l.error.connected = false ∧
      l.error.timers = if l.connected then l.timers + 1 else l.timers := by
  unfold Loop.error
  cases hc : l.connected with
  | true =>
      refine ⟨⟨h.serving, h.running, h.current, h.newest, h.older, h.unclosed⟩, rfl, ?_⟩
      simp [h.running]
  | false => exact ⟨h, hc, rfl⟩

/-- `fail` of a transport of a calm loop. -/
theorem Calm.fail (h : l.Calm t) (hi : (l.links[i]?).isSome = true) :
    ∃ t', (l.fail i).Calm t' ∧ t'.stage = t.stage ∧ t'.reading = t.reading ∧
      (t.connected = false ∨ i = l.ws → t'.connected = false) ∧ (l.fail i).connected = false ∧
      (l.fail i).timers = if l.connected then l.timers + 1 else l.timers := by
  obtain ⟨u, hu⟩ := Option.isSome_iff_exists.mp hi
  have hopen : ¬ (l.links[i]?.map Link.closing).getD true = true := by
    rw [hu]
    simp [h.unclosed i u hu]
  unfold Loop.fail
  rw [if_neg hopen]
  have hset := h.setLink (i := i) (f := fun t => { t with connected := false }) (fun _ => rfl) (fun _ _ hs => hs)
  obtain ⟨hcalm, hconnected, htimers⟩ := hset.error
  refine ⟨_, hcalm, ?_, ?_, ?_, hconnected, htimers⟩
  · split <;> rfl
  · split <;> rfl
  · rintro (hc | hi)
    · split
      · rfl
      · exact hc
    · rw [if_pos hi]

/-- A new transport joins those that are not connecting. -/
theorem Calm.reconnect (h : l.Calm t) (hstage : t.stage.settled = true) :
    l.reconnect.Calm ⟨.resolve, false, false, false⟩ := by
  have hall : ∀ (i : Nat) (u : Link), l.links[i]? = some u → u.stage.settled = true := by
    intro i u hu
    by_cases hi : i = l.ws
    · rw [hi, h.current] at hu
      rw [← Option.some.inj hu]
      exact hstage
    · exact h.older i u hu hi
  have hlen : l.reconnect.links.length = l.links.length + 1 := List.length_append
  have hlt : ∀ {i : Nat} {u : Link}, l.reconnect.links[i]? = some u → i ≠ l.links.length →
      l.links[i]? = some u := by
    intro i u hu hi
    have hbound : i < l.links.length + 1 := by
      have hb := (List.getElem?_eq_some_iff.mp hu).1
      rwa [hlen] at hb
    rwa [show l.reconnect.links = l.links ++ [_] from rfl, List.getElem?_append_left (by omega)] at hu
  refine ⟨h.serving, h.running, List.getElem?_concat_length, hlen.symm, ?_, ?_⟩
  · intro i u hu hi
    exact hall i u (hlt hu hi)
  · intro i u hu
    by_cases hi : i = l.links.length
    · rw [hi, show l.reconnect.links = l.links ++ [_] from rfl, List.getElem?_concat_length] at hu
      rw [← Option.some.inj hu]
    · exact h.unclosed i u (hlt hu hi)

/-- A phase in which the `io_context` runs. -/
theorem InPhase.calm (h : InPhase l p) (hs : l.iocStopped = false) : ∃ t, l.Calm t := by
  cases h with
  | attempting calm | up calm | waiting calm | lost calm => exact ⟨_, calm⟩
  | escaped hstop | stopped hstop =>
      rw [hs] at hstop
      exact absurd hstop (by simp)

theorem attempting_of_unsettled (h : InPhase l p) (hs : l.iocStopped = false)
    (ha : (l.links[i]?.any fun u => !u.stage.settled) = true) : p = .attempting ∧ i = l.ws := by
  have hsettled : ∀ {t : Link}, l.Calm t → t.stage.settled = true → False := by
    intro t hcalm hstage
    rw [(hcalm.eq_ws ha).2] at hstage
    exact absurd hstage (by simp)
  cases h with
  | attempting calm => exact ⟨rfl, (calm.eq_ws ha).1⟩
  | up calm stage => exact (hsettled calm stage).elim
  | waiting calm stage => exact (hsettled calm stage).elim
  | lost calm stage => exact (hsettled calm stage).elim
  | escaped hstop | stopped hstop =>
      rw [hs] at hstop
      exact absurd hstop (by simp)

/-- A transport that is read from, or not, is not connecting. -/
theorem inPhase_setLink (h : InPhase l p) {f : Link → Link} (hs : l.iocStopped = false)
    (hclosing : ∀ u, (f u).closing = u.closing) (hstage : ∀ u, (f u).stage = u.stage)
    (hconnected : ∀ u, (f u).connected = u.connected)
    (hreading : i = l.ws → ∀ u, l.links[i]? = some u → (f u).reading = u.reading) :
    InPhase (l.setLink i f) p := by
  have hcur : ∀ {t : Link}, l.Calm t → ∃ t', (l.setLink i f).Calm t' ∧ t'.stage = t.stage ∧
      t'.connected = t.connected ∧ t'.reading = t.reading := by
    intro t calm
    refine ⟨_, calm.setLink hclosing (fun _ u hu => (hstage u).symm ▸ hu), ?_⟩
    by_cases hi : i = l.ws
    · rw [if_pos hi]
      exact ⟨hstage t, hconnected t, hreading hi t (hi ▸ calm.current)⟩
    · rw [if_neg hi]
      exact ⟨rfl, rfl, rfl⟩
  -- the phase stays, with the changed transport for the current one
  cases h with
  | attempting calm stage reading connected timers =>
      obtain ⟨t', calm', hst, hco, hre⟩ := hcur calm
      exact .attempting calm' (hst ▸ stage) (hre ▸ reading) connected timers
  | up calm stage opened reading connected timers =>
      obtain ⟨t', calm', hst, hco, hre⟩ := hcur calm
      exact .up calm' (hst ▸ stage) (hco ▸ opened) (hre ▸ reading) connected timers
  | waiting calm stage connected timers =>
      obtain ⟨t', calm', hst, hco, hre⟩ := hcur calm
      exact .waiting calm' (hst ▸ stage) connected timers
  | lost calm stage closed connected timers =>
      obtain ⟨t', calm', hst, hco, hre⟩ := hcur calm
      exact .lost calm' (hst ▸ stage) (hco ▸ closed) connected timers
  | escaped hstop | stopped hstop =>
      rw [hs] at hstop
      exact absurd hstop (by simp)

/-- An error of a connected client leads to the timer, any other one to nothing. -/
theorem inPhase_fail (h : InPhase l p) {f : Link → Link} (hs : l.iocStopped = false)
    (hclosing : ∀ u, (f u).closing = u.closing) (hstage : ∀ u, (f u).stage = u.stage)
    (hreading : p = .attempting → i = l.ws → ∀ u, l.links[i]? = some u → (f u).reading = u.reading)
    (hconnected : ∀ u, u.connected = false → (f u).connected = false)
    (hi : (l.links[i]?).isSome = true) :
    InPhase ((l.setLink i f).fail i) (if p = .up then .waiting else p) := by
  have hcur : ∀ {t : Link}, l.Calm t → ∃ t', ((l.setLink i f).fail i).Calm t' ∧ t'.stage = t.stage ∧
      (p = .attempting → t'.reading = t.reading) ∧ (t.connected = false → t'.connected = false) ∧
      ((l.setLink i f).fail i).connected = false ∧
      ((l.setLink i f).fail i).timers = if l.connected then l.timers + 1 else l.timers := by
    intro t calm
    have calm₁ := calm.setLink (i := i) hclosing (fun _ u hu => (hstage u).symm ▸ hu)
    have hi₁ : ((l.setLink i f).links[i]?).isSome = true := by
      rw [getElem?_setLink, Option.isSome_map]
      exact hi
    obtain ⟨t', calm', hst, hre, hco, hconn, htimers⟩ := calm₁.fail hi₁
    refine ⟨t', calm', ?_, ?_, ?_, hconn, htimers⟩
    · rw [hst]
      split
      · exact hstage t
      · rfl
    · intro hp
      rw [hre]
      split
      · rename_i hws
        exact hreading hp hws t (hws ▸ calm.current)
      · rfl
    · intro hclosed
      apply hco
      left
      split
      · exact hconnected t hclosed
      · exact hclosed
  -- only in `up` is the client connected, and the error arms a timer
  cases h with
  | attempting calm stage reading connected timers =>
      obtain ⟨t', calm', hst, hre, -, hconn, htimers⟩ := hcur calm
      rw [connected, timers] at htimers
      exact .attempting calm' (hst ▸ stage) (hre rfl ▸ reading) hconn htimers
  | up calm stage opened reading connected timers =>
      obtain ⟨t', calm', hst, -, -, hconn, htimers⟩ := hcur calm
      rw [connected, timers] at htimers
      exact .waiting calm' (hst ▸ stage) hconn htimers
  | waiting calm stage connected timers =>
      obtain ⟨t', calm', hst, -, -, hconn, htimers⟩ := hcur calm
      rw [connected, timers] at htimers
      exact .waiting calm' (hst ▸ stage) hconn htimers
  | lost calm stage closed connected timers =>
      obtain ⟨t', calm', hst, -, hco, hconn, htimers⟩ := hcur calm
      rw [connected, timers] at htimers
      exact .lost calm' (hst ▸ stage) (hco closed) hconn htimers
  | escaped hstop | stopped hstop =>
      rw [hs] at hstop
      exact absurd hstop (by simp)

theorem setLink_setLink (f g : Link → Link) : (l.setLink i f).setLink i g = l.setLink i (g ∘ f) := by
  unfold setLink
  rw [List.modify_modify_eq]

/-- Reading goes on after a message. -/
theorem inPhase_message (h : InPhase l p) (hs : l.iocStopped = false)
    (ha : (l.links[i]?.any fun u => u.reading) = true) :
    InPhase ((l.setLink i fun t => { t with reading := false }).doRead i) p := by
  obtain ⟨u, hu, hread⟩ := Option.any_eq_true _ _ |>.mp ha
  obtain ⟨t, calm⟩ := h.calm hs
  have hopen : u.closing = false := calm.unclosed i u hu
  unfold doRead
  rw [setLink_setLink]
  apply inPhase_setLink h hs
  · intro v
    cases hv : v.closing <;> simp [hv]
  · intro v
    cases hv : v.closing <;> simp [hv]
  · intro v
    cases hv : v.closing <;> simp [hv]
  · intro _ v hv
    obtain rfl : u = v := Option.some.inj (hu.symm.trans hv)
    simp [hopen, hread]

/-- `stop` ends the loop, whatever is still done in the handler. -/
theorem inPhase_stop (h : InPhase l p) (hs : l.iocStopped = false) (f : Link → Link) :
    InPhase ((l.setLink i f).stop.doRead i) .stopped := by
  obtain ⟨t, calm⟩ := h.calm hs
  have htimers : l.timers ≤ 1 := by
    cases h with
    | attempting _ _ _ _ timers | up _ _ _ _ _ timers | waiting _ _ _ timers | lost _ _ _ _ timers
    | escaped _ _ _ _ _ timers => omega
    | stopped _ _ timers => exact timers
  unfold stop
  rw [if_pos (show (l.setLink i f).running = true from calm.running)]
  exact .stopped rfl rfl htimers

/-- **The phases follow the events.** -/
theorem inPhase_handle {r : Report} (h : InPhase l p) (hs : l.iocStopped = false)
    (ha : l.awaits r = true) : InPhase (l.handle r) (p.next r) := by
  cases r with
  | advances i stage =>
      obtain ⟨hst, hi⟩ := Bool.and_eq_true_iff.mp ha
      obtain ⟨rfl, rfl⟩ := attempting_of_unsettled h hs hi
      cases h with
      | attempting calm _ reading connected timers =>
          have calm' := calm.setLink (i := l.ws) (f := fun t => { t with stage := stage }) (fun _ => rfl)
            (fun hne => absurd rfl hne)
          rw [if_pos rfl] at calm'
          exact .attempting calm' (by simpa using hst) reading connected timers
  | attemptFails i =>
      obtain ⟨rfl, rfl⟩ := attempting_of_unsettled h hs ha
      cases h with
      | attempting calm _ reading connected timers =>
          have calm' := calm.setLink (i := l.ws) (f := fun t => { t with stage := .over }) (fun _ => rfl)
            (fun hne => absurd rfl hne)
          rw [if_pos rfl] at calm'
          have hi : ((l.setLink l.ws fun t => { t with stage := .over }).links[l.ws]?).isSome = true :=
            Option.isSome_iff_exists.mpr ⟨_, calm'.current⟩
          obtain ⟨t', hcalm, hst, -, hco, hconn, htimers⟩ := calm'.fail hi
          rw [show (l.setLink l.ws fun t => { t with stage := .over }).connected = false from connected] at htimers
          exact .lost hcalm (by rw [hst]; rfl) (hco (Or.inr rfl)) hconn (htimers.trans timers)
  | attemptThrows i =>
      obtain ⟨rfl, rfl⟩ := attempting_of_unsettled h hs ha
      cases h with
      | attempting calm _ reading connected timers =>
          have calm' := calm.setLink (i := l.ws) (f := fun t => { t with stage := .over }) (fun _ => rfl)
            (fun hne => absurd rfl hne)
          rw [if_pos rfl] at calm'
          exact .escaped rfl calm.running calm'.current rfl reading timers
  | opens i built =>
      obtain ⟨rfl, rfl⟩ := attempting_of_unsettled h hs ha
      cases h with
      | attempting calm _ reading connected timers =>
          have calm' := calm.setLink (i := l.ws) (f := fun t => { t with stage := .opened, connected := true })
            (fun _ => rfl) (fun hne => absurd rfl hne)
          rw [if_pos rfl] at calm'
          cases built with
          | false => exact .escaped rfl calm.running calm'.current rfl reading timers
          | true =>
              have hopen := calm'.unclosed l.ws _ calm'.current
              have calm₂ := calm'.setLink (i := l.ws)
                (f := fun t => if t.closing then t else { t with reading := true })
                (fun u => by cases hu : u.closing <;> simp [hu]) (fun hne => absurd rfl hne)
              rw [if_pos (show l.ws = (l.setLink l.ws _).ws from rfl), if_neg (by rw [hopen]; simp)] at calm₂
              refine .up ⟨calm₂.serving, calm₂.running, calm₂.current, calm₂.newest, calm₂.older,
                calm₂.unclosed⟩ rfl rfl rfl rfl timers
  | message i stops =>
      cases stops with
      | true =>
          have hnext : p.next (.message i true) = .stopped := by cases p <;> rfl
          rw [hnext]
          exact inPhase_stop h hs _
      | false =>
          have hnext : p.next (.message i false) = p := by cases p <;> rfl
          rw [hnext]
          exact inPhase_message h hs ha
  | readFails i =>
      have hnext : p.next (.readFails i) = if p = .up then .waiting else p := by cases p <;> rfl
      obtain ⟨u, hu, hread⟩ := Option.any_eq_true _ _ |>.mp ha
      rw [hnext]
      refine inPhase_fail h hs (fun _ => rfl) (fun _ => rfl) ?_ (fun _ _ => rfl) (by rw [hu]; rfl)
      -- the transport of an attempt is not read from
      intro hp hi
      subst hp
      cases h with
      | attempting calm _ reading _ _ =>
          rw [hi, calm.current] at hu
          rw [Option.some.inj hu, hread] at reading
          exact absurd reading (by simp)
  | writeFails i =>
      have hnext : p.next (.writeFails i) = if p = .up then .waiting else p := by cases p <;> rfl
      have hfail := inPhase_fail (f := fun t => t) h hs (fun _ => rfl) (fun _ => rfl) (fun _ _ _ _ => rfl)
        (fun _ hu => hu) ha
      rw [setLink_id] at hfail
      rw [hnext]
      exact hfail
  | writes =>
      have hnext : p.next .writes = p := by cases p <;> rfl
      rw [hnext]
      exact h
  | expires =>
      have htimers : 0 < l.timers := by simpa [awaits] using ha
      cases h with
      | attempting _ _ _ _ timers | up _ _ _ _ _ timers | lost _ _ _ _ timers =>
          rw [timers] at htimers
          exact absurd htimers (Nat.lt_irrefl 0)
      | waiting calm stage connected timers =>
          have calm' := calm.reconnect stage
          have hhandle : l.handle .expires = { l.reconnect with timers := l.timers - 1 } := by
            show (if l.running then _ else _) = _
            rw [if_pos calm.running]
            rfl
          rw [hhandle]
          refine .attempting ⟨calm'.serving, calm'.running, calm'.current, calm'.newest, calm'.older,
            calm'.unclosed⟩ rfl rfl connected ?_
          show l.timers - 1 = 0
          rw [timers]
      | escaped hstop | stopped hstop =>
          rw [hs] at hstop
          exact absurd hstop (by simp)

/-- The client starts with an attempt. -/
theorem inPhase_start (config : ClientConfig) (serverIp originalGateway : Bytes) (host : Host) :
    (Client.start config serverIp originalGateway host).loop.InPhase .attempting := by
  refine .attempting (t := Conn.fresh.link) ⟨rfl, rfl, rfl, rfl, ?_, ?_⟩ rfl rfl rfl rfl
  · intro i u hu hi
    cases i with
    | zero => exact absurd rfl hi
    | succ i => simp [Client.start, Client.loop] at hu
  · intro i u hu
    cases i with
    | zero =>
        simp only [Client.start, Client.loop, List.map_cons, List.getElem?_cons_zero, Option.some.injEq] at hu
        rw [← hu]
        rfl
    | succ i => simp [Client.start, Client.loop] at hu

end Loop

end Client
end Kirdi
