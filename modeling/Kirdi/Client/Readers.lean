import Kirdi.Client.Handlers

/-!
# `Client.Readers` — the threads that read the TUN device

`on_packet` starts a detached `tun_read_loop` thread at every accepted login. The threads share `tun_` and
`ws_` with the handlers: a loop ends when the test at its head finds the client stopped, no device or a
closed one, and it reads from the device and sends on the transport that are there at the moment.

`Threads` is the client with these threads, and with the calls of `stop` from signal handlers; any of them
can take the next step. An undisturbed handler, and a loop that reads a packet in one go, do what
`Client.step` says (`step_realized`).

Nothing but the order of events keeps the readers apart. At most one is past its test, and what it reads
goes out on the connection of the device, when every thread is started after the earlier ones have ended,
every device is opened for the transport that is the current one, and no transport is replaced under an open
device or a packet that has been read (`readers_bound`).
-/

set_option linter.dupNamespace false

namespace Kirdi
namespace Client

open Protocol Crypto Proc EventMachine

/-- Where a `tun_read_loop` thread is. -/
inductive ReadPhase where
  | head                                    -- before the test of the loop
  | poll
  | read
  | send (device : Nat) (packet : Bytes)    -- `packet` was read from `device`
  | exited
  deriving DecidableEq, Repr

structure Reader where
  passed : Bool         -- it has passed the test at least once
  phase  : ReadPhase
  deriving DecidableEq, Repr

/-- The thread has passed the test of its loop and not ended. -/
def Reader.active (r : Reader) : Bool := r.passed && r.phase ≠ .exited

/-- The thread has not ended. -/
def Reader.alive (r : Reader) : Bool := r.phase ≠ .exited

/-- The thread has read a packet that it has not passed to `send` yet. -/
def Reader.holdsPacket (r : Reader) : Bool :=
  match r.phase with
  | .send _ _ => true
  | _ => false

/-- The client and its threads. The last two fields record what has happened. -/
structure Threads where
  client   : Client
  handling : Proc Client         -- what is left of the running handler
  stops    : List (Proc Client)  -- what is left of the calls of `stop` from signal handlers
  conn     : Nat                 -- the transport of the handler
  readers  : List Reader
  origin   : List Nat            -- by device, the transport on which its login was accepted
  sent     : List (Nat × Nat)    -- of every packet sent, its device and the transport

inductive Turn where
  | handle (e : Event)
  | act                                     -- the next step of the handler
  | signal
  | stopAct (k : Nat)                       -- the next step of a call of `stop`
  | head (i : Nat)
  | poll (i : Nat) (ready : Bool)
  | read (i : Nat) (data : Option Bytes)    -- `none` for an error or nothing to read
  | send (i : Nat)
  deriving DecidableEq, Repr

namespace Threads

def start (config : ClientConfig) (serverIp originalGateway : Bytes) (host : Host) : Threads where
  client := Client.start config serverIp originalGateway host
  handling := .done
  stops := []
  conn := 0
  readers := []
  origin := []
  sent := []

/-- A step changes the client to `c`; it may have started a thread or created a device. -/
def update (t : Threads) (c : Client) : Threads :=
  { t with
    client := c
    readers := if t.client.tunLoops < c.tunLoops then t.readers ++ [⟨false, .head⟩] else t.readers
    origin := if t.client.tunsCreated < c.tunsCreated then t.origin ++ [t.conn] else t.origin }

def setReader (t : Threads) (i : Nat) (r : Reader) : Threads := { t with readers := t.readers.set i r }

def step (deps : Deps) (t : Threads) : Turn → Option Threads
  | .handle e =>
      match t.handling with
      | .done =>
          if t.client.iocStopped = false ∧ t.client.awaits e = true then
            some { t with handling := handler deps e, conn := e.transport.getD t.conn }
          else none
      | .act _ _ => none
  | .act =>
      match t.handling with
      | .done => none
      | .act upd next => some { t.update (upd t.client) with handling := next t.client }
  | .signal => some { t with stops := t.stops ++ [stop] }
  | .stopAct k =>
      match t.stops[k]? with
      | some (.act upd next) =>
          some { t.update (upd t.client) with stops := t.stops.set k (next t.client) }
      | _ => none
  | .head i =>
      match t.readers[i]? with
      | some ⟨passed, .head⟩ =>
          if t.client.running && t.client.tunOpen then some (t.setReader i ⟨true, .poll⟩)
          else some (t.setReader i ⟨passed, .exited⟩)
      | _ => none
  -- the loop uses `tun_` without testing it again: without a device the behaviour is undefined
  | .poll i ready =>
      match t.readers[i]?, t.client.tun with
      | some ⟨passed, .poll⟩, some _ => some (t.setReader i ⟨passed, if ready then .read else .head⟩)
      | _, _ => none
  | .read i data =>
      match t.readers[i]?, t.client.tun, data with
      | some ⟨passed, .read⟩, some _, none => some (t.setReader i ⟨passed, .head⟩)
      | some ⟨passed, .read⟩, some d, some packet =>
          if d.isOpen = true ∧ packet ≠ [] ∧ packet.length ≤ maxPayload then
            some (t.setReader i ⟨passed, .send d.id packet⟩)
          else none
      | _, _, _ => none
  | .send i =>
      match t.readers[i]? with
      | some ⟨passed, .send device packet⟩ =>
          some { t.setReader i ⟨passed, .head⟩ with
            client := t.client.onTunPacket packet
            sent := if t.client.wsConnected then t.sent ++ [(device, t.client.ws)] else t.sent }
      | _ => none

/-- At most one thread is past its test, and no packet has gone out on a later connection than that of the
    device it was read from. -/
structure OneReader (t : Threads) : Prop where
  alone : t.readers.countP Reader.active ≤ 1
  bound : ∀ p ∈ t.sent, ∃ i ∈ t.origin[p.1]?, p.2 ≤ i

/-- The connection of the current device. -/
def deviceConn (t : Threads) : Option Nat := t.client.tun.bind fun d => t.origin[d.id]?

/-- A step of a handler that changes the client to `c` respects the readers: a thread it starts is the only
    one alive, a device it opens is that of the current transport, and the transport it replaces has neither
    an open device nor a packet to send. -/
structure Orderly (t : Threads) (c : Client) : Prop where
  starts   : t.client.tunLoops < c.tunLoops → ∀ r ∈ t.readers, r.alive = false
  opens    : t.client.tunOpen = false → c.tunOpen = true → t.deviceConn = some t.client.ws
  replaces : c.ws ≠ t.client.ws → c.tunOpen = false ∧ ∀ r ∈ t.readers, r.holdsPacket = false

instance (t : Threads) (c : Client) : Decidable (t.Orderly c) :=
  decidable_of_iff
    ((t.client.tunLoops < c.tunLoops → ∀ r ∈ t.readers, r.alive = false) ∧
      (t.client.tunOpen = false → c.tunOpen = true → t.deviceConn = some t.client.ws) ∧
      (c.ws ≠ t.client.ws → c.tunOpen = false ∧ ∀ r ∈ t.readers, r.holdsPacket = false))
    ⟨fun ⟨hstarts, hopens, hreplaces⟩ => ⟨hstarts, hopens, hreplaces⟩,
      fun h => ⟨h.starts, h.opens, h.replaces⟩⟩

def Disciplined (t : Threads) : Turn → Prop
  | .act =>
      match t.handling with
      | .done => True
      | .act upd _ => t.Orderly (upd t.client)
  | _ => True

instance (t : Threads) : (e : Turn) → Decidable (t.Disciplined e)
  | .act =>
      match h : t.handling with
      | .done => isTrue (by simp [Disciplined, h])
      | .act upd _ => decidable_of_iff (t.Orderly (upd t.client)) (by simp [Disciplined, h])
  | .handle _ | .signal | .stopAct _ | .head _ | .poll _ _ | .read _ _ | .send _ => isTrue trivial

end Threads

/-! ## What a handler does to the device -/

/-- Only a device that is there can be opened. -/
def Moves (c d : Client) : Prop := ∀ n ∈ d.tun, n.isOpen = true → ∃ m ∈ c.tun, m.id = n.id

/-- What concerns the readers is left alone, or the device is closed. -/
structure Retreats (c d : Client) : Prop where
  tun     : ∀ n ∈ d.tun, n.isOpen = true → n ∈ c.tun
  created : d.tunsCreated = c.tunsCreated
  loops   : d.tunLoops = c.tunLoops
  ws      : d.ws = c.ws

theorem Retreats.moves {c d : Client} (h : Retreats c d) : Moves c d :=
  fun n hn hopen => ⟨n, h.tun n hn hopen, rfl⟩

theorem moves_of_tun {c d : Client} (h : d.tun = c.tun) : Moves c d :=
  fun n hn _ => ⟨n, h ▸ hn, rfl⟩

/-- What concerns the readers. -/
def gear (c : Client) : Option Tun × Nat × Nat × Nat := (c.tun, c.tunsCreated, c.tunLoops, c.ws)

theorem retreats_of_gear {c d : Client} (h : gear d = gear c) : Retreats c d := by
  simp only [gear, Prod.mk.injEq] at h
  obtain ⟨htun, hcreated, hloops, hws⟩ := h
  exact ⟨fun n hn _ => htun ▸ hn, hcreated, hloops, hws⟩

theorem retreats_closeTun (c : Client) : Retreats c c.closeTun := by
  refine ⟨?_, rfl, rfl, rfl⟩
  intro n hn hopen
  obtain ⟨m, -, rfl⟩ := Option.mem_map.mp hn
  exact absurd hopen (by simp)

theorem each_retreats_of_keeps {p : Proc Client} (hp : Keeps gear p) : Each Retreats p :=
  hp.each fun _ _ => retreats_of_gear

/-- **`stop` closes the device, and leaves everything else of the readers alone.** -/
theorem each_stop : Each Retreats stop := by
  have hquiet : ∀ {upd : Client → Client}, (∀ c, gear (upd c) = gear c) → Each Retreats (atom upd) :=
    fun h => each_retreats_of_keeps (keeps_atom h)
  refine each_act (fun _ => retreats_of_gear rfl) fun c => ?_
  split
  · exact each_done
  · refine each_andThen (hquiet fun _ => rfl) ?_
    refine each_andThen (hquiet fun _ => rfl) ?_
    refine each_andThen (each_retreats_of_keeps (keeps_teardownDns fun _ _ => rfl)) ?_
    refine each_andThen (each_retreats_of_keeps (keeps_teardownRoutes fun _ _ => rfl)) ?_
    exact each_atom retreats_closeTun

theorem each_onError : Each Moves onError := by
  have hquiet : ∀ {p : Proc Client}, Keeps Client.tun p → Each Moves p :=
    fun h => h.each fun _ _ => moves_of_tun
  refine each_act (fun _ => moves_of_tun rfl) fun c => ?_
  split
  · exact each_done
  · refine each_andThen (hquiet (keeps_teardownDns fun _ _ => rfl)) ?_
    refine each_andThen (hquiet (keeps_teardownRoutes fun _ _ => rfl)) ?_
    refine each_andThen (each_atom fun c => (retreats_closeTun c).moves) ?_
    refine each_andThen (each_atom fun c n hn => absurd hn (Option.not_mem_none n)) ?_
    refine hquiet (keeps_branch ?_ keeps_done)
    exact keeps_andThen (keeps_atom fun _ => rfl) (keeps_atom fun _ => rfl)

/-- A login creates a closed device, and opens it later. -/
theorem each_onAccepted (env : Env) (virtualIp : Bytes) (tunCfg : TunConfig) :
    Each Moves (onAccepted env virtualIp tunCfg) := by
  have hquiet : ∀ {p : Proc Client}, Keeps Client.tun p → Each Moves p :=
    fun h => h.each fun _ _ => moves_of_tun
  have hcreate : ∀ c : Client, Moves c (c.createTun tunCfg) := by
    intro c n hn hopen
    obtain rfl : _ = n := Option.some.inj hn
    exact absurd hopen (by simp)
  have hopen : ∀ c : Client, Moves c (c.openTun env.interfaceName) := by
    intro c n hn _
    obtain ⟨m, hm, rfl⟩ := Option.mem_map.mp hn
    exact ⟨m, hm, rfl⟩
  refine each_andThen (hquiet (keeps_atom fun _ => rfl)) ?_
  refine each_andThen (each_atom hcreate) ?_
  split
  · exact each_stop.imp fun _ _ => Retreats.moves
  · refine each_andThen (each_atom hopen) ?_
    exact each_andThen (hquiet (keeps_setup fun _ _ => rfl)) (hquiet (keeps_atom fun _ => rfl))

theorem each_handler (deps : Deps) (e : Event) : Each Moves (handler deps e) := by
  refine handler_of_parts (R := fun _ => True) ?_ ?_ ?_ ?_ ?_ ?_ ?_ ?_
  · exact each_done
  · intro p q hp hq
    exact each_andThen hp hq
  · intro next hnext
    exact each_act (fun _ => moves_of_tun rfl) fun c => hnext c trivial
  · intro upd hupd
    refine each_atom fun c => moves_of_tun ?_
    rw [hupd c]
  · exact each_atom fun _ => moves_of_tun rfl
  · exact each_stop.imp fun _ _ => Retreats.moves
  · exact each_onError
  · intro i message env c virtualIp tunCfg _ _ _
    exact each_onAccepted env virtualIp tunCfg

namespace Threads

variable {deps : Deps} {t t' : Threads} {e : Turn} {es : List Turn} {c : Client}

/-! ## The steps of the client are runs of its threads -/

/-- From `t`, the threads can take the client to `c` and the handler to `p`. -/
def Reaches (deps : Deps) (t : Threads) (c : Client) (p : Proc Client) : Prop :=
  ∃ es t', run (step deps) t es = some t' ∧ t'.client = c ∧ t'.handling = p

theorem reaches_refl (t : Threads) : Reaches deps t t.client t.handling := ⟨[], t, run_nil t, rfl, rfl⟩

theorem reaches_cons {p : Proc Client} (hstep : step deps t e = some t') (h : Reaches deps t' c p) :
    Reaches deps t c p := by
  obtain ⟨es, u, hrun, hc, hp⟩ := h
  exact ⟨e :: es, u, run_cons.mpr ⟨t', hstep, hrun⟩, hc, hp⟩

theorem reaches_trans {d : Client} {p q : Proc Client} (h : Reaches deps t c p)
    (hrest : ∀ u : Threads, u.client = c → u.handling = p → Reaches deps u d q) : Reaches deps t d q := by
  obtain ⟨es, u, hrun, hc, hp⟩ := h
  obtain ⟨fs, v, hrun', hd, hq⟩ := hrest u hc hp
  exact ⟨es ++ fs, v, run_append.mpr ⟨u, hrun, hrun'⟩, hd, hq⟩

/-- The handler, undisturbed. -/
theorem reaches_run (p : Proc Client) (ht : t.handling = p) : Reaches deps t (p.run t.client) .done := by
  induction p generalizing t with
  | done =>
      have hrefl : Reaches deps t t.client t.handling := reaches_refl t
      rw [ht] at hrefl
      exact hrefl
  | act upd next ih =>
      apply reaches_cons (e := .act)
      · simp only [step]
        rw [ht]
      · exact ih t.client rfl

/-- A call of `stop`, undisturbed. -/
theorem reaches_stopActs (p : Proc Client) {k : Nat} (hk : t.stops[k]? = some p) :
    Reaches deps t (p.run t.client) t.handling := by
  induction p generalizing t with
  | done => exact reaches_refl t
  | act upd next ih =>
      apply reaches_cons (e := .stopAct k)
      · simp only [step]
        rw [hk]
      · obtain ⟨hlt, -⟩ := List.getElem?_eq_some_iff.mp hk
        exact ih t.client (List.getElem?_set_self hlt)

theorem reaches_stop (t : Threads) : Reaches deps t (stop.run t.client) t.handling := by
  apply reaches_cons (e := .signal) rfl
  exact reaches_stopActs stop (k := t.stops.length) List.getElem?_concat_length

/-- The handler, with `stop` running after `k` of its steps. -/
theorem reaches_runInterrupted (p : Proc Client) (k : Nat) (ht : t.handling = p) :
    Reaches deps t (p.runInterrupted stop.run k t.client) .done := by
  induction p generalizing t k with
  | done =>
      have hstop : Reaches deps t (stop.run t.client) t.handling := reaches_stop t
      rw [ht] at hstop
      exact hstop
  | act upd next ih =>
      cases k with
      | zero =>
          refine reaches_trans (reaches_stop t) ?_
          intro u hu hhandling
          show Reaches deps u ((Proc.act upd next).run (stop.run t.client)) .done
          rw [← hu]
          exact reaches_run _ (hhandling.trans ht)
      | succ k =>
          apply reaches_cons (e := .act)
          · simp only [step]
            rw [ht]
          · exact ih t.client k rfl

theorem tunOpen_iff {c : Client} : c.tunOpen = true ↔ ∃ d ∈ c.tun, d.isOpen = true := by
  unfold Client.tunOpen
  cases c.tun <;> simp

theorem setReader_get {i : Nat} {r : Reader} (hr : t.readers[i]? = some r) (s : Reader) :
    (t.setReader i s).readers[i]? = some s :=
  List.getElem?_set_self (List.getElem?_eq_some_iff.mp hr).1

/-- A thread reads a packet and sends it, in one go. -/
theorem reaches_tunPacket {i : Nat} {passed : Bool} {data : Bytes} (hr : t.readers[i]? = some ⟨passed, .head⟩)
    (hrunning : t.client.running = true) (hopen : t.client.tunOpen = true) (hdata : data ≠ [])
    (hlen : data.length ≤ maxPayload) : Reaches deps t (t.client.onTunPacket data) t.handling := by
  obtain ⟨d, hd, hdopen⟩ := tunOpen_iff.mp hopen
  let polling := t.setReader i ⟨true, .poll⟩
  let reading := polling.setReader i ⟨true, .read⟩
  let sending := reading.setReader i ⟨true, .send d.id data⟩
  have hpolling : polling.readers[i]? = some ⟨true, .poll⟩ := setReader_get hr _
  have hreading : reading.readers[i]? = some ⟨true, .read⟩ := setReader_get hpolling _
  have hsending : sending.readers[i]? = some ⟨true, .send d.id data⟩ := setReader_get hreading _
  have htun : t.client.tun = some d := hd
  have hhead : step deps t (.head i) = some polling := by
    simp only [step]
    rw [hr]
    simp [hrunning, hopen, polling]
  have hpoll : step deps polling (.poll i true) = some reading := by
    simp only [step]
    rw [hpolling, show polling.client.tun = some d from htun]
    rfl
  have hread : step deps reading (.read i (some data)) = some sending := by
    simp only [step]
    rw [hreading, show reading.client.tun = some d from htun]
    exact if_pos ⟨hdopen, hdata, hlen⟩
  have hsend : Reaches deps sending (t.client.onTunPacket data) t.handling := by
    apply reaches_cons (e := .send i) (by simp only [step]; rw [hsending])
    exact reaches_refl _
  exact reaches_cons hhead (reaches_cons hpoll (reaches_cons hread hsend))

/-- **The threads can do what the client does.** A step of the client is a run of the handler, with `stop` at
    one point of it, of `stop` alone, or of a reading thread. -/
theorem step_realized {x : Input} {d : Client} (hidle : t.handling = .done)
    (hreader : ∀ data, x = .tunPacket data →
      ∃ (i : Nat) (passed : Bool), t.readers[i]? = some ⟨passed, .head⟩)
    (hstep : Client.step deps t.client x = some d) : Reaches deps t d .done := by
  have hstart : ∀ {e : Event}, t.client.iocStopped = false → t.client.awaits e = true →
      step deps t (.handle e) =
        some { t with handling := handler deps e, conn := e.transport.getD t.conn } := by
    intro e hioc ha
    simp only [step]
    rw [hidle]
    exact if_pos ⟨hioc, ha⟩
  -- one way to interleave for each input
  cases x with
  | handle e =>
      obtain ⟨⟨hioc, ha⟩, ⟨⟩⟩ := Option.ite_none_right_eq_some.mp hstep
      exact reaches_cons (hstart hioc ha) (reaches_run _ rfl)
  | signalled e k =>
      obtain ⟨⟨hioc, ha⟩, ⟨⟩⟩ := Option.ite_none_right_eq_some.mp hstep
      exact reaches_cons (hstart hioc ha) (reaches_runInterrupted _ k rfl)
  | stop =>
      cases hstep
      rw [← hidle]
      exact reaches_stop t
  | tunPacket data =>
      obtain ⟨⟨-, hrunning, hopen, hdata, hlen⟩, ⟨⟩⟩ := Option.ite_none_right_eq_some.mp hstep
      obtain ⟨i, passed, hr⟩ := hreader data rfl
      rw [← hidle]
      exact reaches_tunPacket hr hrunning hopen hdata hlen

/-! ## The readers under the discipline -/

/-- An open device is that of the current connection, and so is what the only reader holds. -/
structure Solo (t : Threads) : Prop where
  alone   : t.readers.countP Reader.alive ≤ 1
  current : ∀ d ∈ t.client.tun, d.isOpen = true → t.origin[d.id]? = some t.client.ws
  held    : ∀ r ∈ t.readers, ∀ device packet, r.phase = .send device packet →
    t.origin[device]? = some t.client.ws
  bound   : ∀ p ∈ t.sent, t.origin[p.1]? = some p.2

/-- What is left of the handler and of the calls of `stop`. -/
structure Tasks (t : Threads) : Prop where
  handling : t.handling.Each Moves
  stops    : ∀ p ∈ t.stops, p.Each Retreats

theorem Solo.oneReader (h : t.Solo) : t.OneReader := by
  constructor
  · refine le_trans (List.countP_mono_left ?_) h.alone
    intro r _ hactive
    exact (Bool.and_eq_true _ _ ▸ hactive : r.passed = true ∧ _).2
  · intro p hp
    exact ⟨p.2, h.bound p hp, le_refl _⟩

theorem origin_update {i n : Nat} (c : Client) (h : t.origin[i]? = some n) :
    (t.update c).origin[i]? = some n := by
  show (if _ then _ else t.origin)[i]? = some n
  split
  · rw [List.getElem?_append_left (List.getElem?_eq_some_iff.mp h).1]
    exact h
  · exact h

/-- **A step of a handler that respects the readers.** -/
theorem Solo.update (h : t.Solo) (hmoves : Moves t.client c) (horderly : t.Orderly c) :
    (t.update c).Solo := by
  have hheld : ∀ r ∈ t.readers, ∀ device packet, r.phase = .send device packet →
      (t.update c).origin[device]? = some c.ws := by
    intro r hr device packet hphase
    by_cases hws : c.ws = t.client.ws
    · rw [hws]
      exact origin_update c (h.held r hr device packet hphase)
    · have hnone := (horderly.replaces hws).2 r hr
      simp [Reader.holdsPacket, hphase] at hnone
  refine ⟨?_, ?_, ?_, fun p hp => origin_update c (h.bound p hp)⟩
  · show (if _ then _ else t.readers).countP Reader.alive ≤ 1
    split
    · rename_i hstarts
      have hnone : t.readers.countP Reader.alive = 0 := by
        rw [List.countP_eq_zero]
        intro r hr
        rw [horderly.starts hstarts r hr]
        simp
      rw [List.countP_append, hnone, Nat.zero_add]
      exact List.countP_le_length
    · exact h.alone
  · intro d hd hopen
    have hws : c.ws = t.client.ws := by
      by_contra hws
      have hafter : c.tunOpen = true := tunOpen_iff.mpr ⟨d, hd, hopen⟩
      rw [(horderly.replaces hws).1] at hafter
      exact absurd hafter (by simp)
    -- the device was open before, or this step opens it
    obtain ⟨m, hm, hid⟩ := hmoves d hd hopen
    rw [← hid]
    show (t.update c).origin[m.id]? = some c.ws
    rw [hws]
    apply origin_update
    cases hbefore : t.client.tunOpen with
    | true =>
        obtain ⟨m', hm', hopen'⟩ := tunOpen_iff.mp hbefore
        obtain rfl : m' = m := Option.mem_unique hm' hm
        exact h.current m' hm hopen'
    | false =>
        have hconn := horderly.opens hbefore (tunOpen_iff.mpr ⟨d, hd, hopen⟩)
        unfold deviceConn at hconn
        rw [Option.mem_def.mp hm] at hconn
        exact hconn
  · intro r hr
    have hmem : r ∈ t.readers ∨ r = ⟨false, .head⟩ := by
      have hr' : r ∈ (if t.client.tunLoops < c.tunLoops then t.readers ++ [⟨false, .head⟩] else t.readers) := hr
      split at hr'
      · rw [List.mem_append, List.mem_singleton] at hr'
        exact hr'
      · exact Or.inl hr'
    rcases hmem with hmem | rfl
    · exact hheld r hmem
    · intro device packet hphase
      cases hphase

/-- `stop` respects the readers wherever it falls. -/
theorem orderly_of_retreats (h : Retreats t.client c) : t.Orderly c where
  starts := fun hlt => absurd h.loops (Nat.ne_of_gt hlt)
  opens := by
    intro hbefore hafter
    obtain ⟨d, hd, hopen⟩ := tunOpen_iff.mp hafter
    rw [tunOpen_iff.mpr ⟨d, h.tun d hd hopen, hopen⟩] at hbefore
    exact absurd hbefore (by simp)
  replaces := fun hws => absurd h.ws hws

/-- A step of a reading thread that is alive. -/
theorem Solo.setReader (h : t.Solo) {i : Nat} {r s : Reader} (hr : t.readers[i]? = some r)
    (halive : r.alive = true)
    (hheld : ∀ device packet, s.phase = .send device packet → t.origin[device]? = some t.client.ws) :
    (t.setReader i s).Solo := by
  obtain ⟨hi, hget⟩ := List.getElem?_eq_some_iff.mp hr
  refine ⟨?_, h.current, ?_, h.bound⟩
  · show (t.readers.set i s).countP Reader.alive ≤ 1
    have halone := h.alone
    rw [List.countP_set hi, hget, if_pos halive]
    split <;> omega
  · intro u hu device packet hphase
    rcases List.mem_or_eq_of_mem_set hu with hmem | rfl
    · exact h.held u hmem device packet hphase
    · exact hheld device packet hphase

/-- What a step can do. -/
inductive Step (deps : Deps) (t : Threads) : Turn → Threads → Prop where
  | handle {x : Event} (hidle : t.handling = .done) (hioc : t.client.iocStopped = false)
      (ha : t.client.awaits x = true) :
      Step deps t (.handle x) { t with handling := handler deps x, conn := x.transport.getD t.conn }
  | act {upd : Client → Client} {next : Client → Proc Client} (hhandling : t.handling = .act upd next) :
      Step deps t .act { t.update (upd t.client) with handling := next t.client }
  | signal : Step deps t .signal { t with stops := t.stops ++ [stop] }
  | stopAct {k : Nat} {upd : Client → Client} {next : Client → Proc Client}
      (hstop : t.stops[k]? = some (.act upd next)) :
      Step deps t (.stopAct k)
        { t.update (upd t.client) with stops := t.stops.set k (next t.client) }
  | moved {x : Turn} {i : Nat} {r r' : Reader} (hr : t.readers[i]? = some r) (halive : r.alive = true)
      (hheld : ∀ device packet, r'.phase = .send device packet →
        ∃ d ∈ t.client.tun, d.isOpen = true ∧ d.id = device) :
      Step deps t x (t.setReader i r')
  | sent {i : Nat} {r : Reader} {passed : Bool} {device : Nat} {packet : Bytes} (hr : t.readers[i]? = some r)
      (hphase : r.phase = .send device packet) :
      Step deps t (.send i) { t.setReader i ⟨passed, .head⟩ with
        client := t.client.onTunPacket packet
        sent := if t.client.wsConnected then t.sent ++ [(device, t.client.ws)] else t.sent }

theorem step_cases (h : step deps t e = some t') : Step deps t e t' := by
  cases e with
  | handle e =>
      simp only [step] at h
      split at h
      · rename_i hidle
        obtain ⟨⟨hioc, ha⟩, ⟨⟩⟩ := Option.ite_none_right_eq_some.mp h
        exact .handle hidle hioc ha
      · cases h
  | act =>
      simp only [step] at h
      split at h
      · cases h
      · rename_i hhandling
        cases h
        exact .act hhandling
  | signal =>
      cases h
      exact .signal
  | stopAct k =>
      simp only [step] at h
      split at h
      · rename_i hstop
        cases h
        exact .stopAct hstop
      · cases h
  | head i =>
      simp only [step] at h
      split at h
      · rename_i passed hr
        -- past the test, or out of the loop: neither holds a packet
        split at h
        · cases h
          exact .moved hr rfl fun _ _ hphase => nomatch hphase
        · cases h
          exact .moved hr rfl fun _ _ hphase => nomatch hphase
      · cases h
  | poll i ready =>
      simp only [step] at h
      split at h
      · rename_i passed d hr htun
        cases h
        refine .moved hr rfl fun _ _ hphase => ?_
        cases ready <;> exact nomatch hphase
      · cases h
  | read i data =>
      simp only [step] at h
      split at h
      · rename_i passed d hr htun
        cases h
        exact .moved hr rfl fun _ _ hphase => nomatch hphase
      · rename_i passed d packet hr htun
        obtain ⟨⟨hopen, -, -⟩, ⟨⟩⟩ := Option.ite_none_right_eq_some.mp h
        refine .moved hr rfl ?_
        intro device packet' hphase
        cases hphase
        exact ⟨d, htun, hopen, rfl⟩
      · cases h
  | send i =>
      simp only [step] at h
      split at h
      · rename_i passed device packet hr
        cases h
        exact .sent hr rfl
      · cases h

theorem tasks_step (h : t.Tasks) (hstep : step deps t e = some t') : t'.Tasks := by
  cases step_cases hstep with
  | handle _ _ _ => exact ⟨each_handler deps _, h.stops⟩
  | act hhandling =>
      have hhandler := h.handling
      rw [hhandling] at hhandler
      exact ⟨hhandler.2 t.client, h.stops⟩
  | signal =>
      refine ⟨h.handling, ?_⟩
      intro p hp
      rcases List.mem_append.mp hp with hp | hp
      · exact h.stops p hp
      · rw [List.mem_singleton.mp hp]
        exact each_stop
  | stopAct hstop =>
      refine ⟨h.handling, ?_⟩
      intro p hp
      rcases List.mem_or_eq_of_mem_set hp with hp | rfl
      · exact h.stops p hp
      · exact (h.stops _ (List.mem_of_getElem? hstop)).2 t.client
  | moved _ _ _ => exact ⟨h.handling, h.stops⟩
  | sent _ _ => exact ⟨h.handling, h.stops⟩

theorem solo_step (h : t.Solo) (ht : t.Tasks) (hdisc : t.Disciplined e)
    (hstep : step deps t e = some t') : t'.Solo := by
  cases step_cases hstep with
  | handle _ _ _ => exact ⟨h.alone, h.current, h.held, h.bound⟩
  | signal => exact ⟨h.alone, h.current, h.held, h.bound⟩
  | act hhandling =>
      -- the only steps that the condition is about
      have hhandler := ht.handling
      have horderly := hdisc
      unfold Disciplined at horderly
      rw [hhandling] at hhandler horderly
      have hupdate := h.update (hhandler.1 t.client) horderly
      exact ⟨hupdate.alone, hupdate.current, hupdate.held, hupdate.bound⟩
  | stopAct hstop =>
      have hretreats := (ht.stops _ (List.mem_of_getElem? hstop)).1 t.client
      have hupdate := h.update hretreats.moves (orderly_of_retreats hretreats)
      exact ⟨hupdate.alone, hupdate.current, hupdate.held, hupdate.bound⟩
  | moved hr halive hheld =>
      -- a thread that holds a packet now has read it from the open device
      apply h.setReader hr halive
      intro device packet hphase
      obtain ⟨d, hd, hopen, rfl⟩ := hheld device packet hphase
      exact h.current d hd hopen
  | @sent i r passed device packet hr hphase =>
      have halive : r.alive = true := by simp [Reader.alive, hphase]
      have hsolo := h.setReader (s := ⟨passed, .head⟩) hr halive fun _ _ hphase => nomatch hphase
      -- the client differs in what its transport has to send only
      have hgear := retreats_of_gear (onTunPacket_frame (f := gear) (fun _ _ => rfl) t.client packet)
      have hconn : t.origin[device]? = some t.client.ws := h.held r (List.mem_of_getElem? hr) device packet hphase
      refine ⟨hsolo.alone, ?_, ?_, ?_⟩
      · intro d hd hopen
        exact (h.current d (hgear.tun d hd hopen) hopen).trans (congrArg some hgear.ws.symm)
      · intro s hs device' packet' hphase'
        exact (hsolo.held s hs device' packet' hphase').trans (congrArg some hgear.ws.symm)
      · show ∀ p ∈ (if t.client.wsConnected then t.sent ++ [(device, t.client.ws)] else t.sent), _
        intro p hp
        split at hp
        · rcases List.mem_append.mp hp with hp | hp
          · exact h.bound p hp
          · rw [List.mem_singleton.mp hp]
            exact hconn
        · exact h.bound p hp

/-- **At most one reader, bound to its connection.** In every run whose handlers start a reading thread only
    after the earlier ones have ended, open a device only for the current transport, and replace a transport
    only when no device is open and no packet waits to be sent. -/
theorem readers_bound (deps : Deps) (config : ClientConfig) (serverIp originalGateway : Bytes) (host : Host)
    (es : List Turn) (t : Threads)
    (hdisc : Along (step deps) Disciplined (start config serverIp originalGateway host) es)
    (hrun : run (step deps) (start config serverIp originalGateway host) es = some t) : t.OneReader := by
  have hstart : (start config serverIp originalGateway host).Solo :=
    ⟨Nat.zero_le 1, nofun, nofun, nofun⟩
  have hinv : t.Solo ∧ t.Tasks := by
    apply run_invariant (I := fun t => t.Solo ∧ t.Tasks) _ hdisc ⟨hstart, each_done, nofun⟩ hrun
    rintro s e s' hC ⟨hsolo, htasks⟩ hstep
    exact ⟨solo_step hsolo htasks hC hstep, tasks_step htasks hstep⟩
  exact hinv.1.oneReader

/-- An event, and the steps of its handler. -/
def whole (e : Event) (steps : Nat) : List Turn := .handle e :: List.replicate steps .act

/-- Transport `i` connects. -/
def connects (i : Nat) : List Turn :=
  whole (.resolved i true) 1 ++ whole (.tcpConnected i true) 1 ++ whole (.sslHandshaken i true) 1 ++
    whole (.wsHandshaken i true 1000) 6

/-- An accepting `AuthResponse` arrives on transport `i`. -/
def accepts (i steps : Nat) : List Turn := whole (.read i sampleAuthResponse sampleEnv) steps

/-- Thread `i` reads a packet of 20 bytes. -/
def readsPacket (i : Nat) : List Turn :=
  [.head i, .poll i true, .read i (some (0x45 :: List.replicate 19 0))]

def sampleThreads : Threads := start sampleConfig (ascii "203.0.113.1") (ascii "192.168.1.1") sampleHost

/-- A write error ends the first connection; its thread finds no device and ends, and the client logs in
    again. -/
def reconnection : List Turn :=
  connects 0 ++ accepts 0 17 ++ readsPacket 0 ++ [.send 0] ++ whole (.writeDone 0 false) 17 ++ [.head 0] ++
    whole (.timer 0) 3 ++ connects 1 ++ accepts 1 17 ++ readsPacket 1 ++ [.send 1]

theorem readers_bound_after_reconnect :
    Along (step responseDeps) Disciplined sampleThreads reconnection ∧
      ∃ t, run (step responseDeps) sampleThreads reconnection = some t ∧ t.sent = [(0, 0), (1, 1)] ∧
        t.OneReader := by
  have hdisc : Along (step responseDeps) Disciplined sampleThreads reconnection := by decide +kernel
  have hany : ((run (step responseDeps) sampleThreads reconnection).any
      fun t => t.sent = [(0, 0), (1, 1)]) = true := by
    decide +kernel
  obtain ⟨t, hrun, hsent⟩ := Option.any_eq_true _ _ |>.mp hany
  exact ⟨hdisc, t, hrun, of_decide_eq_true hsent,
    readers_bound responseDeps sampleConfig _ _ sampleHost reconnection t hdisc hrun⟩

/-- A second accepting `AuthResponse` on the connection, while the first thread reads. -/
def secondAcceptance : List Turn := connects 0 ++ accepts 0 17 ++ [.head 0] ++ accepts 0 18 ++ [.head 1]

/-- A packet that waits while the connection fails and the client reconnects. -/
def lateSend : List Turn :=
  connects 0 ++ accepts 0 17 ++ readsPacket 0 ++ whole (.writeDone 0 false) 17 ++ whole (.timer 0) 3 ++
    connects 1 ++ [.send 0]

/-- **Two readers on one device**, and a packet of the first connection on the second. -/
theorem readers_collide :
    (∃ t, run (step responseDeps) sampleThreads secondAcceptance = some t ∧
        t.readers.countP Reader.active = 2 ∧ ¬ t.OneReader) ∧
      ∃ t, run (step responseDeps) sampleThreads lateSend = some t ∧ t.origin = [0] ∧ t.sent = [(0, 1)] ∧
        ¬ t.OneReader := by
  constructor
  · have hany : ((run (step responseDeps) sampleThreads secondAcceptance).any
        fun t => t.readers.countP Reader.active = 2) = true := by
      decide +kernel
    obtain ⟨t, hrun, htwo⟩ := Option.any_eq_true _ _ |>.mp hany
    have hcount : t.readers.countP Reader.active = 2 := of_decide_eq_true htwo
    refine ⟨t, hrun, hcount, fun hone => ?_⟩
    have halone := hone.alone
    omega
  · have hany : ((run (step responseDeps) sampleThreads lateSend).any
        fun t => t.origin = [0] ∧ t.sent = [(0, 1)]) = true := by
      decide +kernel
    obtain ⟨t, hrun, hlate⟩ := Option.any_eq_true _ _ |>.mp hany
    obtain ⟨horigin, hsent⟩ : t.origin = [0] ∧ t.sent = [(0, 1)] := of_decide_eq_true hlate
    refine ⟨t, hrun, horigin, hsent, fun hone => ?_⟩
    obtain ⟨i, hi, hle⟩ := hone.bound (0, 1) (by rw [hsent]; exact List.mem_singleton.mpr rfl)
    rw [horigin] at hi
    obtain rfl : 0 = i := Option.some.inj hi
    exact absurd hle (by decide)

end Threads

end Client
end Kirdi
