import Kirdi.Transport.Discipline
import Kirdi.Tunnel.Fidelity

/-!
# `Tunnel.Drain` — what is passed to `send` gets there

`Tunnel.Fidelity` says what never happens to the packets of a tunnel. Here is what must happen. Left to
itself (`send` calls enter the queue, the strand runs its handlers, every write succeeds), a transport comes
to rest in every order of its steps, since each of them brings `work` down. At rest a live transport
has handed over everything (`flush_complete`): nothing waits for a wake-up that was lost.

With the other end reading, the same holds of a direction of the tunnel: it comes to rest, and by then every
packet has come out, unless the handler of a message does not return (`tunnel_delivers`).
-/

set_option linter.dupNamespace false

namespace Kirdi
namespace Tunnel

open Protocol EventMachine
open Transport (Kind Op Handler)
open Client (Client)
open Server (ClientSession)

variable {k : Kind} {ws ws' : Transport.Transport} {ev : Transport.Event} {l l' : Lane}

/-! ## The work that is left -/

def opWork : Op → Nat
  | .send _ => 8
  | .close => 2

def handlerWork : Option Handler → Nat
  | none => 0
  | some .doWrite => 1
  | some .writeTaken => 4
  | some (.callback todo) => 1 + (todo.map opWork).sum
  | some (.callbackPush _ todo) => 8 + (todo.map opWork).sum
  | some (.callbackClose todo) => 2 + (todo.map opWork).sum

/-- A frame costs one step less at each station on its way. -/
def work (ws : Transport.Transport) : Nat :=
  7 * ws.senders.length + 4 * ws.writeQueue.length + 2 * ws.posted + 2 * ws.writes + handlerWork ws.handler

/-- What the other end has yet to read is work as well. -/
def Lane.work (l : Lane) : Nat := Tunnel.work l.ws + l.net.length

theorem work_push (ws : Transport.Transport) (data : Bytes) :
    work (ws.push data) ≤ work ws + 6 ∧ (ws.push data).handed = ws.handed := by
  refine ⟨?_, rfl⟩
  simp only [work, Transport.Transport.push, List.length_append, List.length_singleton]
  split <;> omega

theorem work_doWrite (hd : ws.handler = none) :
    work (ws.doWrite k) ≤ work ws + 1 ∧ (ws.doWrite k).handed = ws.handed := by
  refine ⟨?_, rfl⟩
  simp only [work, Transport.Transport.doWrite, hd]
  split <;> simp [handlerWork]

theorem work_doRead (ws : Transport.Transport) :
    work (ws.doRead k) = work ws ∧ (ws.doRead k).handed = ws.handed := by
  obtain ⟨r, hr, -⟩ := Transport.doRead_spec k ws
  rw [hr]
  exact ⟨rfl, rfl⟩

/-- The handler goes on, and nothing else changes. -/
theorem work_handler {hd hd' : Option Handler} (heq : ws.handler = hd) :
    work { ws with handler := hd' } + handlerWork hd = work ws + handlerWork hd' := by
  simp only [work, heq]
  omega

/-- **Every own step leaves less work**, a frame handed to `async_write` counted as one step for its reader. -/
theorem work_step (hown : clientStep ev = true) (hstep : Transport.step k ws ev = some ws') :
    work ws' + ws'.handed.length < work ws + ws.handed.length := by
  have hgoes : ∀ {hd hd' : Option Handler}, ws.handler = hd → handlerWork hd' < handlerWork hd →
      work { ws with handler := hd' } + ws.handed.length < work ws + ws.handed.length := by
    intro hd hd' heq hlt
    have hwork : work { ws with handler := hd' } + handlerWork hd = work ws + handlerWork hd' := work_handler heq
    omega
  cases Transport.step_cases hstep with
  | sent | refused | read | readError | close | closed | closeReturn => exact absurd hown (by simp [clientStep])
  | pushed i data hi =>
      have hlt : i < ws.senders.length := (List.getElem?_eq_some_iff.mp hi).1
      obtain ⟨hpush, hhanded⟩ := work_push { ws with senders := ws.senders.eraseIdx i } data
      have herase : work { ws with senders := ws.senders.eraseIdx i } + 7 = work ws := by
        simp only [work, List.length_eraseIdx_of_lt hlt]
        omega
      rw [hhanded]
      exact Nat.add_lt_add_right (by omega) _
  | doWrite hd hp =>
      obtain ⟨hbegun, hhanded⟩ := @work_doWrite k { ws with posted := ws.posted - 1 } hd
      have hposted : work { ws with posted := ws.posted - 1 } + 2 = work ws := by
        simp only [work]
        omega
      rw [hhanded]
      exact Nat.add_lt_add_right (by omega) _
  | lock hd =>
      unfold Transport.Transport.lock
      split
      · exact hgoes hd (by simp [handlerWork])
      · rename_i data rest hq
        simp only [work, hd, hq, handlerWork, List.length_cons]
        omega
  | startWrite hd =>
      simp only [work, Transport.Transport.startWrite, hd, handlerWork, List.length_append, List.length_singleton]
      omega
  | writeDone ok hd hw =>
      cases ok with
      | false => exact absurd hown (by simp [clientStep])
      | true =>
          obtain ⟨hdone, hhanded⟩ := @work_doWrite k { ws with writes := ws.writes - 1 } hd
          have hwrites : work { ws with writes := ws.writes - 1 } + 2 = work ws := by
            simp only [work]
            omega
          have htrue : ({ ws with writes := ws.writes - 1 } : Transport.Transport).onWrite k true =
              ({ ws with writes := ws.writes - 1 } : Transport.Transport).doWrite k := rfl
          rw [htrue, hhanded]
          exact Nat.add_lt_add_right (by omega) _
  | finished hd =>
      obtain ⟨hread, hhanded⟩ := work_doRead (k := k) { ws with handler := none }
      rw [hread, hhanded]
      exact hgoes hd (by simp [handlerWork])
  | callSend data todo hd hg => exact hgoes hd (by simp [handlerWork, opWork])
  | callRefused data todo hd hg => exact hgoes hd (by simp [handlerWork, opWork])
  | callPush data todo hd =>
      obtain ⟨hpush, hhanded⟩ := work_push { ws with handler := some (.callback todo) } data
      have hcall : work { ws with handler := some (.callback todo) } + handlerWork _ =
          work ws + handlerWork (some (.callback todo)) := work_handler hd
      simp only [handlerWork] at hcall
      rw [hhanded]
      exact Nat.add_lt_add_right (by omega) _
  | callClose todo ws₁ hd hc =>
      obtain ⟨-, -, c, c', rfl⟩ := Transport.beginClose_spec hc
      exact hgoes hd (by simp [handlerWork, opWork])
  | callClosed todo hd hc => exact hgoes hd (by simp [handlerWork, opWork])
  | callReturn todo hd => exact hgoes hd (by simp [handlerWork])

/-! ## A transport at rest -/

/-- A transport left to its own steps. -/
def flush (k : Kind) : Transport.Transport → Transport.Event → Option Transport.Transport :=
  only clientStep (Transport.step k)

/-- A transport that is live and not in a callback is reading. -/
def Attentive (ws : Transport.Transport) : Prop := ws.live = true → ws.pending = none → ws.reading = true

theorem live_step (hl : ws'.live = true) (hstep : Transport.step k ws ev = some ws') : ws.live = true := by
  unfold Transport.Transport.live at hl ⊢
  -- `connected` only falls and `closing` only rises
  cases Transport.step_cases hstep with
  | readError => exact absurd hl (by simp [Transport.Transport.onReadError])
  | lock hd =>
      unfold Transport.Transport.lock at hl
      split at hl <;> exact hl
  | writeDone ok hd hw =>
      cases ok with
      | true => exact hl
      | false =>
          obtain ⟨c, hc, hdead, -⟩ := Transport.onWrite_error k { ws with writes := ws.writes - 1 }
          rw [hc] at hl
          exact absurd (hl.symm.trans hdead) (by simp)
  | finished hd =>
      obtain ⟨r, hr, -⟩ := Transport.doRead_spec k { ws with handler := none }
      rw [hr] at hl
      exact hl
  | callClose todo ws₁ hd hc | close ws₁ hc =>
      have hdead := (Transport.beginClose_spec hc).2.1
      exact absurd (hl.symm.trans hdead) (by simp)
  | _ => exact hl

theorem live_of_run {fs : List Transport.Event} (hl : ws'.live = true) (hrun : run (flush k) ws fs = some ws') :
    ws.live = true := by
  induction fs generalizing ws with
  | nil =>
      cases hrun
      exact hl
  | cons ev fs ih =>
      obtain ⟨m, hm, hrest⟩ := run_cons.mp hrun
      exact live_step (ih hrest) (only_eq_some.mp hm).2

theorem pending_of_handler {hd : Option Handler} (h : ws.handler = hd) :
    ws.pending = ({ ws with handler := hd } : Transport.Transport).pending := by
  subst h
  rfl

theorem attentive_start (todo : List Op) : Attentive (Transport.Transport.start todo) := by
  intro _ hpending
  exact absurd hpending (by simp [Transport.Transport.pending, Transport.Transport.start])

/-- **Every step keeps it**: a callback ends with `do_read`. -/
theorem attentive_step (h : Attentive ws) (hstep : Transport.step k ws ev = some ws') : Attentive ws' := by
  intro hl hpending
  have hlive := live_step hl hstep
  -- the strand is not in a callback, before the step or after it
  have hsame : ∀ {hd : Option Handler}, ws.handler = hd →
      ({ ws with handler := hd } : Transport.Transport).pending = none → ws.reading = true :=
    fun heq hnone => h hlive ((pending_of_handler heq).trans hnone)
  cases Transport.step_cases hstep with
  | readError => exact absurd hl (by simp [Transport.Transport.live, Transport.Transport.onReadError])
  | doWrite hd hp => exact hsame hd rfl
  | lock hd =>
      unfold Transport.Transport.lock
      split <;> exact hsame hd rfl
  | startWrite hd => exact hsame hd rfl
  | writeDone ok hd hw =>
      cases ok with
      | true => exact hsame hd rfl
      | false =>
          obtain ⟨c, hc, -, -⟩ := Transport.onWrite_error k { ws with writes := ws.writes - 1 }
          rw [hc]
          exact hsame hd rfl
  | finished hd =>
      obtain ⟨r, hr, hgate⟩ := Transport.doRead_spec k { ws with handler := none }
      rw [hr]
      apply hgate
      by_contra hclosed
      have hdead := Transport.live_of_not_gate (Bool.eq_false_of_not_eq_true hclosed)
      exact absurd (hlive.symm.trans hdead) (by simp)
  | callClose todo ws₁ hd hc | close ws₁ hc =>
      have hdead := (Transport.beginClose_spec hc).2.1
      exact absurd (hl.symm.trans hdead) (by simp)
  | read | callSend | callRefused | callPush | callClosed | callReturn =>
      exact absurd hpending (by simp [Transport.Transport.pending, Transport.Transport.push])
  | sent | refused | pushed | closed | closeReturn => exact h hl hpending

/-- **A transport is at rest** when its strand is free, nobody is in `send`, and no handler is to come. -/
theorem flush_stuck_iff :
    Stuck (flush k) ws ↔ ws.handler = none ∧ ws.senders = [] ∧ ws.posted = 0 ∧ ws.writes = 0 := by
  constructor
  · intro hstuck
    have hnone : ∀ ev, clientStep ev = true → Transport.step k ws ev = none := stuck_only.mp hstuck
    have hhandler : ws.handler = none := by
      have hadvance : ws.advance k = none := hnone .advance rfl
      have hlock := hnone .lock rfl
      have hstart := hnone .startWrite rfl
      unfold Transport.Transport.advance at hadvance
      cases hd : ws.handler with
      | none => rfl
      | some hd' =>
          cases hd' with
          | doWrite => simp [Transport.step, hd] at hlock
          | writeTaken => simp [Transport.step, hd] at hstart
          | callback todo =>
              cases todo with
              | nil => simp [hd] at hadvance
              | cons op todo =>
                  cases op with
                  | send data => simp [hd] at hadvance
                  | close =>
                      simp only [hd] at hadvance
                      split at hadvance <;> simp at hadvance
          | callbackPush data todo => simp [hd] at hadvance
          | callbackClose todo => simp [hd] at hadvance
    have hpush := hnone (.sendPush 0) rfl
    have hdo := hnone .doWrite rfl
    have hdone := hnone (.writeDone true) rfl
    simp only [Transport.step, hhandler, true_and, ite_eq_right_iff, reduceCtorEq, imp_false, Nat.not_lt,
      Nat.le_zero] at hdo hdone
    refine ⟨hhandler, ?_, hdo, hdone⟩
    cases hs : ws.senders with
    | nil => rfl
    | cons data rest => simp [Transport.step, Transport.Transport.sendPush, hs] at hpush
  · rintro ⟨hhandler, hsenders, hposted, hwrites⟩
    refine stuck_only.mpr ?_
    intro ev hown
    cases ev with
    | sendPush i => simp [Transport.step, Transport.Transport.sendPush, hsenders]
    | doWrite => simp [Transport.step, hposted]
    | lock => simp [Transport.step, hhandler]
    | startWrite => simp [Transport.step, hhandler]
    | writeDone ok => simp [Transport.step, hwrites]
    | advance => simp [Transport.step, Transport.Transport.advance, hhandler]
    | send | read | readError | close | closeReturn => exact absurd hown (by simp [clientStep])

/-- On a live transport nobody is left to take the next frame only when none is left to take. -/
theorem rest_of_stuck (h : Transport.Inv ws) (hl : ws.live = true) (hstuck : Stuck (flush k) ws) :
    ws.handler = none ∧ ws.senders = [] ∧ ws.writing = false := by
  obtain ⟨hhandler, hsenders, hposted, hwrites⟩ := flush_stuck_iff.mp hstuck
  refine ⟨hhandler, hsenders, ?_⟩
  by_contra hwriting
  have hbusy := h.busy hl (Bool.eq_true_of_not_eq_false hwriting)
  rw [Transport.writers_of_idle hhandler, hposted, hwrites] at hbusy
  exact absurd hbusy (by decide)

theorem handed_of_rest (h : Transport.Inv ws) (hhandler : ws.handler = none) (hwriting : ws.writing = false) :
    ws.handed = ws.pushed := by
  rw [h.ordered, Transport.held_of_idle hhandler, (h.idle hwriting).2, List.append_nil, List.append_nil]

theorem handed_grows (hstep : Transport.step k ws ev = some ws') : ws.handed <+: ws'.handed := by
  rcases Transport.step_frames hstep with ⟨-, hsame⟩ | ⟨data, -, hsame⟩ | ⟨-, -, hstart⟩
  · rw [hsame]
  · rw [hsame]
  · rw [hstart]
    exact List.prefix_append _ _

/-- **Left to itself, a transport comes to rest**, from every state and in every order of its steps. -/
theorem flush_terminates (ws : Transport.Transport) : Terminates (flush k) ws := by
  refine terminates_of_decreasing work ?_ ws
  intro s ev s' hstep
  obtain ⟨hown, hstep⟩ := only_eq_some.mp hstep
  have hless := work_step hown hstep
  have hgrows := (handed_grows hstep).length_le
  omega

/-- Everything that was ever passed to `send`, wherever it is. -/
def issued (ws : Transport.Transport) : List Bytes := ws.pushed ++ ws.senders ++ called ws

/-- What the event passes to `send`. -/
def requested : Transport.Event → List Bytes
  | .send data => [data]
  | .read calls => calls.filterMap sentFrame
  | _ => []

/-- The handler goes on to what sends the same frames. -/
theorem issued_handler {hd : Option Handler} (heq : ws.handler = hd) (hpushed : ws'.pushed = ws.pushed)
    (hsenders : ws'.senders = ws.senders) (hcalled : called ws' = called { ws with handler := hd }) :
    issued ws' = issued ws := by
  unfold issued
  rw [hpushed, hsenders, hcalled, ← called_of_handler heq]

/-- **A step only moves what was passed to `send`**, from one place to the next; it drops some of it at a closed
    gate only. -/
theorem issued_step (hstep : Transport.step k ws ev = some ws') :
    (issued ws').Subperm (issued ws ++ requested ev) ∧
      (ws'.gate k = true → (issued ws').Perm (issued ws ++ requested ev)) := by
  have hperm : (issued ws').Perm (issued ws ++ requested ev) →
      (issued ws').Subperm (issued ws ++ requested ev) ∧
        (ws'.gate k = true → (issued ws').Perm (issued ws ++ requested ev)) := fun h => ⟨h.subperm, fun _ => h⟩
  have hsame : issued ws' = issued ws → requested ev = [] → (issued ws').Perm (issued ws ++ requested ev) := by
    intro heq hnone
    rw [heq, hnone, List.append_nil]
  cases Transport.step_cases hstep with
  | sent data _ =>
      refine hperm ?_
      show (ws.pushed ++ (ws.senders ++ [data]) ++ called ws).Perm (ws.pushed ++ ws.senders ++ called ws ++ [data])
      simp only [List.append_assoc]
      exact (List.perm_append_comm.append_left ws.senders).append_left ws.pushed
  | refused data hclosed =>
      exact ⟨(List.sublist_append_left _ _).subperm, fun hopen => absurd (hopen.symm.trans hclosed) (by simp)⟩
  | pushed i data hi =>
      obtain ⟨hlt, rfl⟩ := List.getElem?_eq_some_iff.mp hi
      have hmoved := (List.getElem_cons_eraseIdx_perm hlt).append_right (called ws)
      refine hperm ?_
      show ((ws.pushed ++ [ws.senders[i]]) ++ ws.senders.eraseIdx i ++ called ws).Perm
        (ws.pushed ++ ws.senders ++ called ws ++ [])
      rw [List.append_nil, List.append_assoc, List.append_assoc, List.singleton_append, List.append_assoc]
      exact hmoved.append_left ws.pushed
  | doWrite hd hp =>
      refine hperm (hsame (issued_handler hd rfl rfl ?_) rfl)
      unfold called Transport.Transport.doWrite
      cases ({ ws with posted := ws.posted - 1 } : Transport.Transport).gate k <;> rfl
  | lock hd =>
      refine hperm (hsame ?_ rfl)
      unfold Transport.Transport.lock
      split <;> exact issued_handler hd rfl rfl rfl
  | startWrite hd => exact hperm (hsame (issued_handler hd rfl rfl rfl) rfl)
  | writeDone ok hd hw =>
      refine hperm (hsame ?_ rfl)
      cases ok with
      | true =>
          refine issued_handler hd rfl rfl ?_
          unfold called Transport.Transport.onWrite Transport.Transport.doWrite
          rw [if_pos rfl]
          cases ({ ws with writes := ws.writes - 1 } : Transport.Transport).gate k <;> rfl
      | false =>
          obtain ⟨c, hc, -, -⟩ := Transport.onWrite_error k { ws with writes := ws.writes - 1 }
          rw [hc]
          rfl
  | read calls hd _ =>
      refine hperm ?_
      have hnone : called ws = [] := called_of_handler hd
      show (ws.pushed ++ ws.senders ++ calls.filterMap sentFrame).Perm
        (ws.pushed ++ ws.senders ++ called ws ++ calls.filterMap sentFrame)
      rw [hnone, List.append_nil]
  | readError | closed | closeReturn => exact hperm (hsame rfl rfl)
  | finished hd =>
      obtain ⟨r, hr, -⟩ := Transport.doRead_spec k { ws with handler := none }
      rw [hr] at hperm hsame ⊢
      exact hperm (hsame (issued_handler hd rfl rfl rfl) rfl)
  | callSend data todo hd _ => exact hperm (hsame (issued_handler hd rfl rfl rfl) rfl)
  | callRefused data todo hd hclosed =>
      have hcalled : called ws = data :: todo.filterMap sentFrame := called_of_handler hd
      have hstill : ({ ws with handler := some (.callback todo) } : Transport.Transport).gate k = false := by
        cases k <;> exact hclosed
      refine ⟨?_, fun hopen => absurd (hopen.symm.trans hstill) (by simp)⟩
      show (ws.pushed ++ ws.senders ++ todo.filterMap sentFrame).Subperm (ws.pushed ++ ws.senders ++ called ws ++ [])
      rw [hcalled, List.append_nil]
      exact ((List.sublist_cons_self _ _).append_left _).subperm
  | callPush data todo hd =>
      have hcalled : called ws = data :: todo.filterMap sentFrame := called_of_handler hd
      refine hperm ?_
      show ((ws.pushed ++ [data]) ++ ws.senders ++ todo.filterMap sentFrame).Perm
        (ws.pushed ++ ws.senders ++ called ws ++ [])
      rw [hcalled, List.append_nil, List.append_assoc, List.append_assoc, List.append_assoc, List.singleton_append]
      exact List.perm_middle.symm.append_left ws.pushed
  | callClose todo ws₁ hd hc =>
      obtain ⟨-, -, c, c', rfl⟩ := Transport.beginClose_spec hc
      exact hperm (hsame (issued_handler hd rfl rfl rfl) rfl)
  | callClosed todo hd _ => exact hperm (hsame (issued_handler hd rfl rfl rfl) rfl)
  | callReturn todo hd => exact hperm (hsame (issued_handler hd rfl rfl rfl) rfl)
  | close ws₁ hc =>
      obtain ⟨-, -, c, c', rfl⟩ := Transport.beginClose_spec hc
      exact hperm (hsame rfl rfl)

theorem gate_of_live (h : ws.live = true) : ws.gate k = true := by
  by_contra hclosed
  have hdead := Transport.live_of_not_gate (Bool.eq_false_of_not_eq_true hclosed)
  exact absurd (h.symm.trans hdead) (by simp)

theorem requested_own (hown : clientStep ev = true) : requested ev = [] := by
  cases ev with
  | send | read => exact absurd hown (by simp [clientStep])
  | _ => rfl

theorem issued_run {fs : List Transport.Event} (hl : ws'.live = true) (hrun : run (flush k) ws fs = some ws') :
    (issued ws').Perm (issued ws) := by
  induction fs generalizing ws with
  | nil =>
      cases hrun
      exact List.Perm.refl _
  | cons ev fs ih =>
      obtain ⟨m, hm, hrest⟩ := run_cons.mp hrun
      obtain ⟨hown, hstep⟩ := only_eq_some.mp hm
      have hmid : m.live = true := live_of_run hl hrest
      have hmoved := (issued_step hstep).2 (gate_of_live hmid)
      rw [requested_own hown, List.append_nil] at hmoved
      exact (ih hrest).trans hmoved

/-- **No frame is left behind.** From every reachable state of a transport, whatever the order of its own steps,
    they come to an end, and if it is live then, each frame passed to `send` before has been handed to
    `async_write`, once. -/
theorem flush_complete {todo : List Op} {es : List Transport.Event}
    (hrun : run (Transport.step k) (Transport.Transport.start todo) es = some ws) :
    Terminates (flush k) ws ∧
      ∀ fs ws', run (flush k) ws fs = some ws' → Stuck (flush k) ws' → ws'.live = true →
        ws'.handed = ws'.pushed ∧ ws'.handed.Perm (ws.pushed ++ ws.senders ++ called ws) := by
  refine ⟨flush_terminates ws, ?_⟩
  intro fs ws' hflush hstuck hl
  have hinv : Transport.Inv ws' :=
    Transport.inv_of_run (run_append.mpr ⟨ws, hrun, run_of_only hflush⟩)
  obtain ⟨hhandler, hsenders, hwriting⟩ := rest_of_stuck hinv hl hstuck
  have hhanded := handed_of_rest hinv hhandler hwriting
  refine ⟨hhanded, ?_⟩
  have hissued : issued ws' = ws'.pushed := by
    unfold issued
    rw [hsenders, called_of_handler hhandler, List.append_nil]
    exact List.append_nil _
  rw [hhanded, ← hissued]
  exact issued_run hl hflush

/-- Two frames, the second one pushed while the first is being taken. -/
theorem flush_complete_two :
    Terminates (flush .wsServerSession) Transport.twoSent ∧
      ∃ ws, run (flush .wsServerSession) Transport.twoSent
          [.lock, .startWrite, .writeDone true, .lock, .startWrite, .writeDone true, .lock] = some ws ∧
        ws.handed = ws.pushed ∧ ws.handed.Perm [[1], [2]] := by
  obtain ⟨hterm, hall⟩ := flush_complete (k := .wsServerSession) Transport.twoSends_run
  obtain ⟨ws, hws, hrest⟩ := Option.any_eq_true _ _ |>.mp
    (show (run (flush .wsServerSession) Transport.twoSent
      [.lock, .startWrite, .writeDone true, .lock, .startWrite, .writeDone true, .lock]).any (fun ws =>
        ws.handler = none && ws.senders = [] && ws.posted = 0 && ws.writes = 0 && ws.live) = true by decide +kernel)
  simp only [Bool.and_eq_true, decide_eq_true_eq] at hrest
  obtain ⟨⟨⟨⟨hhandler, hsenders⟩, hposted⟩, hwrites⟩, hl⟩ := hrest
  exact ⟨hterm, ws, hws, hall _ ws hws (flush_stuck_iff.mpr ⟨hhandler, hsenders, hposted, hwrites⟩) hl⟩

/-! ## The two transports of a tunnel -/

variable {deps : Deps} {t t' : Tunnel} {e : Event}

theorem ran_drive (hdrive : l.drive k ev = some l') : ∃ evs, run (Transport.step k) l.ws evs = some l'.ws := by
  obtain ⟨ws, hws, rfl⟩ := Option.map_eq_some_iff.mp hdrive
  exact ⟨[ev], run_cons.mpr ⟨ws, hws, rfl⟩⟩

theorem ran_give (l : Lane) (packet data : Bytes) :
    ∃ evs, run (Transport.step k) l.ws evs = some (l.give k packet data).ws :=
  ⟨[.send data], run_cons.mpr ⟨_, rfl, rfl⟩⟩

/-- Each step of a tunnel is a step or none of either transport. -/
theorem step_transports (hstep : step deps k t e = some t') :
    (∃ evs, run (Transport.step .wsClientTransport) t.up.ws evs = some t'.up.ws) ∧
      ∃ evs, run (Transport.step k) t.down.ws evs = some t'.down.ws := by
  cases step_moves hstep with
  | packetSent _ _ => exact ⟨ran_give _ _ _, [], rfl⟩
  | packetDropped _ => exact ⟨⟨[], rfl⟩, [], rfl⟩
  | clientSend _ _ hdrive | client _ hdrive | clientRead _ hdrive | clientReadError hdrive
  | clientWriteError hdrive => exact ⟨ran_drive hdrive, [], rfl⟩
  | routed _ _ => exact ⟨⟨[], rfl⟩, ran_give _ _ _⟩
  | server _ hdrive | serverRead _ _ hdrive => exact ⟨⟨[], rfl⟩, ran_drive hdrive⟩

/-- **Both transports of a tunnel run as transports do**, so what holds of every run of a transport holds of
    them. -/
theorem transports_of_run {client : Client} {session : ClientSession} {hello : Bytes} {es : List Event}
    (hrun : run (step deps k) (Tunnel.start client session hello) es = some t) :
    (∃ evs, run (Transport.step .wsClientTransport) (Transport.Transport.start [.send hello]) evs = some t.up.ws) ∧
      ∃ evs, run (Transport.step k) (Transport.Transport.start []) evs = some t.down.ws := by
  refine run_invariant' (I := fun t : Tunnel =>
    (∃ evs, run (Transport.step .wsClientTransport) (Transport.Transport.start [.send hello]) evs = some t.up.ws) ∧
      ∃ evs, run (Transport.step k) (Transport.Transport.start []) evs = some t.down.ws) ?_ ⟨⟨[], rfl⟩, [], rfl⟩ hrun
  rintro t e t' ⟨⟨ups, hup⟩, downs, hdown⟩ hstep
  obtain ⟨⟨ups', hup'⟩, downs', hdown'⟩ := step_transports hstep
  exact ⟨⟨ups ++ ups', run_append.mpr ⟨_, hup, hup'⟩⟩, downs ++ downs', run_append.mpr ⟨_, hdown, hdown'⟩⟩

theorem attentive_of_run {todo : List Op} {evs : List Transport.Event}
    (hrun : run (Transport.step k) (Transport.Transport.start todo) evs = some ws) : Attentive ws :=
  run_invariant' (fun _ _ _ h hstep => attentive_step h hstep) (attentive_start todo) hrun

/-! ## One direction of a tunnel -/

/-- The session reads what the client sends. -/
def uplink : Event → Bool
  | .client _ | .serverRead _ => true
  | .server ev => clientStep ev
  | _ => false

/-- The client reads what the session sends. -/
def downlink : Event → Bool
  | .client _ | .clientRead _ => true
  | .server ev => clientStep ev
  | _ => false

theorem Lane.work_drive (hown : clientStep ev = true) (hdrive : l.drive k ev = some l') : l'.work < l.work := by
  obtain ⟨ws, hws, rfl⟩ := Option.map_eq_some_iff.mp hdrive
  have hless := work_step hown hws
  have hgrows := (handed_grows hws).length_le
  simp only [Lane.work, List.length_append, List.length_drop]
  omega

theorem Lane.work_take {message : Bytes} {rest : List Bytes} (hnet : l.net = message :: rest) (packets : List Bytes) :
    (l.take packets).work < l.work := by
  simp only [Lane.work, Lane.take, hnet, List.tail_cons, List.length_cons]
  omega

theorem work_lt (hown : clientStep ev = true) (hdrive : l.drive k ev = some l') : Tunnel.work l'.ws < Tunnel.work l.ws := by
  obtain ⟨ws, hws, rfl⟩ := Option.map_eq_some_iff.mp hdrive
  have hless := work_step hown hws
  have hgrows := (handed_grows hws).length_le
  show Tunnel.work ws < Tunnel.work l.ws
  omega

/-- A read makes work for the other transport, but its own direction has less. -/
theorem uplink_terminates (t : Tunnel) : Terminates (only uplink (step deps k)) t := by
  refine terminates_of_decreasing (fun t : Tunnel => toLex (t.up.work, Tunnel.work t.down.ws)) ?_ t
  intro t e t' hstep
  obtain ⟨hup, hstep⟩ := only_eq_some.mp hstep
  cases step_moves hstep with
  | client hev hdrive => exact Prod.Lex.left _ _ (Lane.work_drive hev hdrive)
  | server _ hdrive => exact Prod.Lex.right _ (work_lt hup hdrive)
  | serverRead hnet _ _ => exact Prod.Lex.left _ _ (Lane.work_take hnet _)
  | packetSent | packetDropped | clientSend | clientRead | clientReadError | clientWriteError | routed =>
      exact absurd hup (by simp [uplink])

theorem downlink_terminates (t : Tunnel) : Terminates (only downlink (step deps k)) t := by
  refine terminates_of_decreasing (fun t : Tunnel => toLex (t.down.work, Tunnel.work t.up.ws)) ?_ t
  intro t e t' hstep
  obtain ⟨hdown, hstep⟩ := only_eq_some.mp hstep
  cases step_moves hstep with
  | client hev hdrive => exact Prod.Lex.right _ (work_lt hev hdrive)
  | server _ hdrive => exact Prod.Lex.left _ _ (Lane.work_drive hdown hdrive)
  | clientRead hnet _ => exact Prod.Lex.left _ _ (Lane.work_take hnet _)
  | packetSent | packetDropped | clientSend | serverRead | clientReadError | clientWriteError | routed =>
      exact absurd hdown (by simp [downlink])

/-! ## A tunnel at rest -/

/-- Where no step of the uplink is left, both transports have come to rest. -/
theorem flush_stuck (hstuck : Stuck (only uplink (step deps k)) t ∨ Stuck (only downlink (step deps k)) t)
    (hserved : t.client.iocStopped = false) :
    Stuck (flush .wsClientTransport) t.up.ws ∧ Stuck (flush k) t.down.ws := by
  have hnone : ∀ e, uplink e = true → downlink e = true → step deps k t e = none := by
    intro e hup hdown
    rcases hstuck with h | h
    · exact stuck_only.mp h e hup
    · exact stuck_only.mp h e hdown
  refine ⟨stuck_only.mpr ?_, stuck_only.mpr ?_⟩
  · intro ev hown
    have hclient := hnone (.client ev) rfl rfl
    have hon : t.served = true := by
      unfold Tunnel.served
      rw [hserved]
      rfl
    unfold step at hclient
    simp only [hown, hon, and_self, if_true, Option.map_eq_none_iff, Lane.drive] at hclient
    exact hclient
  · intro ev hown
    have hserver := hnone (.server ev) hown hown
    have hev : serverStep ev = true := by
      cases ev with
      | send | read | readError | close | closeReturn => exact absurd hown (by simp [clientStep])
      | sendPush | doWrite | lock | startWrite | writeDone | advance => rfl
    unfold step at hserver
    simp only [hev, if_true, Option.map_eq_none_iff, Lane.drive] at hserver
    exact hserver

/-- A live transport at rest is ready for the next message. -/
theorem read_ready (hatt : Attentive ws) (hl : ws.live = true) (hhandler : ws.handler = none) (calls : List Op) :
    ∃ ws', Transport.step k ws (.read calls) = some ws' := by
  have hpending : ws.pending = none := (pending_of_handler hhandler).trans rfl
  exact ⟨_, if_pos ⟨hhandler, hatt hl hpending⟩⟩

theorem given_drive (hdrive : l.drive k ev = some l') : l'.given = l.given := by
  obtain ⟨ws, -, rfl⟩ := Option.map_eq_some_iff.mp hdrive
  rfl

/-- No packet is added in the meantime. -/
theorem given_step (hdir : uplink e = true ∨ downlink e = true) (hstep : step deps k t e = some t') :
    t'.up.given = t.up.given ∧ t'.down.given = t.down.given := by
  cases step_moves hstep with
  | client _ hdrive => exact ⟨given_drive hdrive, rfl⟩
  | server _ hdrive => exact ⟨rfl, given_drive hdrive⟩
  | serverRead _ _ hdrive => exact ⟨rfl, given_drive hdrive⟩
  | clientRead _ hdrive => exact ⟨given_drive hdrive, rfl⟩
  | packetSent | packetDropped | clientSend | clientReadError | clientWriteError | routed =>
      exact absurd hdir (by simp [uplink, downlink])

theorem given_run {dir : Event → Bool} (hdir : ∀ e, dir e = true → uplink e = true ∨ downlink e = true)
    {fs : List Event} (hrun : run (only dir (step deps k)) t fs = some t') :
    t'.up.given = t.up.given ∧ t'.down.given = t.down.given := by
  refine run_invariant' (I := fun m : Tunnel => m.up.given = t.up.given ∧ m.down.given = t.down.given) ?_ ⟨rfl, rfl⟩ hrun
  rintro m e m' ⟨hup, hdown⟩ hstep
  obtain ⟨he, hstep⟩ := only_eq_some.mp hstep
  obtain ⟨hup', hdown'⟩ := given_step (hdir e he) hstep
  exact ⟨hup'.trans hup, hdown'.trans hdown⟩

/-- A lane at rest whose messages have been read has let out every packet. -/
theorem Lane.Inv.delivered (h : l.Inv k) (hl : l.ws.live = true) (hstuck : Stuck (flush k) l.ws) (hnet : l.net = []) :
    l.arrived.filterMap ipPayload = l.given := by
  obtain ⟨-, hsenders, hwriting⟩ := rest_of_stuck h.queue hl hstuck
  exact h.complete (gate_of_live hl) ⟨hsenders, hwriting⟩ hnet

/-- The handler of the message that the session would read next throws or does not end. -/
def Tunnel.Blocked (deps : Deps) (t : Tunnel) : Prop :=
  ∃ message ∈ t.up.net.head?, ∀ now, (t.outcome deps now message).exit ≠ .returned

/-- The uplink at rest, when the session lets out every packet that it reads. -/
theorem uplink_rest (hlane : t.up.Inv .wsClientTransport) (hqueue : Transport.Inv t.down.ws)
    (htaken : t.up.taken = t.up.arrived.filterMap ipPayload) (hatt : Attentive t.down.ws)
    (hstuck : Stuck (only uplink (step deps k)) t) (hup : t.up.ws.live = true) (hdown : t.down.ws.live = true)
    (hserved : t.client.iocStopped = false) : t.up.taken = t.up.given ∨ t.Blocked deps := by
  obtain ⟨hupStuck, hdownStuck⟩ := flush_stuck (Or.inl hstuck) hserved
  cases hnet : t.up.net with
  | nil => exact Or.inl (htaken.trans (hlane.delivered hup hupStuck hnet))
  | cons message rest =>
      refine Or.inr ⟨message, by rw [hnet]; rfl, ?_⟩
      intro now hexit
      -- the session would read the message
      obtain ⟨hhandler, -, -⟩ := rest_of_stuck hqueue hdown hdownStuck
      obtain ⟨ws', hread⟩ := read_ready hatt hdown hhandler ((t.outcome deps now message).calls.filterMap callOp)
      have hnone := stuck_only.mp hstuck (.serverRead now) rfl
      rw [serverRead_eq now hnet, if_pos hexit] at hnone
      unfold Tunnel.handled Lane.drive at hnone
      rw [hread] at hnone
      exact absurd hnone (by simp)

/-- The downlink at rest. -/
theorem downlink_rest (h : t.Inv k) (hatt : Attentive t.up.ws) (hstuck : Stuck (only downlink (step deps k)) t)
    (hup : t.up.ws.live = true) (hdown : t.down.ws.live = true) (hserved : t.client.iocStopped = false) :
    t.down.taken = t.down.given := by
  obtain ⟨hupStuck, hdownStuck⟩ := flush_stuck (Or.inr hstuck) hserved
  cases hnet : t.down.net with
  | nil => exact h.downTaken.trans (h.down.delivered hdown hdownStuck hnet)
  | cons message rest =>
      -- the client would read the message
      exfalso
      obtain ⟨hhandler, -, -⟩ := rest_of_stuck h.up.queue hup hupStuck
      obtain ⟨ws', hread⟩ :=
        read_ready (k := .wsClientTransport) hatt hup hhandler (asked (t.dispatched deps Client.sampleEnv message) t.up.ws)
      have hnone := stuck_only.mp hstuck (.clientRead Client.sampleEnv) rfl
      have hon : t.served = true := by
        unfold Tunnel.served
        rw [hserved]
        rfl
      unfold step at hnone
      simp only [hnet, hon, if_true, Lane.drive, hread] at hnone
      exact absurd hnone (by simp)

/-- **Every packet gets through.** From every reachable state of an established tunnel, each direction comes to
    rest in whatever order its steps are taken; by then everything that had been passed to `send` has come out
    at the other end, if both ends are still live. Upwards the handler of a message may not return. -/
theorem tunnel_delivers {client : Client} {session : ClientSession} {hello : Bytes} {now : Int64} {es : List Event}
    (hcb : session.onIpPacketSet = true) (hhello : Client.authRequest deps client.config now = .ok hello)
    (hest : Along (step deps k) Established (Tunnel.start client session hello) es)
    (hrun : run (step deps k) (Tunnel.start client session hello) es = some t) :
    (Terminates (only uplink (step deps k)) t ∧
      ∀ fs t', Along (step deps k) Established t fs → run (only uplink (step deps k)) t fs = some t' →
        Stuck (only uplink (step deps k)) t' → t'.up.ws.live = true → t'.down.ws.live = true →
          t'.client.iocStopped = false → t'.up.taken = t.up.given ∨ t'.Blocked deps) ∧
      (Terminates (only downlink (step deps k)) t ∧
        ∀ fs t', Along (step deps k) Established t fs → run (only downlink (step deps k)) t fs = some t' →
          Stuck (only downlink (step deps k)) t' → t'.up.ws.live = true → t'.down.ws.live = true →
            t'.client.iocStopped = false → t'.down.taken = t.down.given) := by
  have hquiet : ipPayload hello = none := by
    obtain ⟨authStr, hbuilt⟩ := Client.authRequest_built hhello
    exact ipPayload_other (by decide) hbuilt
  have hinv : t.Inv k := run_invariant (I := Tunnel.Inv k) (fun _ _ _ he hi hstep => hi.step he hstep) hest
    (inv_start client hcb hquiet) hrun
  -- what holds of the whole tunnel holds at the end of either direction's run
  have hend : ∀ {dir : Event → Bool} {fs : List Event} {t' : Tunnel}, Along (step deps k) Established t fs →
      run (only dir (step deps k)) t fs = some t' → t'.Inv k ∧ Attentive t'.up.ws ∧ Attentive t'.down.ws := by
    intro dir fs t' hestablished hdir
    have hfs := run_of_only hdir
    obtain ⟨⟨ups, hup⟩, downs, hdown⟩ := transports_of_run (run_append.mpr ⟨t, hrun, hfs⟩)
    exact ⟨run_invariant (I := Tunnel.Inv k) (fun _ _ _ he hi hstep => hi.step he hstep) hestablished hinv hfs,
      attentive_of_run hup, attentive_of_run hdown⟩
  refine ⟨⟨uplink_terminates t, ?_⟩, downlink_terminates t, ?_⟩
  · intro fs t' hestablished hfs hstuck hup hdown hserved
    obtain ⟨hinv', -, hatt⟩ := hend hestablished hfs
    rw [← (given_run (fun _ he => Or.inl he) hfs).1]
    exact uplink_rest hinv'.up hinv'.down.queue hinv'.upTaken hatt hstuck hup hdown hserved
  · intro fs t' hestablished hfs hstuck hup hdown hserved
    obtain ⟨hinv', hatt, -⟩ := hend hestablished hfs
    rw [← (given_run (fun _ he => Or.inr he) hfs).2]
    exact downlink_rest hinv' hatt hstuck hup hdown hserved

/-- The uplink is at rest when both transports are and everything has been read. -/
theorem uplink_stuck (hup : Stuck (flush .wsClientTransport) t.up.ws) (hdown : Stuck (flush k) t.down.ws)
    (hnet : t.up.net = []) : Stuck (only uplink (step deps k)) t := by
  refine stuck_only.mpr ?_
  intro e he
  cases e with
  | client ev =>
      unfold step
      simp only
      split
      · rename_i hown
        rw [Lane.drive, stuck_only.mp hup ev hown.1, Option.map_none, Option.map_none]
      · rfl
  | server ev =>
      unfold step
      simp only
      split
      · rw [Lane.drive, stuck_only.mp hdown ev he, Option.map_none, Option.map_none]
      · rfl
  | serverRead now =>
      unfold step
      simp only [hnet]
  | tunPacket | clientSend | clientRead | clientReadError | clientWriteError | routed =>
      exact absurd he (by simp [uplink])

/-- Both ends are live, and nothing is left to be done or read on the uplink. -/
structure AtRest (t : Tunnel) : Prop where
  up      : t.up.ws.handler = none ∧ t.up.ws.senders = [] ∧ t.up.ws.posted = 0 ∧ t.up.ws.writes = 0
  down    : t.down.ws.handler = none ∧ t.down.ws.senders = [] ∧ t.down.ws.posted = 0 ∧ t.down.ws.writes = 0
  net     : t.up.net = []
  upLive  : t.up.ws.live = true
  downLive : t.down.ws.live = true
  served  : t.client.iocStopped = false

instance : DecidablePred AtRest := fun t =>
  decidable_of_iff ((t.up.ws.handler = none ∧ t.up.ws.senders = [] ∧ t.up.ws.posted = 0 ∧ t.up.ws.writes = 0) ∧
    (t.down.ws.handler = none ∧ t.down.ws.senders = [] ∧ t.down.ws.posted = 0 ∧ t.down.ws.writes = 0) ∧
    t.up.net = [] ∧ t.up.ws.live = true ∧ t.down.ws.live = true ∧ t.client.iocStopped = false)
    ⟨fun h => ⟨h.1, h.2.1, h.2.2.1, h.2.2.2.1, h.2.2.2.2.1, h.2.2.2.2.2⟩,
      fun h => ⟨h.up, h.down, h.net, h.upLive, h.downLive, h.served⟩⟩

theorem stuck_of_atRest (h : AtRest t) :
    Stuck (only uplink (step deps k)) t ∧ t.up.ws.live = true ∧ t.down.ws.live = true ∧
      t.client.iocStopped = false :=
  ⟨uplink_stuck (flush_stuck_iff.mpr h.up) (flush_stuck_iff.mpr h.down) h.net, h.upLive, h.downLive, h.served⟩

/-- The client has logged in, and its thread has just read a packet. -/
def packetUp : List Event := packetEachWay.take 17

/-- The packet on its way. -/
def packetThrough : List Event :=
  [.client (.sendPush 0), .client (.writeDone true), .client .lock, .client .startWrite, .serverRead 1001,
    .client (.writeDone true), .client .lock, .server .advance, .server (.writeDone true), .server .lock]

theorem tunnel_delivers_packet :
    ∃ t t', run (step openDeps .wsPlainServerSession) (Tunnel.start onlineClient openSession sampleHello) packetUp =
        some t ∧
      run (only uplink (step openDeps .wsPlainServerSession)) t packetThrough = some t' ∧
      t.up.taken = [] ∧ t.up.given = [samplePacket] ∧ (t'.up.taken = t.up.given ∨ t'.Blocked openDeps) ∧
      t'.up.taken = [samplePacket] := by
  have hruns : ((run (step openDeps .wsPlainServerSession) (Tunnel.start onlineClient openSession sampleHello)
      packetUp).any fun t => t.up.taken = [] && t.up.given = [samplePacket] &&
        (run (only uplink (step openDeps .wsPlainServerSession)) t packetThrough).any fun t' =>
          AtRest t' && t'.up.taken = [samplePacket]) = true := by decide +kernel
  have hall : Along (step openDeps .wsPlainServerSession) Established
      (Tunnel.start onlineClient openSession sampleHello) (packetUp ++ packetThrough) := by decide +kernel
  have hhello : Client.authRequest openDeps onlineClient.config 1000 = .ok sampleHello := by decide +kernel
  obtain ⟨t, ht, hbody⟩ := Option.any_eq_true _ _ |>.mp hruns
  simp only [Bool.and_eq_true, decide_eq_true_eq] at hbody
  obtain ⟨⟨hbefore, hgiven⟩, hrest⟩ := hbody
  obtain ⟨t', ht', hend⟩ := Option.any_eq_true _ _ |>.mp hrest
  simp only [Bool.and_eq_true, decide_eq_true_eq] at hend
  obtain ⟨hstuck, hupLive, hdownLive, hserved⟩ := stuck_of_atRest hend.1
  obtain ⟨⟨-, hup⟩, -⟩ := tunnel_delivers rfl hhello hall.of_append ht
  exact ⟨t, t', ht, ht', hbefore, hgiven,
    hup packetThrough t' (hall.after ht) ht' hstuck hupLive hdownLive hserved, hend.2⟩

end Tunnel
end Kirdi
