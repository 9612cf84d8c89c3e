import Kirdi.Lib.Fifo
import Kirdi.Transport.Transport

/-!
# `Transport.WriteQueue` — the write queue is a channel

For every kind of transport and every interleaving, the frames handed to `async_write` are a prefix of the
frames pushed by `send`: the transport refines a first-in first-out channel (`step_refines`).

`Inv` ties the flag `writing_` to who will take the next frame. `writers` counts the posted `do_write`s, the
one that runs, and the outstanding writes; it never exceeds one, and on a live transport it is one exactly
while `writing_` is set.
-/

set_option linter.dupNamespace false

namespace Kirdi
namespace Transport

open Protocol EventMachine

structure Inv (t : Transport) : Prop where
  ordered : t.pushed = t.handed ++ (t.held ++ t.writeQueue)
  one     : t.writers ≤ 1
  idle    : t.writing = false → t.writers = 0 ∧ t.writeQueue = []
  busy    : t.live = true → t.writing = true → t.writers = 1

variable {k : Kind} {t t' : Transport} {e : Event} {es : List Event} {todo : List Op}

/-! ## Each operation keeps the invariant -/

theorem inv_start : Inv (Transport.start todo) where
  ordered := rfl
  one := Nat.zero_le 1
  idle := fun _ => ⟨rfl, rfl⟩
  busy := by
    intro _ h
    exact absurd h (by simp [Transport.start])

/-- What does not concern the queue may change, as long as the transport does not come back to life. -/
theorem Inv.frame (h : Inv t) {c d r : Bool} {n : Nat} {q : List Bytes}
    (hlive : (c && !d) = true → t.live = true) :
    Inv { t with connected := c, closing := d, reading := r, senders := q, closers := n } where
  ordered := h.ordered
  one := h.one
  idle := h.idle
  busy := fun hl hw => h.busy (hlive hl) hw

/-- The strand may go from one handler to another when neither is one that writes. -/
theorem Inv.handler (h : Inv t) {hd : Option Handler} (hold : t.writeHandler = false)
    (hnew : hd.any Handler.isWrite = false) : Inv { t with handler := hd } := by
  have hheld : t.held = [] := by
    unfold Transport.held
    rw [if_neg]
    intro heq
    unfold Transport.writeHandler at hold
    rw [heq] at hold
    exact absurd hold (by decide)
  have hheld' : ({ t with handler := hd } : Transport).held = [] := by
    unfold Transport.held
    rw [if_neg]
    intro heq
    rw [show hd = some .writeTaken from heq] at hnew
    exact absurd hnew (by decide)
  have hwriters : ({ t with handler := hd } : Transport).writers = t.writers := by
    unfold Transport.writers
    rw [hold, show ({ t with handler := hd } : Transport).writeHandler = false from hnew]
  refine ⟨?_, ?_, ?_, ?_⟩
  · rw [hheld', ← hheld]
    exact h.ordered
  · rw [hwriters]
    exact h.one
  · rw [hwriters]
    exact h.idle
  · rw [hwriters]
    exact h.busy

theorem Inv.push (h : Inv t) (data : Bytes) : Inv (t.push data) := by
  have hwriters : (t.push data).writers = if t.writing then t.writers else t.writers + 1 := by
    cases hw : t.writing with
    | true => simp [Transport.writers, Transport.push, Transport.writeHandler, hw]
    | false =>
        simp only [Transport.writers, Transport.push, Transport.writeHandler, hw]
        simp only [Bool.false_eq_true, if_false]
        omega
  refine ⟨?_, ?_, ?_, ?_⟩
  · show t.pushed ++ [data] = t.handed ++ (t.held ++ (t.writeQueue ++ [data]))
    rw [h.ordered, List.append_assoc, List.append_assoc]
  · rw [hwriters]
    cases hw : t.writing with
    | true => exact h.one
    | false =>
        rw [(h.idle hw).1]
        exact le_refl 1
  · intro hw
    exact absurd hw (by simp [Transport.push])
  · intro hl _
    rw [hwriters]
    cases hw : t.writing with
    | true => exact h.busy hl hw
    | false =>
        rw [(h.idle hw).1]
        rfl

/-- `do_write` begins in the place of a posted one, or of the write that has completed. -/
theorem Inv.doWrite (h : Inv t) (hheld : t.held = []) {p w : Nat} (hwriters : p + w + 1 = t.writers) :
    Inv ({ t with posted := p, writes := w }.doWrite k) := by
  have htaken : ({ t with posted := p, writes := w }.doWrite k : Transport).held = [] := by
    unfold Transport.held Transport.doWrite
    cases ({ t with posted := p, writes := w } : Transport).gate k <;> rfl
  have hcount : ({ t with posted := p, writes := w }.doWrite k : Transport).writers
      = if t.gate k then t.writers else t.writers - 1 := by
    have hgate : ({ t with posted := p, writes := w } : Transport).gate k = t.gate k := by
      cases k <;> rfl
    rw [← hwriters]
    unfold Transport.writers Transport.doWrite Transport.writeHandler
    rw [hgate]
    cases t.gate k with
    | true =>
        show p + 1 + w = p + w + 1
        omega
    | false =>
        show p + 0 + w = p + w + 1 - 1
        omega
  have hone := h.one
  -- the posted writer becomes the handler, or returns at the closed gate
  refine ⟨?_, ?_, ?_, ?_⟩
  · rw [htaken]
    show t.pushed = t.handed ++ t.writeQueue
    rw [h.ordered, hheld]
    rfl
  · rw [hcount]
    split <;> omega
  · intro hw
    have hidle := h.idle hw
    rw [hidle.1] at hwriters
    omega
  · intro hl hw
    have hgate : t.gate k = true := by
      by_contra hclosed
      have hdead := live_of_not_gate (Bool.eq_false_of_not_eq_true hclosed)
      rw [show t.live = true from hl] at hdead
      exact absurd hdead (by simp)
    rw [hcount, hgate]
    exact h.busy hl hw

/-- A failed write takes the writer away together with the life of the transport. -/
theorem Inv.writeFailed (h : Inv t) (hheld : t.handler = none) (hw : 0 < t.writes) {c cl : Bool}
    (hdead : (c && !cl) = false) :
    Inv { t with writes := t.writes - 1, connected := c, closing := cl } := by
  have hone := h.one
  have hcount : ({ t with writes := t.writes - 1, connected := c, closing := cl } : Transport).writers
      = t.writers - 1 := by
    unfold Transport.writers Transport.writeHandler
    rw [hheld]
    show t.posted + 0 + (t.writes - 1) = t.posted + 0 + t.writes - 1
    omega
  refine ⟨h.ordered, ?_, ?_, ?_⟩
  · rw [hcount]
    omega
  · intro hwriting
    rw [hcount]
    obtain ⟨h0, hq⟩ := h.idle hwriting
    exact ⟨by omega, hq⟩
  · intro hl
    exact absurd hl (by rw [show ({ t with writes := t.writes - 1, connected := c, closing := cl } :
      Transport).live = (c && !cl) from rfl, hdead]; simp)

theorem Inv.lock (h : Inv t) (hd : t.handler = some .doWrite) : Inv t.lock := by
  have hheld : t.held = [] := by
    unfold Transport.held
    rw [hd]
    rfl
  have hone := h.one
  have hcount : t.writers = t.posted + 1 + t.writes := by
    unfold Transport.writers Transport.writeHandler
    rw [hd]
    rfl
  have hordered := h.ordered
  rw [hheld] at hordered
  unfold Transport.lock
  cases hq : t.writeQueue with
  | nil =>
      -- the flag is cleared: no writer is left, and the queue is empty
      have hzero : t.posted + 0 + t.writes = 0 := by omega
      refine ⟨?_, ?_, ?_, ?_⟩
      · rw [hq] at hordered
        exact hordered
      · show t.posted + 0 + t.writes ≤ 1
        omega
      · intro _
        exact ⟨hzero, rfl⟩
      · intro _ hw
        exact absurd hw (by simp)
  | cons data rest =>
      refine ⟨?_, ?_, ?_, ?_⟩
      · rw [hq] at hordered
        exact hordered
      · show t.posted + 1 + t.writes ≤ 1
        omega
      · intro hw
        have hidle := h.idle hw
        rw [hq] at hidle
        exact absurd hidle.2 (by simp)
      · intro hl hw
        show t.posted + 1 + t.writes = 1
        rw [← hcount]
        exact h.busy hl hw

theorem Inv.startWrite (h : Inv t) (hd : t.handler = some .writeTaken) : Inv t.startWrite := by
  have hheld : t.held = [t.writePending] := by
    unfold Transport.held
    rw [hd]
    rfl
  have hcount : t.startWrite.writers = t.writers := by
    unfold Transport.writers Transport.writeHandler Transport.startWrite
    rw [hd]
    show t.posted + 0 + (t.writes + 1) = t.posted + 1 + t.writes
    omega
  refine ⟨?_, ?_, ?_, ?_⟩
  · show t.pushed = (t.handed ++ [t.writePending]) ++ ([] ++ t.writeQueue)
    rw [h.ordered, hheld, List.append_assoc, List.nil_append]
  · rw [hcount]
    exact h.one
  · rw [hcount]
    exact h.idle
  · rw [hcount]
    exact h.busy

theorem held_of_idle (hd : t.handler = none) : t.held = [] := by
  unfold Transport.held
  rw [hd]
  rfl

theorem writers_of_idle (hd : t.handler = none) : t.writers = t.posted + t.writes := by
  unfold Transport.writers Transport.writeHandler
  rw [hd]
  rfl

theorem Inv.beginClose (h : Inv t) (hc : t.beginClose k = some t') : Inv t' := by
  obtain ⟨-, hdead, c, c', rfl⟩ := beginClose_spec hc
  apply h.frame
  intro hl
  have hl' : (c && !c') = false := hdead
  rw [hl'] at hl
  exact absurd hl (by simp)

theorem Inv.onWrite (h : Inv t) (hd : t.handler = none) (hw : 0 < t.writes) (ok : Bool) :
    Inv ({ t with writes := t.writes - 1 }.onWrite k ok) := by
  cases ok with
  | true =>
      apply h.doWrite (held_of_idle hd)
      rw [writers_of_idle hd]
      show t.posted + (t.writes - 1) + 1 = t.posted + t.writes
      omega
  | false =>
      obtain ⟨c, hc, hdead, -⟩ := onWrite_error k { t with writes := t.writes - 1 }
      rw [hc]
      exact h.writeFailed hd hw hdead

/-! ## Every reachable state -/

/-- **Every step keeps the invariant.** -/
theorem Inv.step (h : Inv t) (hstep : step k t e = some t') : Inv t' := by
  -- the handlers that run a callback do not write
  have hfree : ∀ c, t.handler = some c → c.isWrite = false → t.writeHandler = false := by
    intro c hc hw
    unfold Transport.writeHandler
    rw [hc]
    exact hw
  have hidle : t.handler = none → t.writeHandler = false := by
    intro hd
    unfold Transport.writeHandler
    rw [hd]
    rfl
  cases step_cases hstep with
  | sent data hg => exact h.frame (fun hl => hl)
  | refused data hg => exact h
  | pushed i data hi => exact (h.frame (q := t.senders.eraseIdx i) (fun hl => hl)).push data
  | doWrite hd hp =>
      apply h.doWrite (held_of_idle hd)
      rw [writers_of_idle hd]
      show t.posted - 1 + t.writes + 1 = t.posted + t.writes
      omega
  | lock hd => exact h.lock hd
  | startWrite hd => exact h.startWrite hd
  | writeDone ok hd hw => exact h.onWrite hd hw ok
  | read calls hd hr => exact (h.frame (r := false) (fun hl => hl)).handler (hidle hd) rfl
  | readError hd hr => exact h.frame (fun hl => absurd hl (by simp))
  | finished hd =>
      obtain ⟨r, hr, -⟩ := doRead_spec k { t with handler := none }
      rw [hr]
      exact (h.handler (hfree _ hd rfl) rfl).frame (fun hl => hl)
  | callSend data todo hd hg => exact h.handler (hfree _ hd rfl) rfl
  | callRefused data todo hd hg => exact h.handler (hfree _ hd rfl) rfl
  | callPush data todo hd => exact (h.handler (hfree _ hd rfl) rfl).push data
  | callClose todo t₁ hd hc =>
      have h₁ := h.beginClose hc
      obtain ⟨-, -, c, c', rfl⟩ := beginClose_spec hc
      exact h₁.handler (hfree _ hd rfl) rfl
  | callClosed todo hd hc => exact h.handler (hfree _ hd rfl) rfl
  | callReturn todo hd => exact h.handler (hfree _ hd rfl) rfl
  | close t₁ hc => exact (h.beginClose hc).frame (fun hl => hl)
  | closed hc => exact h
  | closeReturn hn => exact h.frame (fun hl => hl)

theorem inv_of_run (hrun : run (step k) (Transport.start todo) es = some t) : Inv t :=
  run_invariant' (fun _ _ _ h hstep => h.step hstep) inv_start hrun

/-! ## The queue as a channel -/

/-- The frames of a transport: pushed at one end, handed to `async_write` at the other. -/
def Inv.channel (h : Inv t) : Fifo Bytes :=
  ⟨t.pushed, t.handed, by rw [h.ordered]; exact List.prefix_append _ _⟩

theorem Inv.pending_channel (h : Inv t) : h.channel.pending = t.held ++ t.writeQueue := by
  have heq : h.channel = Fifo.ofPending t.handed (t.held ++ t.writeQueue) := Fifo.ext h.ordered rfl
  rw [heq, Fifo.pending_ofPending]

/-- What one step does to the frames: one is pushed, the one that was taken is handed over, or neither. -/
theorem step_frames (hstep : step k t e = some t') :
    (t'.pushed = t.pushed ∧ t'.handed = t.handed) ∨
      (∃ data, t'.pushed = t.pushed ++ [data] ∧ t'.handed = t.handed) ∨
      (e = .startWrite ∧ t.handler = some .writeTaken ∧ t' = t.startWrite) := by
  cases step_cases hstep with
  | pushed i data hi => exact Or.inr (Or.inl ⟨data, rfl, rfl⟩)
  | callPush data todo hd => exact Or.inr (Or.inl ⟨data, rfl, rfl⟩)
  | startWrite hd => exact Or.inr (Or.inr ⟨rfl, hd, rfl⟩)
  | lock hd =>
      unfold Transport.lock
      split <;> exact Or.inl ⟨rfl, rfl⟩
  | writeDone ok hd hw =>
      cases ok with
      | true => exact Or.inl ⟨rfl, rfl⟩
      | false =>
          obtain ⟨c, hc, -, -⟩ := onWrite_error k { t with writes := t.writes - 1 }
          rw [hc]
          exact Or.inl ⟨rfl, rfl⟩
  | finished hd =>
      obtain ⟨r, hr, -⟩ := doRead_spec k { t with handler := none }
      rw [hr]
      exact Or.inl ⟨rfl, rfl⟩
  | callClose todo t₁ hd hc =>
      obtain ⟨-, -, c, c', rfl⟩ := beginClose_spec hc
      exact Or.inl ⟨rfl, rfl⟩
  | close t₁ hc =>
      obtain ⟨-, -, c, c', rfl⟩ := beginClose_spec hc
      exact Or.inl ⟨rfl, rfl⟩
  | sent | refused | doWrite | read | readError | callSend | callRefused | callClosed | callReturn
  | closed | closeReturn => exact Or.inl ⟨rfl, rfl⟩

/-- **A transport refines a channel.** -/
theorem step_refines (h : Inv t) (h' : Inv t') (hstep : step k t e = some t') :
    Fifo.Step h.channel h'.channel := by
  rcases step_frames hstep with ⟨hpushed, hhanded⟩ | ⟨data, hpushed, hhanded⟩ | ⟨-, hd, hstart⟩
  · have heq : h'.channel = h.channel := Fifo.ext hpushed hhanded
    rw [heq]
    exact .stay _
  · have heq : h'.channel = h.channel.push data := Fifo.ext hpushed hhanded
    rw [heq]
    exact .push _ data
  · -- the frame taken from the queue is the oldest one
    have hheld : t.held = [t.writePending] := by
      unfold Transport.held
      rw [hd]
      rfl
    have hold : h.channel = Fifo.ofPending t.handed (t.writePending :: t.writeQueue) := by
      refine Fifo.ext ?_ rfl
      show t.pushed = t.handed ++ t.writePending :: t.writeQueue
      rw [h.ordered, hheld]
      rfl
    have hnew : h'.channel = Fifo.ofPending (t.handed ++ [t.writePending]) t.writeQueue := by
      subst hstart
      refine Fifo.ext ?_ rfl
      show t.pushed = t.handed ++ [t.writePending] ++ t.writeQueue
      rw [h.ordered, hheld, List.append_assoc]
    rw [hold, hnew]
    exact .pop _ _ _

/-! ## After the gate is closed -/

/-- A closed gate stays closed. -/
theorem gate_closed_step (hg : t.gate k = false) (hstep : step k t e = some t') : t'.gate k = false := by
  -- `connected` only falls and `closing` only rises
  have hmono : ∀ s : Transport, (s.connected = true → t.connected = true) →
      (t.closing = true → s.closing = true) → s.gate k = false := by
    intro s hc hcl
    cases k with
    | wsServerSession | wsPlainServerSession =>
        have hconn : t.connected = false := hg
        by_contra hs
        rw [hc (Bool.eq_true_of_not_eq_false hs)] at hconn
        exact absurd hconn (by simp)
    | wsClientTransport =>
        have hclosing : (!t.closing) = false := hg
        have ht : t.closing = true := by simpa using hclosing
        show (!s.closing) = false
        rw [hcl ht]
        rfl
  cases step_cases hstep with
  | writeDone ok hd hw =>
      cases ok with
      | true => exact hmono _ id id
      | false =>
          obtain ⟨c, hc, -, hconn⟩ := onWrite_error k { t with writes := t.writes - 1 }
          rw [hc]
          exact hmono _ hconn id
  | readError hd hr => exact hmono _ (fun hc => absurd hc (by simp [Transport.onReadError])) id
  | finished hd =>
      obtain ⟨r, hr, -⟩ := doRead_spec k { t with handler := none }
      rw [hr]
      exact hmono _ id id
  | lock hd =>
      unfold Transport.lock
      split <;> exact hmono _ id id
  | callClose todo t₁ hd hc =>
      have hclosed := (beginClose_spec hc).1
      cases k <;> exact hclosed
  | close t₁ hc =>
      have hclosed := (beginClose_spec hc).1
      cases k <;> exact hclosed
  | sent | refused | pushed | doWrite | startWrite | read | callSend | callRefused | callPush
  | callClosed | callReturn | closed | closeReturn => exact hmono _ id id

/-- While the gate is closed, only a `do_write` that is past its flag test can hand over a frame. -/
theorem handed_closed_step (hg : t.gate k = false) (hstep : step k t e = some t') :
    t'.handed.length + t'.writeHandler.toNat ≤ t.handed.length + t.writeHandler.toNat := by
  have hquiet : ∀ c, t.handler = c → c.any Handler.isWrite = false → t.writeHandler = false := by
    rintro c rfl hc
    exact hc
  -- a writer that begins returns at the gate; the one already past it hands over one frame
  cases step_cases hstep with
  | doWrite hd hp =>
      have hg' : ({ t with posted := t.posted - 1 } : Transport).gate k = false := by
        cases k <;> exact hg
      unfold Transport.doWrite Transport.writeHandler
      rw [hg', hd]
      exact le_refl _
  | writeDone ok hd hw =>
      cases ok with
      | true =>
          have hg' : ({ t with writes := t.writes - 1 } : Transport).gate k = false := by
            cases k <;> exact hg
          unfold Transport.onWrite
          rw [if_pos rfl]
          unfold Transport.doWrite Transport.writeHandler
          rw [hg', hd]
          exact le_refl _
      | false =>
          obtain ⟨c, hc, -, -⟩ := onWrite_error k { t with writes := t.writes - 1 }
          rw [hc]
          exact le_refl _
  | lock hd =>
      have hw : t.writeHandler = true := by
        unfold Transport.writeHandler
        rw [hd]
        rfl
      unfold Transport.lock
      split
      · rw [hw]
        exact Nat.le_add_right _ _
      · rw [hw]
        exact le_refl _
  | startWrite hd =>
      have hw : t.writeHandler = true := by
        unfold Transport.writeHandler
        rw [hd]
        rfl
      rw [hw]
      show (t.handed ++ [t.writePending]).length + 0 ≤ t.handed.length + 1
      rw [List.length_append]
      exact le_refl _
  | finished hd =>
      obtain ⟨r, hr, -⟩ := doRead_spec k { t with handler := none }
      rw [hr, hquiet _ hd rfl]
      exact le_refl _
  | callClose todo t₁ hd hc =>
      obtain ⟨-, -, c, c', rfl⟩ := beginClose_spec hc
      rw [hquiet _ hd rfl]
      exact le_refl _
  | close t₁ hc =>
      obtain ⟨-, -, c, c', rfl⟩ := beginClose_spec hc
      exact le_refl _
  | read calls hd hr =>
      rw [hquiet _ hd rfl]
      exact le_refl _
  | callSend data todo hd hg | callRefused data todo hd hg | callPush data todo hd
  | callClosed todo hd hc | callReturn todo hd =>
      rw [hquiet _ hd rfl]
      exact le_refl _
  | sent | refused | pushed | readError | closed | closeReturn => exact le_refl _

theorem handed_closed_run {fs : List Event} (hg : t.gate k = false)
    (hrun : run (step k) t fs = some t') :
    t'.handed.length ≤ t.handed.length + t.writeHandler.toNat := by
  have hinv : t'.gate k = false ∧
      t'.handed.length + t'.writeHandler.toNat ≤ t.handed.length + t.writeHandler.toNat := by
    apply run_invariant' (I := fun s => s.gate k = false ∧
      s.handed.length + s.writeHandler.toNat ≤ t.handed.length + t.writeHandler.toNat) _ _ hrun
    · rintro s e s' ⟨hgs, hle⟩ hstep
      exact ⟨gate_closed_step hgs hstep, le_trans (handed_closed_step hgs hstep) hle⟩
    · exact ⟨hg, le_refl _⟩
  exact le_trans (Nat.le_add_right _ _) hinv.2

/-! ## Correctness of the queue -/

/-- `write_pending_` is left alone while a write is outstanding. -/
theorem writePending_step (h : Inv t) (hw : 0 < t.writes) (hstep : step k t e = some t') :
    t'.writePending = t.writePending := by
  cases step_cases hstep with
  | lock hd =>
      -- `lock` would take the next frame, but it is a second writer
      have hone := h.one
      have hcount : t.writers = t.posted + 1 + t.writes := by
        unfold Transport.writers Transport.writeHandler
        rw [hd]
        rfl
      omega
  | writeDone ok hd hw =>
      cases ok with
      | true => rfl
      | false =>
          obtain ⟨c, hc, -, -⟩ := onWrite_error k { t with writes := t.writes - 1 }
          rw [hc]
  | finished hd =>
      obtain ⟨r, hr, -⟩ := doRead_spec k { t with handler := none }
      rw [hr]
  | callClose todo t₁ hd hc =>
      obtain ⟨-, -, c, c', rfl⟩ := beginClose_spec hc
      rfl
  | close t₁ hc =>
      obtain ⟨-, -, c, c', rfl⟩ := beginClose_spec hc
      rfl
  | sent | refused | pushed | doWrite | startWrite | read | readError | callSend | callRefused
  | callPush | callClosed | callReturn | closed | closeReturn => rfl

/-- The flag tells who will take the next frame. -/
theorem Inv.writing_iff (h : Inv t) (hl : t.live = true) :
    t.writing = true ↔ 0 < t.posted ∨ t.writeHandler = true ∨ 0 < t.writes := by
  constructor
  · intro hw
    have hone := h.busy hl hw
    unfold Transport.writers at hone
    cases hwh : t.writeHandler with
    | true => exact Or.inr (Or.inl rfl)
    | false =>
        rw [hwh] at hone
        rw [Bool.toNat_false] at hone
        omega
  · intro hany
    by_contra hw
    have hzero := (h.idle (Bool.eq_false_of_not_eq_true hw)).1
    unfold Transport.writers at hzero
    rcases hany with hp | hwh | hw
    · omega
    · rw [hwh, Bool.toNat_true] at hzero
      omega
    · omega

/-- **Correctness of the write queue**, in every reachable state of every kind of transport:
    one write at a time, on a buffer that is left alone; `writing_` is set exactly while someone will take
    the next frame; the frames handed over are a prefix of those pushed; no frame is stranded; and after the
    gate closed no `do_write` that begins hands over a frame. -/
theorem write_queue_correct (hrun : run (step k) (Transport.start todo) es = some t) :
    (t.writes ≤ 1 ∧
        ∀ e t', step k t e = some t' → 0 < t.writes → t'.writePending = t.writePending) ∧
      (t.live = true →
        (t.writing = true ↔ 0 < t.posted ∨ t.writeHandler = true ∨ 0 < t.writes)) ∧
      (t.handed <+: t.pushed ∧ t.pushed = t.handed ++ (t.held ++ t.writeQueue)) ∧
      (t.live = true → t.posted = 0 → t.writes = 0 → t.writeHandler = false → t.writeQueue = []) ∧
      (t.gate k = false → ∀ fs t', run (step k) t fs = some t' →
        t'.handed.length ≤ t.handed.length + t.writeHandler.toNat) := by
  have h := inv_of_run hrun
  refine ⟨⟨?_, ?_⟩, h.writing_iff, ⟨h.channel.ordered, h.ordered⟩, ?_, ?_⟩
  · have hone := h.one
    unfold Transport.writers at hone
    omega
  · intro e t' hstep hw
    exact writePending_step h hw hstep
  · intro hl hp hw hwh
    have hflag : t.writing = false := by
      by_contra hset
      rcases (h.writing_iff hl).mp (Bool.eq_true_of_not_eq_false hset) with hp' | hwh' | hw'
      · omega
      · rw [hwh] at hwh'
        exact absurd hwh' (by simp)
      · omega
    exact (h.idle hflag).2
  · intro hg fs t' hrun'
    exact handed_closed_run hg hrun'

/-- Two frames sent by another thread; the first one is about to be written. -/
def twoSends : List Event := [.advance, .send [1], .sendPush 0, .send [2], .sendPush 0, .doWrite]

def twoSent : Transport :=
  ⟨true, false, [[1], [2]], [], true, 0, some .doWrite, 0, true, [], 0, [[1], [2]], []⟩

theorem twoSends_run : run (step .wsServerSession) (Transport.start []) twoSends = some twoSent := by
  decide

theorem write_queue_correct_two :
    run (step .wsServerSession) (Transport.start []) twoSends = some twoSent ∧
      twoSent.writes ≤ 1 ∧ twoSent.handed <+: twoSent.pushed :=
  ⟨twoSends_run, (write_queue_correct twoSends_run).1.1, (write_queue_correct twoSends_run).2.2.1.1⟩

/-- **Between the start of `do_write` and the start of its write** no `do_write` is posted and no write is
    outstanding on a live session, while `writing_` is set and no frame taken, and a step later a second
    frame is in the queue. -/
theorem queued_during_doWrite :
    run (step .wsServerSession) (Transport.start []) twoSends = some twoSent ∧
      step .wsServerSession twoSent .lock = some twoSent.lock ∧
      (twoSent.live = true ∧ twoSent.writing = true ∧ twoSent.posted = 0 ∧ twoSent.held = [] ∧
        twoSent.writes = 0) ∧
      (twoSent.lock.live = true ∧ twoSent.lock.posted = 0 ∧ twoSent.lock.writes = 0 ∧
        twoSent.lock.writeQueue ≠ []) := by
  decide

end Transport
end Kirdi
