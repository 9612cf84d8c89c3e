import Kirdi.Transport.WriteQueue

/-!
# `Transport.Discipline` — `ws_.close` among the asynchronous operations

`ws_.close` writes a close frame and reads until the peer's, so it must not begin while an `async_write` or
an `async_read` is outstanding (`Disciplined`). The write queue keeps the writes apart from each other, but
`close` passes it by.

Within a callback no read is outstanding, and the number of outstanding writes cannot change: `do_write` and
`on_write` wait for the strand. So all depends on what was outstanding when the message arrived (`Settled`).
A client's `stop` comes from outside and finds a read outstanding whenever no callback is running.
-/

set_option linter.dupNamespace false

namespace Kirdi
namespace Transport

open Protocol EventMachine

/-- The event begins `ws_.close`. -/
def startsClose (k : Kind) (t : Transport) : Event → Bool
  | .close => (t.beginClose k).isSome
  | .advance =>
      match t.handler with
      | some (.callback (.close :: _)) => (t.beginClose k).isSome
      | _ => false
  | _ => false

/-- `ws_.close` begins only while no other operation is outstanding. -/
def Disciplined (k : Kind) (t : Transport) (e : Event) : Prop :=
  startsClose k t e = true → t.writes = 0 ∧ t.reading = false

/-- Unless the transport is closed already: a message that makes its callback call `close` arrives while no
    write is outstanding, and another thread calls `close` while nothing is. -/
def Settled (k : Kind) (t : Transport) : Event → Prop
  | .read calls => Op.close ∈ calls → t.gate k = true → t.writes = 0
  | .close => t.gate k = true → t.writes = 0 ∧ t.reading = false
  | _ => True

/-- The calls that the running callback has yet to make. -/
def Transport.pending (t : Transport) : Option (List Op) :=
  match t.handler with
  | some (.callback todo) | some (.callbackPush _ todo) | some (.callbackClose todo) => some todo
  | _ => none

instance (k : Kind) (t : Transport) (e : Event) : Decidable (Disciplined k t e) :=
  inferInstanceAs (Decidable (_ → _))

instance (k : Kind) (t : Transport) (e : Event) : Decidable (Settled k t e) :=
  match e with
  | .read calls => inferInstanceAs (Decidable (Op.close ∈ calls → t.gate k = true → t.writes = 0))
  | .close => inferInstanceAs (Decidable (t.gate k = true → t.writes = 0 ∧ t.reading = false))
  | .send _ | .sendPush _ | .doWrite | .lock | .startWrite | .writeDone _ | .readError | .advance
  | .closeReturn => inferInstanceAs (Decidable True)

/-- In a callback no read is outstanding, and as long as it has yet to close an open transport no write. -/
structure Calm (k : Kind) (t : Transport) : Prop where
  read  : ∀ todo, t.pending = some todo → t.reading = false
  write : ∀ todo, t.pending = some todo → Op.close ∈ todo → t.gate k = true → t.writes = 0

variable {k : Kind} {t t' : Transport} {e : Event} {es : List Event} {todo : List Op}

/-- `close` begins on an open gate only. -/
theorem gate_of_beginClose (h : (t.beginClose k).isSome = true) : t.gate k = true := by
  cases hc : t.beginClose k with
  | none =>
      rw [hc] at h
      exact absurd h (by simp)
  | some t₁ =>
      cases k with
      | wsServerSession | wsPlainServerSession => exact (Option.ite_none_right_eq_some.mp hc).1
      | wsClientTransport =>
          have hopen : ¬ t.closing = true := (Option.ite_none_left_eq_some.mp hc).1
          show (!t.closing) = true
          rw [Bool.eq_false_of_not_eq_true hopen]
          rfl

/-- Unless the gate is closed or the read has failed, a read is outstanding or a callback runs. -/
theorem reading_or_pending (hrun : run (step k) (Transport.start todo) es = some t) (hgate : t.gate k = true) :
    t.reading = true ∨ t.pending.isSome = true ∨ Event.readError ∈ es := by
  have hhistory : t.gate k = true → t.reading = true ∨ t.pending.isSome = true ∨ Event.readError ∈ es := by
    refine run_history' (J := fun es t => t.gate k = true →
      t.reading = true ∨ t.pending.isSome = true ∨ Event.readError ∈ es) ?_ (fun _ => Or.inr (Or.inl rfl)) hrun
    intro es s e s' h hstep hg
    have hopen : s.gate k = true := by
      by_contra hclosed
      rw [gate_closed_step (Bool.eq_false_of_not_eq_true hclosed) hstep] at hg
      exact absurd hg (by simp)
    have hbefore : s.reading = true ∨ s.pending.isSome = true ∨ Event.readError ∈ es ++ [e] :=
      (h hopen).imp_right (Or.imp_right (List.mem_append_left _))
    -- a handler that runs no callback leaves the read outstanding
    have hread : ∀ {hd : Option Handler}, s.handler = hd → ({ s with handler := hd } : Transport).pending = none →
        s.reading = true ∨ Event.readError ∈ es ++ [e] := by
      rintro hd rfl hnone
      refine hbefore.imp_right fun hlater => hlater.resolve_left ?_
      rw [show s.pending = none from hnone]
      simp
    cases step_cases hstep with
    | sent | refused | pushed | closed | closeReturn => exact hbefore
    | close t₁ hc =>
        obtain ⟨-, -, c, c', rfl⟩ := beginClose_spec hc
        exact hbefore
    | doWrite hd _ =>
        exact (hread hd rfl).imp id Or.inr
    | lock hd =>
        refine (hread hd rfl).imp ?_ Or.inr
        intro hr
        unfold Transport.lock
        split <;> exact hr
    | startWrite hd => exact (hread hd rfl).imp id Or.inr
    | writeDone ok hd _ =>
        refine (hread hd rfl).imp ?_ Or.inr
        intro hr
        cases ok with
        | true => exact hr
        | false =>
            obtain ⟨c, hc, -⟩ := onWrite_error k { s with writes := s.writes - 1 }
            rw [hc]
            exact hr
    | read calls _ _ => exact Or.inr (Or.inl rfl)
    | readError _ _ => exact Or.inr (Or.inr (List.mem_append_right _ List.mem_cons_self))
    | finished _ =>
        obtain ⟨r, hr, hopens⟩ := doRead_spec k { s with handler := none }
        rw [hr]
        exact Or.inl (hopens (by cases k <;> exact hopen))
    | callSend | callRefused | callPush | callClose | callClosed | callReturn => exact Or.inr (Or.inl rfl)
  exact hhistory hgate

/-- **Another thread may close an open transport only while a callback runs, or after its read has failed.** -/
theorem pending_of_settled (hrun : run (step k) (Transport.start todo) es = some t) (hgate : t.gate k = true)
    (hset : Settled k t .close) : t.pending.isSome = true ∨ Event.readError ∈ es :=
  (reading_or_pending hrun hgate).resolve_left (by rw [(hset hgate).2]; simp)

/-! ## What a callback finds outstanding -/

theorem calm_of_pending_none (h : t.pending = none) : Calm k t := by
  refine ⟨?_, ?_⟩
  · intro todo htodo
    rw [h] at htodo
    exact absurd htodo (by simp)
  · intro todo htodo
    rw [h] at htodo
    exact absurd htodo (by simp)

theorem calm_start (k : Kind) (todo : List Op) : Calm k (Transport.start todo) :=
  ⟨fun _ _ => rfl, fun _ _ _ _ => rfl⟩

/-- The callback goes on: it has less to do, and nothing else happens that matters. -/
theorem Calm.goOn (h : Calm k t)
    (hless : ∀ todo, t'.pending = some todo → ∃ before, t.pending = some before ∧ todo ⊆ before)
    (hread : t'.reading = t.reading) (hwrite : t'.writes = t.writes)
    (hgate : t'.gate k = true → t.gate k = true) : Calm k t' := by
  refine ⟨?_, ?_⟩
  · intro todo htodo
    obtain ⟨before, hbefore, -⟩ := hless todo htodo
    rw [hread]
    exact h.read before hbefore
  · intro todo htodo hclose hg
    obtain ⟨before, hbefore, hsub⟩ := hless todo htodo
    rw [hwrite]
    exact h.write before hbefore (hsub hclose) (hgate hg)

theorem calm_step (h : Calm k t) (hs : Settled k t e) (hstep : step k t e = some t') : Calm k t' := by
  have hgate : t'.gate k = true → t.gate k = true := by
    intro hg
    by_contra hclosed
    rw [gate_closed_step (Bool.eq_false_of_not_eq_true hclosed) hstep] at hg
    exact absurd hg (by simp)
  -- the same handler, or the same callback with one call less
  have hsame : ∀ todo, t.pending = some todo → ∃ before, t.pending = some before ∧ todo ⊆ before :=
    fun todo htodo => ⟨todo, htodo, fun _ hop => hop⟩
  have hrest : ∀ {before rest : List Op}, t.pending = some before → rest ⊆ before →
      ∀ todo, some rest = some todo → ∃ before, t.pending = some before ∧ todo ⊆ before := by
    rintro before rest hbefore hsub todo ⟨⟩
    exact ⟨before, hbefore, hsub⟩
  have hpending : ∀ {hd : Option Handler}, t.handler = hd →
      t.pending = ({ t with handler := hd } : Transport).pending := by
    rintro hd rfl
    rfl
  cases step_cases hstep with
  | sent data hg | refused data hg | pushed i data hi | closed hc | closeReturn hn =>
      exact h.goOn hsame rfl rfl hgate
  | close t₁ hc =>
      obtain ⟨-, -, c, c', rfl⟩ := beginClose_spec hc
      exact h.goOn hsame rfl rfl hgate
  | doWrite hd hp =>
      apply calm_of_pending_none
      unfold Transport.doWrite
      cases ({ t with posted := t.posted - 1 } : Transport).gate k <;> rfl
  | lock hd =>
      apply calm_of_pending_none
      unfold Transport.lock
      split <;> rfl
  | startWrite hd => exact calm_of_pending_none rfl
  | writeDone ok hd hw =>
      apply calm_of_pending_none
      cases ok with
      | true =>
          unfold Transport.onWrite Transport.doWrite
          rw [if_pos rfl]
          cases ({ t with writes := t.writes - 1 } : Transport).gate k <;> rfl
      | false =>
          obtain ⟨c, hc, -⟩ := onWrite_error k { t with writes := t.writes - 1 }
          rw [hc]
          exact hpending hd
  | read calls hd hr =>
      refine ⟨fun _ _ => rfl, ?_⟩
      rintro todo ⟨⟩ hclose hg
      exact hs hclose (hgate hg)
  | readError hd hr => exact calm_of_pending_none (hpending hd)
  | finished hd =>
      apply calm_of_pending_none
      obtain ⟨r, hr, -⟩ := doRead_spec k { t with handler := none }
      rw [hr]
      rfl
  | callSend data rest hd hg | callRefused data rest hd hg =>
      exact h.goOn (hrest (hpending hd) (List.subset_cons_self _ _)) rfl rfl hgate
  | callClosed rest hd hc =>
      exact h.goOn (hrest (hpending hd) (List.subset_cons_self _ _)) rfl rfl hgate
  | callPush data rest hd | callReturn rest hd =>
      exact h.goOn (hrest (hpending hd) (List.Subset.refl _)) rfl rfl hgate
  | callClose rest t₁ hd hc =>
      obtain ⟨-, -, c, c', rfl⟩ := beginClose_spec hc
      exact h.goOn (hrest (hpending hd) (List.subset_cons_self _ _)) rfl rfl hgate

/-- Where nothing gets in the way, `ws_.close` begins with nothing outstanding. -/
theorem disciplined_of_calm (h : Calm k t) (hs : Settled k t e) : Disciplined k t e := by
  intro hstart
  cases e with
  | close => exact hs (gate_of_beginClose hstart)
  | advance =>
      simp only [startsClose] at hstart
      split at hstart
      · rename_i rest hd
        have hpending : t.pending = some (.close :: rest) := by
          unfold Transport.pending
          rw [hd]
        exact ⟨h.write _ hpending List.mem_cons_self (gate_of_beginClose hstart), h.read _ hpending⟩
      · exact absurd hstart Bool.false_ne_true
  | send | sendPush | doWrite | lock | startWrite | writeDone | read | readError | closeReturn =>
      exact absurd hstart (by simp [startsClose])

/-! ## What cannot be mended -/

/-- The running callback has yet to close an open transport while a write is outstanding. -/
def Doomed (k : Kind) (t : Transport) : Prop :=
  (∃ todo, t.pending = some todo ∧ Op.close ∈ todo) ∧ t.gate k = true ∧ 0 < t.writes

theorem gate_handler (k : Kind) (t : Transport) (hd : Option Handler) :
    ({ t with handler := hd } : Transport).gate k = t.gate k := by
  cases k <;> rfl

/-- Only a `close` out of turn ends it: the write cannot complete while the callback runs. -/
theorem doomed_step (h : Doomed k t) (hdisc : Disciplined k t e) (hstep : step k t e = some t') :
    Doomed k t' := by
  obtain ⟨⟨todo, hpending, hclose⟩, hgate, hwrite⟩ := h
  have hhandler : ∀ {hd : Option Handler}, t.handler = hd →
      ({ t with handler := hd } : Transport).pending = some todo := by
    rintro hd rfl
    exact hpending
  have hidle : t.handler ≠ none := by
    intro hd
    exact absurd (hhandler hd) (by simp [Transport.pending])
  have hfirst : startsClose k t e ≠ true := by
    intro hstart
    have hnone := (hdisc hstart).1
    omega
  -- a call other than `close` has been made
  have hafter : ∀ {op : Op} {rest : List Op}, t.handler = some (.callback (op :: rest)) → op ≠ .close →
      Op.close ∈ rest := by
    intro op rest hd hop
    obtain rfl : op :: rest = todo := Option.some.inj (hhandler hd)
    exact (List.mem_cons.mp hclose).resolve_left hop.symm
  cases step_cases hstep with
  | sent data hg | refused data hg | pushed i data hi | closed hc | closeReturn hn =>
      refine ⟨⟨todo, hpending, hclose⟩, ?_, hwrite⟩
      cases k <;> exact hgate
  | close t₁ hc =>
      refine absurd ?_ hfirst
      simp only [startsClose, hc, Option.isSome_some]
  | doWrite hd | writeDone ok hd | read calls hd | readError hd => exact absurd hd hidle
  | lock hd | startWrite hd => exact absurd (hhandler hd) (by simp [Transport.pending])
  | finished hd =>
      obtain rfl : [] = todo := Option.some.inj (hhandler hd)
      exact absurd hclose List.not_mem_nil
  | callSend data rest hd hg | callRefused data rest hd hg =>
      refine ⟨⟨rest, rfl, hafter hd (by simp)⟩, ?_, hwrite⟩
      rw [gate_handler]
      exact hgate
  | callClosed rest hd hc =>
      rw [gate_of_beginClose_none hc] at hgate
      exact absurd hgate (by simp)
  | callClose rest t₁ hd hc =>
      refine absurd ?_ hfirst
      simp only [startsClose, hd, hc, Option.isSome_some]
  | callPush data rest hd | callReturn rest hd =>
      obtain rfl : rest = todo := Option.some.inj (hhandler hd)
      refine ⟨⟨rest, rfl, hclose⟩, ?_, hwrite⟩
      cases k <;> exact hgate

/-- A message out of turn leaves no way back to an idle strand. -/
theorem settled_of_disciplined (hdisc : Along (step k) (Disciplined k) t (e :: es))
    (hrun : run (step k) t (e :: es) = some t') (hidle : t'.handler = none) : Settled k t e := by
  obtain ⟨m, hm, hrest⟩ := run_cons.mp hrun
  obtain ⟨hfirst, htail⟩ := along_cons.mp hdisc
  cases e with
  | read calls =>
      intro hclose hgate
      by_contra hwrite
      obtain ⟨-, ⟨⟩⟩ := Option.ite_none_right_eq_some.mp hm
      have hdoomed : Doomed k t' := by
        apply run_invariant (I := Doomed k) _ (htail _ hm) _ hrest
        · intro s e s' hC hI hs
          exact doomed_step hI hC hs
        · refine ⟨⟨calls, rfl, hclose⟩, ?_, Nat.pos_of_ne_zero hwrite⟩
          cases k <;> exact hgate
      obtain ⟨⟨todo, hpending, -⟩, -⟩ := hdoomed
      unfold Transport.pending at hpending
      rw [hidle] at hpending
      exact absurd hpending (by simp)
  | close =>
      intro hgate
      apply hfirst
      cases hc : t.beginClose k with
      | none =>
          rw [gate_of_beginClose_none hc] at hgate
          exact absurd hgate (by simp)
      | some t₁ => simp only [startsClose, hc, Option.isSome_some]
  | send | sendPush | doWrite | lock | startWrite | writeDone | readError | advance | closeReturn => trivial

/-! ## The discipline -/

/-- **The discipline of the stream.** Along every list of events, `ws_.close` begins only while nothing is
    outstanding if every message that closes the transport comes while no write is outstanding, and every
    `close` of another thread while nothing is; when the run ends with an idle strand, only if. -/
theorem disciplined_iff (k : Kind) (todo : List Op) (es : List Event) :
    (Along (step k) (Settled k) (Transport.start todo) es →
        Along (step k) (Disciplined k) (Transport.start todo) es) ∧
      ∀ t, run (step k) (Transport.start todo) es = some t → t.handler = none →
        (Along (step k) (Settled k) (Transport.start todo) es ↔
          Along (step k) (Disciplined k) (Transport.start todo) es) := by
  have hforward : Along (step k) (Settled k) (Transport.start todo) es →
      Along (step k) (Disciplined k) (Transport.start todo) es := by
    rintro hset pre e post t rfl hrun
    have hcalm : Calm k t :=
      run_invariant (I := Calm k) (fun s e s' hC hI hs => calm_step hI hC hs) hset.of_append
        (calm_start k todo) hrun
    exact disciplined_of_calm hcalm (hset pre e post t rfl hrun)
  refine ⟨hforward, ?_⟩
  intro t hrun hidle
  refine ⟨hforward, ?_⟩
  rintro hdisc pre e post s rfl hpre
  obtain ⟨m, hm, hrest⟩ := run_append.mp hrun
  obtain rfl : s = m := Option.some.inj (hpre.symm.trans hm)
  exact settled_of_disciplined (hdisc.after hpre) hrest hidle

/-- A routed packet of 20 bytes, and an `AuthRequest`. -/
def routedFrame : Bytes := frame MsgType.ipPacket.toByte (0x45 :: List.replicate 19 0)

def helloFrame : Bytes := frame MsgType.authRequest.toByte (ascii "\x7b\x7d")

/-- The `Disconnect` of the peer arrives after the write for it has completed. -/
def disconnectAfterWrite : List Event :=
  [.advance, .send routedFrame, .sendPush 0, .doWrite, .lock, .startWrite, .writeDone true, .lock,
    .read [.close], .advance, .advance, .advance]

def disconnected : Transport :=
  ⟨false, false, [], routedFrame, false, 0, none, 0, true, [], 0, [routedFrame], [routedFrame]⟩

theorem disciplined_after_write :
    run (step .wsServerSession) (Transport.start []) disconnectAfterWrite = some disconnected ∧
      Along (step .wsServerSession) (Disciplined .wsServerSession) (Transport.start [])
        disconnectAfterWrite ∧
      Along (step .wsServerSession) (Settled .wsServerSession) (Transport.start []) disconnectAfterWrite := by
  have hrun : run (step .wsServerSession) (Transport.start []) disconnectAfterWrite = some disconnected := by
    decide
  have hset : Along (step .wsServerSession) (Settled .wsServerSession) (Transport.start [])
      disconnectAfterWrite := by
    decide
  have h := disciplined_iff .wsServerSession [] disconnectAfterWrite
  exact ⟨hrun, h.1 hset, (h.2 disconnected hrun rfl).mpr (h.1 hset)⟩

/-- A packet for the peer is being written when its `Disconnect` arrives. -/
def disconnectAmidWrite : List Event :=
  [.advance, .send routedFrame, .sendPush 0, .doWrite, .lock, .startWrite, .read [.close], .advance]

/-- `stop` while the client waits for the next message. -/
def stopAmidRead : List Event :=
  [.advance, .advance, .advance, .doWrite, .lock, .startWrite, .writeDone true, .lock, .close]

/-- **`ws_.close` begins amid a write** of a server session of either kind, and amid a read of a client. -/
theorem close_overlaps :
    (run (step .wsServerSession) (Transport.start []) disconnectAmidWrite).isSome = true ∧
      ¬ Along (step .wsServerSession) (Disciplined .wsServerSession) (Transport.start [])
        disconnectAmidWrite ∧
      (run (step .wsPlainServerSession) (Transport.start []) disconnectAmidWrite).isSome = true ∧
      ¬ Along (step .wsPlainServerSession) (Disciplined .wsPlainServerSession) (Transport.start [])
        disconnectAmidWrite ∧
      (run (step .wsClientTransport) (Transport.start [.send helloFrame]) stopAmidRead).isSome = true ∧
      ¬ Along (step .wsClientTransport) (Disciplined .wsClientTransport) (Transport.start [.send helloFrame])
        stopAmidRead := by
  decide

end Transport
end Kirdi
