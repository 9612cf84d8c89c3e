import Kirdi.Common.Protocol
import Kirdi.Lib.EventMachine

/-!
# `Transport.Transport` — the WebSocket transports

`WsServerSession`, `WsPlainServerSession` and `WsClientTransport` once connected, as one machine with the
kind as a parameter: the three differ in the flag that `send` and `do_write` test (`gate`), in `close`, and
in what an error does.

The completion handlers and the posted `do_write` run on the session's strand, one at a time (`handler`).
`send` and `close` may also be called by other threads at any time. A step is what cannot be interrupted: a
flag test, a mutex section, the start of an operation. `pushed` and `handed` are ghosts: the frames that
entered the write queue, and those handed to `async_write`.
-/

set_option linter.dupNamespace false

namespace Kirdi
namespace Transport

open Protocol

inductive Kind where
  | wsServerSession
  | wsPlainServerSession
  | wsClientTransport
  deriving DecidableEq, Repr

/-- What a callback asks of its transport. -/
inductive Op where
  | send (data : Bytes)
  | close
  deriving DecidableEq, Repr

/-- The handler that the strand is running. -/
inductive Handler where
  | doWrite                                          -- past the flag test, before the mutex section
  | writeTaken                                       -- has filled `write_pending_`, before `async_write`
  | callback (todo : List Op)
  | callbackPush (data : Bytes) (todo : List Op)     -- in `send`, before the mutex section
  | callbackClose (todo : List Op)                   -- in `ws_.close`
  deriving DecidableEq, Repr

structure Transport where
  connected    : Bool
  closing      : Bool
  writeQueue   : List Bytes
  writePending : Bytes
  writing      : Bool
  posted       : Nat               -- posted `do_write`s that have not begun
  handler      : Option Handler
  writes       : Nat               -- outstanding `async_write`s
  reading      : Bool              -- an `async_read` is outstanding
  senders      : List Bytes        -- `send` calls of other threads, past the flag test
  closers      : Nat               -- other threads in `ws_.close`
  pushed       : List Bytes
  handed       : List Bytes
  deriving DecidableEq, Repr

/-- Just connected, in the handler that has set `connected_`: the client's `on_connect_` callback makes the
    calls `todo`, a server session has none. Then the handler starts to read. -/
def Transport.start (todo : List Op) : Transport :=
  ⟨true, false, [], [], false, 0, some (.callback todo), 0, false, [], 0, [], []⟩

/-- The flag that `send` and `do_write` test. -/
def Transport.gate (k : Kind) (t : Transport) : Bool :=
  match k with
  | .wsServerSession | .wsPlainServerSession => t.connected
  | .wsClientTransport => !t.closing

/-! ## Writing -/

/-- The mutex section of `send`. -/
def Transport.push (t : Transport) (data : Bytes) : Transport :=
  { t with
    writeQueue := t.writeQueue ++ [data]
    pushed := t.pushed ++ [data]
    writing := true
    posted := if t.writing then t.posted else t.posted + 1 }

/-- `send`, called by another thread, up to its mutex section. -/
def Transport.send (k : Kind) (t : Transport) (data : Bytes) : Transport :=
  if t.gate k then { t with senders := t.senders ++ [data] } else t

def Transport.sendPush (t : Transport) (i : Nat) : Option Transport :=
  t.senders[i]?.map fun data => { t with senders := t.senders.eraseIdx i }.push data

/-- `do_write` up to its mutex section. -/
def Transport.doWrite (k : Kind) (t : Transport) : Transport :=
  { t with handler := if t.gate k then some .doWrite else none }

/-- The mutex section of `do_write`. -/
def Transport.lock (t : Transport) : Transport :=
  match t.writeQueue with
  | [] => { t with writing := false, handler := none }
  | data :: rest => { t with writePending := data, writeQueue := rest, handler := some .writeTaken }

def Transport.startWrite (t : Transport) : Transport :=
  { t with handed := t.handed ++ [t.writePending], writes := t.writes + 1, handler := none }

/-- `on_write`: an error of a client that is closing is ignored. -/
def Transport.onWrite (k : Kind) (t : Transport) (ok : Bool) : Transport :=
  if ok then t.doWrite k
  else
    match k with
    | .wsServerSession | .wsPlainServerSession => { t with connected := false }
    | .wsClientTransport => if t.closing then t else { t with connected := false }

/-! ## Reading and closing -/

/-- `close` up to `ws_.close`; `none` when another call was first. -/
def Transport.beginClose (k : Kind) (t : Transport) : Option Transport :=
  match k with
  | .wsServerSession | .wsPlainServerSession => if t.connected then some { t with connected := false } else none
  | .wsClientTransport => if t.closing then none else some { t with closing := true, connected := false }

/-- `do_read`. -/
def Transport.doRead (k : Kind) (t : Transport) : Transport :=
  match k with
  | .wsServerSession | .wsPlainServerSession => { t with reading := true }
  | .wsClientTransport => if t.closing then t else { t with reading := true }

/-- The next step of the handler that runs a callback. -/
def Transport.advance (k : Kind) (t : Transport) : Option Transport :=
  match t.handler with
  | some (.callback []) => some ({ t with handler := none }.doRead k)
  | some (.callback (.send data :: todo)) =>
      some { t with handler := if t.gate k then some (.callbackPush data todo) else some (.callback todo) }
  | some (.callbackPush data todo) => some ({ t with handler := some (.callback todo) }.push data)
  | some (.callback (.close :: todo)) =>
      match t.beginClose k with
      | none => some { t with handler := some (.callback todo) }
      | some t => some { t with handler := some (.callbackClose todo) }
  | some (.callbackClose todo) => some { t with handler := some (.callback todo) }
  | _ => none

/-- `on_read` of an error. -/
def Transport.onReadError (t : Transport) : Transport := { t with connected := false, reading := false }

inductive Event where
  | send (data : Bytes)
  | sendPush (i : Nat)
  | doWrite
  | lock
  | startWrite
  | writeDone (ok : Bool)
  | read (calls : List Op)
  | readError
  | advance
  | close
  | closeReturn
  deriving DecidableEq, Repr

def step (k : Kind) (t : Transport) : Event → Option Transport
  | .send data => some (t.send k data)
  | .sendPush i => t.sendPush i
  | .doWrite =>
      if t.handler = none ∧ 0 < t.posted then some ({ t with posted := t.posted - 1 }.doWrite k) else none
  | .lock => if t.handler = some .doWrite then some t.lock else none
  | .startWrite => if t.handler = some .writeTaken then some t.startWrite else none
  | .writeDone ok =>
      if t.handler = none ∧ 0 < t.writes then some ({ t with writes := t.writes - 1 }.onWrite k ok)
      else none
  | .read calls =>
      if t.handler = none ∧ t.reading then
        some { t with reading := false, handler := some (.callback calls) }
      else none
  | .readError => if t.handler = none ∧ t.reading then some t.onReadError else none
  | .advance => t.advance k
  | .close => some ((t.beginClose k).elim t fun t => { t with closers := t.closers + 1 })
  | .closeReturn => if 0 < t.closers then some { t with closers := t.closers - 1 } else none

/-! ## Derived notions -/

/-- Neither closed nor failed. -/
def Transport.live (t : Transport) : Bool := t.connected && !t.closing

def Handler.isWrite : Handler → Bool
  | .doWrite => true
  | .writeTaken => true
  | _ => false

/-- A `do_write` or `on_write` handler is between its start and starting its write. -/
def Transport.writeHandler (t : Transport) : Bool := t.handler.any Handler.isWrite

/-- The frame such a handler has taken from the queue. -/
def Transport.held (t : Transport) : List Bytes :=
  if t.handler = some .writeTaken then [t.writePending] else []

/-- Who will take the next frame: posted `do_write`s, the running one, and outstanding writes. -/
def Transport.writers (t : Transport) : Nat := t.posted + t.writeHandler.toNat + t.writes

variable {k : Kind} {t t' : Transport} {e : Event}

theorem live_of_not_gate (h : t.gate k = false) : t.live = false := by
  unfold Transport.live
  cases k with
  | wsServerSession =>
      have hc : t.connected = false := h
      rw [hc]
      rfl
  | wsPlainServerSession =>
      have hc : t.connected = false := h
      rw [hc]
      rfl
  | wsClientTransport =>
      have hc : (!t.closing) = false := h
      rw [hc, Bool.and_false]

/-! ## What each operation changes -/

/-- `close` by whoever is first leaves the transport not live and its gate closed. -/
theorem beginClose_spec (h : t.beginClose k = some t') :
    t'.gate k = false ∧ t'.live = false ∧
      ∃ c c', t' = { t with connected := c, closing := c' } := by
  cases k with
  | wsServerSession | wsPlainServerSession =>
      simp only [Transport.beginClose] at h
      by_cases hc : t.connected = true
      · rw [if_pos hc] at h
        cases h
        exact ⟨rfl, rfl, false, t.closing, rfl⟩
      · rw [if_neg hc] at h
        exact absurd h (by simp)
  | wsClientTransport =>
      simp only [Transport.beginClose] at h
      by_cases hc : t.closing = true
      · rw [if_pos hc] at h
        exact absurd h (by simp)
      · rw [if_neg hc] at h
        cases h
        exact ⟨rfl, rfl, false, true, rfl⟩

/-- A later `close` finds the gate closed. -/
theorem gate_of_beginClose_none (h : t.beginClose k = none) : t.gate k = false := by
  cases k with
  | wsServerSession | wsPlainServerSession =>
      simp only [Transport.beginClose] at h
      by_cases hc : t.connected = true
      · rw [if_pos hc] at h
        exact absurd h (by simp)
      · exact Bool.eq_false_of_not_eq_true hc
  | wsClientTransport =>
      simp only [Transport.beginClose] at h
      by_cases hc : t.closing = true
      · show (!t.closing) = false
        rw [hc]
        rfl
      · rw [if_neg hc] at h
        exact absurd h (by simp)

/-- A write error leaves the transport not live; it opens no gate. -/
theorem onWrite_error (k : Kind) (t : Transport) :
    ∃ c, t.onWrite k false = { t with connected := c } ∧ (c && !t.closing) = false ∧
      (c = true → t.connected = true) := by
  cases k with
  | wsServerSession | wsPlainServerSession => exact ⟨false, rfl, Bool.false_and _, by simp⟩
  | wsClientTransport =>
      by_cases hc : t.closing = true
      · refine ⟨t.connected, ?_, by rw [hc, Bool.not_true, Bool.and_false], id⟩
        unfold Transport.onWrite
        rw [if_neg (by simp)]
        exact if_pos hc
      · refine ⟨false, ?_, Bool.false_and _, by simp⟩
        unfold Transport.onWrite
        rw [if_neg (by simp)]
        exact if_neg hc

theorem doRead_spec (k : Kind) (t : Transport) :
    ∃ r, t.doRead k = { t with reading := r } ∧ (t.gate k = true → r = true) := by
  cases k with
  | wsServerSession | wsPlainServerSession => exact ⟨true, rfl, fun _ => rfl⟩
  | wsClientTransport =>
      by_cases hc : t.closing = true
      · refine ⟨t.reading, if_pos hc, ?_⟩
        intro hg
        have hg' : (!t.closing) = true := hg
        rw [hc] at hg'
        exact absurd hg' (by simp)
      · exact ⟨true, if_neg hc, fun _ => rfl⟩

/-- The steps of a transport, with everything that each one needs and does. -/
inductive Step (k : Kind) (t : Transport) : Event → Transport → Prop where
  | sent (data : Bytes) (hg : t.gate k = true) :
      Step k t (.send data) { t with senders := t.senders ++ [data] }
  | refused (data : Bytes) (hg : t.gate k = false) : Step k t (.send data) t
  | pushed (i : Nat) (data : Bytes) (hi : t.senders[i]? = some data) :
      Step k t (.sendPush i) ({ t with senders := t.senders.eraseIdx i }.push data)
  | doWrite (hd : t.handler = none) (hp : 0 < t.posted) :
      Step k t .doWrite ({ t with posted := t.posted - 1 }.doWrite k)
  | lock (hd : t.handler = some .doWrite) : Step k t .lock t.lock
  | startWrite (hd : t.handler = some .writeTaken) : Step k t .startWrite t.startWrite
  | writeDone (ok : Bool) (hd : t.handler = none) (hw : 0 < t.writes) :
      Step k t (.writeDone ok) ({ t with writes := t.writes - 1 }.onWrite k ok)
  | read (calls : List Op) (hd : t.handler = none) (hr : t.reading = true) :
      Step k t (.read calls) { t with reading := false, handler := some (.callback calls) }
  | readError (hd : t.handler = none) (hr : t.reading = true) : Step k t .readError t.onReadError
  | finished (hd : t.handler = some (.callback [])) :
      Step k t .advance ({ t with handler := none }.doRead k)
  | callSend (data : Bytes) (todo : List Op) (hd : t.handler = some (.callback (.send data :: todo)))
      (hg : t.gate k = true) : Step k t .advance { t with handler := some (.callbackPush data todo) }
  | callRefused (data : Bytes) (todo : List Op)
      (hd : t.handler = some (.callback (.send data :: todo))) (hg : t.gate k = false) :
      Step k t .advance { t with handler := some (.callback todo) }
  | callPush (data : Bytes) (todo : List Op) (hd : t.handler = some (.callbackPush data todo)) :
      Step k t .advance ({ t with handler := some (.callback todo) }.push data)
  | callClose (todo : List Op) (t₁ : Transport) (hd : t.handler = some (.callback (.close :: todo)))
      (hc : t.beginClose k = some t₁) :
      Step k t .advance { t₁ with handler := some (.callbackClose todo) }
  | callClosed (todo : List Op) (hd : t.handler = some (.callback (.close :: todo)))
      (hc : t.beginClose k = none) : Step k t .advance { t with handler := some (.callback todo) }
  | callReturn (todo : List Op) (hd : t.handler = some (.callbackClose todo)) :
      Step k t .advance { t with handler := some (.callback todo) }
  | close (t₁ : Transport) (hc : t.beginClose k = some t₁) :
      Step k t .close { t₁ with closers := t₁.closers + 1 }
  | closed (hc : t.beginClose k = none) : Step k t .close t
  | closeReturn (hn : 0 < t.closers) : Step k t .closeReturn { t with closers := t.closers - 1 }

theorem advance_cases (h : t.advance k = some t') : Step k t .advance t' := by
  unfold Transport.advance at h
  split at h
  · rename_i hd
    cases h
    exact .finished hd
  · rename_i data todo hd
    cases h
    cases hg : t.gate k with
    | true => exact .callSend data todo hd hg
    | false => exact .callRefused data todo hd hg
  · rename_i data todo hd
    cases h
    exact .callPush data todo hd
  · rename_i todo hd
    split at h
    · rename_i hc
      cases h
      exact .callClosed todo hd hc
    · rename_i t₁ hc
      cases h
      exact .callClose todo t₁ hd hc
  · rename_i todo hd
    cases h
    exact .callReturn todo hd
  · exact absurd h (by simp)

/-- **What a step can do.** -/
theorem step_cases (h : step k t e = some t') : Step k t e t' := by
  cases e with
  | send data =>
      cases h
      unfold Transport.send
      split
      · rename_i hg
        exact .sent data hg
      · rename_i hg
        exact .refused data (Bool.eq_false_of_not_eq_true hg)
  | sendPush i =>
      obtain ⟨data, hi, rfl⟩ := Option.map_eq_some_iff.mp h
      exact .pushed i data hi
  | doWrite =>
      obtain ⟨hc, ⟨⟩⟩ := Option.ite_none_right_eq_some.mp h
      exact .doWrite hc.1 hc.2
  | lock =>
      obtain ⟨hd, ⟨⟩⟩ := Option.ite_none_right_eq_some.mp h
      exact .lock hd
  | startWrite =>
      obtain ⟨hd, ⟨⟩⟩ := Option.ite_none_right_eq_some.mp h
      exact .startWrite hd
  | writeDone ok =>
      obtain ⟨hc, ⟨⟩⟩ := Option.ite_none_right_eq_some.mp h
      exact .writeDone ok hc.1 hc.2
  | read calls =>
      obtain ⟨hc, ⟨⟩⟩ := Option.ite_none_right_eq_some.mp h
      exact .read calls hc.1 hc.2
  | readError =>
      obtain ⟨hc, ⟨⟩⟩ := Option.ite_none_right_eq_some.mp h
      exact .readError hc.1 hc.2
  | advance => exact advance_cases h
  | close =>
      cases h
      cases hc : t.beginClose k with
      | none => exact .closed hc
      | some t₁ => exact .close t₁ hc
  | closeReturn =>
      obtain ⟨hn, ⟨⟩⟩ := Option.ite_none_right_eq_some.mp h
      exact .closeReturn hn

end Transport
end Kirdi
