import Kirdi.Transport.WriteQueue

/-!
# `Tunnel.Lane` — one direction of a connection

What one end passes to `send` goes through its write queue, the network and the `dispatch_packet` of the
other end. A `Lane` is the sending transport, the messages under way and what the other end has read. The
WebSocket delivers whole messages in order, so the network is a queue that a frame enters when it is handed
to `async_write`.

IP packets share the lane with frames of other types. One thread passes them to `send`, so one of them at
most is between the flag test of `send` and its mutex section (`Lane.Inv`), and the packets that come out
are a prefix of those that went in (`Lane.Inv.channel`).
-/

set_option linter.dupNamespace false

namespace Kirdi
namespace Tunnel

open Protocol
open Transport (Kind Op Handler)

/-- The packet that `dispatch_packet` finds in a message, if it is an IP packet. -/
def ipPayload (message : Bytes) : Option Bytes :=
  match dispatchPacket message (some Prod.mk) with
  | some (hdr, payload) => if MsgType.ofByte hdr.type = some .ipPacket then some payload else none
  | none => none

structure Lane where
  ws      : Transport.Transport    -- of the sending end
  net     : List Bytes             -- messages under way, oldest first
  arrived : List Bytes             -- messages that the other end has read
  given   : List Bytes             -- IP packets passed to `send`
  taken   : List Bytes             -- IP packets that have come out

/-- The sending transport takes a step; what it hands to `async_write` is under way. -/
def Lane.drive (k : Kind) (l : Lane) (e : Transport.Event) : Option Lane :=
  (Transport.step k l.ws e).map fun ws => { l with ws := ws, net := l.net ++ ws.handed.drop l.ws.handed.length }

/-- An IP packet is passed to `send`, as the given frame. -/
def Lane.give (k : Kind) (l : Lane) (packet data : Bytes) : Lane :=
  { l with ws := l.ws.send k data, given := l.given ++ [packet] }

/-- The other end reads the oldest message, and `packets` come out. -/
def Lane.take (l : Lane) (packets : List Bytes) : Lane :=
  { l with
    net := l.net.tail
    arrived := l.arrived ++ l.net.take 1
    taken := l.taken ++ packets }

/-- The frame of a `send` call. -/
def sentFrame : Op → Option Bytes
  | .send data => some data
  | .close => none

/-- The frames that the running callback has not pushed yet. -/
def called (t : Transport.Transport) : List Bytes :=
  match t.handler with
  | some (.callback todo) | some (.callbackClose todo) => todo.filterMap sentFrame
  | some (.callbackPush data todo) => data :: todo.filterMap sentFrame
  | _ => []

/-- The IP packets in `send`, before its mutex section. -/
def Lane.entering (l : Lane) : List Bytes := l.ws.senders.filterMap ipPayload

variable {k : Kind} {l l' : Lane} {t t' : Transport.Transport} {e : Transport.Event}

/-! ## What frames carry -/

/-- The payload of a built frame, if it is an IP packet. -/
theorem ipPayload_buildPacket {type : MsgType} {payload data : Bytes}
    (h : buildPacket type.toByte payload = .ok data) :
    ipPayload data = if type = .ipPacket then some payload else none := by
  obtain ⟨hlen, rfl⟩ := eq_frame_of_buildPacket h
  have hdispatch := dispatchPacket_frame type.toByte [] Prod.mk hlen
  rw [List.append_nil] at hdispatch
  unfold ipPayload
  rw [hdispatch]
  simp

/-- **A packet comes out of the frame that it was put in.** -/
theorem ipPayload_buildIpPacket {packet data : Bytes} (h : buildIpPacket packet = .ok data) :
    ipPayload data = some packet := (ipPayload_buildPacket h).trans (if_pos rfl)

/-- Frames of other types carry no packet. -/
theorem ipPayload_other {type : MsgType} {payload data : Bytes} (hty : type ≠ .ipPacket)
    (h : buildPacket type.toByte payload = .ok data) : ipPayload data = none :=
  (ipPayload_buildPacket h).trans (if_neg hty)

/-! ## The invariant -/

/-- The callback of an event sends no IP packet, and neither does another thread. -/
def quiet : Transport.Event → Prop
  | .send data => ipPayload data = none
  | .read calls => ∀ data ∈ calls.filterMap sentFrame, ipPayload data = none
  | _ => True

structure Lane.Inv (k : Kind) (l : Lane) : Prop where
  queue  : Transport.Inv l.ws
  net    : l.ws.handed = l.arrived ++ l.net
  single : l.entering.length ≤ 1
  own    : ∀ data ∈ called l.ws, ipPayload data = none
  given  : l.ws.pushed.filterMap ipPayload ++ l.entering <+: l.given
  kept   : l.ws.gate k = true → l.ws.pushed.filterMap ipPayload ++ l.entering = l.given

/-- Taking out an element that nothing is read from. -/
theorem filterMap_eraseIdx_none {α β : Type} {r : α → Option β} {xs : List α} {i : Nat} {a : α}
    (hi : xs[i]? = some a) (ha : r a = none) : (xs.eraseIdx i).filterMap r = xs.filterMap r := by
  induction xs generalizing i with
  | nil => simp at hi
  | cons x xs ih =>
      cases i with
      | zero =>
          obtain rfl : x = a := Option.some.inj hi
          simp [ha]
      | succ i =>
          rw [List.eraseIdx_cons_succ, List.filterMap_cons, List.filterMap_cons, ih hi]

/-- Taking out the only element that something is read from. -/
theorem filterMap_eraseIdx_some {α β : Type} {r : α → Option β} {xs : List α} {i : Nat} {a : α} {b : β}
    (hi : xs[i]? = some a) (ha : r a = some b) (hone : (xs.filterMap r).length ≤ 1) :
    xs.filterMap r = [b] ∧ (xs.eraseIdx i).filterMap r = [] := by
  induction xs generalizing i with
  | nil => simp at hi
  | cons x xs ih =>
      cases i with
      | zero =>
          obtain rfl : x = a := Option.some.inj hi
          rw [List.filterMap_cons_some ha] at hone ⊢
          have hnil : xs.filterMap r = [] :=
            List.length_eq_zero_iff.mp (Nat.le_zero.mp (Nat.le_of_succ_le_succ hone))
          exact ⟨by rw [hnil], hnil⟩
      | succ i =>
          cases hx : r x with
          | none =>
              rw [List.filterMap_cons_none hx] at hone
              rw [List.eraseIdx_cons_succ, List.filterMap_cons_none hx, List.filterMap_cons_none hx]
              exact ih hi hone
          | some y =>
              -- a second element
              rw [List.filterMap_cons_some hx] at hone
              have hnil : xs.filterMap r = [] :=
                List.length_eq_zero_iff.mp (Nat.le_zero.mp (Nat.le_of_succ_le_succ hone))
              have hmem : b ∈ xs.filterMap r :=
                List.mem_filterMap.mpr ⟨a, List.mem_of_getElem? hi, ha⟩
              rw [hnil] at hmem
              exact absurd hmem List.not_mem_nil

theorem called_of_handler {hd : Option Handler} (h : t.handler = hd) :
    called t = called { t with handler := hd } := by
  subst h
  rfl

/-- **What a step does to the packets** between `send` and the queue: they enter the queue, in order. -/
theorem entering_step (hq : quiet e) (hone : (t.senders.filterMap ipPayload).length ≤ 1)
    (hown : ∀ data ∈ called t, ipPayload data = none) (hstep : Transport.step k t e = some t') :
    t'.pushed.filterMap ipPayload ++ t'.senders.filterMap ipPayload =
        t.pushed.filterMap ipPayload ++ t.senders.filterMap ipPayload ∧
      (t'.senders.filterMap ipPayload).length ≤ 1 ∧ ∀ data ∈ called t', ipPayload data = none := by
  -- a step that leaves the packets alone, and may shorten what the callback still sends
  have hsame : ∀ s : Transport.Transport, s.pushed = t.pushed → s.senders = t.senders →
      (∀ data ∈ called s, data ∈ called t) →
        s.pushed.filterMap ipPayload ++ s.senders.filterMap ipPayload =
            t.pushed.filterMap ipPayload ++ t.senders.filterMap ipPayload ∧
          (s.senders.filterMap ipPayload).length ≤ 1 ∧ ∀ data ∈ called s, ipPayload data = none := by
    intro s hp hs hsub
    rw [hp, hs]
    exact ⟨rfl, hone, fun data hd => hown data (hsub data hd)⟩
  have hnone : ∀ s : Transport.Transport, called s = [] → ∀ data ∈ called s, data ∈ called t := by
    intro s hs data hd
    rw [hs] at hd
    exact absurd hd List.not_mem_nil
  cases Transport.step_cases hstep with
  | sent data hg =>
      have hfm : [data].filterMap ipPayload = [] := List.filterMap_cons_none hq
      refine ⟨?_, ?_, hown⟩
      · rw [List.filterMap_append, hfm, List.append_nil]
      · rw [List.filterMap_append, hfm, List.append_nil]
        exact hone
  | pushed i data hi =>
      show (t.pushed ++ [data]).filterMap ipPayload ++ (t.senders.eraseIdx i).filterMap ipPayload = _ ∧
        ((t.senders.eraseIdx i).filterMap ipPayload).length ≤ 1 ∧ ∀ data ∈ called t, ipPayload data = none
      rw [List.filterMap_append]
      cases hdata : ipPayload data with
      | none =>
          rw [filterMap_eraseIdx_none hi hdata, List.filterMap_cons_none hdata, List.filterMap_nil,
            List.append_nil]
          exact ⟨rfl, hone, hown⟩
      | some packet =>
          -- the packet of the sending thread
          obtain ⟨hbefore, hafter⟩ := filterMap_eraseIdx_some hi hdata hone
          rw [hbefore, hafter, List.filterMap_cons_some hdata, List.filterMap_nil, List.append_nil]
          exact ⟨rfl, Nat.zero_le 1, hown⟩
  | read calls hd hr => exact ⟨rfl, hone, hq⟩
  | callPush data todo hd =>
      have hcalled : called t = data :: todo.filterMap sentFrame := called_of_handler hd
      have hdata : ipPayload data = none := hown data (by rw [hcalled]; exact List.mem_cons_self)
      refine ⟨?_, hone, ?_⟩
      · show (t.pushed ++ [data]).filterMap ipPayload ++ _ = _
        rw [List.filterMap_append, List.filterMap_cons_none hdata, List.filterMap_nil, List.append_nil]
        rfl
      · intro d hd'
        apply hown d
        rw [hcalled]
        exact List.mem_cons_of_mem _ hd'
  | doWrite hd hp =>
      refine hsame _ rfl rfl (hnone _ ?_)
      unfold called Transport.Transport.doWrite
      cases ({ t with posted := t.posted - 1 } : Transport.Transport).gate k <;> rfl
  | lock hd =>
      unfold Transport.Transport.lock
      split
      · exact hsame _ rfl rfl (hnone _ rfl)
      · exact hsame _ rfl rfl (hnone _ rfl)
  | startWrite hd => exact hsame _ rfl rfl (hnone _ rfl)
  | writeDone ok hd hw =>
      cases ok with
      | true =>
          refine hsame _ rfl rfl (hnone _ ?_)
          unfold called Transport.Transport.onWrite Transport.Transport.doWrite
          rw [if_pos rfl]
          cases ({ t with writes := t.writes - 1 } : Transport.Transport).gate k <;> rfl
      | false =>
          obtain ⟨c, hc, -, -⟩ := Transport.onWrite_error k { t with writes := t.writes - 1 }
          rw [hc]
          exact hsame _ rfl rfl fun _ hd => hd
  | finished hd =>
      obtain ⟨r, hr, -⟩ := Transport.doRead_spec k { t with handler := none }
      rw [hr]
      exact hsame _ rfl rfl (hnone _ rfl)
  | callSend data todo hd hg =>
      refine hsame _ rfl rfl fun d hd' => ?_
      rw [called_of_handler hd]
      exact hd'
  | callRefused data todo hd hg =>
      refine hsame _ rfl rfl fun d hd' => ?_
      rw [called_of_handler hd]
      exact List.mem_cons_of_mem _ hd'
  | callClose todo t₁ hd hc =>
      obtain ⟨-, -, c, c', rfl⟩ := Transport.beginClose_spec hc
      refine hsame _ rfl rfl fun d hd' => ?_
      rw [called_of_handler hd]
      exact hd'
  | callClosed todo hd hc | callReturn todo hd =>
      refine hsame _ rfl rfl fun d hd' => ?_
      rw [called_of_handler hd]
      exact hd'
  | close t₁ hc =>
      obtain ⟨-, -, c, c', rfl⟩ := Transport.beginClose_spec hc
      exact hsame _ rfl rfl fun _ hd => hd
  | refused | readError | closed | closeReturn => exact hsame _ rfl rfl fun _ hd => hd

/-! ## What happens on a lane -/

/-- The sending transport takes a step. -/
theorem Lane.Inv.drive (h : l.Inv k) (hq : quiet e) (hdrive : l.drive k e = some l') : l'.Inv k := by
  obtain ⟨ws, hws, rfl⟩ := Option.map_eq_some_iff.mp hdrive
  obtain ⟨hpackets, hone, hown⟩ := entering_step hq h.single h.own hws
  have hinv : Transport.Inv ws := h.queue.step hws
  have hgrows : l.ws.handed <+: ws.handed := (Transport.step_refines h.queue hinv hws).grows.2
  refine ⟨hinv, ?_, hone, hown, ?_, ?_⟩
  · show ws.handed = l.arrived ++ (l.net ++ ws.handed.drop l.ws.handed.length)
    rw [← List.append_assoc, ← h.net]
    exact (List.prefix_iff_eq_append.mp hgrows).symm
  · show ws.pushed.filterMap ipPayload ++ ws.senders.filterMap ipPayload <+: l.given
    rw [hpackets]
    exact h.given
  · intro hg
    show ws.pushed.filterMap ipPayload ++ ws.senders.filterMap ipPayload = l.given
    rw [hpackets]
    apply h.kept
    by_contra hclosed
    have hstill := Transport.gate_closed_step (Bool.eq_false_of_not_eq_true hclosed) hws
    exact absurd (hg.symm.trans hstill) (by simp)

/-- The thread passes the next packet to `send`. -/
theorem Lane.Inv.give (h : l.Inv k) (hfree : l.entering = []) {packet data : Bytes}
    (hdata : ipPayload data = some packet) : (l.give k packet data).Inv k := by
  have hgiven := h.given
  rw [hfree, List.append_nil] at hgiven
  unfold Lane.give Transport.Transport.send
  cases hg : l.ws.gate k with
  | false =>
      refine ⟨h.queue, h.net, h.single, h.own, ?_, ?_⟩
      · exact h.given.trans (List.prefix_append _ _)
      · intro hopen
        exact absurd (hopen.symm.trans hg) (by simp)
  | true =>
      have hentering : (l.ws.senders ++ [data]).filterMap ipPayload = [packet] := by
        rw [List.filterMap_append, show l.ws.senders.filterMap ipPayload = [] from hfree,
          List.filterMap_cons_some hdata, List.filterMap_nil, List.nil_append]
      have hkept := h.kept hg
      rw [hfree, List.append_nil] at hkept
      have heq : l.ws.pushed.filterMap ipPayload ++ (l.ws.senders ++ [data]).filterMap ipPayload =
          l.given ++ [packet] := by rw [hentering, hkept]
      refine ⟨h.queue.frame fun hl => hl, h.net, ?_, h.own, heq ▸ List.prefix_refl _, fun _ => heq⟩
      show ((l.ws.senders ++ [data]).filterMap ipPayload).length ≤ 1
      rw [hentering]
      exact Nat.le_refl 1

/-- The other end reads a message. -/
theorem Lane.Inv.take (h : l.Inv k) (packets : List Bytes) : (l.take packets).Inv k := by
  refine ⟨h.queue, ?_, h.single, h.own, h.given, h.kept⟩
  show l.ws.handed = (l.arrived ++ l.net.take 1) ++ l.net.tail
  rw [h.net, List.append_assoc]
  cases l.net <;> rfl

/-! ## The lane as a channel of packets -/

/-- The network. -/
def Lane.Inv.network (h : l.Inv k) : Fifo Bytes :=
  ⟨l.ws.handed, l.arrived, by rw [h.net]; exact List.prefix_append _ _⟩

/-- From `send` to the queue. -/
def Lane.Inv.entry (h : l.Inv k) : Fifo Bytes :=
  ⟨l.given, l.ws.pushed.filterMap ipPayload, (List.prefix_append _ _).trans h.given⟩

/-- **The packets of a lane**: `send`, the queue and the network, end to end. -/
def Lane.Inv.channel (h : l.Inv k) : Fifo Bytes :=
  h.entry.comp ((h.queue.channel.comp h.network rfl).filterMap ipPayload) rfl

/-- No `send` is running, and the queue is idle. -/
def Lane.Idle (l : Lane) : Prop := l.ws.senders = [] ∧ l.ws.writing = false

/-- **Nothing is lost on an open lane** when it is idle and everything has been read. -/
theorem Lane.Inv.complete (h : l.Inv k) (hopen : l.ws.gate k = true) (hidle : l.Idle) (hread : l.net = []) :
    h.channel.received = h.channel.sent := by
  obtain ⟨hsenders, hwriting⟩ := hidle
  obtain ⟨hwriters, hqueue⟩ := h.queue.idle hwriting
  have hheld : l.ws.held = [] := by
    unfold Transport.Transport.held
    rw [if_neg]
    intro htaken
    -- a frame that is taken has a writer
    have hhandler : l.ws.writeHandler = true := by
      unfold Transport.Transport.writeHandler
      rw [htaken]
      rfl
    unfold Transport.Transport.writers at hwriters
    rw [hhandler] at hwriters
    simp at hwriters
  have hentry : h.entry.pending = [] := by
    have hgiven : l.ws.pushed.filterMap ipPayload = l.given := by
      have hkept := h.kept hopen
      unfold Lane.entering at hkept
      rwa [hsenders, List.filterMap_nil, List.append_nil] at hkept
    show l.given.drop (l.ws.pushed.filterMap ipPayload).length = []
    rw [hgiven, List.drop_length]
  have hnet : h.network.pending = [] := by
    show l.ws.handed.drop l.arrived.length = []
    rw [h.net, hread, List.append_nil, List.drop_length]
  have hpushed : (h.queue.channel.comp h.network rfl).received = (h.queue.channel.comp h.network rfl).sent := by
    apply Fifo.comp_received_eq_sent _ _ hnet
    rw [h.queue.pending_channel, hheld, hqueue]
    rfl
  show l.arrived.filterMap ipPayload = l.given
  have harrived : l.arrived = l.ws.pushed := hpushed
  rw [harrived]
  exact Fifo.received_eq_sent hentry

end Tunnel
end Kirdi
