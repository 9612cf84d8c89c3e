import Mathlib

/-!
# `Lib.Fifo` — first-in first-out channels

A channel is what was sent into it and what was received from it, with the proof that the second is a
prefix of the first (`Fifo`): nothing is lost in the middle, duplicated, reordered or invented. What is
still inside is `pending`.

Channels compose end to end (`Fifo.comp`), and a channel of messages gives a channel of whatever can be read
off each message (`Fifo.filterMap`). A stage that holds a message between two channels is a channel itself.
-/

structure Fifo (α : Type) where
  sent     : List α
  received : List α
  ordered  : received <+: sent

namespace Fifo

variable {α β : Type}

@[ext] theorem ext {f g : Fifo α} (hs : f.sent = g.sent) (hr : f.received = g.received) : f = g := by
  cases f
  cases g
  cases hs
  cases hr
  rfl

def empty : Fifo α := ⟨[], [], List.prefix_refl []⟩

/-- What was sent and not received yet, oldest first. -/
def pending (f : Fifo α) : List α := f.sent.drop f.received.length

/-- Send one message. -/
def push (f : Fifo α) (a : α) : Fifo α := ⟨f.sent ++ [a], f.received, f.ordered.trans (List.prefix_append _ _)⟩

theorem sent_eq (f : Fifo α) : f.sent = f.received ++ f.pending := by
  obtain ⟨rest, hrest⟩ := f.ordered
  unfold pending
  rw [← hrest, List.drop_left]

/-- Build a channel from what was received and what is still inside. -/
def ofPending (received pending : List α) : Fifo α := ⟨received ++ pending, received, List.prefix_append _ _⟩

@[simp] theorem pending_ofPending (received pending : List α) :
    (ofPending received pending).pending = pending := by
  unfold Fifo.pending ofPending
  exact List.drop_left

/-- The steps of a channel: something enters at the end, the oldest message leaves, or neither. -/
inductive Step : Fifo α → Fifo α → Prop where
  | stay (f : Fifo α) : Step f f
  | push (f : Fifo α) (a : α) : Step f (f.push a)
  | pop (received pending : List α) (a : α) :
      Step (ofPending received (a :: pending)) (ofPending (received ++ [a]) pending)

/-- Nothing that was received is taken back, and nothing that was sent is forgotten. -/
theorem Step.grows {f g : Fifo α} (h : Step f g) : f.sent <+: g.sent ∧ f.received <+: g.received := by
  cases h with
  | stay => exact ⟨List.prefix_refl _, List.prefix_refl _⟩
  | push a => exact ⟨List.prefix_append _ _, List.prefix_refl _⟩
  | pop received pending a =>
      refine ⟨?_, List.prefix_append _ _⟩
      show received ++ a :: pending <+: received ++ [a] ++ pending
      rw [List.append_assoc]
      exact List.prefix_refl _

/-- An empty channel has delivered everything. -/
theorem received_eq_sent {f : Fifo α} (h : f.pending = []) : f.received = f.sent := by
  rw [f.sent_eq, h, List.append_nil]

/-! ## Building channels from channels -/

/-- Two channels end to end: what the first one delivers is what the second one is sent. -/
def comp (f g : Fifo α) (h : g.sent = f.received) : Fifo α :=
  ⟨f.sent, g.received, (h ▸ g.ordered).trans f.ordered⟩

/-- The readings of the messages of a channel. -/
def filterMap (f : Fifo α) (r : α → Option β) : Fifo β :=
  ⟨f.sent.filterMap r, f.received.filterMap r, f.ordered.filterMap r⟩

/-- **Two channels end to end lose nothing when both are empty.** -/
theorem comp_received_eq_sent {f g : Fifo α} (h : g.sent = f.received) (hf : f.pending = [])
    (hg : g.pending = []) : (f.comp g h).received = (f.comp g h).sent := by
  show g.received = f.sent
  rw [received_eq_sent hg, h, received_eq_sent hf]

end Fifo
